import DeviceBus.Proofs.Pairing.LostAddress
import DeviceBus.Proofs.Streaming.Succession

/-!
# Where the moves come from

What happens to a streamer in a node is made of the moves that the order of its loops rests on: the
callbacks and the requests that reach it start loops and cancel them, a loop that runs takes a turn
or exits, and a loop that broke off in its turn exits with it. Every frame a loop sends is one of
its turns. So the life of a streamer, from when it was built, is a sequence of moves, and what holds
after every sequence of moves holds of the streamers of every node.

## Main results

* `Reaches.befalls`: what befalls a streamer is a sequence of moves.
* `Reaches.life`: so is a whole life.
* `orderly_of_steps`: what holds of loops after every sequence of moves, and so in every node.
-/

namespace DeviceBus

namespace Streamer

variable {streamer next : Streamer} {frame? : Option Bytes} {frames : List Bytes}
  {stage after : Stage} {move : Move} {moves : List Move}

/-- The frames that loops sent. -/
def sentBy (moves : List Move) : List Bytes :=
  moves.filterMap fun
    | .poll poll => poll.frame
    | _ => none

theorem sentBy_append (xs ys : List Move) : sentBy (xs ++ ys) = sentBy xs ++ sentBy ys :=
  List.filterMap_append

/-- A sound stage where whoever broke off has exited. -/
structure Settled (stage : Stage) : Prop where
  sound : Sound stage
  exited : ∀ n ∈ stage.ended, n ∉ stage.streamer.numbers

theorem settled_opening (settings : StreamSettings) (now : Nat) (states : List (Option Bytes))
    (isWatched handlesCommands : Bool) :
    Settled (.opening settings now states isWatched handlesCommands) where
  sound := sound_opening settings now states isWatched handlesCommands
  exited _ hn := nomatch hn

/-- Moves that send the given frames make the streamer another one. -/
def Reaches (stage : Stage) (frames : List Bytes) (next : Streamer) : Prop :=
  ∃ moves after, Steps stage moves after ∧ Settled after ∧ after.streamer = next ∧
    sentBy moves = frames

theorem Reaches.refl (h : Settled stage) : Reaches stage [] stage.streamer :=
  ⟨[], stage, .refl stage, h, rfl, rfl⟩

theorem Reaches.trans {frames more : List Bytes} {next last : Streamer}
    (h : Reaches stage frames next)
    (h' : ∀ after, Settled after → after.streamer = next → Reaches after more last) :
    Reaches stage (frames ++ more) last := by
  obtain ⟨moves, after, hsteps, hsettled, hnext, rfl⟩ := h
  obtain ⟨moves', last', hsteps', hsettled', hlast, rfl⟩ := h' after hsettled hnext
  exact ⟨moves ++ moves', last', hsteps.trans hsteps', hsettled', hlast, sentBy_append _ _⟩

/-- A move that is no poll and makes no loop break off. -/
theorem Settled.reaches (h : Settled stage) (hstep : Step stage move after)
    (hquiet : sentBy [move] = []) (hended : after.ended = stage.ended)
    (hnumbers : ∀ n ∈ after.streamer.numbers, n ∈ stage.streamer.numbers ∨
      n = stage.streamer.nextNumber) : Reaches stage [] after.streamer := by
  refine ⟨[move], after, .single hstep, ⟨h.sound.step hstep, fun n hn hmember => ?_⟩, rfl, hquiet⟩
  rw [hended] at hn
  rcases hnumbers n hmember with hold | rfl
  · exact h.exited n hn hold
  · exact Nat.lt_irrefl _ (h.sound.ended _ hn)

theorem Settled.aside (h : Settled stage) {next : Streamer} (haside : Aside stage.streamer next) :
    Reaches stage [] next := by
  refine h.reaches (.aside haside) rfl rfl fun n hn => .inl ?_
  rwa [show _ = _ from haside.numbers] at hn

theorem Settled.cancel (h : Settled stage) : Reaches stage [] stage.streamer.cancel := by
  refine h.reaches (.cancel stage) rfl rfl fun n hn => .inl ?_
  rwa [show stage.cancel.streamer.numbers = _ from (cancel_kept stage.streamer).2] at hn

theorem Settled.start (h : Settled stage) {env : Env} {requested : Nat} {started : Started}
    (hstart : stage.streamer.start env requested = .ok started) :
    Reaches stage [] started.streamer := by
  refine h.reaches (.start hstart) rfl rfl fun n hn => ?_
  obtain ⟨-, rfl⟩ | ⟨-, rfl⟩ := start_cases hstart
  · exact .inl hn
  · rwa [show _ = _ from numbers_spawn _ _, List.mem_append, List.mem_singleton] at hn

/-- A loop that is not live has to exit. -/
theorem Settled.retire (h : Settled stage) {number : Nat}
    (hnumber : number ∈ stage.streamer.numbers) (hdead : stage.streamer.isLive number = false) :
    Reaches stage [] (stage.streamer.retire number) := by
  have hrevoked : number ∈ stage.revoked := by
    refine Decidable.byContradiction fun hvalid => ?_
    unfold isLive at hdead
    rw [h.sound.alone number hnumber hvalid, beq_self_eq_true] at hdead
    cases hdead
  refine h.reaches (.exit hnumber (.inl hrevoked)) rfl rfl fun n hn => .inl ?_
  exact (mem_numbers_retire.1 hn).1

/-- A live loop takes its turn, and exits if it does not go on. -/
theorem Settled.poll (h : Settled stage) (env : Env) {loop : StreamLoop}
    (hloop : loop ∈ stage.streamer.loops) (hlive : stage.streamer.isLive loop.number = true) :
    Reaches stage ((stage.streamer.turn env loop).close loop.number).1.toList
      ((stage.streamer.turn env loop).close loop.number).2 := by
  have hmember : loop.number ∈ stage.streamer.numbers := List.mem_map.2 ⟨loop, hloop, rfl⟩
  have hvalid : loop.number ∉ stage.revoked := fun hrevoked =>
    nomatch (h.sound.token _ (beq_iff_eq.1 hlive)).2.2 hrevoked
  have hstep := Step.poll env hloop hvalid fun hended => h.exited _ hended hmember
  have hsound := h.sound.step hstep
  obtain ⟨-, -, -, hnumbers⟩ := turn_kept env loop stage.streamer
  have hsent : sentBy [.poll (stage.pollOf env loop)] =
      (stage.streamer.turn env loop).frame.toList := by
    unfold sentBy Stage.pollOf
    cases (stage.streamer.turn env loop).frame <;> rfl
  unfold Turned.close
  cases hgoes : (stage.streamer.turn env loop).goesOn with
  | true =>
    refine ⟨_, _, .single hstep, ⟨hsound, fun n hn hn' => ?_⟩, rfl, hsent⟩
    rw [show (stage.turn env loop).streamer.numbers = _ from hnumbers] at hn'
    unfold Stage.turn at hn
    rw [hgoes] at hn
    exact h.exited n hn hn'
  | false =>
    have hover : loop.number ∈ (stage.turn env loop).ended := by
      unfold Stage.turn
      rw [hgoes]
      exact List.mem_cons_self ..
    have hexit := Step.exit (hnumbers.symm ▸ hmember :
      loop.number ∈ (stage.turn env loop).streamer.numbers) (.inr hover)
    refine ⟨_, _, (Steps.single hstep).snoc hexit, ⟨hsound.step hexit, fun n hn hn' => ?_⟩, rfl, ?_⟩
    · obtain ⟨hthere, hother⟩ := mem_numbers_retire.1 hn'
      rw [show (stage.turn env loop).streamer.numbers = _ from hnumbers] at hthere
      unfold Stage.turn at hn
      rw [hgoes] at hn
      rcases List.mem_cons.1 hn with rfl | hold
      · exact hother rfl
      · exact h.exited n hold hthere
    · rw [sentBy_append, hsent]
      exact List.append_nil _

/-- **Letting a loop run** is a turn, an exit, or nothing. -/
theorem Reaches.runLoop (h : Settled stage) (env : Env) (number : Nat) :
    Reaches stage (stage.streamer.runLoop env number).2.1.toList
      (stage.streamer.runLoop env number).2.2 := by
  have hruns := runs env number stage.streamer
  generalize stage.streamer.runLoop env number = result at hruns ⊢
  cases hruns with
  | absent _ => exact .refl h
  | waits _ _ _ _ => exact .refl h
  | exits hthere hdead => exact h.retire hthere hdead
  | turns hloop hnumber hlive _ =>
    subst hnumber
    exact h.poll env hloop hlive

/-- Letting the loops exit that are not live is a sequence of exits. -/
theorem Reaches.reap (h : Settled stage) : Reaches stage [] stage.streamer.reap := by
  have hrest : ∀ (rest : List StreamLoop) (stage : Stage), Settled stage →
      (rest.map (·.number)).Nodup → (∀ loop ∈ rest, loop.number ∈ stage.streamer.numbers) →
      Reaches stage [] (rest.foldl
        (fun s loop => if s.isLive loop.number then s else s.retire loop.number)
        stage.streamer) := by
    intro rest
    induction rest with
    | nil => exact fun stage h _ _ => .refl h
    | cons loop rest ih =>
      intro stage h hnodup hthere
      rw [List.map_cons, List.nodup_cons] at hnodup
      rw [List.foldl_cons]
      split
      · exact ih stage h hnodup.2 fun other hother => hthere other (List.mem_cons_of_mem _ hother)
      · rename_i hdead
        have hfirst := h.retire (hthere loop (List.mem_cons_self ..)) (Bool.not_eq_true _ ▸ hdead)
        refine hfirst.trans fun after hafter hstreamer => ?_
        rw [← hstreamer]
        refine ih after hafter hnodup.2 fun other hother => ?_
        rw [hstreamer, mem_numbers_retire]
        refine ⟨hthere other (List.mem_cons_of_mem _ hother), fun heq => hnodup.1 ?_⟩
        exact heq ▸ List.mem_map.2 ⟨other, hother, rfl⟩
  exact hrest _ stage h h.sound.nodup fun loop hloop => List.mem_map.2 ⟨loop, hloop, rfl⟩

/-- The device is gone: the link is, and the current loop is cancelled. -/
theorem Reaches.disconnect (h : Settled stage) : Reaches stage [] stage.streamer.disconnect := by
  refine (h.aside (aside_of_address _ none)).trans fun after hafter hstreamer => ?_
  unfold Streamer.disconnect
  rw [← hstreamer]
  exact hafter.cancel

/-- Commands and requests start a loop, cancel one or are no matter of the loops. -/
theorem Settled.obeys (h : Settled stage) {env : Env} {next : Streamer}
    (hobeys : Obeys env stage.streamer next) : Reaches stage [] next := by
  cases hobeys with
  | start hstart => exact h.start hstart
  | cancel => exact h.cancel
  | aside haside _ => exact h.aside haside

/-- The address of the driver is no matter of the loops. -/
theorem Reaches.follow (h : Settled stage) (ctx : Context) :
    Reaches stage [] (stage.streamer.follow ctx) :=
  h.aside (aside_of_address stage.streamer _)

/-- A data packet is obeyed after the address of the driver was followed. -/
theorem Reaches.onData (h : Settled stage) (packet : Packet) (ctx : Context) :
    Reaches stage [] (stage.streamer.onData packet ctx).driver := by
  cases hdecode : StreamCommand.decode packet.data with
  | error e =>
    rw [onData_of_error hdecode]
    exact .refl h
  | ok command =>
    refine (Reaches.follow h ctx).trans fun after hafter hstreamer => ?_
    have hobeys := obeys_onData hdecode ctx stage.streamer
    rw [← hstreamer] at hobeys
    exact hafter.obeys hobeys

/-- A request of the application is obeyed at once. -/
theorem Reaches.serve (h : Settled stage) (env : Env) (handle : Handle) (request : Request) :
    Reaches stage [] (stage.streamer.serve env handle request).driver :=
  h.obeys (obeys_serve env handle request stage.streamer)

/-! ## Whole lives -/

/-- **Whatever befalls a streamer** is a sequence of moves, and what it sends by them its loops
send. -/
theorem Reaches.befalls (h : Settled stage) (hbefalls : Befalls stage.streamer frame? next) :
    Reaches stage frame?.toList next := by
  cases hbefalls with
  | follows ctx => exact .follow h ctx
  | hears packet ctx => exact .onData h packet ctx
  | leaves => exact .disconnect h
  | parts => exact h.cancel
  | serves env handle request => exact .serve h env handle request
  | runs env number => exact .runLoop h env number
  | reaps => exact .reap h

/-- What befell a streamer, one thing after the other, and the frames that its loops sent. -/
inductive Life (first : Streamer) : List Bytes → Streamer → Prop where
  | here : Life first [] first
  | next {frames : List Bytes} {frame? : Option Bytes} {before after : Streamer}
      (life : Life first frames before) (befalls : Befalls before frame? after) :
      Life first (frames ++ frame?.toList) after

/-- **A life is a sequence of moves.** -/
theorem Reaches.life (h : Settled stage) (hlife : Life stage.streamer frames next) :
    Reaches stage frames next := by
  induction hlife with
  | here => exact .refl h
  | next _ hbefalls ih =>
    refine ih.trans fun after hafter hstreamer => ?_
    rw [← hstreamer] at hbefalls
    exact .befalls hafter hbefalls

/-- A streamer that was built at some time and lived on since. -/
def CameAbout (streamer : Streamer) : Prop :=
  ∃ settings now states isWatched handlesCommands frames,
    Life (create settings now states isWatched handlesCommands) frames streamer

theorem cameAbout_create (settings : StreamSettings) (now : Nat) (states : List (Option Bytes))
    (isWatched handlesCommands : Bool) :
    (create settings now states isWatched handlesCommands).CameAbout :=
  ⟨settings, now, states, isWatched, handlesCommands, [], .here⟩

theorem survives_cameAbout : Survives CameAbout := by
  rintro before after frame? hbefalls ⟨settings, now, states, isWatched, handles, frames, hlife⟩
  exact ⟨settings, now, states, isWatched, handles, _, hlife.next hbefalls⟩

/-- Some moves since it was built made a streamer what it is, and its loops are in order. -/
structure IsMadeBy (streamer : Streamer) (moves : List Move) (stage : Stage) : Prop where
  reached : ∃ settings now states isWatched handlesCommands,
    Steps (.opening settings now states isWatched handlesCommands) moves stage
  there : stage.streamer = streamer
  /-- Whoever broke off has exited. -/
  exited : ∀ n ∈ stage.ended, n ∉ streamer.numbers
  orderly : Orderly stage

theorem Settled.isMadeBy (h : Settled stage)
    (hreached : ∃ settings now states isWatched handlesCommands,
      Steps (.opening settings now states isWatched handlesCommands) moves stage) :
    stage.streamer.IsMadeBy moves stage :=
  ⟨hreached, rfl, h.exited, h.sound.inOrder⟩

theorem CameAbout.exists_isMadeBy (h : streamer.CameAbout) :
    ∃ moves stage, streamer.IsMadeBy moves stage := by
  obtain ⟨settings, now, states, isWatched, handles, frames, hlife⟩ := h
  obtain ⟨moves, stage, hsteps, hsettled, rfl, -⟩ :=
    Reaches.life (settled_opening settings now states isWatched handles) hlife
  exact ⟨moves, stage, hsettled.isMadeBy ⟨_, _, _, _, _, hsteps⟩⟩

/-- Whatever becomes of a streamer that moves made is made by more of them, and they send what its
loops send. -/
theorem IsMadeBy.life (h : streamer.IsMadeBy moves stage) (hlife : Life streamer frames next) :
    ∃ more after, Steps stage more after ∧ next.IsMadeBy (moves ++ more) after ∧
      sentBy more = frames := by
  obtain ⟨⟨settings, now, states, isWatched, handles, hsteps⟩, rfl, hexited, -⟩ := h
  have hsound := (sound_opening settings now states isWatched handles).steps hsteps
  obtain ⟨more, after, hmore, hsettled, rfl, hsent⟩ := Reaches.life ⟨hsound, hexited⟩ hlife
  exact ⟨more, after, hmore, hsettled.isMadeBy ⟨_, _, _, _, _, hsteps.trans hmore⟩, hsent⟩

/-- **Whatever happens, the loops of a streamer are in order**, and 64 bits tell them apart as long
as no more than 2 ^ 64 were started. This holds after every sequence of moves. Such a sequence made
the streamers of every node what they are, and makes them what they become. -/
theorem orderly_of_steps :
    (∀ (settings : StreamSettings) (now : Nat) (states : List (Option Bytes))
        (isWatched handlesCommands : Bool) (moves : List Move) (stage : Stage),
      Steps (.opening settings now states isWatched handlesCommands) moves stage →
        Orderly stage ∧ (moves.countP (·.isStart) ≤ UInt64.size → stage.FitsWords)) ∧
    ∀ (settings : NodeSettings) (draws : Draws) (meets : Node → Bytes → Prop) (node : Node)
        (handle : Handle) (registration : Registration) (streamer : Streamer),
      Node.History settings draws (Driver.StreamerIs CameAbout) meets node →
      node.registration? handle = some registration →
      registration.driver.streamer? = some streamer →
        ∃ moves stage, streamer.IsMadeBy moves stage ∧ ∀ frames next, Life streamer frames next →
          ∃ more after, Steps stage more after ∧ next.IsMadeBy (moves ++ more) after ∧
            sentBy more = frames := by
  refine ⟨fun settings now states isWatched handles moves stage hsteps => ?_,
    fun settings draws meets node handle registration streamer hhistory hheld hstreamer => ?_⟩
  · have hopening := sound_opening settings now states isWatched handles
    exact ⟨(hopening.steps hsteps).inOrder, hsteps.fitsWords hopening rfl⟩
  · have hcame := (hhistory.streamerIs survives_cameAbout hheld).streamer hstreamer
    obtain ⟨moves, stage, hmade⟩ := hcame.exists_isMadeBy
    exact ⟨moves, stage, hmade, fun frames next hlife => hmade.life hlife⟩

/-- A stream that is cancelled and started again before its first loop noticed: that loop exits, and
the second one streams on. A host that was told to stream: its first loop takes a turn, and that is
a poll which sends what the loop sent. -/
theorem orderly_of_restart :
    (∃ stage, Steps (.opening {} 0 [some [1]] false false)
        [.start ⟨none, 0, true⟩ 20, .cancel, .start ⟨none, 5, true⟩ 20, .exit 0] stage ∧
      (Orderly stage ∧ stage.FitsWords) ∧ stage.streamer.state = .streaming ∧
      stage.streamer.current = some ⟨1, false⟩ ∧ stage.revoked = [0]) ∧
    ∃ registration streamer moves stage more after,
      (Node.streamingHost 4).registration? ⟨0, 0⟩ = some registration ∧
      registration.driver.streamer? = some streamer ∧ streamer.IsMadeBy moves stage ∧
      Steps stage more after ∧ (streamer.runLoop .taking 0).2.2.IsMadeBy (moves ++ more) after ∧
      sentBy more = [[0, 0, 10, 7, 3, 0, 0, 0, 0, 0xAA, 0xBB]] := by
  constructor
  · have hsteps := ((((Steps.refl (.opening {} 0 [some [1]] false false)).snoc
      (@Step.start _ ⟨none, 0, true⟩ 20 _ rfl)).snoc (.cancel _)).snoc
      (@Step.start _ ⟨none, 5, true⟩ 20 _ rfl)).snoc
      (@Step.exit _ 0 (by decide) (.inl (by decide)))
    obtain ⟨horderly, hfits⟩ := orderly_of_steps.1 _ _ _ _ _ _ _ hsteps
    exact ⟨_, hsteps, ⟨horderly, hfits (by decide)⟩, rfl, rfl, rfl⟩
  · obtain ⟨registration, hheld, hstreamer⟩ : ∃ registration,
        (Node.streamingHost 4).registration? ⟨0, 0⟩ = some registration ∧
          (registration.driver.streamer?.map fun s => (s.runLoop .taking 0).2.1) =
            some (some [0, 0, 10, 7, 3, 0, 0, 0, 0, 0xAA, 0xBB]) :=
      Option.map_eq_some_iff.1 (by decide +kernel : ((Node.streamingHost 4).registration?
        ⟨0, 0⟩).map (fun r => r.driver.streamer?.map fun s => (s.runLoop .taking 0).2.1) =
          some (some (some [0, 0, 10, 7, 3, 0, 0, 0, 0, 0xAA, 0xBB])))
    obtain ⟨streamer, hstreamer, hframe⟩ := Option.map_eq_some_iff.1 hstreamer
    have hhistory : Node.History {} ⟨fun _ => 0, 0⟩ (Driver.StreamerIs CameAbout)
        (fun _ _ => True) (Node.streamingHost 4) :=
      Node.history_streamingHost (cameAbout_create {} 0 _ false false) 4
    obtain ⟨moves, stage, hmade, hlife⟩ :=
      orderly_of_steps.2 _ _ _ _ _ _ _ hhistory hheld hstreamer
    obtain ⟨more, after, hmore, hafter, hsent⟩ := hlife _ _ (Life.here.next (.runs .taking 0))
    rw [hframe] at hsent
    exact ⟨_, _, moves, stage, more, after, hheld, hstreamer, hmade, hmore, hafter, hsent⟩

end Streamer

end DeviceBus
