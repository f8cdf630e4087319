import DeviceBus.Proofs.Streaming.Commands
import DeviceBus.Proofs.Streaming.Succession

/-!
# What a stream tells its client

A loop polls the state over and over, while the link comes and goes. It repeats itself only after a
silence: a state is sent if nothing was sent yet, if it differs from what was sent last, or if that
was sent long enough ago. What was sent last is remembered with the time of its poll, and only if it
was really sent, so the client is never left with an old state while there is a link.

## Main results

* `Remembering.steps`: the memory of a loop is the last of its polls that sent.
* `Telling.sends`: when a poll sends.
* `tells_changes`: what the polls of one loop send, over whole runs.
-/

namespace DeviceBus

namespace Streamer

/-! ## The polls of a loop -/

/-- The polls of one loop, in their order. -/
def pollsOf (number : Nat) (moves : List Move) : List Poll :=
  moves.filterMap fun
    | .poll poll => if poll.number = number then some poll else none
    | _ => none

/-- The last poll that sent a frame. -/
def lastSending : List Poll → Option Poll
  | [] => none
  | poll :: rest => (lastSending rest).or (if poll.frame.isSome then some poll else none)

theorem pollsOf_append (number : Nat) (xs ys : List Move) :
    pollsOf number (xs ++ ys) = pollsOf number xs ++ pollsOf number ys :=
  List.filterMap_append

theorem pollsOf_poll (number : Nat) (poll : Poll) :
    pollsOf number [.poll poll] = if poll.number = number then [poll] else [] := by
  unfold pollsOf
  split <;> simp_all

theorem lastSending_append (xs ys : List Poll) :
    lastSending (xs ++ ys) = (lastSending ys).or (lastSending xs) := by
  induction xs with
  | nil => exact Option.or_none.symm
  | cons poll rest ih => rw [List.cons_append, lastSending, lastSending, ih, Option.or_assoc]

/-- Polls that sent nothing leave what was sent last. -/
theorem lastSending_of_silent {xs : List Poll} (h : ∀ poll ∈ xs, poll.frame = none) :
    lastSending xs = none := by
  induction xs with
  | nil => rfl
  | cons poll rest ih =>
    rw [lastSending, ih fun other hother => h other (List.mem_cons_of_mem _ hother),
      h poll (List.mem_cons_self ..)]
    rfl

theorem lastSending_single (poll : Poll) :
    lastSending [poll] = if poll.frame.isSome then some poll else none := rfl

theorem mem_of_lastSending {xs : List Poll} {last : Poll} (h : lastSending xs = some last) :
    last ∈ xs ∧ last.frame.isSome = true := by
  induction xs with
  | nil => cases h
  | cons poll rest ih =>
    rw [lastSending] at h
    rcases Option.or_eq_some_iff.1 h with hrest | ⟨-, hfirst⟩
    · exact ⟨List.mem_cons_of_mem _ (ih hrest).1, (ih hrest).2⟩
    · split at hfirst
      · rename_i hsent
        cases hfirst
        exact ⟨List.mem_cons_self .., hsent⟩
      · cases hfirst

/-! ## The memory of a loop -/

/-- What a loop remembers of its polls. -/
def memoryOf (polls : List Poll) : Option (Bytes × Nat) :=
  (lastSending polls).map fun poll => (poll.state.getD [], poll.env.now)

/-- Every loop remembers the last of its polls that sent, and no loop has polled that was not
started yet. -/
structure Remembering (settings : StreamSettings) (builtAt : Nat) (moves : List Move)
    (stage : Stage) : Prop where
  sound : Sound stage
  sameSettings : stage.streamer.settings = settings
  sameBuiltAt : stage.streamer.builtAt = builtAt
  fresh : ∀ n, stage.streamer.nextNumber ≤ n → pollsOf n moves = []
  memory : ∀ loop ∈ stage.streamer.loops,
    loop.lastSent = ⟨settings.repeatAfter, memoryOf (pollsOf loop.number moves)⟩

variable {settings : StreamSettings} {builtAt number : Nat} {moves : List Move} {move : Move}
  {stage after : Stage}

theorem pollsOf_turn (n : Nat) (moves : List Move) (env : Env) (loop : StreamLoop) (stage : Stage) :
    pollsOf n (moves ++ [.poll (stage.pollOf env loop)]) =
      pollsOf n moves ++ if loop.number = n then [stage.pollOf env loop] else [] := by
  rw [pollsOf_append, pollsOf_poll]
  rfl

theorem remembering_opening (settings : StreamSettings) (now : Nat) (states : List (Option Bytes))
    (isWatched handlesCommands : Bool) :
    Remembering settings now [] (.opening settings now states isWatched handlesCommands) where
  sound := sound_opening settings now states isWatched handlesCommands
  sameSettings := rfl
  sameBuiltAt := rfl
  fresh _ _ := rfl
  memory _ hloop := nomatch hloop

/-- A move that is no poll leaves every memory. -/
theorem Remembering.quiet (h : Remembering settings builtAt moves stage)
    (hstep : Step stage move after) (hquiet : ∀ n, pollsOf n [move] = [])
    (hloops : ∀ loop ∈ after.streamer.loops, loop ∈ stage.streamer.loops ∨
      (loop.number = stage.streamer.nextNumber ∧
        loop.lastSent = .empty stage.streamer.settings.repeatAfter)) :
    Remembering settings builtAt (moves ++ [move]) after where
  sound := h.sound.step hstep
  sameSettings := hstep.terms.1.trans h.sameSettings
  sameBuiltAt := hstep.terms.2.trans h.sameBuiltAt
  fresh n hn := by
    rw [pollsOf_append, hquiet, List.append_nil]
    exact h.fresh n (Nat.le_trans hstep.nextNumber_le hn)
  memory loop hloop := by
    rw [pollsOf_append, hquiet, List.append_nil]
    rcases hloops loop hloop with hold | ⟨hnumber, hempty⟩
    · exact h.memory loop hold
    · rw [hempty, hnumber, h.fresh _ (Nat.le_refl _), h.sameSettings]
      rfl

theorem memoryOf_concat (polls : List Poll) (poll : Poll) : memoryOf (polls ++ [poll]) =
    if poll.frame.isSome = true then some (poll.state.getD [], poll.env.now)
    else memoryOf polls := by
  unfold memoryOf
  rw [lastSending_append, lastSending_single]
  split <;> rfl

theorem mem_loops_setLoop {next x : StreamLoop} {streamer : Streamer}
    (hx : x ∈ (streamer.setLoop next).loops) :
    x = next ∨ (x.number ≠ next.number ∧ x ∈ streamer.loops) := by
  unfold setLoop at hx
  obtain ⟨other, hother, rfl⟩ := List.mem_map.1 hx
  split
  · exact .inl rfl
  · rename_i hne
    exact .inr ⟨hne, hother⟩

/-- What loops remember after a turn: the one whose turn it was what it sent, if it sent, and all
others what they did before. -/
theorem lastSent_turn {streamer : Streamer} (hnodup : streamer.numbers.Nodup) (env : Env)
    {loop x : StreamLoop} (hloop : loop ∈ streamer.loops)
    (hx : x ∈ (streamer.turn env loop).streamer.loops) :
    (x.number ≠ loop.number ∧ x ∈ streamer.loops) ∨
      (x.number = loop.number ∧ x.lastSent =
        if (streamer.turn env loop).frame.isSome = true then
          loop.lastSent.remember (streamer.nextState.1.getD []) env.now
        else loop.lastSent) := by
  have hloops := (aside_nextState streamer).loops
  rcases turn_cases env loop streamer with hturn | hturn | ⟨state, _, frame, hstate, -, -, hturn⟩
  · rw [hturn, hloops] at hx
    rw [hturn]
    by_cases hself : x.number = loop.number
    · cases List.inj_on_of_nodup_map hnodup hx hloop hself
      exact .inr ⟨rfl, rfl⟩
    · exact .inl ⟨hself, hx⟩
  · rw [hturn] at hx ⊢
    rcases mem_loops_setLoop hx with rfl | ⟨hne, hother⟩
    · exact .inr ⟨rfl, rfl⟩
    · exact .inl ⟨hne, hloops ▸ hother⟩
  · rw [hturn] at hx ⊢
    rcases mem_loops_setLoop hx with rfl | ⟨hne, hother⟩
    · rw [hstate]
      exact .inr ⟨rfl, rfl⟩
    · exact .inl ⟨hne, hloops ▸ hother⟩

/-- A poll is remembered by its loop if it sent. -/
theorem Remembering.poll (h : Remembering settings builtAt moves stage) (env : Env)
    {loop : StreamLoop} (hloop : loop ∈ stage.streamer.loops)
    (hstep : Step stage (.poll (stage.pollOf env loop)) (stage.turn env loop)) :
    Remembering settings builtAt (moves ++ [.poll (stage.pollOf env loop)])
      (stage.turn env loop) := by
  obtain ⟨hsettings, hbuilt⟩ := hstep.terms
  obtain ⟨-, hnext, -⟩ := turn_kept env loop stage.streamer
  refine ⟨h.sound.step hstep, hsettings.trans h.sameSettings, hbuilt.trans h.sameBuiltAt,
    fun n hn => ?_, fun x hx => ?_⟩
  · rw [show (stage.turn env loop).streamer.nextNumber = _ from hnext] at hn
    have hnumber : loop.number < stage.streamer.nextNumber :=
      h.sound.numbered _ (List.mem_map.2 ⟨loop, hloop, rfl⟩)
    have hother : loop.number ≠ n := Nat.ne_of_lt (Nat.lt_of_lt_of_le hnumber hn)
    rw [pollsOf_turn, if_neg hother, List.append_nil]
    exact h.fresh n hn
  · rcases lastSent_turn h.sound.nodup env hloop hx with ⟨hne, hold⟩ | ⟨hself, hmemory⟩
    · rw [pollsOf_turn, if_neg (Ne.symm hne), List.append_nil]
      exact h.memory x hold
    · rw [hmemory, h.memory loop hloop, pollsOf_turn, if_pos hself.symm, hself, memoryOf_concat]
      show _ = LastSent.mk _ (if (stage.streamer.turn env loop).frame.isSome = true then _ else _)
      split <;> rfl

theorem Remembering.step (h : Remembering settings builtAt moves stage)
    (hstep : Step stage move after) : Remembering settings builtAt (moves ++ [move]) after := by
  have hwhole := hstep
  cases hstep with
  | poll env hloop _ _ => exact h.poll env hloop hwhole
  | start hstart =>
    refine h.quiet hwhole (fun _ => rfl) fun loop hloop => ?_
    obtain ⟨-, rfl⟩ | ⟨-, rfl⟩ := start_cases hstart
    · exact .inl hloop
    · rcases List.mem_append.1 hloop with hold | hnew
      · exact .inl hold
      · cases List.mem_singleton.1 hnew
        exact .inr ⟨rfl, rfl⟩
  | cancel =>
    refine h.quiet hwhole (fun _ => rfl) fun loop hloop => .inl ?_
    rwa [show stage.cancel.streamer.loops = _ from loops_cancel _] at hloop
  | exit _ _ =>
    refine h.quiet hwhole (fun _ => rfl) fun loop hloop => .inl ?_
    rw [loops_retire] at hloop
    exact (List.mem_filter.1 hloop).1
  | aside haside =>
    refine h.quiet hwhole (fun _ => rfl) fun loop hloop => .inl ?_
    rwa [haside.loops] at hloop

/-- **What a loop remembers is the last of its polls that sent.** -/
theorem Remembering.steps {before : List Move} (h : Remembering settings builtAt before stage)
    (hsteps : Steps stage moves after) :
    Remembering settings builtAt (before ++ moves) after := by
  induction hsteps with
  | refl => rwa [List.append_nil]
  | snoc _ hstep ih =>
    rw [← List.append_assoc]
    exact ih.step hstep

/-! ## When a poll sends -/

/-- The frame carries a state under an address, with its time. -/
def Carries (address : UInt8) (timestamp : UInt32) (state frame : Bytes) : Prop :=
  ∃ packet, Packet.decode frame = .ok packet ∧ packet.toBytes = frame ∧ packet.address = address ∧
    StreamCommand.decode packet.data = .ok (.state timestamp state)

/-- A state that fits goes out on a sink that is open. -/
theorem exists_dataFrame {env : Env} (hopen : env.refusal = none) {state : Bytes}
    (hfits : state.length ≤ stateLimit) (address : UInt8) (timestamp : UInt32) :
    ∃ frame, env.dataFrame address (StreamCommand.state timestamp state).toBytes = .ok frame ∧
      Carries address timestamp state frame := by
  have hlength : (StreamCommand.state timestamp state).toBytes.length ≤ payloadLimit := by
    simp only [StreamCommand.toBytes, List.length_cons, List.length_append,
      Bytes.length_ofWord32]
    unfold stateLimit payloadLimit stateHeaderLength at *
    omega
  have hpacket : Packet.ofData address (StreamCommand.state timestamp state).toBytes =
      .ok ⟨0, address, (StreamCommand.state timestamp state).toBytes⟩ :=
    if_neg (Nat.not_lt_of_le hlength)
  let packet : Packet := ⟨0, address, (StreamCommand.state timestamp state).toBytes⟩
  have hcanonical : (StreamCommand.state timestamp state).IsCanonical := trivial
  refine ⟨packet.toBytes, ?_, packet, ?_, rfl, rfl,
    StreamCommand.decode_toBytes_of_isCanonical hcanonical⟩
  · simp only [Env.dataFrame, hpacket, Env.transmit, hopen]
    rfl
  · have hread := Packet.decode_toBytes_append packet [] hlength
    rwa [List.append_nil] at hread

/-- **When a turn sends**: there is a link, and the state is worth it. -/
theorem turn_frame {env : Env} {loop : StreamLoop} {streamer : Streamer} {state : Bytes}
    (hopen : env.refusal = none) (hstate : streamer.nextState.1 = some state)
    (hfits : state.length ≤ stateLimit) :
    ((streamer.turn env loop).frame.isSome = true ↔ streamer.address.isSome = true ∧
      loop.lastSent.isWorthSending state env.now = true) ∧
    ∀ frame, (streamer.turn env loop).frame = some frame → ∃ address,
      streamer.address = some address ∧
        Carries address (streamer.timestamp env.now) state frame := by
  obtain ⟨-, hbuilt, haddress⟩ := sameTerms_nextState streamer
  have htime : streamer.nextState.2.timestamp env.now = streamer.timestamp env.now := by
    unfold timestamp
    rw [hbuilt]
  unfold turn
  generalize streamer.nextState = polled at hstate haddress htime
  obtain ⟨next, after⟩ := polled
  dsimp only at hstate haddress htime
  subst hstate
  dsimp only
  rw [if_neg (Nat.not_lt_of_le hfits), haddress, htime]
  cases hworth : loop.lastSent.isWorthSending state env.now with
  | false => simp
  | true =>
    cases streamer.address with
    | none => simp
    | some address =>
      obtain ⟨frame, hframe, hcarries⟩ :=
        exists_dataFrame hopen hfits address (streamer.timestamp env.now)
      simp only [Bool.not_true, Bool.false_eq_true, if_false, hframe]
      refine ⟨by simp, fun sent hsent => ⟨address, rfl, ?_⟩⟩
      cases hsent
      exact hcarries

/-- Whether a poll has something to tell: nothing was sent yet, or something else, or that was long
ago. -/
def IsDue (silence : Nat) (before : List Poll) (poll : Poll) : Prop :=
  lastSending before = none ∨ ∃ last, lastSending before = some last ∧
    (last.state ≠ poll.state ∨ last.env.now + silence ≤ poll.env.now)

/-- A poll on an open sink that met a state which fits. -/
structure Poll.IsOrdinary (poll : Poll) : Prop where
  isOpen : poll.env.refusal = none
  fits : ∃ state, poll.state = some state ∧ state.length ≤ stateLimit

theorem Poll.isOrdinary_iff (poll : Poll) : poll.IsOrdinary ↔
    poll.env.refusal = none ∧ poll.state.any (·.length ≤ stateLimit) = true := by
  rw [Option.any_eq_true]
  simp only [decide_eq_true_eq]
  exact ⟨fun h => ⟨h.isOpen, h.fits⟩, fun h => ⟨h.1, h.2⟩⟩

instance (poll : Poll) : Decidable poll.IsOrdinary := decidable_of_iff _ poll.isOrdinary_iff.symm

/-- A poll sends if there is a link and something to tell, and only then. -/
def SendsWhenDue (silence : Nat) (polls : List Poll) : Prop :=
  ∀ before poll later, polls = before ++ poll :: later →
    (poll.frame.isSome = true ↔ poll.link.isSome = true ∧ IsDue silence before poll)

/-- What a loop tells its client by its polls. -/
structure Telling (silence builtAt : Nat) (polls : List Poll) : Prop where
  /-- A poll sends if there is a link and something to tell. -/
  sends : SendsWhenDue silence polls
  /-- The one frame it sends carries the state it met. -/
  carries : ∀ poll ∈ polls, ∀ frame, poll.frame = some frame → ∃ address state,
    poll.link = some address ∧ poll.state = some state ∧
      Carries address (UInt32.ofNat (poll.env.now - builtAt)) state frame
  /-- Of two frames in a row the second tells something else or comes after the silence. -/
  repeats : ∀ before first between second later,
    polls = before ++ first :: (between ++ second :: later) →
    first.frame.isSome = true → second.frame.isSome = true →
    (∀ poll ∈ between, poll.frame = none) →
    first.state ≠ second.state ∨ first.env.now + silence ≤ second.env.now
  /-- After a poll with a link, what was sent last is what the poll met. -/
  upToDate : ∀ before poll later, polls = before ++ poll :: later → poll.link.isSome = true →
    ∃ last, lastSending (before ++ [poll]) = some last ∧ last.state = poll.state
  /-- What a poll could not send for want of a link goes out at the next poll with one, unless the
  state is again what was sent last. -/
  catchesUp : ∀ before missed between poll later,
    polls = before ++ missed :: (between ++ poll :: later) →
    missed.link = none → (∀ other ∈ between, other.link = none) → poll.link.isSome = true →
    (∀ last, lastSending before = some last → last.state ≠ poll.state) →
    poll.frame.isSome = true

section

variable {silence : Nat} {polls : List Poll}

theorem SendsWhenDue.repeats (h : SendsWhenDue silence polls) {before between later : List Poll}
    {first second : Poll} (hpolls : polls = before ++ first :: (between ++ second :: later))
    (hfirst : first.frame.isSome = true) (hsecond : second.frame.isSome = true)
    (hsilent : ∀ poll ∈ between, poll.frame = none) :
    first.state ≠ second.state ∨ first.env.now + silence ≤ second.env.now := by
  have hlast : lastSending (before ++ first :: between) = some first := by
    rw [lastSending_append, lastSending, lastSending_of_silent hsilent, hfirst]
    rfl
  have hsplit : polls = (before ++ first :: between) ++ second :: later := by
    rw [hpolls, List.append_assoc, List.cons_append]
  obtain ⟨-, hnone | ⟨last, hsome, hdue⟩⟩ := (h _ _ _ hsplit).1 hsecond
  · rw [hlast] at hnone
    cases hnone
  · rw [hlast] at hsome
    cases hsome
    exact hdue

theorem SendsWhenDue.upToDate (h : SendsWhenDue silence polls) {before later : List Poll}
    {poll : Poll} (hpolls : polls = before ++ poll :: later) (hlink : poll.link.isSome = true) :
    ∃ last, lastSending (before ++ [poll]) = some last ∧ last.state = poll.state := by
  rw [lastSending_append, lastSending_single]
  cases hframe : poll.frame.isSome with
  | true => exact ⟨poll, rfl, rfl⟩
  | false =>
    have hidle : ¬ IsDue silence before poll := fun hdue => by
      rw [(h _ _ _ hpolls).2 ⟨hlink, hdue⟩] at hframe
      cases hframe
    cases hlast : lastSending before with
    | none => exact absurd (.inl hlast) hidle
    | some last =>
      refine ⟨last, rfl, Decidable.byContradiction fun hother => ?_⟩
      exact hidle (.inr ⟨last, hlast, .inl hother⟩)

theorem SendsWhenDue.frame_eq_none (h : SendsWhenDue silence polls) {poll : Poll}
    (hpoll : poll ∈ polls) (hlink : poll.link = none) : poll.frame = none := by
  obtain ⟨before, later, hpolls⟩ := List.append_of_mem hpoll
  refine Option.not_isSome_iff_eq_none.1 fun hframe => ?_
  have hsome := ((h _ _ _ hpolls).1 hframe).1
  rw [hlink] at hsome
  cases hsome

theorem SendsWhenDue.catchesUp (h : SendsWhenDue silence polls)
    {before between later : List Poll} {missed poll : Poll}
    (hpolls : polls = before ++ missed :: (between ++ poll :: later))
    (hmissed : missed.link = none) (hbetween : ∀ other ∈ between, other.link = none)
    (hlink : poll.link.isSome = true)
    (hchanged : ∀ last, lastSending before = some last → last.state ≠ poll.state) :
    poll.frame.isSome = true := by
  have hsplit : polls = (before ++ missed :: between) ++ poll :: later := by
    rw [hpolls, List.append_assoc, List.cons_append]
  have hsilent : ∀ other ∈ missed :: between, other.frame = none := by
    intro other hother
    refine h.frame_eq_none
      (hsplit ▸ List.mem_append_left _ (List.mem_append_right _ hother)) ?_
    rcases List.mem_cons.1 hother with rfl | hother
    · exact hmissed
    · exact hbetween other hother
  have hlast : lastSending (before ++ missed :: between) = lastSending before := by
    rw [lastSending_append, lastSending_of_silent hsilent]
    rfl
  refine (h _ _ _ hsplit).2 ⟨hlink, ?_⟩
  unfold IsDue
  rw [hlast]
  cases hsome : lastSending before with
  | none => exact .inl rfl
  | some last => exact .inr ⟨last, rfl, .inl (hchanged last hsome)⟩

end

theorem isWorthSending_memoryOf {polls : List Poll} {poll : Poll} {state : Bytes} {silence : Nat}
    (hstate : poll.state = some state)
    (hpast : ∀ other ∈ polls, other.IsOrdinary ∧ other.env.now ≤ poll.env.now) :
    LastSent.isWorthSending state poll.env.now ⟨silence, memoryOf polls⟩ = true ↔
      IsDue silence polls poll := by
  unfold LastSent.isWorthSending memoryOf IsDue
  cases hlast : lastSending polls with
  | none => simp
  | some last =>
    obtain ⟨hordinary, htime⟩ := hpast last (mem_of_lastSending hlast).1
    obtain ⟨old, hold, -⟩ := hordinary.fits
    have hsilence : silence ≤ poll.env.now - last.env.now ↔
        last.env.now + silence ≤ poll.env.now := by omega
    simp [hold, hstate, hsilence]

/-- One poll on a stage whose loops remember. -/
theorem Remembering.tells (h : Remembering settings builtAt moves stage) {poll : Poll}
    (hstep : Step stage (.poll poll) after) (hordinary : poll.IsOrdinary)
    (hpast : ∀ other ∈ pollsOf poll.number moves,
      other.IsOrdinary ∧ other.env.now ≤ poll.env.now) :
    (poll.frame.isSome = true ↔ poll.link.isSome = true ∧
      IsDue settings.repeatAfter (pollsOf poll.number moves) poll) ∧
    ∀ frame, poll.frame = some frame → ∃ address state, poll.link = some address ∧
      poll.state = some state ∧
        Carries address (UInt32.ofNat (poll.env.now - builtAt)) state frame := by
  cases hstep with
  | poll env hloop _ _ =>
    rename_i loop _ _
    obtain ⟨state, hstate, hfits⟩ := hordinary.fits
    obtain ⟨hsends, hcarries⟩ := @turn_frame env loop _ _ hordinary.isOpen hstate hfits
    refine ⟨?_, fun frame hframe => ?_⟩
    · rw [← isWorthSending_memoryOf hstate hpast]
      rw [h.memory loop hloop] at hsends
      exact hsends
    · obtain ⟨address, haddress, hcarries⟩ := hcarries frame hframe
      refine ⟨address, state, haddress, hstate, ?_⟩
      unfold timestamp at hcarries
      rw [h.sameBuiltAt] at hcarries
      exact hcarries

/-! ## Whole runs -/

/-- A run in two parts around one of its moves. -/
theorem Steps.split {xs ys : List Move} (h : Steps stage (xs ++ move :: ys) after) :
    ∃ middle next, Steps stage xs middle ∧ Step middle move next ∧ Steps next ys after := by
  generalize hmoves : xs ++ move :: ys = moves at h
  induction h generalizing ys with
  | refl => simp at hmoves
  | snoc hsteps hstep ih =>
    rename_i second third moves' last
    rcases List.eq_nil_or_concat ys with rfl | ⟨ys', y, rfl⟩
    · obtain ⟨rfl, hlast⟩ := List.append_inj' hmoves rfl
      cases hlast
      exact ⟨second, third, hsteps, hstep, .refl third⟩
    · rw [List.concat_eq_append, ← List.cons_append, ← List.append_assoc] at hmoves
      obtain ⟨hearlier, hlast⟩ := List.append_inj' hmoves rfl
      cases hlast
      obtain ⟨middle, next, hfirst, hmiddle, hrest⟩ := ih hearlier
      exact ⟨middle, next, hfirst, hmiddle, by
        rw [List.concat_eq_append]
        exact hrest.snoc hstep⟩

/-- Where a poll of a loop stands among the moves. -/
theorem exists_move_of_pollsOf {before later : List Poll} {poll : Poll}
    (h : pollsOf number moves = before ++ poll :: later) : ∃ xs ys,
      moves = xs ++ .poll poll :: ys ∧ pollsOf number xs = before ∧ poll.number = number := by
  unfold pollsOf at h
  obtain ⟨xs, rest, rfl, hxs, hrest⟩ := List.filterMap_eq_append_iff.1 h
  obtain ⟨quiet, move, ys, rfl, hquiet, hmove, -⟩ := List.filterMap_eq_cons_iff.1 hrest
  split at hmove
  · split at hmove
    · rename_i hnumber
      cases hmove
      refine ⟨xs ++ quiet, ys, by rw [List.append_assoc], ?_, hnumber⟩
      rw [pollsOf_append]
      have hnone : pollsOf number quiet = [] := List.filterMap_eq_nil_iff.2 hquiet
      rw [hnone, List.append_nil]
      exact hxs
    · cases hmove
  · cases hmove

/-- **The polls of a loop tell its client every change**, in any order of starts, cancellations,
polls and exits of its own and of other loops, and of changes of link and state. -/
theorem tells_changes {now : Nat} {states : List (Option Bytes)} {isWatched handlesCommands : Bool}
    (h : Steps (.opening settings now states isWatched handlesCommands) moves stage)
    (hordinary : ∀ poll ∈ pollsOf number moves, poll.IsOrdinary)
    (htime : (pollsOf number moves).Pairwise (·.env.now ≤ ·.env.now)) :
    Telling settings.repeatAfter now (pollsOf number moves) := by
  have hstart := remembering_opening settings now states isWatched handlesCommands
  have hone : ∀ before poll later, pollsOf number moves = before ++ poll :: later →
      (poll.frame.isSome = true ↔ poll.link.isSome = true ∧
        IsDue settings.repeatAfter before poll) ∧
      ∀ frame, poll.frame = some frame → ∃ address state, poll.link = some address ∧
        poll.state = some state ∧
          Carries address (UInt32.ofNat (poll.env.now - now)) state frame := by
    intro before poll later hsplit
    obtain ⟨xs, ys, rfl, hbefore, hnumber⟩ := exists_move_of_pollsOf hsplit
    obtain ⟨middle, next, hsteps, hstep, -⟩ := h.split
    rw [hsplit] at hordinary htime
    have hremembering := hstart.steps hsteps
    rw [List.nil_append] at hremembering
    have htells := hremembering.tells hstep (hordinary poll (by simp))
    rw [hnumber, hbefore] at htells
    refine htells fun other hother => ⟨hordinary other (by simp [hother]), ?_⟩
    exact (List.pairwise_append.1 htime).2.2 other hother poll (List.mem_cons_self ..)
  have hsends : SendsWhenDue settings.repeatAfter (pollsOf number moves) :=
    fun before poll later hsplit => (hone before poll later hsplit).1
  exact
    { sends := hsends
      carries := fun poll hpoll => by
        obtain ⟨before, later, hsplit⟩ := List.append_of_mem hpoll
        exact (hone before poll later hsplit).2
      repeats := fun _ _ _ _ _ => hsends.repeats
      upToDate := fun _ _ _ => hsends.upToDate
      catchesUp := fun _ _ _ _ _ => hsends.catchesUp }

/-- A state that changes while the link is away goes out when the link is back. -/
theorem tells_changes_of_missed :
    ∃ moves stage, Steps (.opening {} 0 [some [1], some [2]] false false) moves stage ∧
      (pollsOf 0 moves).map (fun poll => (poll.env.now, poll.link, poll.state, poll.frame.isSome)) =
        [(0, some 9, some [1], true), (20, none, some [2], false), (40, some 9, some [2], true)] ∧
      Telling 500 0 (pollsOf 0 moves) := by
  have hsteps := (((((((Steps.refl (.opening {} 0 [some [1], some [2]] false false)).snoc
    (.aside (aside_of_address _ (some 9)))).snoc
    (@Step.start _ ⟨none, 0, true⟩ 20 _ rfl)).snoc
    (.poll ⟨none, 0, true⟩ (List.mem_cons_self ..) (by decide) (by decide))).snoc
    (.aside (aside_of_address _ none))).snoc
    (.poll ⟨none, 20, true⟩ (List.mem_cons_self ..) (by decide) (by decide))).snoc
    (.aside (aside_of_address _ (some 9)))).snoc
    (.poll ⟨none, 40, true⟩ (List.mem_cons_self ..) (by decide) (by decide))
  exact ⟨_, _, hsteps, by decide, tells_changes hsteps (by decide) (by decide)⟩

end Streamer

end DeviceBus
