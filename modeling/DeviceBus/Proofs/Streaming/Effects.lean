import DeviceBus.Driver.Request

/-!
# What a streamer does

A streamer starts loops and cancels them, lets them run and exit, and serves commands and requests.
What each of these can come to is said once here; whatever is shown of streams goes by these cases.
`Befalls` lists all that happens to a streamer in its node.

## Main results

* `start_cases`, `turn_cases`, `runs`: a start, a turn of a loop, and a loop that may run.
* `obeys_onData`, `obeys_serve`: commands and requests start a loop, cancel one, or are no matter
  of the loops.
* `reap_induction`: what every exit of a dead loop keeps.
-/

namespace DeviceBus

namespace Streamer

variable {streamer : Streamer}

/-- The numbers of the loops that have not exited. -/
def numbers (streamer : Streamer) : List Nat := streamer.loops.map (·.number)

/-! ## What stays -/

/-- Nothing that concerns the loops is different. -/
structure Aside (before after : Streamer) : Prop where
  settings : after.settings = before.settings
  builtAt : after.builtAt = before.builtAt
  state : after.state = before.state
  nextNumber : after.nextNumber = before.nextNumber
  current : after.current = before.current
  loops : after.loops = before.loops

theorem Aside.refl (streamer : Streamer) : Aside streamer streamer := ⟨rfl, rfl, rfl, rfl, rfl, rfl⟩

theorem Aside.numbers {after : Streamer} (h : Aside streamer after) :
    after.numbers = streamer.numbers :=
  congrArg (List.map _) h.loops

theorem aside_of_address (streamer : Streamer) (address : Option UInt8) :
    Aside streamer { streamer with address } :=
  ⟨rfl, rfl, rfl, rfl, rfl, rfl⟩

theorem aside_nextState (streamer : Streamer) : Aside streamer streamer.nextState.2 := by
  unfold nextState
  dsimp only
  split <;> exact ⟨rfl, rfl, rfl, rfl, rfl, rfl⟩

/-- The terms of a stream are those that it had: what its loops are no matter of. -/
structure SameTerms (before after : Streamer) : Prop where
  settings : after.settings = before.settings
  builtAt : after.builtAt = before.builtAt
  address : after.address = before.address

theorem SameTerms.refl (streamer : Streamer) : SameTerms streamer streamer := ⟨rfl, rfl, rfl⟩

theorem SameTerms.trans {first second third : Streamer} (h : SameTerms first second)
    (h' : SameTerms second third) : SameTerms first third where
  settings := h'.settings.trans h.settings
  builtAt := h'.builtAt.trans h.builtAt
  address := h'.address.trans h.address

theorem sameTerms_nextState (streamer : Streamer) : SameTerms streamer streamer.nextState.2 := by
  unfold nextState
  dsimp only
  split <;> exact ⟨rfl, rfl, rfl⟩

/-! ## Starting and ending -/

theorem numbers_spawn (interval : Nat) (streamer : Streamer) :
    (streamer.spawn interval).numbers = streamer.numbers ++ [streamer.nextNumber] :=
  List.map_append

/-- **What a start can be**: it finds a loop running and changes nothing, or it spawns one. -/
theorem start_cases {env : Env} {requested : Nat} {started : Started}
    (h : streamer.start env requested = .ok started) :
    streamer.isRunning = true ∧
        started = ⟨streamer.settings.grantedInterval requested, none, streamer⟩ ∨
      streamer.isRunning = false ∧
        started = ⟨streamer.settings.grantedInterval requested, some streamer.nextNumber,
          streamer.spawn (streamer.settings.grantedInterval requested)⟩ := by
  unfold start at h
  split at h
  · dsimp only at h
    split at h
    · rename_i hrunning
      cases h
      exact .inl ⟨hrunning, rfl⟩
    · rename_i hstopped
      cases h
      exact .inr ⟨Bool.not_eq_true _ ▸ hstopped, rfl⟩
  · cases h

theorem sameTerms_start {env : Env} {requested : Nat} {started : Started}
    (h : streamer.start env requested = .ok started) : SameTerms streamer started.streamer := by
  obtain ⟨-, rfl⟩ | ⟨-, rfl⟩ := start_cases h
  · exact .refl streamer
  · exact ⟨rfl, rfl, rfl⟩

theorem sameTerms_cancel (streamer : Streamer) : SameTerms streamer streamer.cancel := by
  unfold cancel
  split <;> exact ⟨rfl, rfl, rfl⟩

theorem current_cancel (streamer : Streamer) :
    streamer.cancel.current =
      streamer.current.map fun task => { task with isCancelled := true } := by
  unfold cancel
  split
  · rename_i task htask
    rw [htask]
    rfl
  · rename_i hnone
    rw [hnone]
    rfl

theorem loops_cancel (streamer : Streamer) : streamer.cancel.loops = streamer.loops := by
  unfold cancel
  split <;> rfl

theorem cancel_kept (streamer : Streamer) :
    streamer.cancel.nextNumber = streamer.nextNumber ∧
      streamer.cancel.numbers = streamer.numbers := by
  refine ⟨?_, congrArg (List.map _) (loops_cancel streamer)⟩
  unfold cancel
  split <;> rfl

theorem sameTerms_retire (number : Nat) (streamer : Streamer) :
    SameTerms streamer (streamer.retire number) := by
  unfold retire
  dsimp only
  split <;> exact ⟨rfl, rfl, rfl⟩

theorem loops_retire (number : Nat) (streamer : Streamer) : (streamer.retire number).loops =
    streamer.loops.filter (·.number != number) := by
  unfold retire
  dsimp only
  split <;> rfl

theorem mem_numbers_retire {number n : Nat} :
    n ∈ (streamer.retire number).numbers ↔ n ∈ streamer.numbers ∧ n ≠ number := by
  unfold numbers
  rw [loops_retire, List.mem_map, List.mem_map]
  constructor
  · rintro ⟨loop, hloop, rfl⟩
    rw [List.mem_filter, bne_iff_ne] at hloop
    exact ⟨⟨loop, hloop.1, rfl⟩, hloop.2⟩
  · rintro ⟨⟨loop, hloop, rfl⟩, hother⟩
    exact ⟨loop, List.mem_filter.2 ⟨hloop, bne_iff_ne.2 hother⟩, rfl⟩

theorem nextNumber_retire (number : Nat) :
    (streamer.retire number).nextNumber = streamer.nextNumber := by
  unfold retire
  dsimp only
  split <;> rfl

/-- Whoever is current after an exit was it before, and is another one. -/
theorem current_retire (number : Nat) : (streamer.retire number).current =
    if streamer.current.map (·.number) = some number then none else streamer.current := by
  unfold retire
  dsimp only
  split <;> rfl

/-! ## A turn and the exit after it -/

/-- **What a turn can be**: the loop breaks off, it waits, or it sends and remembers what it sent.
It changes nobody but itself. -/
theorem turn_cases (env : Env) (loop : StreamLoop) (streamer : Streamer) :
    streamer.turn env loop = ⟨none, false, streamer.nextState.2⟩ ∨
      streamer.turn env loop =
        ⟨none, true, streamer.nextState.2.setLoop (loop.ticked env.now)⟩ ∨
      ∃ (state : Bytes) (address : UInt8) (frame : Bytes), streamer.nextState.1 = some state ∧
        streamer.address = some address ∧
        env.dataFrame address (StreamCommand.state (streamer.timestamp env.now) state).toBytes =
          .ok frame ∧
        streamer.turn env loop = ⟨some frame, true, streamer.nextState.2.setLoop
          { loop.ticked env.now with lastSent := loop.lastSent.remember state env.now }⟩ := by
  obtain ⟨-, hbuilt, haddress⟩ := sameTerms_nextState streamer
  have htime : streamer.timestamp env.now = streamer.nextState.2.timestamp env.now := by
    unfold timestamp
    rw [hbuilt]
  rw [← haddress, htime]
  unfold turn
  cases streamer.nextState with
  | mk state after =>
    cases state with
    | none => exact .inl rfl
    | some state =>
      dsimp only
      split
      · exact .inl rfl
      · split
        · exact .inr (.inl rfl)
        · cases after.address with
          | none => exact .inr (.inl rfl)
          | some address =>
            dsimp only
            cases hframe : env.dataFrame address
                (StreamCommand.state (after.timestamp env.now) state).toBytes with
            | ok frame => exact .inr (.inr ⟨state, address, frame, rfl, rfl, hframe, rfl⟩)
            | error e =>
              dsimp only
              split
              · exact .inl rfl
              · exact .inr (.inl rfl)

theorem numbers_setLoop (loop : StreamLoop) (streamer : Streamer) :
    (streamer.setLoop loop).numbers = streamer.numbers := by
  unfold numbers setLoop
  rw [List.map_map]
  refine List.map_congr_left fun other _ => ?_
  dsimp only [Function.comp]
  split
  · rename_i h
    exact h.symm
  · rfl

theorem sameTerms_turn (env : Env) (loop : StreamLoop) (streamer : Streamer) :
    SameTerms streamer (streamer.turn env loop).streamer := by
  have hnext := sameTerms_nextState streamer
  rcases turn_cases env loop streamer with h | h | ⟨_, _, _, -, -, -, h⟩ <;> rw [h]
  · exact hnext
  · exact hnext.trans ⟨rfl, rfl, rfl⟩
  · exact hnext.trans ⟨rfl, rfl, rfl⟩

/-- A turn leaves everybody where they are. -/
theorem turn_kept (env : Env) (loop : StreamLoop) (streamer : Streamer) :
    (streamer.turn env loop).streamer.state = streamer.state ∧
      (streamer.turn env loop).streamer.nextNumber = streamer.nextNumber ∧
      (streamer.turn env loop).streamer.current = streamer.current ∧
      (streamer.turn env loop).streamer.numbers = streamer.numbers := by
  have haside := aside_nextState streamer
  rcases turn_cases env loop streamer with h | h | ⟨_, _, _, -, -, -, h⟩ <;> rw [h]
  · exact ⟨haside.state, haside.nextNumber, haside.current, haside.numbers⟩
  · exact ⟨haside.state, haside.nextNumber, haside.current,
      (numbers_setLoop _ _).trans haside.numbers⟩
  · exact ⟨haside.state, haside.nextNumber, haside.current,
      (numbers_setLoop _ _).trans haside.numbers⟩

/-! ## Loops that run and exit -/

/-- What comes of letting a loop run. -/
inductive Runs (env : Env) (number : Nat) (streamer : Streamer) :
    Bool × Option Bytes × Streamer → Prop where
  /-- There is no such loop. -/
  | absent (h : number ∉ streamer.numbers) : Runs env number streamer (false, none, streamer)
  /-- It is not time yet. -/
  | waits {loop : StreamLoop} (hloop : loop ∈ streamer.loops) (hnumber : loop.number = number)
      (hlive : streamer.isLive number = true) (hdue : (loop.beat env.now).isDue env.now = false) :
      Runs env number streamer (false, none, streamer)
  | turns {loop : StreamLoop} (hloop : loop ∈ streamer.loops) (hnumber : loop.number = number)
      (hlive : streamer.isLive number = true) (hdue : (loop.beat env.now).isDue env.now = true) :
      Runs env number streamer (true, (streamer.turn env loop).close number)
  | exits (hthere : number ∈ streamer.numbers) (hdead : streamer.isLive number = false) :
      Runs env number streamer (false, none, streamer.retire number)

theorem runs (env : Env) (number : Nat) (streamer : Streamer) :
    Runs env number streamer (streamer.runLoop env number) := by
  unfold runLoop
  cases hfind : streamer.loops.find? (·.number == number) with
  | none =>
    refine .absent fun hthere => ?_
    obtain ⟨loop, hloop, rfl⟩ := List.mem_map.1 hthere
    exact List.find?_eq_none.1 hfind loop hloop (beq_self_eq_true _)
  | some loop =>
    have hloop := List.mem_of_find?_eq_some hfind
    obtain rfl : loop.number = number := by simpa using List.find?_some hfind
    dsimp only
    cases hlive : streamer.isLive loop.number with
    | false =>
      rw [if_neg Bool.false_ne_true]
      exact .exits (List.mem_map.2 ⟨loop, hloop, rfl⟩) hlive
    | true =>
      rw [if_pos rfl]
      cases hdue : (loop.beat env.now).isDue env.now with
      | false => exact .waits hloop rfl hlive hdue
      | true =>
        rw [if_pos rfl]
        exact .turns hloop rfl hlive hdue

/-- What every exit of a loop that is not live keeps, letting all of them exit keeps. -/
theorem reap_induction {P : Streamer → Prop} (h : P streamer)
    (hretire : ∀ (s : Streamer) (number : Nat), s.isLive number = false → P s →
      P (s.retire number)) : P streamer.reap := by
  unfold reap
  generalize streamer.loops = loops
  induction loops generalizing streamer with
  | nil => exact h
  | cons loop rest ih =>
    rw [List.foldl_cons]
    refine ih ?_
    cases hlive : streamer.isLive loop.number with
    | true => exact h
    | false => exact hretire streamer loop.number hlive h

theorem sameTerms_runLoop (env : Env) (number : Nat) (streamer : Streamer) :
    SameTerms streamer (streamer.runLoop env number).2.2 := by
  have hruns := runs env number streamer
  generalize streamer.runLoop env number = result at hruns ⊢
  cases hruns with
  | absent _ => exact .refl streamer
  | waits _ _ _ _ => exact .refl streamer
  | exits _ _ => exact sameTerms_retire number streamer
  | @turns loop _ _ _ _ =>
    refine (sameTerms_turn env loop streamer).trans ?_
    unfold Turned.close
    dsimp only
    split
    · exact .refl _
    · exact sameTerms_retire number _

theorem sameTerms_reap (streamer : Streamer) : SameTerms streamer streamer.reap :=
  reap_induction (.refl streamer) fun s number _ h => h.trans (sameTerms_retire number s)

/-! ## Commands and requests -/

/-- What a command or a request makes of a streamer. -/
inductive Obeys (env : Env) (streamer : Streamer) : Streamer → Prop where
  | start {requested : Nat} {started : Started} (h : streamer.start env requested = .ok started) :
      Obeys env streamer started.streamer
  | cancel : Obeys env streamer streamer.cancel
  /-- It is no matter of the loops. -/
  | aside {after : Streamer} (h : Aside streamer after)
      (haddress : after.address = streamer.address) : Obeys env streamer after

theorem Obeys.refl (env : Env) (streamer : Streamer) : Obeys env streamer streamer :=
  .aside (.refl streamer) rfl

theorem Obeys.sameTerms {env : Env} {after : Streamer} (h : Obeys env streamer after) :
    SameTerms streamer after := by
  cases h with
  | start h => exact sameTerms_start h
  | cancel => exact sameTerms_cancel streamer
  | aside h haddress => exact ⟨h.settings, h.builtAt, haddress⟩

theorem obeys_serveHost (command : StreamCommand) (ctx : Context) (streamer : Streamer) :
    Obeys ctx.env streamer (streamer.serveHost command ctx).driver := by
  unfold serveHost
  cases command with
  | start interval =>
    dsimp only
    split
    · exact .refl _ _
    · rename_i heq
      exact .start heq
    · rename_i heq
      exact .start heq
  | stop => exact .cancel
  | idle | state _ _ | other _ _ => exact .refl _ _

theorem obeys_serveClient (command : StreamCommand) (ctx : Context) (streamer : Streamer) :
    Obeys ctx.env streamer (streamer.serveClient command ctx).driver := by
  unfold serveClient
  split
  · exact .aside ⟨rfl, rfl, rfl, rfl, rfl, rfl⟩ rfl
  · exact .refl _ _

theorem onData_of_error {packet : Packet} {e : FrameError}
    (h : StreamCommand.decode packet.data = .error e) (ctx : Context) (streamer : Streamer) :
    streamer.onData packet ctx = ⟨false, streamer, ctx⟩ := by
  unfold onData
  rw [h]

/-- **What a command can be** to a streamer: it follows its driver, and obeys. -/
theorem obeys_onData {packet : Packet} {command : StreamCommand}
    (h : StreamCommand.decode packet.data = .ok command) (ctx : Context) (streamer : Streamer) :
    Obeys ctx.env (streamer.follow ctx) (streamer.onData packet ctx).driver := by
  unfold onData
  rw [h]
  dsimp only
  split
  · exact obeys_serveHost command ctx _
  · exact obeys_serveClient command ctx _

/-- What a command leaves in the trace: nothing, a note of the application, or that a loop was
started. -/
inductive Remarks (ctx : Context) : Context → Prop where
  | silent : Remarks ctx ctx
  | note (note : Note) : Remarks ctx (ctx.note note)
  | started (number : Nat) : Remarks ctx (ctx.trace (.streamStarted ctx.handle number))

theorem remarks_noteTo (ctx : Context) (note : Note) (streamer : Streamer) :
    Remarks ctx (streamer.noteTo ctx note) := by
  unfold noteTo
  split
  · exact .note note
  · exact .silent

theorem remarks_onData (packet : Packet) (ctx : Context) (streamer : Streamer) :
    Remarks ctx (streamer.onData packet ctx).context := by
  unfold onData
  split
  · exact .silent
  · rename_i command _
    split
    · unfold serveHost
      cases command with
      | start interval =>
        dsimp only
        split
        · exact .silent
        · exact .silent
        · exact .started _
      | stop => exact .silent
      | idle | state _ _ | other _ _ => exact remarks_noteTo ctx _ _
    · unfold serveClient
      split <;> exact remarks_noteTo ctx _ _

/-- **What a request can be** to a streamer. -/
theorem obeys_serve (env : Env) (handle : Handle) (request : Request) (streamer : Streamer) :
    Obeys env streamer (streamer.serve env handle request).driver := by
  have hsend : ∀ result, Obeys env streamer (streamer.sendResult result).driver := by
    intro result
    unfold sendResult
    cases result <;> exact .refl env streamer
  unfold serve
  split
  · split
    · exact .refl env streamer
    · rename_i heq
      exact .start heq
  · exact .cancel
  · exact hsend _
  · exact hsend _
  · exact .aside ⟨rfl, rfl, rfl, rfl, rfl, rfl⟩ rfl
  · exact .refl env streamer
  · exact .refl env streamer

/-! ## All that happens to a streamer -/

/-- What can happen to a streamer in its node, and the frame that a loop sends by it. -/
inductive Befalls (streamer : Streamer) : Option Bytes → Streamer → Prop where
  /-- The device is connected. -/
  | follows (ctx : Context) : Befalls streamer none (streamer.follow ctx)
  /-- Data comes in. -/
  | hears (packet : Packet) (ctx : Context) :
      Befalls streamer none (streamer.onData packet ctx).driver
  /-- The device is gone. -/
  | leaves : Befalls streamer none streamer.disconnect
  /-- The bond ends. -/
  | parts : Befalls streamer none streamer.cancel
  /-- The application asks something of it. -/
  | serves (env : Env) (handle : Handle) (request : Request) :
      Befalls streamer none (streamer.serve env handle request).driver
  /-- A loop runs. -/
  | runs (env : Env) (number : Nat) :
      Befalls streamer (streamer.runLoop env number).2.1 (streamer.runLoop env number).2.2
  /-- The loops that were cancelled exit. -/
  | reaps : Befalls streamer none streamer.reap

/-- A property that streamers keep whatever befalls them. -/
def Survives (P : Streamer → Prop) : Prop :=
  ∀ {before after : Streamer} {frame? : Option Bytes}, Befalls before frame? after →
    P before → P after

end Streamer

end DeviceBus
