import DeviceBus.Proofs.Streaming.Succession

/-!
# The interval of a stream

Whoever starts a stream is told the interval that the request is granted. The loop that the start
spawns polls at this interval, and at no other as long as it lasts. Where a loop is running already
the start spawns none: the loop goes on at the interval that was granted to the start it came from,
whatever the later one is told.

## Main results

* `due_turn`: a loop polls once in its interval.
* `Step.origin`: a loop is there before a move, or the move spawned it.
* `Steps.paced`: every loop keeps the interval granted to the start that spawned it.
* `starting_of_steps`: what a start does and reports, after any sequence of moves.
-/

namespace DeviceBus

theorem Ticker.period_fire (ticker : Ticker) (now : Nat) :
    (ticker.fire now).period = ticker.period := by
  unfold fire
  split <;> rfl

/-- A tick that is noticed in time is followed by one a period later. -/
theorem Ticker.due_fire {ticker : Ticker} {now : Nat} (h : now ≤ ticker.due + tolerance) :
    (ticker.fire now).due = ticker.due + ticker.period := by
  unfold fire
  rw [if_neg (Nat.not_lt.2 h)]

/-- A loop polls at an interval: its ticker has it as its period, whenever it starts. -/
structure StreamLoop.Keeps (interval : Nat) (loop : StreamLoop) : Prop where
  granted : loop.interval = interval
  period (now : Nat) : (loop.beat now).period = interval

/-- A loop that has not run yet keeps the interval that it was given. -/
theorem StreamLoop.keeps_fresh (number interval : Nat) (lastSent : LastSent) :
    (⟨number, interval, none, lastSent⟩ : StreamLoop).Keeps interval where
  granted := rfl
  period _ := rfl

namespace Streamer

variable {streamer : Streamer} {opening stage after : Stage} {move : Move} {moves more : List Move}
  {loop old : StreamLoop} {interval : Nat}

/-! ## Where loops come from -/

/-- A loop goes on: it has its number, and it keeps its interval. -/
structure GoesOn (old loop : StreamLoop) : Prop where
  number : loop.number = old.number
  keeps {interval : Nat} : old.Keeps interval → loop.Keeps interval

theorem GoesOn.refl (loop : StreamLoop) : GoesOn loop loop :=
  ⟨rfl, fun h => h⟩

/-- A turn gives its loop the next tick, unless the loop breaks off. -/
theorem loops_turn (env : Env) (loop : StreamLoop) (streamer : Streamer) :
    (streamer.turn env loop).goesOn = false ∧
        (streamer.turn env loop).streamer.loops = streamer.loops ∨
      ∃ next : StreamLoop, next.number = loop.number ∧ next.interval = loop.interval ∧
        next.ticker = some ((loop.beat env.now).fire env.now) ∧
        (streamer.turn env loop).streamer.loops =
          streamer.loops.map fun other => if other.number = next.number then next else other := by
  have hloops := (aside_nextState streamer).loops
  rcases turn_cases env loop streamer with h | h | ⟨state, _, _, -, -, -, h⟩
  · rw [h]
    exact .inl ⟨rfl, hloops⟩
  · rw [h, ← hloops]
    exact .inr ⟨loop.ticked env.now, rfl, rfl, rfl, rfl⟩
  · rw [h, ← hloops]
    exact .inr ⟨{ loop.ticked env.now with lastSent := loop.lastSent.remember state env.now },
      rfl, rfl, rfl, rfl⟩

/-- **A loop polls once in its interval**: after a turn in time, the next one is due an interval
later. -/
theorem due_turn (hkeeps : loop.Keeps interval) {env : Env} (hloop : loop ∈ streamer.loops)
    (hgoes : (streamer.turn env loop).goesOn = true)
    (hintime : env.now ≤ (loop.beat env.now).due + Ticker.tolerance) :
    ∃ next ∈ (streamer.turn env loop).streamer.loops, next.number = loop.number ∧
      ∀ now, (next.beat now).due = (loop.beat env.now).due + interval := by
  rcases loops_turn env loop streamer with ⟨hover, -⟩ | ⟨next, hnumber, -, hticker, hmap⟩
  · cases hgoes.symm.trans hover
  · refine ⟨next, ?_, hnumber, fun now => ?_⟩
    · rw [hmap]
      exact List.mem_map.2 ⟨loop, hloop, if_pos hnumber.symm⟩
    · rw [StreamLoop.beat, hticker, Option.getD_some, Ticker.due_fire hintime, hkeeps.period]

theorem goesOn_of_turn (h : Sound stage) (env : Env) (hloop : old ∈ stage.streamer.loops)
    (hmem : loop ∈ (stage.turn env old).streamer.loops) :
    ∃ was ∈ stage.streamer.loops, GoesOn was loop := by
  unfold Stage.turn at hmem
  rcases loops_turn env old stage.streamer with
    ⟨-, hsame⟩ | ⟨next, hnumber, hinterval, hticker, hmap⟩
  · rw [hsame] at hmem
    exact ⟨loop, hmem, .refl loop⟩
  · rw [hmap, List.mem_map] at hmem
    obtain ⟨was, hwas, rfl⟩ := hmem
    refine ⟨was, hwas, ?_⟩
    split
    · rename_i heq
      -- no two loops have a number in common
      obtain rfl : was = old := List.inj_on_of_nodup_map h.nodup hwas hloop (heq.trans hnumber)
      refine ⟨hnumber, fun hkeeps => ⟨hinterval.trans hkeeps.granted, fun now => ?_⟩⟩
      unfold StreamLoop.beat
      rw [hticker, Option.getD_some, Ticker.period_fire, hkeeps.period]
    · exact .refl was

/-- A move that spawns a loop: the start is granted the interval. -/
inductive Spawns (number interval : Nat) : Stage → Move → Prop
  | start {stage : Stage} {env : Env} {requested : Nat} {started : Started}
      (h : stage.streamer.start env requested = .ok started)
      (spawned : started.spawned = some number) (granted : started.interval = interval) :
      Spawns number interval stage (.start env requested)

/-- **Where a loop comes from**: it was there and goes on, or the move spawned it. -/
theorem Step.origin (hstep : Step stage move after) (h : Sound stage)
    (hmem : loop ∈ after.streamer.loops) :
    (∃ was ∈ stage.streamer.loops, GoesOn was loop) ∨
      Spawns loop.number loop.interval stage move ∧ loop.Keeps loop.interval := by
  cases hstep with
  | start hstart =>
    obtain ⟨-, rfl⟩ | ⟨-, rfl⟩ := start_cases hstart
    · exact .inl ⟨loop, hmem, .refl loop⟩
    · rcases List.mem_append.1 hmem with hold | hnew
      · exact .inl ⟨loop, hold, .refl loop⟩
      · cases List.mem_singleton.1 hnew
        exact .inr ⟨.start hstart rfl rfl, StreamLoop.keeps_fresh _ _ _⟩
  | cancel =>
    rw [show stage.cancel.streamer.loops = _ from loops_cancel _] at hmem
    exact .inl ⟨loop, hmem, .refl loop⟩
  | poll env hloop _ _ => exact .inl (goesOn_of_turn h env hloop hmem)
  | exit _ _ =>
    rw [loops_retire] at hmem
    exact .inl ⟨loop, (List.mem_filter.1 hmem).1, .refl loop⟩
  | aside haside =>
    rw [haside.loops] at hmem
    exact .inl ⟨loop, hmem, .refl loop⟩

/-- The loop that is current is there. -/
theorem Step.housed (hstep : Step stage move after)
    (h : ∀ task, stage.streamer.current = some task → task.number ∈ stage.streamer.numbers) :
    ∀ task, after.streamer.current = some task → task.number ∈ after.streamer.numbers := by
  intro task htask
  cases hstep with
  | start hstart =>
    obtain ⟨-, rfl⟩ | ⟨-, rfl⟩ := start_cases hstart
    · exact h task htask
    · cases htask
      dsimp only
      rw [numbers_spawn]
      exact List.mem_append_right _ (List.mem_singleton.2 rfl)
  | cancel =>
    rw [show stage.cancel.streamer.current = _ from current_cancel _] at htask
    obtain ⟨was, hwas, rfl⟩ := Option.map_eq_some_iff.1 htask
    rw [show stage.cancel.streamer.numbers = _ from (cancel_kept _).2]
    exact h was hwas
  | poll env hloop _ _ =>
    obtain ⟨-, -, hcurrent, hnumbers⟩ := turn_kept env _ stage.streamer
    rw [show (stage.turn env _).streamer.numbers = _ from hnumbers]
    exact h task (hcurrent.symm.trans htask)
  | exit _ _ =>
    rw [show _ = _ from current_retire _] at htask
    split at htask
    · cases htask
    · rename_i hother
      refine mem_numbers_retire.2 ⟨h task htask, fun heq => hother ?_⟩
      rw [htask, ← heq]
      rfl
  | aside haside =>
    rw [show _ = _ from haside.numbers]
    exact h task (haside.current.symm.trans htask)

/-! ## Any sequence of moves -/

/-- A start among some moves spawned a loop and was granted an interval. -/
def Granted (opening : Stage) (moves : List Move) (number interval : Nat) : Prop :=
  ∃ earlier stage move later, moves = earlier ++ move :: later ∧ Steps opening earlier stage ∧
    Spawns number interval stage move

theorem Granted.append {number : Nat} (h : Granted opening moves number interval)
    (more : List Move) : Granted opening (moves ++ more) number interval := by
  obtain ⟨earlier, stage, move, later, rfl, hsteps, hspawns⟩ := h
  exact ⟨earlier, stage, move, later ++ more, by simp, hsteps, hspawns⟩

theorem Spawns.number_eq {number : Nat} (h : Spawns number interval stage move) :
    number = stage.streamer.nextNumber := by
  cases h with
  | start hstart hspawned =>
    obtain ⟨-, rfl⟩ | ⟨-, rfl⟩ := start_cases hstart
    · cases hspawned
    · exact (Option.some.inj hspawned).symm

theorem Steps.nextNumber_le (hsteps : Steps stage moves after) :
    stage.streamer.nextNumber ≤ after.streamer.nextNumber := by
  induction hsteps with
  | refl => exact Nat.le_refl _
  | snoc _ hstep ih => exact Nat.le_trans ih hstep.nextNumber_le

/-- A loop that goes on does so at the interval it was granted. -/
theorem Steps.keeps (hsteps : Steps stage moves after) (h : Sound stage)
    (hold : old ∈ stage.streamer.loops) (hkeeps : old.Keeps interval)
    (hloop : loop ∈ after.streamer.loops) (hnumber : loop.number = old.number) :
    loop.Keeps interval := by
  induction hsteps generalizing loop with
  | refl => exact List.inj_on_of_nodup_map h.nodup hloop hold hnumber ▸ hkeeps
  | snoc hbefore hstep ih =>
    rcases hstep.origin (h.steps hbefore) hloop with ⟨was, hwas, hgoes⟩ | ⟨hspawns, -⟩
    · exact hgoes.keeps (ih hwas (hgoes.number.symm.trans hnumber))
    · -- the number of a new loop was nobody's
      have hlt := h.numbered _ (List.mem_map.2 ⟨old, hold, rfl⟩)
      have hle := hbefore.nextNumber_le
      rw [← hspawns.number_eq, hnumber] at hle
      exact absurd hlt (Nat.not_lt.2 hle)

/-- What the loops of a stage have from the moves before. -/
structure Paced (opening : Stage) (moves : List Move) (stage : Stage) : Prop where
  /-- The current loop is there. -/
  housed : ∀ task, stage.streamer.current = some task → task.number ∈ stage.streamer.numbers
  /-- Every loop keeps the interval granted to the start that spawned it. -/
  granted : ∀ loop ∈ stage.streamer.loops, ∃ interval,
    Granted opening moves loop.number interval ∧ loop.Keeps interval
  settings : stage.streamer.settings = opening.streamer.settings

theorem Steps.paced (hsteps : Steps opening moves stage) (h : Sound opening)
    (hbare : opening.streamer.loops = []) (hnone : opening.streamer.current = none) :
    Paced opening moves stage := by
  induction hsteps with
  | refl =>
    refine ⟨fun task htask => ?_, fun loop hloop => ?_, rfl⟩
    · cases hnone.symm.trans htask
    · rw [hbare] at hloop
      cases hloop
  | snoc hbefore hstep ih =>
    refine ⟨hstep.housed ih.housed, fun loop hloop => ?_, hstep.terms.1.trans ih.settings⟩
    rcases hstep.origin (h.steps hbefore) hloop with ⟨was, hwas, hgoes⟩ | ⟨hspawns, hkeeps⟩
    · obtain ⟨interval, hgranted, hkeeps⟩ := ih.granted was hwas
      exact ⟨interval, hgoes.number ▸ hgranted.append _, hgoes.keeps hkeeps⟩
    · exact ⟨loop.interval, ⟨_, _, _, [], rfl, hbefore, hspawns⟩, hkeeps⟩

/-! ## What a start reports -/

/-- The interval that a request is granted: at least the shortest, and never none at all. -/
theorem grantedInterval_eq (settings : StreamSettings) (requested : Nat) :
    settings.grantedInterval requested = max shortestPeriod (max settings.shortestInterval
      (if requested = 0 then settings.usualInterval else requested)) := by
  unfold StreamSettings.grantedInterval
  dsimp only
  split
  · omega
  · omega

/-- The loop that is current and not cancelled polls at an interval. -/
def InEffect (interval : Nat) (streamer : Streamer) : Prop :=
  ∃ loop ∈ streamer.loops, streamer.current = some ⟨loop.number, false⟩ ∧ loop.Keeps interval

/-- No two intervals are in effect. -/
theorem InEffect.unique {other : Nat} (h : Sound stage) (hone : InEffect interval stage.streamer)
    (hother : InEffect other stage.streamer) : interval = other := by
  obtain ⟨loop, hloop, hcurrent, hkeeps⟩ := hone
  obtain ⟨loop', hloop', hcurrent', hkeeps'⟩ := hother
  have hnumber : loop.number = loop'.number :=
    congrArg StreamTask.number (Option.some.inj (hcurrent.symm.trans hcurrent'))
  obtain rfl := List.inj_on_of_nodup_map h.nodup hloop hloop' hnumber
  exact hkeeps.granted.symm.trans hkeeps'.granted

theorem isRunning_iff : streamer.isRunning = true ↔
    ∃ number, streamer.current = some ⟨number, false⟩ := by
  unfold isRunning
  split
  · rename_i task hcurrent
    obtain ⟨number, isCancelled⟩ := task
    rw [hcurrent]
    cases isCancelled <;> simp
  · rename_i hcurrent
    simp [hcurrent]

/-- What a start does after some moves, and what it reports. -/
structure Starting (opening stage : Stage) (moves : List Move) (env : Env) (requested : Nat) :
    Prop where
  /-- It fails if there is no scheduler, and only then. -/
  available : (∃ e, stage.streamer.start env requested = .error e) ↔ env.canSpawn = false
  /-- It reports the interval that the request is granted. -/
  granted (started : Started) : stage.streamer.start env requested = .ok started →
    started.interval = max shortestPeriod (max opening.streamer.settings.shortestInterval
      (if requested = 0 then opening.streamer.settings.usualInterval else requested))
  /-- Without a running loop it spawns one, which may take turns at this interval. -/
  fresh (started : Started) : stage.streamer.start env requested = .ok started →
    stage.streamer.isRunning = false → InEffect started.interval started.streamer ∧
      ∃ number, started.spawned = some number ∧ number ∉ stage.revoked ∧ number ∉ stage.ended
  /-- A running loop goes on at the interval granted to the start that it came from. -/
  running (started : Started) : stage.streamer.start env requested = .ok started →
    stage.streamer.isRunning = true → started.streamer = stage.streamer ∧ ∃ number interval,
      stage.streamer.current = some ⟨number, false⟩ ∧ Granted opening moves number interval ∧
        InEffect interval started.streamer
  /-- At most one interval is in effect. -/
  alone (started : Started) (one other : Nat) : stage.streamer.start env requested = .ok started →
    InEffect one started.streamer → InEffect other started.streamer → one = other
  /-- So what it reports is in effect if no loop was running, or if it was in effect before. -/
  reported (started : Started) : stage.streamer.start env requested = .ok started →
    (InEffect started.interval started.streamer ↔
      stage.streamer.isRunning = false ∨ InEffect started.interval stage.streamer)
  /-- The loop keeps the interval in effect as long as it lasts. -/
  lasting (started : Started) (interval : Nat) (more : List Move) (last : Stage)
      (loop : StreamLoop) : stage.streamer.start env requested = .ok started →
    InEffect interval started.streamer →
    Steps { stage with streamer := started.streamer } more last → loop ∈ last.streamer.loops →
    started.streamer.current = some ⟨loop.number, false⟩ → loop.Keeps interval
  /-- A loop that keeps an interval polls once in it: after a turn in time, the next one is due an
  interval later. -/
  polls (interval : Nat) (loop : StreamLoop) (env : Env) : loop.Keeps interval →
    loop ∈ stage.streamer.loops → (stage.streamer.turn env loop).goesOn = true →
    env.now ≤ (loop.beat env.now).due + Ticker.tolerance →
    ∃ next ∈ (stage.streamer.turn env loop).streamer.loops, next.number = loop.number ∧
      ∀ now, (next.beat now).due = (loop.beat env.now).due + interval

/-- **What a start reports is granted**, and it is in effect unless a loop was running at another
interval. -/
theorem starting_of_steps {settings : StreamSettings} {now : Nat} {states : List (Option Bytes)}
    {isWatched handlesCommands : Bool}
    (h : Steps (.opening settings now states isWatched handlesCommands) moves stage) (env : Env)
    (requested : Nat) : Starting (.opening settings now states isWatched handlesCommands) stage
      moves env requested := by
  have hopening := sound_opening settings now states isWatched handlesCommands
  have hsound := hopening.steps h
  have hpaced := h.paced hopening rfl rfl
  have hfresh : ∀ started, stage.streamer.start env requested = .ok started →
      stage.streamer.isRunning = false → InEffect started.interval started.streamer ∧
        ∃ number, started.spawned = some number ∧ number ∉ stage.revoked ∧
          number ∉ stage.ended := by
    intro started hstart hstopped
    obtain ⟨hrunning, -⟩ | ⟨-, rfl⟩ := start_cases hstart
    · cases hstopped.symm.trans hrunning
    · exact ⟨⟨_, List.mem_append_right _ (List.mem_singleton.2 rfl), rfl,
        StreamLoop.keeps_fresh _ _ _⟩, _, rfl, fun hn => Nat.lt_irrefl _ (hsound.revoked _ hn),
        fun hn => Nat.lt_irrefl _ (hsound.ended _ hn)⟩
  have hsame : ∀ started, stage.streamer.start env requested = .ok started →
      stage.streamer.isRunning = true → started.streamer = stage.streamer := by
    intro started hstart hrunning
    obtain ⟨-, rfl⟩ | ⟨hstopped, -⟩ := start_cases hstart
    · rfl
    · cases hstopped.symm.trans hrunning
  constructor
  case available =>
    unfold start
    cases env.canSpawn with
    | false => simp
    | true =>
      rw [if_pos rfl]
      dsimp only
      split <;> simp
  case granted =>
    intro started hstart
    have hgranted : started.interval = stage.streamer.settings.grantedInterval requested := by
      obtain ⟨-, rfl⟩ | ⟨-, rfl⟩ := start_cases hstart <;> rfl
    rw [hgranted, hpaced.settings, grantedInterval_eq]
  case fresh => exact hfresh
  case running =>
    intro started hstart hrunning
    obtain ⟨number, hcurrent⟩ := isRunning_iff.1 hrunning
    obtain ⟨loop, hloop, rfl⟩ := List.mem_map.1 (hpaced.housed _ hcurrent)
    obtain ⟨interval, hgranted, hkeeps⟩ := hpaced.granted loop hloop
    rw [hsame started hstart hrunning]
    exact ⟨rfl, _, interval, hcurrent, hgranted, loop, hloop, hcurrent, hkeeps⟩
  case alone =>
    intro started one other hstart hone hother
    exact InEffect.unique (hsound.start hstart) hone hother
  case reported =>
    intro started hstart
    cases hrunning : stage.streamer.isRunning with
    | false => exact iff_of_true (hfresh started hstart hrunning).1 (.inl rfl)
    | true =>
      rw [hsame started hstart hrunning]
      exact ⟨.inr, fun h => h.resolve_left nofun⟩
  case lasting =>
    intro started interval more last loop hstart hin hmore hloop hcurrent
    obtain ⟨was, hwas, hcurrent', hkeeps⟩ := hin
    have hnumber : loop.number = was.number :=
      congrArg StreamTask.number (Option.some.inj (hcurrent.symm.trans hcurrent'))
    exact hmore.keeps (hsound.start hstart) hwas hkeeps hloop hnumber
  case polls =>
    intro interval loop env hkeeps hloop hgoes hintime
    exact due_turn hkeeps hloop hgoes hintime

/-- A second start, for every 1000 ms, while a stream runs that was started for every 20 ms: it is
told 1000 ms, and the stream goes on with a turn every 20 ms. -/
theorem starting_of_secondStart :
    ∃ stage started, Steps (.opening {} 0 [some [1]] false false)
        [.start ⟨none, 0, true⟩ 20] stage ∧
      stage.streamer.start ⟨none, 50, true⟩ 1000 = .ok started ∧
      Starting (.opening {} 0 [some [1]] false false) stage [.start ⟨none, 0, true⟩ 20]
        ⟨none, 50, true⟩ 1000 ∧
      started.interval = 1000 ∧ InEffect 20 started.streamer := by
  have hsteps := (Steps.refl (.opening {} 0 [some [1]] false false)).snoc
    (@Step.start _ ⟨none, 0, true⟩ 20 _ rfl)
  refine ⟨_, _, hsteps, rfl, starting_of_steps hsteps _ _, rfl,
    _, List.mem_singleton.2 rfl, rfl, StreamLoop.keeps_fresh _ _ _⟩

/-- What a start reports need not be in effect. -/
theorem reports_not_inEffect :
    ¬ ∀ (settings : StreamSettings) (now : Nat) (states : List (Option Bytes))
      (isWatched handlesCommands : Bool) (moves : List Move) (stage : Stage) (env : Env)
      (requested : Nat) (started : Started),
      Steps (.opening settings now states isWatched handlesCommands) moves stage →
      stage.streamer.start env requested = .ok started →
      InEffect started.interval started.streamer := by
  intro h
  have hsteps := (Steps.refl (.opening {} 0 [some [1]] false false)).snoc
    (@Step.start _ ⟨none, 0, true⟩ 20 _ rfl)
  obtain ⟨loop, hloop, -, hkeeps⟩ :=
    h _ _ _ _ _ _ _ ⟨none, 50, true⟩ 1000 _ hsteps rfl
  cases List.mem_singleton.1 hloop
  exact absurd hkeeps.granted (by decide)

end Streamer

end DeviceBus
