import Mathlib.Data.List.Nodup
import DeviceBus.Proofs.Streaming.Phases

/-!
# How one loop follows another

Any number of loops run for one streamer, one after the other, and a loop that was cancelled or
replaced may still be there when the next one starts. Each of them holds a token of its own, which
is all it looks at: it takes turns while its token is not cancelled, and exits after it was, or
after it broke off by itself. Starts, cancellations, turns and exits come in any order.

A stage is a streamer with the tokens of its loops. Whatever came before, at most one loop has a
token that is not cancelled, it is the current one, and the phase that the streamer reports is that
of its token. Loops are numbered without end, so no number comes twice. A counter of 64 bits that
wraps would do as well until 2 ^ 64 loops have been started.

## Main results

* `Sound.step`: every move keeps a stage sound.
* `Steps.silent`: a loop whose token was cancelled never takes a turn again.
* `Sound.inOrder`: how the loops of a sound stage go together.
* `Steps.fitsWords`: 64 bits tell loops apart as long as no more than 2 ^ 64 were started.
-/

namespace DeviceBus

namespace Streamer

/-! ## Stages and moves -/

/-- A streamer with what its loops know: the loops whose token was cancelled, and those that broke
off by themselves. -/
structure Stage where
  streamer : Streamer
  revoked : List Nat
  ended : List Nat

/-- A turn as it is seen from outside: who took it, when, the link and the state it met, and the
frame that was sent. -/
structure Poll where
  number : Nat
  env : Env
  link : Option UInt8
  state : Option Bytes
  frame : Option Bytes

/-- What can happen on a stage. -/
inductive Move where
  | start (env : Env) (requested : Nat)
  | cancel
  | poll (poll : Poll)
  | exit (number : Nat)
  /-- Something that is no matter of the loops. -/
  | aside

namespace Stage

/-- The stage of a streamer that was just built. -/
def opening (settings : StreamSettings) (now : Nat) (states : List (Option Bytes))
    (isWatched handlesCommands : Bool) : Stage :=
  ⟨create settings now states isWatched handlesCommands, [], []⟩

/-- The current loop is cancelled, and so is its token. -/
def cancel (stage : Stage) : Stage :=
  { stage with
    streamer := stage.streamer.cancel
    revoked := (stage.streamer.current.map (·.number)).toList ++ stage.revoked }

/-- A loop takes a turn. -/
def turn (env : Env) (loop : StreamLoop) (stage : Stage) : Stage :=
  { stage with
    streamer := (stage.streamer.turn env loop).streamer
    ended := if (stage.streamer.turn env loop).goesOn then stage.ended
      else loop.number :: stage.ended }

/-- A turn of a loop as it is seen from outside. -/
def pollOf (env : Env) (loop : StreamLoop) (stage : Stage) : Poll :=
  ⟨loop.number, env, stage.streamer.address, stage.streamer.nextState.1,
    (stage.streamer.turn env loop).frame⟩

end Stage

/-- One move. A loop takes turns as long as its own token allows it, and it exits when its token was
cancelled or when it broke off. -/
inductive Step : Stage → Move → Stage → Prop
  | start {stage : Stage} {env : Env} {requested : Nat} {started : Started}
      (h : stage.streamer.start env requested = .ok started) :
      Step stage (.start env requested) { stage with streamer := started.streamer }
  | cancel (stage : Stage) : Step stage .cancel stage.cancel
  | poll {stage : Stage} (env : Env) {loop : StreamLoop} (hloop : loop ∈ stage.streamer.loops)
      (hrevoked : loop.number ∉ stage.revoked) (hended : loop.number ∉ stage.ended) :
      Step stage (.poll (stage.pollOf env loop)) (stage.turn env loop)
  | exit {stage : Stage} {number : Nat} (hnumber : number ∈ stage.streamer.numbers)
      (hover : number ∈ stage.revoked ∨ number ∈ stage.ended) :
      Step stage (.exit number) { stage with streamer := stage.streamer.retire number }
  | aside {stage : Stage} {after : Streamer} (h : Aside stage.streamer after) :
      Step stage .aside { stage with streamer := after }

/-- A sequence of moves. -/
inductive Steps : Stage → List Move → Stage → Prop
  | refl (stage : Stage) : Steps stage [] stage
  | snoc {first second third : Stage} {moves : List Move} {move : Move}
      (h : Steps first moves second) (hstep : Step second move third) :
      Steps first (moves ++ [move]) third

theorem Steps.single {before after : Stage} {move : Move} (h : Step before move after) :
    Steps before [move] after :=
  .snoc (.refl before) h

theorem Steps.trans {first second third : Stage} {xs ys : List Move} (h : Steps first xs second)
    (h' : Steps second ys third) : Steps first (xs ++ ys) third := by
  induction h' with
  | refl => rwa [List.append_nil]
  | snoc _ hstep ih =>
    rw [← List.append_assoc]
    exact ih.snoc hstep

/-! ## Soundness -/

/-- What holds on every stage: the loop whose token is not cancelled is the current one. -/
structure Sound (stage : Stage) : Prop where
  inStep : stage.streamer.InStep
  nodup : stage.streamer.numbers.Nodup
  numbered : ∀ n ∈ stage.streamer.numbers, n < stage.streamer.nextNumber
  revoked : ∀ n ∈ stage.revoked, n < stage.streamer.nextNumber
  ended : ∀ n ∈ stage.ended, n < stage.streamer.nextNumber
  token : ∀ task, stage.streamer.current = some task → task.number < stage.streamer.nextNumber ∧
    (task.isCancelled = true ↔ task.number ∈ stage.revoked)
  alone : ∀ n ∈ stage.streamer.numbers, n ∉ stage.revoked →
    stage.streamer.current = some ⟨n, false⟩

variable {stage after : Stage} {move : Move} {moves : List Move}

theorem sound_opening (settings : StreamSettings) (now : Nat) (states : List (Option Bytes))
    (isWatched handlesCommands : Bool) :
    Sound (.opening settings now states isWatched handlesCommands) where
  inStep := rfl
  nodup := .nil
  numbered _ hn := nomatch hn
  revoked _ hn := nomatch hn
  ended _ hn := nomatch hn
  token _ htask := nomatch htask
  alone _ hn := nomatch hn

/-- With the same loops, only tokens and the current loop matter. -/
theorem Sound.of_numbers_eq (h : Sound stage)
    (hnumbers : after.streamer.numbers = stage.streamer.numbers)
    (hnext : after.streamer.nextNumber = stage.streamer.nextNumber)
    (inStep : after.streamer.InStep)
    (revoked : ∀ n ∈ after.revoked, n < stage.streamer.nextNumber)
    (ended : ∀ n ∈ after.ended, n < stage.streamer.nextNumber)
    (token : ∀ task, after.streamer.current = some task →
      task.number < stage.streamer.nextNumber ∧
        (task.isCancelled = true ↔ task.number ∈ after.revoked))
    (alone : ∀ n ∈ stage.streamer.numbers, n ∉ after.revoked →
      after.streamer.current = some ⟨n, false⟩) : Sound after where
  inStep := inStep
  nodup := hnumbers ▸ h.nodup
  numbered := by
    rw [hnumbers, hnext]
    exact h.numbered
  revoked := hnext ▸ revoked
  ended := hnext ▸ ended
  token := hnext ▸ token
  alone := hnumbers ▸ alone

theorem Sound.aside (h : Sound stage) {next : Streamer} (haside : Aside stage.streamer next) :
    Sound { stage with streamer := next } := by
  refine h.of_numbers_eq haside.numbers haside.nextNumber (h.inStep.aside haside) h.revoked h.ended
    ?_ ?_
  · rw [haside.current]
    exact h.token
  · rw [haside.current]
    exact h.alone

theorem Sound.start (h : Sound stage) {env : Env} {requested : Nat} {started : Started}
    (hstart : stage.streamer.start env requested = .ok started) :
    Sound { stage with streamer := started.streamer } := by
  have hinStep := h.inStep.start hstart
  obtain ⟨-, rfl⟩ | ⟨hstopped, rfl⟩ := start_cases hstart
  · exact h
  · have hfresh : ∀ {n : Nat}, n < stage.streamer.nextNumber →
        n < stage.streamer.nextNumber + 1 := fun hn => Nat.lt_succ_of_lt hn
    have hnumbers : ∀ {n : Nat}, n ∈ (stage.streamer.spawn
        (stage.streamer.settings.grantedInterval requested)).numbers →
        n ∈ stage.streamer.numbers ∨ n = stage.streamer.nextNumber := by
      intro n hn
      rwa [numbers_spawn, List.mem_append, List.mem_singleton] at hn
    refine ⟨hinStep, ?_, fun n hn => ?_, fun n hn => hfresh (h.revoked n hn),
      fun n hn => hfresh (h.ended n hn), ?_, fun n hn hkept => ?_⟩
    · rw [numbers_spawn]
      refine List.nodup_append.2 ⟨h.nodup, List.nodup_singleton _, fun n hn m hm heq => ?_⟩
      rw [List.mem_singleton] at hm
      exact Nat.lt_irrefl _ (hm ▸ heq ▸ h.numbered n hn)
    · rcases hnumbers hn with hold | rfl
      · exact hfresh (h.numbered n hold)
      · exact Nat.lt_succ_self _
    · rintro task ⟨⟩
      refine ⟨Nat.lt_succ_self _, ⟨nofun, fun hrevoked => ?_⟩⟩
      exact absurd (h.revoked _ hrevoked) (Nat.lt_irrefl _)
    · rcases hnumbers hn with hold | rfl
      · -- an old loop with a valid token would have been running
        unfold isRunning at hstopped
        rw [h.alone n hold hkept] at hstopped
        cases hstopped
      · rfl

theorem mem_revoked_cancel {n : Nat} : n ∈ stage.cancel.revoked ↔
    (∃ task, stage.streamer.current = some task ∧ task.number = n) ∨ n ∈ stage.revoked := by
  unfold Stage.cancel
  rw [List.mem_append, Option.mem_toList, Option.map_eq_some_iff]

theorem Sound.cancel (h : Sound stage) : Sound stage.cancel := by
  obtain ⟨hnext, hnumbers⟩ := cancel_kept stage.streamer
  refine h.of_numbers_eq hnumbers hnext h.inStep.cancel ?_ h.ended ?_ ?_
  · intro n hn
    rcases mem_revoked_cancel.1 hn with ⟨task, htask, rfl⟩ | hold
    · exact (h.token task htask).1
    · exact h.revoked n hold
  · intro task htask
    rw [show stage.cancel.streamer.current = _ from current_cancel _] at htask
    obtain ⟨old, hold, rfl⟩ := Option.map_eq_some_iff.1 htask
    exact ⟨(h.token old hold).1,
      fun _ => mem_revoked_cancel.2 (.inl ⟨old, hold, rfl⟩), fun _ => rfl⟩
  · intro n hn hkept
    have hcurrent := h.alone n hn fun hold => hkept (mem_revoked_cancel.2 (.inr hold))
    exact absurd (mem_revoked_cancel.2 (.inl ⟨_, hcurrent, rfl⟩)) hkept

theorem Sound.turn (h : Sound stage) (env : Env) {loop : StreamLoop}
    (hloop : loop ∈ stage.streamer.loops) : Sound (stage.turn env loop) := by
  obtain ⟨-, hnext, hcurrent, hnumbers⟩ := turn_kept env loop stage.streamer
  refine h.of_numbers_eq hnumbers hnext (h.inStep.turn env loop) h.revoked ?_ ?_ ?_
  · intro n hn
    unfold Stage.turn at hn
    dsimp only at hn
    split at hn
    · exact h.ended n hn
    · rcases List.mem_cons.1 hn with rfl | hold
      · exact h.numbered _ (List.mem_map.2 ⟨loop, hloop, rfl⟩)
      · exact h.ended n hold
  · rw [show (stage.turn env loop).streamer.current = _ from hcurrent]
    exact h.token
  · rw [show (stage.turn env loop).streamer.current = _ from hcurrent]
    exact h.alone

theorem Sound.retire (h : Sound stage) (number : Nat) :
    Sound { stage with streamer := stage.streamer.retire number } where
  inStep := h.inStep.retire number
  nodup := by
    refine List.Nodup.sublist (List.Sublist.map _ ?_) h.nodup
    rw [loops_retire]
    exact List.filter_sublist
  numbered n hn := by
    rw [nextNumber_retire]
    exact h.numbered n (mem_numbers_retire.1 hn).1
  revoked := by
    rw [nextNumber_retire]
    exact h.revoked
  ended := by
    rw [nextNumber_retire]
    exact h.ended
  token task htask := by
    rw [nextNumber_retire]
    rw [current_retire] at htask
    split at htask
    · cases htask
    · exact h.token task htask
  alone n hn hkept := by
    obtain ⟨hmember, hother⟩ := mem_numbers_retire.1 hn
    have hcurrent := h.alone n hmember hkept
    rw [current_retire, hcurrent]
    exact if_neg fun heq => hother (Option.some.inj heq)

/-- **Every move keeps a stage sound.** -/
theorem Sound.step (h : Sound stage) (hstep : Step stage move after) : Sound after := by
  cases hstep with
  | start hstart => exact h.start hstart
  | cancel => exact h.cancel
  | poll env hloop _ _ => exact h.turn env hloop
  | exit _ _ => exact h.retire _
  | aside haside => exact h.aside haside

theorem Sound.steps (h : Sound stage) (hsteps : Steps stage moves after) : Sound after := by
  induction hsteps with
  | refl => exact h
  | snoc _ hstep ih => exact ih.step hstep

/-! ## What every sequence of moves keeps to -/

/-- The terms of the stream are fixed. -/
theorem Step.terms (hstep : Step stage move after) :
    after.streamer.settings = stage.streamer.settings ∧
      after.streamer.builtAt = stage.streamer.builtAt := by
  have hsame : ∀ {next : Streamer}, SameTerms stage.streamer next →
      next.settings = stage.streamer.settings ∧ next.builtAt = stage.streamer.builtAt :=
    fun h => ⟨h.settings, h.builtAt⟩
  cases hstep with
  | start hstart => exact hsame (sameTerms_start hstart)
  | cancel => exact hsame (sameTerms_cancel _)
  | poll env _ _ _ => exact hsame (sameTerms_turn env _ _)
  | exit _ _ => exact hsame (sameTerms_retire _ _)
  | aside haside => exact ⟨haside.settings, haside.builtAt⟩

/-- Numbers are not used again. -/
theorem Step.nextNumber_le (hstep : Step stage move after) :
    stage.streamer.nextNumber ≤ after.streamer.nextNumber := by
  cases hstep with
  | start hstart =>
    obtain ⟨-, rfl⟩ | ⟨-, rfl⟩ := start_cases hstart
    · exact Nat.le_refl _
    · exact Nat.le_succ _
  | cancel => exact Nat.le_of_eq (cancel_kept stage.streamer).1.symm
  | poll env _ _ _ => exact Nat.le_of_eq (turn_kept env _ stage.streamer).2.1.symm
  | exit _ _ => exact Nat.le_of_eq (nextNumber_retire _).symm
  | aside haside => exact Nat.le_of_eq haside.nextNumber.symm

/-- Whether a move is a start. -/
def Move.isStart : Move → Bool
  | start _ _ => true
  | _ => false

/-- Only starts use up numbers, each of them one at most. -/
theorem Step.nextNumber_le_start (hstep : Step stage move after) :
    after.streamer.nextNumber ≤ stage.streamer.nextNumber + [move].countP (·.isStart) := by
  cases hstep with
  | start hstart =>
    obtain ⟨-, rfl⟩ | ⟨-, rfl⟩ := start_cases hstart
    · exact Nat.le_succ _
    · exact Nat.le_refl _
  | cancel => exact Nat.le_of_eq (cancel_kept stage.streamer).1
  | poll env _ _ _ => exact Nat.le_of_eq (turn_kept env _ stage.streamer).2.1
  | exit _ _ => exact Nat.le_of_eq (nextNumber_retire _)
  | aside haside => exact Nat.le_of_eq haside.nextNumber

theorem Steps.nextNumber_le_starts (hsteps : Steps stage moves after) :
    after.streamer.nextNumber ≤ stage.streamer.nextNumber + moves.countP (·.isStart) := by
  induction hsteps with
  | refl => exact Nat.le_refl _
  | snoc _ hstep ih =>
    rw [List.countP_append, ← Nat.add_assoc]
    exact Nat.le_trans hstep.nextNumber_le_start (Nat.add_le_add_right ih _)

/-- Tokens stay cancelled. -/
theorem Step.revoked_subset (hstep : Step stage move after) : stage.revoked ⊆ after.revoked := by
  cases hstep with
  | cancel => exact fun n hn => mem_revoked_cancel.2 (.inr hn)
  | start _ | poll _ _ _ _ | exit _ _ | aside _ => exact fun _ hn => hn

/-- **A cancelled loop is silent for good.** -/
theorem Steps.silent (hsteps : Steps stage moves after) {number : Nat}
    (hnumber : number ∈ stage.revoked) :
    number ∈ after.revoked ∧ ∀ poll, .poll poll ∈ moves → poll.number ≠ number := by
  induction hsteps with
  | refl => exact ⟨hnumber, fun poll hpoll => nomatch hpoll⟩
  | snoc _ hstep ih =>
    obtain ⟨hkept, hsilent⟩ := ih
    refine ⟨hstep.revoked_subset hkept, fun poll hpoll => ?_⟩
    rcases List.mem_append.1 hpoll with hold | hnew
    · exact hsilent poll hold
    · rw [List.mem_singleton] at hnew
      subst hnew
      cases hstep with
      | poll _ _ hallowed _ =>
        intro heq
        rw [← heq] at hkept
        exact hallowed hkept

/-- How the loops of a stage go together. -/
structure Orderly (stage : Stage) : Prop where
  /-- The token of the current loop is cancelled if the loop is. -/
  token : ∀ task, stage.streamer.current = some task →
    (task.isCancelled = true ↔ task.number ∈ stage.revoked)
  /-- Without a current loop the stream is stopped. -/
  stopped : stage.streamer.state = .stopped ↔ stage.streamer.current = none
  /-- It streams while there is a current loop with a valid token. -/
  streaming : stage.streamer.state = .streaming ↔
    ∃ task, stage.streamer.current = some task ∧ task.number ∉ stage.revoked
  /-- It is stopping while there is a current loop with a cancelled token. -/
  stopping : stage.streamer.state = .stopping ↔
    ∃ task, stage.streamer.current = some task ∧ task.number ∈ stage.revoked
  /-- At most one loop has a token that is not cancelled. -/
  alone : ∀ x ∈ stage.streamer.loops, ∀ y ∈ stage.streamer.loops,
    x.number ∉ stage.revoked → y.number ∉ stage.revoked → x = y
  /-- Only the current loop polls, and so sends, and only while it is not cancelled. -/
  polling : ∀ poll after, Step stage (.poll poll) after →
    stage.streamer.current = some ⟨poll.number, false⟩ ∧ poll.number ∉ stage.revoked
  /-- A cancellation cancels the token of the current loop. -/
  cancelling : ∀ after, Step stage .cancel after →
    ∀ task, stage.streamer.current = some task → task.number ∈ after.revoked
  /-- A loop whose token was cancelled never polls again. -/
  silent : ∀ number ∈ stage.revoked, ∀ moves after, Steps stage moves after →
    ∀ poll, .poll poll ∈ moves → poll.number ≠ number
  /-- The exit of a loop that was replaced changes nothing: the loop is no longer there. -/
  leaving : ∀ number after, Step stage (.exit number) after →
    stage.streamer.current.map (·.number) ≠ some number →
    after = { stage with streamer := { stage.streamer with
      loops := stage.streamer.loops.filter (·.number != number) } }

theorem Sound.phase (h : Sound stage) :
    (stage.streamer.state = .stopped ↔ stage.streamer.current = none) ∧
      (stage.streamer.state = .streaming ↔
        ∃ task, stage.streamer.current = some task ∧ task.number ∉ stage.revoked) ∧
      (stage.streamer.state = .stopping ↔
        ∃ task, stage.streamer.current = some task ∧ task.number ∈ stage.revoked) := by
  have hstate : stage.streamer.state = phaseOf stage.streamer.current := h.inStep
  rw [hstate]
  cases hcurrent : stage.streamer.current with
  | none => simp [phaseOf]
  | some task =>
    have htoken := (h.token task hcurrent).2
    cases hcancelled : task.isCancelled with
    | false =>
      have hvalid : task.number ∉ stage.revoked := fun hrevoked => by
        rw [htoken.2 hrevoked] at hcancelled
        cases hcancelled
      simp [phaseOf, hcancelled, hvalid]
    | true => simp [phaseOf, hcancelled, htoken.1 hcancelled]

theorem Sound.inOrder (h : Sound stage) : Orderly stage where
  token task htask := (h.token task htask).2
  stopped := h.phase.1
  streaming := h.phase.2.1
  stopping := h.phase.2.2
  alone x hx y hy hxvalid hyvalid := by
    have hxcurrent := h.alone _ (List.mem_map.2 ⟨x, hx, rfl⟩) hxvalid
    have hycurrent := h.alone _ (List.mem_map.2 ⟨y, hy, rfl⟩) hyvalid
    have hsame : x.number = y.number :=
      congrArg StreamTask.number (Option.some.inj (hxcurrent.symm.trans hycurrent))
    exact List.inj_on_of_nodup_map h.nodup hx hy hsame
  polling poll after hstep := by
    cases hstep with
    | poll env hloop hallowed _ =>
      exact ⟨h.alone _ (List.mem_map.2 ⟨_, hloop, rfl⟩) hallowed, hallowed⟩
  cancelling after hstep task htask := by
    cases hstep with
    | cancel => exact mem_revoked_cancel.2 (.inl ⟨task, htask, rfl⟩)
  silent number hnumber moves after hsteps := (hsteps.silent hnumber).2
  leaving number after hstep hreplaced := by
    cases hstep with
    | exit _ _ =>
      unfold Streamer.retire
      dsimp only
      rw [if_neg hreplaced]

/-! ## Numbers of 64 bits -/

/-- The numbers that matter on a stage: those of its loops and of the current one, and those of the
loops whose token was cancelled or that broke off. -/
def Stage.Knows (stage : Stage) (n : Nat) : Prop :=
  n ∈ stage.streamer.numbers ∨ stage.streamer.current.map (·.number) = some n ∨
    n ∈ stage.revoked ∨ n ∈ stage.ended

theorem Sound.lt_of_knows (h : Sound stage) {n : Nat} (hn : stage.Knows n) :
    n < stage.streamer.nextNumber := by
  rcases hn with hloop | hcurrent | hrevoked | hended
  · exact h.numbered n hloop
  · obtain ⟨task, htask, rfl⟩ := Option.map_eq_some_iff.1 hcurrent
    exact (h.token task htask).1
  · exact h.revoked n hrevoked
  · exact h.ended n hended

/-- A counter of 64 bits, which wraps, tells the loops of a stage apart. -/
def Stage.FitsWords (stage : Stage) : Prop :=
  ∀ m n, stage.Knows m → stage.Knows n → UInt64.ofNat m = UInt64.ofNat n → m = n

/-- **Up to 2 ^ 64 starts, 64 bits tell loops apart.** -/
theorem Steps.fitsWords (hsteps : Steps stage moves after) (h : Sound stage)
    (hfirst : stage.streamer.nextNumber = 0)
    (hstarts : moves.countP (·.isStart) ≤ UInt64.size) : after.FitsWords := by
  intro m n hm hn heq
  have hbound : after.streamer.nextNumber ≤ UInt64.size := by
    have hcount := hsteps.nextNumber_le_starts
    rw [hfirst, Nat.zero_add] at hcount
    exact Nat.le_trans hcount hstarts
  have hword : ∀ {k : Nat}, after.Knows k → (UInt64.ofNat k).toNat = k := fun hk =>
    UInt64.toNat_ofNat_of_lt' (Nat.lt_of_lt_of_le ((h.steps hsteps).lt_of_knows hk) hbound)
  rw [← hword hm, ← hword hn, heq]

end Streamer

end DeviceBus
