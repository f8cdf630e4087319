import DeviceBus.Proofs.Streaming.Effects

/-!
# The phase of a stream

A streamer reports a phase beside its current loop. The two are in step: no current loop shows as
stopped, a cancelled one as stopping, any other one as streaming. Every operation of a streamer
keeps them in step, so the phase can be believed: after a cancellation nothing streams, and no loop
sends.

## Main results

* `survives_inStep`: everything that happens to a streamer keeps it in step.
* `InStep.state_cancel`, `not_isRunning_cancel`: a cancelled stream does not stream.
* `runLoop_of_not_isRunning`: without a running loop nothing is sent.
* `Gated.StreamerIs.onData` and its siblings: a driver keeps what its streamer keeps.
-/

namespace DeviceBus

namespace Streamer

/-- The phase that goes with a current loop. -/
def phaseOf : Option StreamTask → StreamPhase
  | none => .stopped
  | some task => if task.isCancelled then .stopping else .streaming

/-- The phase that is reported is that of the current loop. -/
def InStep (streamer : Streamer) : Prop := streamer.state = phaseOf streamer.current

variable {streamer : Streamer}

theorem inStep_create (settings : StreamSettings) (now : Nat) (states : List (Option Bytes))
    (isWatched handlesCommands : Bool) :
    (create settings now states isWatched handlesCommands).InStep := rfl

/-- What touches neither the phase nor the current loop keeps them in step. -/
theorem InStep.of_eq (h : streamer.InStep) {after : Streamer}
    (hstate : after.state = streamer.state) (hcurrent : after.current = streamer.current) :
    after.InStep := by
  unfold InStep at h ⊢
  rw [hstate, hcurrent, h]

/-! ## Cancelling -/

theorem InStep.cancel (h : streamer.InStep) : streamer.cancel.InStep := by
  unfold InStep at h
  unfold Streamer.cancel
  split
  · rename_i task hcurrent
    rw [hcurrent] at h
    show (if streamer.state = .streaming then StreamPhase.stopping else streamer.state) = .stopping
    rw [h]
    cases hcancelled : task.isCancelled <;> simp [phaseOf, hcancelled]
  · exact h

/-- A cancelled stream reports that it stops or has stopped. -/
theorem InStep.state_cancel (h : streamer.InStep) : streamer.cancel.state ≠ .streaming := by
  have hafter : streamer.cancel.state = phaseOf streamer.cancel.current := h.cancel
  rw [hafter]
  unfold Streamer.cancel
  split
  · rename_i task _
    exact fun heq => by cases heq
  · rename_i hnone
    rw [hnone]
    exact fun heq => by cases heq

theorem not_isRunning_cancel (streamer : Streamer) : streamer.cancel.isRunning = false := by
  unfold cancel
  split
  · rfl
  · rename_i hnone
    unfold isRunning
    rw [hnone]

theorem InStep.disconnect (h : streamer.InStep) : streamer.disconnect.InStep :=
  InStep.cancel (InStep.of_eq h rfl rfl)

/-! ## Loops -/

/-- No loop is live without a running one, and what is not live sends nothing. -/
theorem runLoop_of_not_isRunning (h : streamer.isRunning = false) (env : Env) (number : Nat) :
    (streamer.runLoop env number).2.1 = none := by
  have hdead : streamer.isLive number = false := by
    unfold isLive
    rw [beq_eq_false_iff_ne]
    intro hcurrent
    unfold isRunning at h
    rw [hcurrent] at h
    cases h
  have hruns := runs env number streamer
  generalize streamer.runLoop env number = result at hruns ⊢
  cases hruns with
  | absent _ => rfl
  | waits _ _ _ _ => rfl
  | exits _ _ => rfl
  | turns _ _ hlive _ => cases hdead.symm.trans hlive

theorem InStep.start {env : Env} {requested : Nat} {started : Started} (h : streamer.InStep)
    (hstart : streamer.start env requested = .ok started) : started.streamer.InStep := by
  obtain ⟨-, rfl⟩ | ⟨-, rfl⟩ := start_cases hstart
  · exact h
  · rfl

theorem InStep.aside (h : streamer.InStep) {after : Streamer} (haside : Aside streamer after) :
    after.InStep :=
  h.of_eq haside.state haside.current

theorem InStep.retire (h : streamer.InStep) (number : Nat) : (streamer.retire number).InStep := by
  unfold Streamer.retire
  dsimp only
  split
  · rfl
  · exact h.of_eq rfl rfl

theorem InStep.turn (h : streamer.InStep) (env : Env) (loop : StreamLoop) :
    (streamer.turn env loop).streamer.InStep := by
  obtain ⟨hstate, -, hcurrent, -⟩ := turn_kept env loop streamer
  exact h.of_eq hstate hcurrent

theorem InStep.runLoop (h : streamer.InStep) (env : Env) (number : Nat) :
    (streamer.runLoop env number).2.2.InStep := by
  have hruns := runs env number streamer
  generalize streamer.runLoop env number = result at hruns ⊢
  cases hruns with
  | absent _ => exact h
  | waits _ _ _ _ => exact h
  | exits _ _ => exact h.retire number
  | @turns loop _ _ _ _ =>
    unfold Turned.close
    dsimp only
    split
    · exact h.turn env loop
    · exact (h.turn env loop).retire number

theorem InStep.reap (h : streamer.InStep) : streamer.reap.InStep :=
  reap_induction h fun _ number _ h => h.retire number

/-! ## What the pairing gate lets through, and requests -/

theorem InStep.obeys {env : Env} {after : Streamer} (h : streamer.InStep)
    (hobeys : Obeys env streamer after) : after.InStep := by
  cases hobeys with
  | start hstart => exact h.start hstart
  | cancel => exact h.cancel
  | aside haside _ => exact h.aside haside

theorem InStep.onData (h : streamer.InStep) (packet : Packet) (ctx : Context) :
    (streamer.onData packet ctx).driver.InStep := by
  cases hdecode : StreamCommand.decode packet.data with
  | error e =>
    rw [onData_of_error hdecode]
    exact h
  | ok command => exact (h.aside (aside_of_address streamer _)).obeys (obeys_onData hdecode ctx _)

theorem InStep.serve (h : streamer.InStep) (env : Env) (handle : Handle) (request : Request) :
    (streamer.serve env handle request).driver.InStep :=
  h.obeys (obeys_serve env handle request streamer)

/-- **Whatever befalls a streamer, it stays in step.** -/
theorem survives_inStep : Survives InStep := by
  intro before after frame? hbefalls h
  cases hbefalls with
  | follows ctx => exact h.aside (aside_of_address before _)
  | hears packet ctx => exact h.onData packet ctx
  | leaves => exact h.disconnect
  | parts => exact h.cancel
  | serves env handle request => exact h.serve env handle request
  | runs env number => exact h.runLoop env number
  | reaps => exact h.reap

end Streamer

/-! ## Behind the pairing gate -/

namespace Gated

/-- The streamer behind the gate, if there is one, has a property. -/
def StreamerIs (P : Streamer → Prop) : Gated → Prop
  | streamer s => P s
  | _ => True

variable {P : Streamer → Prop} {gated : Gated}

theorem StreamerIs.onData (hP : Streamer.Survives P) (h : gated.StreamerIs P) (packet : Packet)
    (ctx : Context) : (gated.onData packet ctx).driver.StreamerIs P := by
  cases gated with
  | idle => trivial
  | application app => trivial
  | streamer s => exact hP (.hears packet ctx) h

theorem StreamerIs.connected (hP : Streamer.Survives P) (h : gated.StreamerIs P)
    (ctx : Context) : (gated.connected ctx).1.StreamerIs P := by
  cases gated with
  | idle => trivial
  | application app => trivial
  | streamer s => exact hP (.follows ctx) h

theorem StreamerIs.removed (hP : Streamer.Survives P) (h : gated.StreamerIs P) (ctx : Context) :
    (gated.removed ctx).1.StreamerIs P := by
  cases gated with
  | idle => trivial
  | application app => trivial
  | streamer s => exact hP .leaves h

theorem StreamerIs.unpaired (hP : Streamer.Survives P) (h : gated.StreamerIs P)
    (ctx : Context) : (gated.unpaired ctx).1.StreamerIs P := by
  cases gated with
  | idle => trivial
  | application app => trivial
  | streamer s => exact hP .parts h

theorem StreamerIs.serve (hP : Streamer.Survives P) (h : gated.StreamerIs P) (env : Env)
    (handle : Handle) (request : Request) :
    (gated.serve env handle request).driver.StreamerIs P := by
  cases gated with
  | idle => trivial
  | application app =>
    unfold Gated.serve
    dsimp only
    split <;> trivial
  | streamer s => exact hP (.serves env handle request) h

end Gated

namespace Driver

/-- The streamer of a driver, if it has one, has a property. -/
def StreamerIs (P : Streamer → Prop) : Driver → Prop
  | pairable p => p.gated.StreamerIs P
  | _ => True

/-- The streamer of a driver, if it has one, is in step. -/
def InStep : Driver → Prop := StreamerIs Streamer.InStep

theorem StreamerIs.streamer {P : Streamer → Prop} {driver : Driver} (h : driver.StreamerIs P)
    {s : Streamer} (hstreamer : driver.streamer? = some s) : P s := by
  unfold streamer? at hstreamer
  split at hstreamer
  · cases hstreamer
    exact h
  · cases hstreamer

end Driver

end DeviceBus
