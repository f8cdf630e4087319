import DeviceBus.Proofs.Streaming.Effects

/-!
# What a trace shows outside

Of all that a step writes into its trace, only the frames reach the bus and only the events reach
the application. `framesOf` and `eventsOf` pick them out. Most of what a driver does is silent: it
adds to the trace, but neither frames nor events, and it leaves the status alone.

## Main results

* `Gated.isSilent_onData`, `Gated.isSilent_connected`, `Gated.isSilent_removed`,
  `Gated.isSilent_paired`, `Gated.isSilent_unpaired`: what is behind the pairing gate is silent.
* `Pairable.onData_spec`: data is silent on either side of the gate.
-/

namespace DeviceBus

/-- The frame that an action sent. -/
def Action.frame? : Action → Option Bytes
  | .sent frame => some frame
  | _ => none

/-- The event that an action queued. -/
def Action.event? : Action → Option Event
  | .event e => some e
  | _ => none

/-- The frames that were sent, oldest first. -/
def framesOf (log : List Action) : List Bytes := log.filterMap Action.frame?

/-- The events that were queued, oldest first. -/
def eventsOf (log : List Action) : List Event := log.filterMap Action.event?

@[simp] theorem framesOf_nil : framesOf [] = [] := rfl

@[simp] theorem framesOf_append (a b : List Action) :
    framesOf (a ++ b) = framesOf a ++ framesOf b :=
  List.filterMap_append

@[simp] theorem eventsOf_append (a b : List Action) :
    eventsOf (a ++ b) = eventsOf a ++ eventsOf b :=
  List.filterMap_append

@[simp] theorem framesOf_sent (frame : Bytes) : framesOf [.sent frame] = [frame] := rfl

theorem framesOf_map_sent (frames : List Bytes) : framesOf (frames.map .sent) = frames := by
  unfold framesOf
  rw [List.filterMap_map]
  exact List.filterMap_some

namespace Context

/-- One place follows on another in the same call, and the trace grew by some actions. -/
structure Extends (before after : Context) (added : List Action) : Prop where
  env : after.env = before.env
  handle : after.handle = before.handle
  log : after.log = before.log ++ added

theorem Extends.refl (ctx : Context) : ctx.Extends ctx [] where
  env := rfl
  handle := rfl
  log := (List.append_nil _).symm

theorem Extends.trans {a b c : Context} {x y : List Action} (hab : a.Extends b x)
    (hbc : b.Extends c y) : a.Extends c (x ++ y) where
  env := hbc.env.trans hab.env
  handle := hbc.handle.trans hab.handle
  log := by rw [hbc.log, hab.log, List.append_assoc]

theorem extends_trace (ctx : Context) (action : Action) :
    ctx.Extends (ctx.trace action) [action] :=
  ⟨rfl, rfl, rfl⟩

/-- Nothing happened that the status, the bus or the application could show. -/
def IsSilent (before after : Context) : Prop :=
  after.status = before.status ∧
    ∃ added, before.Extends after added ∧ framesOf added = [] ∧ eventsOf added = []

theorem IsSilent.refl (ctx : Context) : ctx.IsSilent ctx :=
  ⟨rfl, [], .refl ctx, rfl, rfl⟩

theorem isSilent_note (ctx : Context) (note : Note) : ctx.IsSilent (ctx.note note) :=
  ⟨rfl, _, extends_trace ctx _, rfl, rfl⟩

end Context

/-! ## Behind the pairing gate -/

namespace Streamer

theorem isSilent_onData (streamer : Streamer) (packet : Packet) (ctx : Context) :
    ctx.IsSilent (streamer.onData packet ctx).context := by
  have hremarks := remarks_onData packet ctx streamer
  generalize (streamer.onData packet ctx).context = after at hremarks ⊢
  cases hremarks with
  | silent => exact .refl ctx
  | note note => exact Context.isSilent_note ctx note
  | started number => exact ⟨rfl, _, Context.extends_trace ctx _, rfl, rfl⟩

end Streamer

namespace Gated

theorem isSilent_onData (gated : Gated) (packet : Packet) (ctx : Context) :
    ctx.IsSilent (gated.onData packet ctx).context := by
  cases gated with
  | idle => exact .refl ctx
  | application app => exact Context.isSilent_note ctx _
  | streamer s => exact s.isSilent_onData packet ctx

theorem isSilent_connected (gated : Gated) (ctx : Context) :
    ctx.IsSilent (gated.connected ctx).2 := by
  cases gated with
  | idle => exact .refl ctx
  | application app => exact Context.isSilent_note ctx _
  | streamer s => exact .refl ctx

theorem isSilent_removed (gated : Gated) (ctx : Context) : ctx.IsSilent (gated.removed ctx).2 := by
  cases gated with
  | idle => exact .refl ctx
  | application app => exact Context.isSilent_note ctx _
  | streamer s => exact .refl ctx

theorem isSilent_paired (gated : Gated) (partner : Identity) (ctx : Context) :
    ctx.IsSilent (gated.paired partner ctx) := by
  cases gated with
  | idle => exact .refl ctx
  | application app => exact Context.isSilent_note ctx _
  | streamer s => exact .refl ctx

theorem isSilent_unpaired (gated : Gated) (ctx : Context) :
    ctx.IsSilent (gated.unpaired ctx).2 := by
  cases gated with
  | idle => exact .refl ctx
  | application app => exact Context.isSilent_note ctx _
  | streamer s => exact .refl ctx

/-! The kind of what is behind the gate, and what it puts into announces, never change. -/

/-- The payload that announces get. -/
def payload? : Gated → Option Bytes
  | application app => app.payload
  | _ => none

theorem payload?_onData (gated : Gated) (packet : Packet) (ctx : Context) :
    (gated.onData packet ctx).driver.payload? = gated.payload? := by
  cases gated <;> rfl

theorem payload?_connected (gated : Gated) (ctx : Context) :
    (gated.connected ctx).1.payload? = gated.payload? := by
  cases gated <;> rfl

theorem payload?_removed (gated : Gated) (ctx : Context) :
    (gated.removed ctx).1.payload? = gated.payload? := by
  cases gated <;> rfl

theorem payload?_unpaired (gated : Gated) (ctx : Context) :
    (gated.unpaired ctx).1.payload? = gated.payload? := by
  cases gated <;> rfl

end Gated

/-- Data leaves the state of a pairable driver alone, and nothing of it shows. -/
theorem Pairable.onData_spec (driver : Pairable) (packet : Packet) (ctx : Context) :
    (driver.onData packet ctx).driver.state = driver.state ∧
      ctx.IsSilent (driver.onData packet ctx).context := by
  unfold onData
  split
  · split
    · exact ⟨rfl, driver.gated.isSilent_onData packet ctx⟩
    · exact ⟨rfl, .refl ctx⟩
  · exact ⟨rfl, driver.gated.isSilent_onData packet ctx⟩

end DeviceBus
