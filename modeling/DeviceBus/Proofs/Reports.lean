import DeviceBus.Proofs.Pairing.Moves

/-!
# Whom a trace is about

Events and calls name a driver. `reportsOf` and `callsOf` pick out of a trace what is about one of
them. Only the node calls, and what a driver itself adds to a trace is about nobody else.

## Main results

* `Driver.respond_adds`: whatever a driver is told, it adds nothing but what is its own.
-/

namespace DeviceBus

/-- What an action reports about a driver. -/
def Action.report? (handle : Handle) : Action → Option EventKind
  | .event e => if e.handle = handle then some e.kind else none
  | _ => none

/-- What an action tells a driver. -/
def Action.call? (handle : Handle) : Action → Option Callback
  | .called h callback => if h = handle then some callback else none
  | _ => none

/-- What was reported about a driver, oldest first. -/
def reportsOf (handle : Handle) (log : List Action) : List EventKind :=
  log.filterMap (Action.report? handle)

/-- What a driver was told, oldest first. -/
def callsOf (handle : Handle) (log : List Action) : List Callback :=
  log.filterMap (Action.call? handle)

@[simp] theorem reportsOf_append (handle : Handle) (a b : List Action) :
    reportsOf handle (a ++ b) = reportsOf handle a ++ reportsOf handle b :=
  List.filterMap_append

@[simp] theorem callsOf_append (handle : Handle) (a b : List Action) :
    callsOf handle (a ++ b) = callsOf handle a ++ callsOf handle b :=
  List.filterMap_append

@[simp] theorem reportsOf_event_self (handle : Handle) (kind : EventKind) :
    reportsOf handle [.event ⟨handle, kind⟩] = [kind] := by
  simp [reportsOf, Action.report?]

theorem reportsOf_event_of_ne {handle k : Handle} (kind : EventKind) (hk : k ≠ handle) :
    reportsOf k [.event ⟨handle, kind⟩] = [] := by
  simp [reportsOf, Action.report?, Ne.symm hk]

@[simp] theorem reportsOf_called (handle k : Handle) (callback : Callback) (log : List Action) :
    reportsOf k (.called handle callback :: log) = reportsOf k log := rfl

@[simp] theorem callsOf_called_self (handle : Handle) (callback : Callback) (log : List Action) :
    callsOf handle (.called handle callback :: log) = callback :: callsOf handle log := by
  simp [callsOf, Action.call?]

theorem callsOf_called_of_ne {handle k : Handle} (callback : Callback) (hk : k ≠ handle)
    (log : List Action) : callsOf k (.called handle callback :: log) = callsOf k log := by
  simp [callsOf, Action.call?, Ne.symm hk]

theorem reportsOf_eq_filterMap (handle : Handle) (log : List Action) :
    reportsOf handle log =
      (eventsOf log).filterMap fun e => if e.handle = handle then some e.kind else none := by
  unfold reportsOf eventsOf
  rw [List.filterMap_filterMap]
  congr 1
  funext action
  cases action <;> rfl

/-- Events of one driver are what is reported about it. -/
theorem reportsOf_of_eventsOf {handle : Handle} {log : List Action} {kinds : List EventKind}
    (h : eventsOf log = kinds.map fun kind => ⟨handle, kind⟩) : reportsOf handle log = kinds := by
  have hall : ((fun e : Event => if e.handle = handle then some e.kind else none) ∘
      fun kind => ⟨handle, kind⟩) = some := funext fun kind => if_pos rfl
  rw [reportsOf_eq_filterMap, h, List.filterMap_map, hall, List.filterMap_some]

namespace EventKind

/-- The device is there. -/
def isConnection : EventKind → Bool
  | .connected _ => true
  | _ => false

/-- The reports that the device is there. -/
def connections (reports : List EventKind) : List EventKind := reports.filter (·.isConnection)

@[simp] theorem connections_append (xs ys : List EventKind) :
    connections (xs ++ ys) = connections xs ++ connections ys := List.filter_append ..

end EventKind

/-! ## What a driver adds -/

/-- An action that the driver at a handle may add by itself. That its device is there is for the
node to say. -/
def Action.IsOwn (handle : Handle) : Action → Prop
  | .event e => e.handle = handle ∧ e.kind.isConnection = false
  | .called _ _ => False
  | .streamStarted h _ => h = handle
  | _ => True

/-- The trace grew by actions of the driver itself. -/
def Context.Adds (before after : Context) : Prop :=
  ∃ added, before.Extends after added ∧ ∀ action ∈ added, action.IsOwn before.handle

theorem reportsOf_of_isOwn {handle k : Handle} {added : List Action}
    (h : ∀ action ∈ added, action.IsOwn handle) (hk : k ≠ handle) : reportsOf k added = [] := by
  rw [reportsOf, List.filterMap_eq_nil_iff]
  intro action haction
  have hown := h action haction
  cases action with
  | event e => exact if_neg fun he => hk (he.symm.trans hown.1)
  | _ => rfl

theorem connections_of_isOwn {handle : Handle} {added : List Action}
    (h : ∀ action ∈ added, action.IsOwn handle) (k : Handle) :
    EventKind.connections (reportsOf k added) = [] := by
  refine List.filter_eq_nil_iff.2 fun kind hkind => ?_
  obtain ⟨action, haction, hreport⟩ := List.mem_filterMap.1 hkind
  have hown := h action haction
  cases action with
  | event e =>
    unfold Action.report? at hreport
    dsimp only at hreport
    split at hreport
    · cases hreport
      rw [hown.2]
      exact Bool.false_ne_true
    · cases hreport
  | _ => cases hreport

theorem callsOf_of_isOwn {handle : Handle} {added : List Action}
    (h : ∀ action ∈ added, action.IsOwn handle) (k : Handle) : callsOf k added = [] := by
  rw [callsOf, List.filterMap_eq_nil_iff]
  intro action haction
  have hown := h action haction
  cases action with
  | called j callback => exact hown.elim
  | _ => rfl

namespace Context

theorem Adds.refl (ctx : Context) : ctx.Adds ctx :=
  ⟨[], .refl ctx, fun _ h => by cases h⟩

theorem Adds.trans {a b c : Context} (hab : a.Adds b) (hbc : b.Adds c) : a.Adds c := by
  obtain ⟨x, hx, hxown⟩ := hab
  obtain ⟨y, hy, hyown⟩ := hbc
  refine ⟨x ++ y, hx.trans hy, fun action haction => ?_⟩
  rcases List.mem_append.1 haction with h | h
  · exact hxown action h
  · rw [← hx.handle]
    exact hyown action h

theorem adds_trace {ctx : Context} {action : Action} (h : action.IsOwn ctx.handle) :
    ctx.Adds (ctx.trace action) := by
  refine ⟨[action], extends_trace ctx action, fun other hother => ?_⟩
  rw [List.mem_singleton.1 hother]
  exact h

theorem adds_note (ctx : Context) (note : Note) : ctx.Adds (ctx.note note) := adds_trace trivial

theorem adds_queueEvent (ctx : Context) {kind : EventKind} (h : kind.isConnection = false) :
    ctx.Adds (ctx.queueEvent kind) :=
  adds_trace ⟨rfl, h⟩

theorem adds_modifyStatus (ctx : Context) (change : Status → Status) :
    ctx.Adds (ctx.modifyStatus change) :=
  ⟨[], ⟨rfl, rfl, (List.append_nil _).symm⟩, fun _ h => by cases h⟩

theorem adds_conclude (ctx : Context) (result : Except BusError Bytes) :
    ctx.Adds (ctx.conclude result).2 := by
  cases result with
  | ok frame => exact adds_trace trivial
  | error e => exact .refl ctx

theorem adds_send (ctx : Context) (data : Bytes) : ctx.Adds (ctx.send data).2 := by
  unfold send
  split
  · exact .refl ctx
  · exact ctx.adds_conclude _

theorem adds_askToPair (ctx : Context) (target : Identity) : ctx.Adds (ctx.askToPair target).2 := by
  unfold askToPair
  split
  · exact ctx.adds_conclude _
  · exact .refl ctx

end Context

theorem Probe.respond_adds (probe : Probe) (callback : Callback) (ctx : Context) :
    ctx.Adds (probe.respond callback ctx).2 := by
  cases callback with
  | control cp => exact (ctx.adds_note _).trans (Context.adds_modifyStatus _ _)
  | data packet =>
    refine (ctx.adds_note (.data ctx.handle packet)).trans ?_
    show (ctx.note (.data ctx.handle packet)).Adds (probe.answer _)
    unfold answer
    split
    · exact .refl _
    · exact (Context.adds_send _ _).trans (Context.adds_note _ _)
  | connected =>
    refine (ctx.adds_note (.connected ctx.handle ctx.status)).trans ?_
    show (ctx.note (.connected ctx.handle ctx.status)).Adds (probe.ask _)
    unfold ask
    split
    · exact .refl _
    · exact (Context.adds_askToPair _ _).trans (Context.adds_note _ _)
  | removed => exact ctx.adds_note _
  | partnerLost => exact ctx.adds_note _

namespace Streamer

theorem onData_adds (streamer : Streamer) (packet : Packet) (ctx : Context) :
    ctx.Adds (streamer.onData packet ctx).context := by
  have hremarks := remarks_onData packet ctx streamer
  generalize (streamer.onData packet ctx).context = after at hremarks ⊢
  cases hremarks with
  | silent => exact .refl ctx
  | note note => exact ctx.adds_note note
  | started number => exact Context.adds_trace rfl

end Streamer

namespace Gated

theorem onData_adds (gated : Gated) (packet : Packet) (ctx : Context) :
    ctx.Adds (gated.onData packet ctx).context := by
  cases gated with
  | idle => exact .refl ctx
  | application app => exact ctx.adds_note _
  | streamer s => exact s.onData_adds packet ctx

theorem connected_adds (gated : Gated) (ctx : Context) : ctx.Adds (gated.connected ctx).2 := by
  cases gated with
  | application app => exact ctx.adds_note _
  | _ => exact .refl ctx

theorem removed_adds (gated : Gated) (ctx : Context) : ctx.Adds (gated.removed ctx).2 := by
  cases gated with
  | application app => exact ctx.adds_note _
  | _ => exact .refl ctx

theorem paired_adds (gated : Gated) (partner : Identity) (ctx : Context) :
    ctx.Adds (gated.paired partner ctx) := by
  cases gated with
  | application app => exact ctx.adds_note _
  | _ => exact .refl ctx

theorem unpaired_adds (gated : Gated) (ctx : Context) : ctx.Adds (gated.unpaired ctx).2 := by
  cases gated with
  | application app => exact ctx.adds_note _
  | _ => exact .refl ctx

end Gated

namespace Pairable

theorem enter_adds (standing : Standing) (ctx : Context) (driver : Pairable) :
    ctx.Adds (driver.enter standing ctx).2 :=
  ctx.adds_modifyStatus fun status =>
    (status.unmark (DeviceFlags.paired ∪ DeviceFlags.pairing)).mark standing.marks

theorem pairWith_adds (partner : Identity) (ctx : Context) (driver : Pairable) :
    ctx.Adds (driver.pairWith partner ctx).2 := by
  unfold pairWith
  split
  · exact .refl ctx
  · exact ((driver.enter_adds _ ctx).trans (Context.adds_queueEvent _ rfl)).trans
      (Gated.paired_adds _ _ _)

theorem letGo_adds (ctx : Context) (driver : Pairable) : ctx.Adds (driver.letGo ctx).2 := by
  have henter := driver.enter_adds .unpaired ctx
  unfold letGo
  cases driver.state with
  | unpaired => exact henter
  | pairing target => exact henter.trans (Context.adds_queueEvent _ rfl)
  | paired partner =>
    exact (henter.trans (Context.adds_queueEvent _ rfl)).trans (Gated.unpaired_adds _ _)

theorem request_adds (target : Identity) (ctx : Context) (driver : Pairable) :
    ctx.Adds (driver.request target ctx).context := by
  have hask := ctx.adds_askToPair target
  unfold request
  split
  · rename_i asked heq
    rw [heq] at hask
    exact hask.trans (driver.enter_adds _ asked)
  · rename_i asked heq
    rw [heq] at hask
    exact hask

theorem onAnnounce_adds (cp : ControlPacket) (ctx : Context) (driver : Pairable) :
    ctx.Adds (driver.onAnnounce cp ctx).context := by
  unfold onAnnounce
  split
  · exact .refl ctx
  · dsimp only
    split
    · split <;> exact .refl ctx
    · split
      · exact driver.request_adds _ ctx
      · exact .refl ctx
    · split
      · exact driver.request_adds _ ctx
      · exact .refl ctx

theorem onRequest_adds (cp : ControlPacket) (ctx : Context) (driver : Pairable) :
    ctx.Adds (driver.onRequest cp ctx).context := by
  cases hsender : Identity.decode? cp.payload with
  | none =>
    unfold onRequest
    rw [hsender]
    exact .refl ctx
  | some requester =>
    have hanswer : ctx.Adds (ctx.answerPairing requester (accepts requester driver.state)).2 :=
      ctx.adds_conclude _
    rw [onRequest_eq hsender]
    split
    · rename_i answered heq
      rw [heq] at hanswer
      exact hanswer
    · rename_i answered heq
      rw [heq] at hanswer
      split
      · exact hanswer.trans (driver.pairWith_adds requester answered)
      · exact hanswer

theorem onAnswer_adds (cp : ControlPacket) (ctx : Context) (driver : Pairable) :
    ctx.Adds (driver.onAnswer cp ctx).context := by
  unfold onAnswer
  split
  · exact .refl ctx
  · split
    · split
      · dsimp only
        split
        · exact driver.pairWith_adds _ ctx
        · exact driver.letGo_adds ctx
      · exact .refl ctx
    · exact .refl ctx

theorem respond_adds (driver : Pairable) (callback : Callback) (ctx : Context) :
    ctx.Adds (driver.respond callback ctx).context := by
  cases callback with
  | control cp =>
    show ctx.Adds (driver.onControl cp ctx).context
    unfold onControl
    split
    · exact driver.onAnnounce_adds cp ctx
    · split
      · exact driver.onAnswer_adds cp ctx
      · exact driver.onRequest_adds cp ctx
    · exact .refl ctx
  | data packet =>
    show ctx.Adds (driver.onData packet ctx).context
    unfold onData
    split
    · split
      · exact driver.gated.onData_adds packet ctx
      · exact .refl ctx
    · exact driver.gated.onData_adds packet ctx
  | connected => exact driver.gated.connected_adds ctx
  | removed => exact (driver.letGo_adds ctx).trans (Gated.removed_adds _ _)
  | partnerLost => exact driver.letGo_adds ctx

end Pairable

/-- Whatever a driver is told, it adds nothing but what is its own. -/
theorem Driver.respond_adds (driver : Driver) (callback : Callback) (ctx : Context) :
    ctx.Adds (driver.respond callback ctx).context := by
  cases driver with
  | quiet => exact .refl ctx
  | probe p => exact p.respond_adds callback ctx
  | pairable p => exact p.respond_adds callback ctx
  | console c =>
    unfold respond
    cases callback <;> exact .refl ctx
  | logger client => exact .refl ctx

end DeviceBus
