import DeviceBus.Proofs.Node.Arbitration

/-!
# Calls

What one call makes of a node. It touches the entry of the driver that is called and the log. An
ordinary driver reports matters between itself and its peer only, and at an announce it does
nothing but ask the announced device.

## Main results

* `Driver.respond_announce`: an ordinary driver does nothing with an announce but ask its device.
* `Driver.events_respond`: all that an ordinary driver reports is about its peer.
* `get?_call`, `get?_call_of_ne`: the entries after a call.
-/

namespace DeviceBus

open ControlPacket

/-! ## What drivers do with an announce -/

/-- A driver that pairs asks the announced device, or leaves everything as it is. -/
theorem Pairable.context_onAnnounce (cp : ControlPacket) (ctx : Context) (driver : Pairable) :
    (driver.onAnnounce cp ctx).context = ctx ∨
      ctx.status.mayPair = true ∧ ctx.status.isConnected = true ∧
        cp.address ≠ ctx.status.address ∧
        Shows ctx driver (driver.request cp.announced ctx) (.pairing cp.announced)
          (some (pairingMessage cp.announced askingFlags ctx.status.identity)) [] ∧
        (driver.onAnnounce cp ctx).context = (driver.request cp.announced ctx).context := by
  unfold onAnnounce
  split
  · exact .inl rfl
  · rename_i hguard
    simp only [Bool.or_eq_true, Bool.not_eq_true', beq_iff_eq, not_or, Bool.not_eq_false] at hguard
    obtain ⟨⟨hmay, hconnected⟩, hforeign⟩ := hguard
    have hrequest : (driver.request cp.announced ctx).context = ctx ∨
        Shows ctx driver (driver.request cp.announced ctx) (.pairing cp.announced)
          (some (pairingMessage cp.announced askingFlags ctx.status.identity)) [] := by
      rcases request_cases cp.announced ctx driver with h | h
      · exact .inl (by rw [h])
      · exact .inr h
    dsimp only
    split
    · split <;> exact .inl rfl
    · split
      · rcases hrequest with h | h
        · exact .inl h
        · exact .inr ⟨hmay, hconnected, hforeign, h, rfl⟩
      · exact .inl rfl
    · split
      · rcases hrequest with h | h
        · exact .inl h
        · exact .inr ⟨hmay, hconnected, hforeign, h, rfl⟩
      · exact .inl rfl

/-- An ordinary driver leaves everything outside as it is at an announce, unless it may pair and
asks the device. -/
theorem Driver.respond_announce {driver : Driver} (hordinary : driver.IsOrdinary)
    {cp : ControlPacket} (hello : cp.type = .hello) (ctx : Context) :
    (driver.respond (.control cp) ctx).context = ctx ∨
      ctx.status.mayPair = true ∧ ctx.status.isConnected = true ∧
        cp.address ≠ ctx.status.address ∧
        ∃ added, ctx.Extends (driver.respond (.control cp) ctx).context added ∧
          framesOf added = [(pairingMessage cp.announced askingFlags ctx.status.identity).frame] ∧
          eventsOf added = [] := by
  cases driver with
  | quiet => exact .inl rfl
  | probe p => exact hordinary.elim
  | console c => exact .inl rfl
  | logger client => exact .inl rfl
  | pairable p =>
    have hcontext : (respond (.control cp) ctx (pairable p)).context =
        (p.onAnnounce cp ctx).context := by
      show (p.onControl cp ctx).context = _
      unfold Pairable.onControl
      rw [hello]
    rw [hcontext]
    rcases p.context_onAnnounce cp ctx with h | ⟨hmay, hconnected, hforeign, hshows, h⟩
    · exact .inl h
    · obtain ⟨added, hadded, hframes, hevents⟩ := hshows.trace
      rw [h]
      exact .inr ⟨hmay, hconnected, hforeign, added, hadded, hframes, hevents⟩

/-! ## What drivers report -/

namespace EventKind

/-- A matter between a driver and its peer. -/
def concernsPeer : EventKind → Bool
  | .paired _ | .unpaired | .pairRejected => true
  | _ => false

/-- An own address was lost. -/
def isLoss : EventKind → Bool
  | .addressLost _ => true
  | _ => false

/-- The device is gone. -/
def isRemoval : EventKind → Bool
  | .removed => true
  | _ => false

theorem not_isLoss_of_concernsPeer {kind : EventKind} (h : kind.concernsPeer = true) :
    kind.isLoss = false := by
  cases kind <;> first | rfl | cases h

theorem not_isRemoval_of_concernsPeer {kind : EventKind} (h : kind.concernsPeer = true) :
    kind.isRemoval = false := by
  cases kind <;> first | rfl | cases h

end EventKind

/-- Some actions report no loss of an address. -/
def NoLoss (added : List Action) : Prop := ∀ event ∈ eventsOf added, event.kind.isLoss = false

theorem noLoss_of_eventsOf_eq_nil {added : List Action} (h : eventsOf added = []) :
    NoLoss added := by
  intro event hevent
  rw [h] at hevent
  cases hevent

theorem NoLoss.append {xs ys : List Action} (h : NoLoss xs) (h' : NoLoss ys) :
    NoLoss (xs ++ ys) := by
  intro event hevent
  rw [eventsOf_append, List.mem_append] at hevent
  rcases hevent with hx | hy
  · exact h event hx
  · exact h' event hy

/-- What a move reports is about the peer. -/
theorem Pairable.Move.concernsPeer {status : Status} {cp : ControlPacket} {before after : Standing}
    {sent : Option ControlPacket} {events : List EventKind}
    (h : Move status cp before after sent events) : ∀ kind ∈ events, kind.concernsPeer = true := by
  have hone : ∀ {reported : EventKind}, reported.concernsPeer = true → ∀ kind ∈ [reported],
      kind.concernsPeer = true := by
    intro reported hreported kind hkind
    rw [List.mem_singleton.1 hkind]
    exact hreported
  cases h with
  | stay => exact fun kind hkind => by cases hkind
  | follow => exact fun kind hkind => by cases hkind
  | ask => exact fun kind hkind => by cases hkind
  | accept =>
    split
    · exact fun kind hkind => by cases hkind
    · exact hone rfl
  | refuse => exact fun kind hkind => by cases hkind
  | bond => exact hone rfl
  | giveUp => exact hone rfl

/-- All that an ordinary driver reports is about its peer. -/
theorem Driver.events_respond {driver : Driver} (hordinary : driver.IsOrdinary)
    (callback : Callback) (ctx : Context) :
    ∃ added, ctx.Extends (driver.respond callback ctx).context added ∧
      ∀ event ∈ eventsOf added, event.kind.concernsPeer = true := by
  have hnone : ∃ added, ctx.Extends ctx added ∧
      ∀ event ∈ eventsOf added, event.kind.concernsPeer = true :=
    ⟨[], .refl ctx, fun event hevent => by cases hevent⟩
  have hsilent : ∀ {after : Context}, ctx.IsSilent after → ∃ added, ctx.Extends after added ∧
      ∀ event ∈ eventsOf added, event.kind.concernsPeer = true := by
    rintro after ⟨-, added, hadded, -, hevents⟩
    refine ⟨added, hadded, fun event hevent => ?_⟩
    rw [hevents] at hevent
    cases hevent
  cases driver with
  | quiet => exact hnone
  | probe p => exact hordinary.elim
  | console c =>
    unfold respond
    cases callback <;> exact hnone
  | logger client => exact hnone
  | pairable p =>
    have hletGo : ∃ added, ctx.Extends (p.letGo ctx).2 added ∧
        ∀ event ∈ eventsOf added, event.kind.concernsPeer = true := by
      obtain ⟨-, -, added, hadded, -, hevents⟩ := p.letGo_spec ctx
      refine ⟨added, hadded, ?_⟩
      rw [hevents]
      cases p.state with
      | unpaired => exact fun event hevent => by cases hevent
      | pairing target =>
        intro event hevent
        rw [List.mem_singleton.1 hevent]
        rfl
      | paired partner =>
        intro event hevent
        rw [List.mem_singleton.1 hevent]
        rfl
    cases callback with
    | control cp =>
      obtain ⟨_, _, _, hmove, hshows⟩ := p.onControl_move cp ctx
      obtain ⟨added, hadded, -, hevents⟩ := hshows.trace
      refine ⟨added, hadded, fun event hevent => ?_⟩
      rw [hevents, List.mem_map] at hevent
      obtain ⟨kind, hkind, rfl⟩ := hevent
      exact hmove.concernsPeer kind hkind
    | data packet =>
      show ∃ added, ctx.Extends (p.onData packet ctx).context added ∧ _
      unfold Pairable.onData
      split
      · split
        · exact hsilent (p.gated.isSilent_onData packet ctx)
        · exact hnone
      · exact hsilent (p.gated.isSilent_onData packet ctx)
    | connected => exact hsilent (p.gated.isSilent_connected ctx)
    | removed =>
      obtain ⟨added, hadded, hbonds⟩ := hletGo
      obtain ⟨-, more, hmore, -, hmoreEvents⟩ :=
        (p.letGo ctx).1.gated.isSilent_removed (p.letGo ctx).2
      refine ⟨added ++ more, hadded.trans hmore, ?_⟩
      rw [eventsOf_append, hmoreEvents, List.append_nil]
      exact hbonds
    | partnerLost => exact hletGo

namespace Node

/-! ## What a call does -/

variable {node : Node}

/-- What is at the handle of a driver after a call. -/
theorem get?_call (env : Env) {handle : Handle} (callback : Callback) {status : Status}
    {registration : Registration}
    (hentry : node.registry.get? handle = some ⟨status, .driver registration⟩) :
    (node.call env handle callback).2.registry.get? handle =
      some ⟨(registration.driver.respond callback
          ⟨env, handle, status, node.log ++ [.called handle callback]⟩).context.status,
        .driver { registration with
          driver := (registration.driver.respond callback
            ⟨env, handle, status, node.log ++ [.called handle callback]⟩).driver }⟩ := by
  unfold call
  rw [hentry]
  dsimp only
  rw [Registry.get?_set, if_pos rfl, hentry]
  rfl

/-- The log after a call of a driver. -/
theorem log_call (env : Env) {handle : Handle} (callback : Callback) {status : Status}
    {registration : Registration}
    (hentry : node.registry.get? handle = some ⟨status, .driver registration⟩) :
    (node.call env handle callback).2.log =
      (registration.driver.respond callback
        ⟨env, handle, status, node.log ++ [.called handle callback]⟩).context.log := by
  unfold call
  rw [hentry]

/-- Without a driver at the handle nobody is called. -/
theorem exists_driver_or_call_eq (env : Env) (handle : Handle) (callback : Callback) :
    (∃ status registration, node.registry.get? handle = some ⟨status, .driver registration⟩) ∨
      (node.call env handle callback).2 = node := by
  unfold call
  split
  · rename_i status registration hentry
    exact .inl ⟨status, registration, hentry⟩
  · exact .inr rfl

/-- A call reports no loss of an address. -/
theorem noLoss_call (hsound : node.Sound) (env : Env) (handle : Handle) (callback : Callback) :
    ∃ added, (node.call env handle callback).2.log = node.log ++ added ∧ NoLoss added := by
  rcases exists_driver_or_call_eq env handle callback with ⟨status, registration, hentry⟩ | hnobody
  · obtain ⟨added, hadded, hbonds⟩ :=
      Driver.events_respond (hsound.entries handle _ hentry).1 callback
        ⟨env, handle, status, node.log ++ [.called handle callback]⟩
    refine ⟨.called handle callback :: added, ?_,
      fun event hevent => EventKind.not_isLoss_of_concernsPeer (hbonds event hevent)⟩
    rw [log_call env callback hentry, hadded.log, List.append_assoc]
    rfl
  · rw [hnobody]
    exact ⟨[], (List.append_nil _).symm, noLoss_of_eventsOf_eq_nil rfl⟩

/-- A call touches the driver's own entry only. -/
theorem get?_call_of_ne (env : Env) {handle k : Handle} (callback : Callback) (hk : k ≠ handle) :
    (node.call env handle callback).2.registry.get? k = node.registry.get? k := by
  unfold call
  split
  · dsimp only
    rw [Registry.get?_set, if_neg hk]
  · rfl

@[simp] theorem filter_call (env : Env) (handle : Handle) (callback : Callback) :
    (node.call env handle callback).2.filter = node.filter := by
  unfold call
  split <;> rfl

theorem get?_modifyStatus_of_ne {handle k : Handle} (change : Status → Status) (hk : k ≠ handle) :
    (node.modifyStatus handle change).registry.get? k = node.registry.get? k := by
  unfold modifyStatus
  rw [Registry.get?_modify, if_neg hk]

theorem get?_modifyStatus {handle : Handle} (change : Status → Status) {entry : Entry}
    (hentry : node.registry.get? handle = some entry) :
    (node.modifyStatus handle change).registry.get? handle = some (entry.modifyStatus change) := by
  unfold modifyStatus
  rw [Registry.get?_modify, if_pos rfl, hentry]
  rfl

end Node

end DeviceBus
