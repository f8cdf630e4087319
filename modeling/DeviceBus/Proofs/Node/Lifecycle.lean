import DeviceBus.Proofs.Node.Ticking
import Mathlib.Logic.Function.Basic

/-!
# The life of an address

Addresses of own drivers are drawn, confirmed and given up while drivers come and go and frames
arrive. `Orderly` is what holds between any two steps: every own driver's address fits its flags,
and no two own drivers have the same one. Each of the four things that can happen to a node keeps
it: three of them change tenancies one at a time, and the fourth, a tick, takes turns.

A run is told by `Reachable`, which also remembers with which role each handle was registered.

## Main results

* `Orderly.register`, `Orderly.unregister`, `Orderly.receiveFrame`, `Orderly.tick`: every step keeps
  a node orderly.
* `lifecycle_of_reachable`: the address lifecycle of every own driver in every run, and that a tick
  leaves a driver without an address only when there was none.
-/

namespace DeviceBus

/-! ## Tenancies that belong together -/

namespace Tenancy

/-- Two tenancies of one driver. -/
def SameDriver (t u : Tenancy) : Prop := t.serial = u.serial ∧ t.mode = u.mode

theorem sameDriver_released (t : Tenancy) : t.released.SameDriver t := ⟨rfl, rfl⟩

end Tenancy

namespace Node

theorem Ages.sameDriver {node : Node} {t u : Tenancy} (h : Ages node t u) : u.SameDriver t := by
  cases h <;> exact ⟨rfl, rfl⟩

theorem Ages.lawful {node : Node} {t u : Tenancy} (h : Ages node t u) (ht : t.Lawful) :
    u.Lawful := by
  cases h with
  | drawn without free => exact .drawn t free.1 free.2.1
  | without _ _ => exact ht
  | kept _ => exact ht
  | confirmed pos _ => exact ht.confirmed pos

/-- A turn ends without an address only if there was none. -/
theorem Ages.isCrowded {node : Node} {t u : Tenancy} (h : Ages node t u) (hu : u.address = 0) :
    node.IsCrowded := by
  cases h with
  | drawn without free => exact absurd hu free.1
  | without _ crowded => exact crowded
  | kept pos => exact absurd hu pos
  | confirmed pos _ => exact absurd hu pos

/-- A turn that ends with an address of another entry began with it. -/
theorem Ages.address_eq {node : Node} {t u : Tenancy} (h : Ages node t u) {k : Handle}
    {other : Tenancy} (hother : node.tenancy? k = some other) (haddress : u.address = other.address) :
    t.address = u.address := by
  cases h with
  | drawn without free =>
    obtain ⟨entry, hentry, -, rfl⟩ := tenancy?_eq_some_iff.1 hother
    exact absurd haddress.symm (free.2.2 k entry hentry)
  | without _ _ => rfl
  | kept _ => rfl
  | confirmed _ _ => rfl

/-- A turn that gives another address leaves the driver on probation. -/
theorem Ages.isUnconfirmed_or {node : Node} {t u : Tenancy} (h : Ages node t u) :
    u.isUnconfirmed = true ∨ u.address = t.address := by
  cases h with
  | drawn _ _ => exact .inl rfl
  | without _ _ => exact .inr rfl
  | kept _ => exact .inr rfl
  | confirmed _ _ => exact .inr rfl

/-- A turn leaves a confirmed driver as it is. -/
theorem Ages.eq_of_isConfirmed {node : Node} {t u : Tenancy} (h : Ages node t u) (ht : t.Lawful)
    (hconfirmed : t.isConfirmed = true) : u = t := by
  cases h with
  | drawn without _ => exact absurd without (ht.address_ne_zero_of_isConfirmed hconfirmed)
  | without _ _ => rfl
  | kept _ => rfl
  | confirmed _ onProbation => exact absurd ⟨hconfirmed, onProbation⟩ ht.not_both

/-! ## Orderly nodes -/

/-- Every own address fits its flags, and no two own drivers have the same address. -/
structure Orderly (node : Node) : Prop where
  sound : node.Sound
  lawful : ∀ handle t, node.tenancy? handle = some t → t.Lawful
  distinct : node.IsDistinct

theorem orderly_withDraws (settings : NodeSettings) (draws : Draws) :
    (withDraws settings draws).Orderly where
  sound := ⟨.empty _, fun handle entry h => by simp [withDraws] at h⟩
  lawful handle t h := by simp [withDraws, tenancy?] at h
  distinct h k t u ht := by simp [withDraws, tenancy?] at ht

variable {before after : Node}

/-- An evolution that keeps every tenancy or takes its address keeps a node orderly. -/
theorem Orderly.evolve (h : before.Orderly) {change : Handle → Tenancy → Tenancy}
    {said : List ControlPacket} (hevolves : Evolves change said before after)
    (hchange : ∀ k t, before.tenancy? k = some t → change k t = t ∨ change k t = t.released) :
    after.Orderly := by
  have hback : ∀ k t, after.tenancy? k = some t →
      before.tenancy? k = some t ∨ t.address = 0 ∧ t.Lawful := by
    intro k t ht
    rw [hevolves.tenancy, Option.map_eq_some_iff] at ht
    obtain ⟨old, hold, rfl⟩ := ht
    rcases hchange k old hold with heq | heq
    · rw [heq]
      exact .inl hold
    · rw [heq]
      exact .inr ⟨rfl, .released old⟩
  refine ⟨hevolves.sound, ?_, ?_⟩
  · intro k t ht
    rcases hback k t ht with hold | hnew
    · exact h.lawful k t hold
    · exact hnew.2
  · intro j k t u ht hu hpos haddress
    rcases hback j t ht with hold | hnew
    · rcases hback k u hu with hold' | hnew'
      · exact h.distinct j k t u hold hold' hpos haddress
      · exact absurd (haddress.trans hnew'.1) hpos
    · exact absurd hnew.1 hpos

theorem Orderly.quiet (h : before.Orderly) {said : List ControlPacket}
    (hquiet : Evolves still said before after) : after.Orderly :=
  h.evolve hquiet fun _ _ _ => .inl rfl

/-! ## Coming and going -/

/-- A node became another one: the tenancy under one handle was replaced, and nothing was
announced. -/
structure Replaces (handle : Handle) (tenancy? : Option Tenancy) (before after : Node) : Prop where
  settings : after.settings = before.settings
  sound : after.Sound
  tenancy : ∀ k, after.tenancy? k = if k = handle then tenancy? else before.tenancy? k
  trace : ∃ added, after.log = before.log ++ added ∧ hellosOf (framesOf added) = []

/-- Who has no address yet disturbs nobody. -/
theorem Orderly.replace (h : before.Orderly) {handle : Handle} {tenancy? : Option Tenancy}
    (hreplaces : Replaces handle tenancy? before after)
    (hfresh : ∀ t, tenancy? = some t → t.address = 0 ∧ t.Lawful) : after.Orderly := by
  have hback : ∀ k t, after.tenancy? k = some t →
      before.tenancy? k = some t ∨ t.address = 0 ∧ t.Lawful := by
    intro k t ht
    rw [hreplaces.tenancy] at ht
    split at ht
    · exact .inr (hfresh t ht)
    · exact .inl ht
  refine ⟨hreplaces.sound, ?_, ?_⟩
  · intro k t ht
    rcases hback k t ht with hold | hnew
    · exact h.lawful k t hold
    · exact hnew.2
  · intro j k t u ht hu hpos haddress
    rcases hback j t ht with hold | hnew
    · rcases hback k u hu with hold' | hnew'
      · exact h.distinct j k t u hold hold' hpos haddress
      · exact absurd (haddress.trans hnew'.1) hpos
    · exact absurd hnew.1 hpos

/-- The tenancy that an own driver is registered with. -/
def startTenancy? (settings : NodeSettings) (profile : DriverProfile) : Option Tenancy :=
  if profile.role.isLocal then
    some ⟨0, startSerial settings profile, profile.role.flags, false, false⟩
  else none

theorem startTenancy?_fresh {settings : NodeSettings} {profile : DriverProfile} {t : Tenancy}
    (h : startTenancy? settings profile = some t) : t.address = 0 ∧ t.Lawful := by
  unfold startTenancy? at h
  split at h
  · cases h
    exact ⟨rfl, by simp, by simp, by simp⟩
  · cases h

theorem mode_startStatus (settings : NodeSettings) (profile : DriverProfile) :
    DeviceFlags.mode (startStatus settings profile).flags = profile.role.flags := by
  unfold startStatus
  dsimp only
  split
  · show DeviceFlags.mode (profile.role.flags.insert DeviceFlags.confirmed) = _
    rw [DeviceFlags.mode_insert _ (by decide), profile.role.mode_flags]
  · exact profile.role.mode_flags

/-- A fresh entry has the tenancy of its profile. -/
theorem tenancy?_startStatus (settings : NodeSettings) (profile : DriverProfile)
    (registration : Registration) :
    (⟨startStatus settings profile, .driver registration⟩ : Entry).tenancy? =
      startTenancy? settings profile := by
  have hmode := mode_startStatus settings profile
  have hlocal : (startStatus settings profile).isLocal = profile.role.isLocal := by
    rw [Status.isLocal_eq_mode, hmode]
    rfl
  unfold Entry.tenancy? startTenancy?
  rw [hlocal]
  by_cases hown : profile.role.isLocal = true
  · rw [if_pos hown, if_pos hown]
    have hrole : profile.role ≠ .sniffer := by
      intro h
      rw [h] at hown
      revert hown
      decide
    have hflags : (startStatus settings profile).flags = profile.role.flags := by
      unfold startStatus
      dsimp only
      rw [if_neg hrole]
      rfl
    have hfresh : ∀ role : Role, role.flags.contains DeviceFlags.confirmed = false ∧
        role.flags.contains DeviceFlags.unconfirmed = false := by
      intro role
      cases role <;> decide
    have haddress : (startStatus settings profile).address = 0 := by
      unfold startStatus
      dsimp only
      rw [if_neg hrole]
      rfl
    have hserial : (startStatus settings profile).serial = startSerial settings profile := by
      unfold startStatus
      dsimp only
      rw [if_neg hrole]
      rfl
    simp only [Status.tenancy, Status.isConfirmed, Status.isUnconfirmed, hflags, haddress, hserial,
      profile.role.mode_flags, (hfresh profile.role).1, (hfresh profile.role).2]
  · rw [if_neg hown, if_neg hown]

variable {node : Node}

/-- A driver that is registered starts without an address, under a handle that nobody had. -/
theorem register_spec (hsound : node.Sound) {profile : DriverProfile} {driver : Driver}
    (hordinary : driver.IsOrdinary) {handle : Handle}
    (h : node.register profile driver = .ok (handle, after)) :
    Replaces handle (startTenancy? node.settings profile) node after ∧
      node.tenancy? handle = none ∧ (node.IsSilent → driver.payload? = none → after.IsSilent) := by
  obtain ⟨registry, hinsert, rfl⟩ := insert_of_register h
  obtain ⟨hfresh, hget⟩ := Registry.get?_of_insert hinsert
  refine ⟨⟨rfl, ⟨hsound.wellFormed.insert hinsert, ?_⟩, ?_, [], (List.append_nil _).symm, rfl⟩,
    ?_, ?_⟩
  · intro k entry hk
    rw [hget] at hk
    split at hk
    · cases hk
      exact ⟨hordinary, profile.role, mode_startStatus node.settings profile⟩
    · exact hsound.entries k entry hk
  · intro k
    unfold tenancy?
    rw [hget]
    by_cases hk : k = handle
    · rw [if_pos hk, if_pos hk]
      exact tenancy?_startStatus node.settings profile _
    · rw [if_neg hk, if_neg hk]
  · unfold tenancy?
    rw [hfresh]
    rfl
  · intro hsilent hpayload k entry hk
    rw [hget] at hk
    split at hk
    · cases hk
      exact hpayload
    · exact hsilent k entry hk

/-- A driver that is unregistered is gone, and the others are as they were. -/
theorem unregister_spec (hsound : node.Sound) {env : Env} {handle : Handle}
    {driver? : Option Driver} (h : node.unregister env handle = .ok (driver?, after)) :
    Replaces handle none node after ∧ (node.IsSilent → after.IsSilent) := by
  obtain ⟨entry, told, gone, registry, -, htold, hremove, rfl, -⟩ := remove_of_unregister h
  have hquiet : Quiet node told := by
    rw [htold]
    split
    · have hqueue := quiet_queueEvent hsound handle .removed
      exact hqueue.trans (quiet_call hqueue.sound env handle .removed)
    · exact .refl hsound
  obtain ⟨-, hget⟩ := Registry.get?_of_remove hremove
  refine ⟨⟨hquiet.settings, ⟨hquiet.wellFormed.remove hremove, ?_⟩, ?_, hquiet.trace⟩, ?_⟩
  · intro k old hk
    rw [hget] at hk
    split at hk
    · cases hk
    · exact hquiet.entries k old hk
  · intro k
    have hthen := tenancy?_of_quiet hquiet k
    unfold tenancy? at hthen ⊢
    rw [hget]
    by_cases hk : k = handle
    · rw [if_pos hk, if_pos hk]
      rfl
    · rw [if_neg hk, if_neg hk]
      exact hthen
  · intro hsilent k old hk
    rw [hget] at hk
    split at hk
    · cases hk
    · exact hquiet.silent hsilent k old hk

/-! ## Every step keeps order -/

theorem Orderly.register (h : node.Orderly) {profile : DriverProfile} {driver : Driver}
    (hordinary : driver.IsOrdinary) {handle : Handle}
    (hregister : node.register profile driver = .ok (handle, after)) : after.Orderly :=
  h.replace (register_spec h.sound hordinary hregister).1 fun _ => startTenancy?_fresh

theorem Orderly.unregister (h : node.Orderly) {env : Env} {handle : Handle}
    {driver? : Option Driver} (hunregister : node.unregister env handle = .ok (driver?, after)) :
    after.Orderly :=
  h.replace (unregister_spec h.sound hunregister).1 fun _ ht => by cases ht

/-- What a frame does to tenancies: at most one is released. -/
theorem receiveFrame_evolves (h : node.Orderly) (env : Env) (frame : Bytes) :
    ∃ change said, Evolves change said node (node.receiveFrame env frame) ∧
      ∀ k t, node.tenancy? k = some t → change k t = t ∨ change k t = t.released := by
  rcases receiveFrame_cases h.sound h.distinct env frame with
    ⟨_, handle, _, -, -, -, -, hevolves⟩ | ⟨cp, _, _, -, -, -, -, mid, hmid, heq⟩ | ⟨hquiet, -⟩
  · refine ⟨_, _, hevolves, fun k t _ => ?_⟩
    unfold only
    split
    · exact .inr rfl
    · exact .inl rfl
  · obtain ⟨added, hpost⟩ := post_cases env cp.flagged mid
    have hposted : Evolves still (hellosOf (framesOf added)) mid (mid.post env cp.flagged) :=
      evolves_of_registry_eq hmid.sound (by rw [hpost]) (by rw [hpost]) (by rw [hpost])
    rw [heq]
    exact ⟨still, _, hmid.then hposted, fun _ _ _ => .inl rfl⟩
  · exact ⟨still, [], hquiet, fun _ _ _ => .inl rfl⟩

theorem Orderly.receiveFrame (h : node.Orderly) (env : Env) (frame : Bytes) :
    (node.receiveFrame env frame).Orderly := by
  obtain ⟨change, said, hevolves, hchange⟩ := receiveFrame_evolves h env frame
  exact h.evolve hevolves hchange

/-- A turn keeps order: a drawn address was nobody's. -/
theorem Orderly.tickEntry (h : node.Orderly) (env : Env) (handle : Handle) :
    (tickEntry env node handle).Orderly := by
  obtain ⟨f, said, hevolves, hages, -⟩ := tickEntry_spec h.sound env handle
  have hback : ∀ k u, (Node.tickEntry env node handle).tenancy? k = some u →
      ∃ t, node.tenancy? k = some t ∧ (k = handle ∧ Ages node t u ∨ k ≠ handle ∧ u = t) := by
    intro k u hu
    rw [hevolves.tenancy, Option.map_eq_some_iff] at hu
    obtain ⟨t, ht, rfl⟩ := hu
    refine ⟨t, ht, ?_⟩
    unfold only
    by_cases hk : k = handle
    · subst hk
      rw [if_pos rfl]
      exact .inl ⟨rfl, hages t ht⟩
    · rw [if_neg hk]
      exact .inr ⟨hk, rfl⟩
  refine ⟨hevolves.sound, ?_, ?_⟩
  · intro k u hu
    obtain ⟨t, ht, ⟨-, hages⟩ | ⟨-, rfl⟩⟩ := hback k u hu
    · exact hages.lawful (h.lawful k t ht)
    · exact h.lawful k u ht
  · intro j k u v hu hv hpos haddress
    obtain ⟨t, ht, ⟨hj, hages⟩ | ⟨hj, rfl⟩⟩ := hback j u hu
    · obtain ⟨s, hs, ⟨hk, -⟩ | ⟨hk, rfl⟩⟩ := hback k v hv
      · exact hj.trans hk.symm
      · have hsame := hages.address_eq hs haddress
        exact h.distinct j k t v ht hs (hsame ▸ hpos) (hsame.trans haddress)
    · obtain ⟨s, hs, ⟨-, hages⟩ | ⟨hk, rfl⟩⟩ := hback k v hv
      · have hsame := hages.address_eq ht haddress.symm
        exact h.distinct j k u s ht hs hpos (haddress.trans hsame.symm)
      · exact h.distinct j k u v ht hs hpos haddress

theorem Orderly.tickEntries (h : node.Orderly) (env : Env) (handles : List Handle) :
    (handles.foldl (Node.tickEntry env) node).Orderly := by
  induction handles generalizing node with
  | nil => exact h
  | cons handle rest ih => exact ih (h.tickEntry env handle)

theorem Orderly.tick (h : node.Orderly) (env : Env) : (node.tick env).Orderly :=
  h.tickEntries env node.registry.handles

/-! ## Runs -/

/-- What a run can make of a fresh node: drivers come and go, frames arrive and ticks pass, each at
any time. Beside the node stand the roles of its drivers, under the handles they were registered
with. A step that fails leaves the node as it is. -/
inductive Reachable (settings : NodeSettings) (draws : Draws) :
    Node → (Handle → Option Role) → Prop where
  | start : Reachable settings draws (withDraws settings draws) fun _ => none
  | register {node after : Node} {roles : Handle → Option Role} {handle : Handle}
      {profile : DriverProfile} {driver : Driver} (before : Reachable settings draws node roles)
      (ordinary : driver.IsOrdinary) (ok : node.register profile driver = .ok (handle, after)) :
      Reachable settings draws after (Function.update roles handle (some profile.role))
  | unregister {node after : Node} {roles : Handle → Option Role} {env : Env} {handle : Handle}
      {driver? : Option Driver} (before : Reachable settings draws node roles)
      (ok : node.unregister env handle = .ok (driver?, after)) :
      Reachable settings draws after (Function.update roles handle none)
  | receive {node : Node} {roles : Handle → Option Role} (env : Env) (frame : Bytes)
      (before : Reachable settings draws node roles) :
      Reachable settings draws (node.receiveFrame env frame) roles
  | tick {node : Node} {roles : Handle → Option Role} (env : Env)
      (before : Reachable settings draws node roles) :
      Reachable settings draws (node.tick env) roles

/-- The tenancies are those of the own drivers that were registered, each with the bits of its
role. -/
def HasRoles (node : Node) (roles : Handle → Option Role) : Prop :=
  ∀ handle, (node.tenancy? handle).map (·.mode) =
    ((roles handle).filter Role.isLocal).map Role.flags

theorem HasRoles.evolve {roles : Handle → Option Role} (h : before.HasRoles roles)
    {change : Handle → Tenancy → Tenancy} {said : List ControlPacket}
    (hevolves : Evolves change said before after)
    (hchange : ∀ k t, before.tenancy? k = some t → (change k t).SameDriver t) :
    after.HasRoles roles := by
  intro k
  rw [← h k, hevolves.tenancy, Option.map_map]
  cases ht : before.tenancy? k with
  | none => rfl
  | some t => exact congrArg some (hchange k t ht).2

theorem HasRoles.replace {roles : Handle → Option Role} (h : before.HasRoles roles)
    {handle : Handle} {tenancy? : Option Tenancy} (hreplaces : Replaces handle tenancy? before after)
    {role? : Option Role}
    (hrole : tenancy?.map (·.mode) = (role?.filter Role.isLocal).map Role.flags) :
    after.HasRoles (Function.update roles handle role?) := by
  intro k
  rw [hreplaces.tenancy]
  by_cases hk : k = handle
  · subst hk
    rw [if_pos rfl, Function.update_self]
    exact hrole
  · rw [if_neg hk, Function.update_of_ne hk]
    exact h k

theorem map_mode_startTenancy? (settings : NodeSettings) (profile : DriverProfile) :
    (startTenancy? settings profile).map (·.mode) =
      ((some profile.role).filter Role.isLocal).map Role.flags := by
  unfold startTenancy?
  by_cases hlocal : profile.role.isLocal = true
  · rw [if_pos hlocal, Option.filter_some_pos hlocal]
    rfl
  · rw [if_neg hlocal, Option.filter_some_neg (Bool.not_eq_true _ ▸ hlocal)]
    rfl

/-- Every node that a run can reach is orderly, and its own drivers have their roles. -/
theorem Reachable.orderly {settings : NodeSettings} {draws : Draws} {roles : Handle → Option Role}
    (h : Reachable settings draws node roles) : node.Orderly ∧ node.HasRoles roles := by
  induction h with
  | start =>
    refine ⟨orderly_withDraws settings draws, fun k => ?_⟩
    simp [withDraws, tenancy?]
  | register _ ordinary ok ih =>
    have hspec := (register_spec ih.1.sound ordinary ok).1
    exact ⟨ih.1.register ordinary ok, ih.2.replace hspec (map_mode_startTenancy? _ _)⟩
  | unregister _ ok ih =>
    exact ⟨ih.1.unregister ok, ih.2.replace (unregister_spec ih.1.sound ok).1 rfl⟩
  | receive env frame _ ih =>
    obtain ⟨change, said, hevolves, hchange⟩ := receiveFrame_evolves ih.1 env frame
    refine ⟨ih.1.receiveFrame env frame, ih.2.evolve hevolves fun k t ht => ?_⟩
    rcases hchange k t ht with heq | heq
    · rw [heq]
      exact ⟨rfl, rfl⟩
    · rw [heq]
      exact t.sameDriver_released
  | @tick node roles env _ ih =>
    obtain ⟨change, said, hevolves, hturns, -⟩ := tick_spec ih.1.sound env
    refine ⟨ih.1.tick env, ih.2.evolve hevolves fun k t ht => ?_⟩
    obtain ⟨_, _, -, hages⟩ := hturns.turn k (mem_handles_of_tenancy? ih.1.sound ht) t ht
    exact hages.sameDriver

/-- The address lifecycle of a node's own drivers, which were registered with given roles. -/
structure Lifecycle (node : Node) (roles : Handle → Option Role) : Prop where
  /-- Every own driver is there and keeps exactly the bits of its role. -/
  role : ∀ handle role, roles handle = some role → role.isLocal = true →
    ∃ status, node.status? handle = some status ∧ DeviceFlags.mode status.flags = role.flags
  /-- No other entry shows as an own driver. -/
  registered : ∀ handle status, node.status? handle = some status → status.isLocal = true →
    ∃ role, roles handle = some role ∧ role.isLocal = true
  /-- There is no address exactly if the driver is neither confirmed nor on probation. -/
  address_eq_zero_iff : ∀ handle status, node.status? handle = some status →
    status.isLocal = true →
    (status.address = 0 ↔ status.isConfirmed = false ∧ status.isUnconfirmed = false)
  /-- An address is one of a device and goes with exactly one of the two flags. -/
  address_range : ∀ handle status, node.status? handle = some status → status.isLocal = true →
    status.address ≠ 0 → 1 ≤ status.address.toNat ∧ status.address.toNat ≤ 254 ∧
      status.isConfirmed = !status.isUnconfirmed
  /-- No two own drivers have the same address. -/
  distinct : ∀ h k s t, node.status? h = some s → node.status? k = some t → s.isLocal = true →
    t.isLocal = true → s.address ≠ 0 → s.address = t.address → h = k

theorem tenancy?_of_status? {handle : Handle} {status : Status}
    (h : node.status? handle = some status) (hlocal : status.isLocal = true) :
    node.tenancy? handle = some status.tenancy := by
  obtain ⟨entry, hentry, rfl⟩ := Option.map_eq_some_iff.1 h
  exact tenancy?_eq_some_iff.2 ⟨entry, hentry, hlocal, rfl⟩

theorem Orderly.lifecycle (h : node.Orderly) {roles : Handle → Option Role}
    (hroles : node.HasRoles roles) : node.Lifecycle roles where
  role handle role hrole hlocal := by
    have hmode := hroles handle
    rw [hrole, Option.filter_some_pos hlocal] at hmode
    obtain ⟨t, ht, hflags⟩ := Option.map_eq_some_iff.1 hmode
    obtain ⟨entry, hentry, -, rfl⟩ := tenancy?_eq_some_iff.1 ht
    exact ⟨entry.status, by simp [status?, hentry], hflags⟩
  registered handle status hstatus hlocal := by
    have hmode := hroles handle
    rw [tenancy?_of_status? hstatus hlocal] at hmode
    obtain ⟨role, hrole, -⟩ := Option.map_eq_some_iff.1 hmode.symm
    obtain ⟨hsome, hown⟩ := Option.filter_eq_some_iff.1 hrole
    exact ⟨role, hsome, hown⟩
  address_eq_zero_iff handle status hstatus hlocal :=
    (h.lawful handle _ (tenancy?_of_status? hstatus hlocal)).address_eq_zero_iff
  address_range handle status hstatus hlocal hpos := by
    have hlawful := h.lawful handle _ (tenancy?_of_status? hstatus hlocal)
    refine ⟨?_, hlawful.address_le, ?_⟩
    · rw [Nat.one_le_iff_ne_zero]
      exact fun hzero => hpos (UInt8.toNat_inj.1 hzero)
    · have hsome : ¬ (status.isConfirmed = false ∧ status.isUnconfirmed = false) :=
        fun hnone => hpos (hlawful.address_eq_zero_iff.2 hnone)
      have hone : ¬ (status.isConfirmed = true ∧ status.isUnconfirmed = true) := hlawful.not_both
      cases hconfirmed : status.isConfirmed <;> cases hunconfirmed : status.isUnconfirmed <;>
        simp_all
  distinct j k s t hs ht hlocal hlocal' hpos haddress :=
    h.distinct j k s.tenancy t.tenancy (tenancy?_of_status? hs hlocal)
      (tenancy?_of_status? ht hlocal') hpos haddress

/-- **The life of an address.** Whatever comes and goes, whatever frames arrive and however
addresses are drawn, the address lifecycle holds; and a tick leaves an own driver without an address
only if every address was in use when its turn came. -/
theorem lifecycle_of_reachable {settings : NodeSettings} {draws : Draws}
    {roles : Handle → Option Role} (h : Reachable settings draws node roles) :
    node.Lifecycle roles ∧
      ∀ env handle status, (node.tick env).status? handle = some status → status.isLocal = true →
        status.address = 0 → ∃ earlier later, node.registry.handles = earlier ++ handle :: later ∧
          ∀ address : UInt8, address ≠ 0 → address.toNat ≤ 254 →
            (earlier.foldl (tickEntry env) node).registry.isInUse address = true := by
  obtain ⟨horderly, hroles⟩ := h.orderly
  refine ⟨horderly.lifecycle hroles, ?_⟩
  intro env handle status hstatus hlocal hzero
  obtain ⟨change, said, hevolves, hturns, -⟩ := tick_spec horderly.sound env
  have hafter := tenancy?_of_status? hstatus hlocal
  rw [hevolves.tenancy, Option.map_eq_some_iff] at hafter
  obtain ⟨t, ht, heq⟩ := hafter
  obtain ⟨earlier, later, hsplit, hages⟩ :=
    hturns.turn handle (mem_handles_of_tenancy? horderly.sound ht) t ht
  rw [heq] at hages
  exact ⟨earlier, later, hsplit, hages.isCrowded hzero⟩

/-- A host that was registered with a fresh node, after its first tick. -/
theorem lifecycle_of_first_tick :
    ∃ handle after, (withDraws {} ⟨fun _ => 0, 0⟩).register ⟨.host, 1, some 7, none⟩ .quiet =
        .ok (handle, after) ∧
      (after.tick { refusal := none, now := 0 }).Lifecycle
        (Function.update (fun _ => none) handle (some Role.host)) := by
  have hregister : ∃ handle after,
      (withDraws {} ⟨fun _ => 0, 0⟩).register ⟨.host, 1, some 7, none⟩ .quiet =
        .ok (handle, after) := ⟨_, _, rfl⟩
  obtain ⟨handle, after, h⟩ := hregister
  have hordinary : Driver.quiet.IsOrdinary := trivial
  exact ⟨handle, after, h,
    (lifecycle_of_reachable (.tick _ (.register .start hordinary h))).1⟩

end Node

end DeviceBus
