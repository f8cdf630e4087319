import DeviceBus.Node.Tick
import DeviceBus.Proofs.Node.Arrivals

/-!
# How a node evolves

A step of a node is seen from outside by what it makes of the tenancies of the node's own drivers
and by the announces it sends. `Evolves change said before after` says both at once: the tenancy
under each handle changed as `change` says, and `said` are the announces that were sent. Evolutions
compose, so the evolution of a step follows from those of its parts.

Most parts are quiet: they change no tenancy and announce nothing.

## Main results

* `Evolves.trans`: evolutions compose.
* `evolves_update`: a change of one entry is an evolution at its handle.
* `quiet_call`: whatever an ordinary driver is told, the node stays quiet.
* `insert_of_register`, `remove_of_unregister`: what registering and taking out do to the registry.
-/

namespace DeviceBus

/-! ## Entries -/

namespace Entry

/-- The tenancy of an own driver. -/
def tenancy? (entry : Entry) : Option Tenancy :=
  if entry.status.isLocal then some entry.status.tenancy else none

/-- The payload that announces of the entry get. -/
def payload? (entry : Entry) : Option Bytes :=
  match entry.kind with
  | .driver registration => registration.driver.payload?
  | .record => none

/-- Drivers are ordinary and have a role, records have none. -/
def Sound (entry : Entry) : Prop :=
  match entry.kind with
  | .driver registration => registration.driver.IsOrdinary ∧ entry.status.HasRole
  | .record => DeviceFlags.mode entry.status.flags = Flags.none

theorem tenancy?_eq_some_iff {entry : Entry} {tenancy : Tenancy} :
    entry.tenancy? = some tenancy ↔
      entry.status.isLocal = true ∧ entry.status.tenancy = tenancy := by
  unfold tenancy?
  split
  · rename_i h
    simp [h]
  · rename_i h
    simp [h]

/-- A status with the same role bits is as sound as the one before. -/
theorem Sound.of_mode_eq {entry : Entry} (h : entry.Sound) {status : Status}
    (hmode : DeviceFlags.mode status.flags = DeviceFlags.mode entry.status.flags) :
    ({ entry with status } : Entry).Sound := by
  obtain ⟨old, kind⟩ := entry
  cases kind with
  | driver registration =>
    obtain ⟨hordinary, role, hrole⟩ := h
    exact ⟨hordinary, role, hmode.trans hrole⟩
  | record => exact hmode.trans h

/-- A record is neither an own driver nor a remote one. -/
theorem Sound.record_flags {entry : Entry} (h : entry.Sound) (hrecord : entry.isRecord = true) :
    entry.status.isLocal = false ∧ entry.status.isVirtual = false := by
  obtain ⟨status, kind⟩ := entry
  cases kind with
  | driver registration => cases hrecord
  | record =>
    have hmode : DeviceFlags.mode status.flags = Flags.none := h
    rw [Status.isLocal_eq_mode, Status.isVirtual_eq_mode, hmode]
    exact ⟨by decide, by decide⟩

/-- No entry is both an own driver and a remote one. -/
theorem Sound.not_isLocal_of_isVirtual {entry : Entry} (h : entry.Sound)
    (hvirtual : entry.status.isVirtual = true) : entry.status.isLocal = false := by
  obtain ⟨status, kind⟩ := entry
  cases kind with
  | driver registration => exact h.2.not_isLocal_of_isVirtual hvirtual
  | record => exact (h.record_flags rfl).1

end Entry

/-! ## Nodes -/

namespace Node

/-- The tenancy of an own driver. -/
def tenancy? (handle : Handle) (node : Node) : Option Tenancy :=
  (node.registry.get? handle).bind Entry.tenancy?

/-- No driver puts a payload into announces. -/
def IsSilent (node : Node) : Prop :=
  ∀ handle entry, node.registry.get? handle = some entry → entry.payload? = none

/-- The registry is well formed and so is every entry. -/
structure Sound (node : Node) : Prop where
  wellFormed : node.registry.WellFormed
  entries : ∀ handle entry, node.registry.get? handle = some entry → entry.Sound

/-- No tenancy changes. -/
def still : Handle → Tenancy → Tenancy := fun _ tenancy => tenancy

/-- The tenancy under one handle changes. -/
def only (handle : Handle) (change : Tenancy → Tenancy) : Handle → Tenancy → Tenancy :=
  fun k tenancy => if k = handle then change tenancy else tenancy

@[simp] theorem map_still (handle : Handle) (tenancy? : Option Tenancy) :
    tenancy?.map (still handle) = tenancy? := by
  cases tenancy? <;> rfl

/-- A node became another one: its tenancies changed in a given way, and it sent given
announces. -/
structure Evolves (change : Handle → Tenancy → Tenancy) (said : List ControlPacket)
    (before after : Node) : Prop where
  settings : after.settings = before.settings
  wellFormed : after.registry.WellFormed
  entries : ∀ handle entry, after.registry.get? handle = some entry → entry.Sound
  silent : before.IsSilent → after.IsSilent
  tenancy : ∀ handle, after.tenancy? handle = (before.tenancy? handle).map (change handle)
  trace : ∃ added, after.log = before.log ++ added ∧ hellosOf (framesOf added) = said

/-- A node became another one without a change of tenancies and without an announce. -/
abbrev Quiet (before after : Node) : Prop := Evolves still [] before after

theorem Evolves.sound {change : Handle → Tenancy → Tenancy} {said : List ControlPacket}
    {before after : Node} (h : Evolves change said before after) : after.Sound :=
  ⟨h.wellFormed, h.entries⟩

theorem Quiet.refl {node : Node} (h : node.Sound) : Quiet node node where
  settings := rfl
  wellFormed := h.wellFormed
  entries := h.entries
  silent := id
  tenancy _ := (map_still _ _).symm
  trace := ⟨[], (List.append_nil _).symm, rfl⟩

/-- Evolutions compose. -/
theorem Evolves.trans {c d : Handle → Tenancy → Tenancy} {x y : List ControlPacket}
    {first second third : Node} (h : Evolves c x first second) (h' : Evolves d y second third) :
    Evolves (fun handle tenancy => d handle (c handle tenancy)) (x ++ y) first third where
  settings := h'.settings.trans h.settings
  wellFormed := h'.wellFormed
  entries := h'.entries
  silent := fun hsilent => h'.silent (h.silent hsilent)
  tenancy handle := by
    rw [h'.tenancy, h.tenancy, Option.map_map]
    rfl
  trace := by
    obtain ⟨added, hlog, hsaid⟩ := h.trace
    obtain ⟨more, hlog', hsaid'⟩ := h'.trace
    refine ⟨added ++ more, ?_, ?_⟩
    · rw [hlog', hlog, List.append_assoc]
    · rw [framesOf_append, hellosOf_append, hsaid, hsaid']

theorem Quiet.trans {first second third : Node} (h : Quiet first second)
    (h' : Quiet second third) : Quiet first third :=
  Evolves.trans h h'

/-- A quiet part before an evolution makes no difference. -/
theorem Quiet.then {c : Handle → Tenancy → Tenancy} {x : List ControlPacket}
    {first second third : Node} (h : Quiet first second) (h' : Evolves c x second third) :
    Evolves c x first third :=
  Evolves.trans h h'

/-- A quiet part after an evolution makes no difference. -/
theorem Evolves.thenQuiet {c : Handle → Tenancy → Tenancy} {x : List ControlPacket}
    {first second third : Node} (h : Evolves c x first second) (h' : Quiet second third) :
    Evolves c x first third := by
  have := Evolves.trans h h'
  rw [List.append_nil] at this
  exact this

theorem tenancy?_of_quiet {before after : Node} (h : Quiet before after) (handle : Handle) :
    after.tenancy? handle = before.tenancy? handle := by
  rw [h.tenancy, map_still]

/-! ## Changes of one entry -/

/-- A change of one entry that keeps it sound and keeps its payload is an evolution. -/
theorem evolves_update {before after : Node} (hsound : before.Sound) {handle : Handle}
    {change : Entry → Entry} {f : Tenancy → Tenancy} {said : List ControlPacket}
    (hsettings : after.settings = before.settings) (hwf : after.registry.WellFormed)
    (hget : ∀ k, after.registry.get? k =
      if k = handle then (before.registry.get? handle).map change else before.registry.get? k)
    (hentry : ∀ entry, before.registry.get? handle = some entry → (change entry).Sound ∧
      (change entry).payload? = entry.payload? ∧ (change entry).tenancy? = entry.tenancy?.map f)
    (htrace : ∃ added, after.log = before.log ++ added ∧ hellosOf (framesOf added) = said) :
    Evolves (only handle f) said before after where
  settings := hsettings
  wellFormed := hwf
  entries := by
    intro k entry hk
    rw [hget] at hk
    split at hk
    · obtain ⟨old, hold, rfl⟩ := Option.map_eq_some_iff.1 hk
      exact (hentry old hold).1
    · exact hsound.entries k entry hk
  silent := by
    intro hsilent k entry hk
    rw [hget] at hk
    split at hk
    · obtain ⟨old, hold, rfl⟩ := Option.map_eq_some_iff.1 hk
      rw [(hentry old hold).2.1]
      exact hsilent handle old hold
    · exact hsilent k entry hk
  tenancy := by
    intro k
    unfold tenancy? only
    rw [hget]
    by_cases hk : k = handle
    · rw [if_pos hk, hk]
      cases hold : before.registry.get? handle with
      | none => rfl
      | some old =>
        simp only [Option.map_some, Option.bind_some, (hentry old hold).2.2, ↓reduceIte]
    · simp [hk]
  trace := htrace

theorem only_id (handle : Handle) : only handle (fun tenancy => tenancy) = still := by
  funext k tenancy
  simp [only, still]

/-- A change of one entry that keeps its tenancy is quiet, if nothing is announced. -/
theorem quiet_update {before after : Node} (hsound : before.Sound) {handle : Handle}
    {change : Entry → Entry}
    (hsettings : after.settings = before.settings) (hwf : after.registry.WellFormed)
    (hget : ∀ k, after.registry.get? k =
      if k = handle then (before.registry.get? handle).map change else before.registry.get? k)
    (hentry : ∀ entry, before.registry.get? handle = some entry → (change entry).Sound ∧
      (change entry).payload? = entry.payload? ∧ (change entry).tenancy? = entry.tenancy?)
    (htrace : ∃ added, after.log = before.log ++ added ∧ hellosOf (framesOf added) = []) :
    Quiet before after := by
  have h := evolves_update hsound (f := fun tenancy => tenancy) hsettings hwf hget
    (fun entry hold => by simpa using hentry entry hold) htrace
  rwa [only_id] at h

variable {node : Node} (hsound : node.Sound)

include hsound in
/-- A change of a status that keeps the role bits is an evolution. -/
theorem evolves_modifyStatus (handle : Handle) {change : Status → Status} {f : Tenancy → Tenancy}
    (hchange : ∀ status, DeviceFlags.mode (change status).flags = DeviceFlags.mode status.flags ∧
      (change status).tenancy = f status.tenancy) :
    Evolves (only handle f) [] node (node.modifyStatus handle change) := by
  refine evolves_update hsound rfl (hsound.wellFormed.modify handle _)
    (node.registry.get?_modify handle _) ?_ ⟨[], (List.append_nil _).symm, rfl⟩
  intro entry hentry
  refine ⟨(hsound.entries handle entry hentry).of_mode_eq (hchange entry.status).1, rfl, ?_⟩
  have hlocal : (change entry.status).isLocal = entry.status.isLocal := by
    rw [Status.isLocal_eq_mode, Status.isLocal_eq_mode, (hchange entry.status).1]
  show (if (change entry.status).isLocal then some (change entry.status).tenancy else none) =
    (if entry.status.isLocal then some entry.status.tenancy else none).map f
  rw [hlocal, (hchange entry.status).2]
  split <;> rfl

include hsound in
/-- A change of the status of what is no own driver is quiet if it stays none. -/
theorem quiet_modifyStatus_of_not_isLocal (handle : Handle) {change : Status → Status}
    (hmode : ∀ status, DeviceFlags.mode (change status).flags = DeviceFlags.mode status.flags)
    (hlocal : ∀ entry, node.registry.get? handle = some entry → entry.status.isLocal = false) :
    Quiet node (node.modifyStatus handle change) := by
  refine quiet_update hsound rfl (hsound.wellFormed.modify handle _)
    (node.registry.get?_modify handle _) ?_ ⟨[], (List.append_nil _).symm, rfl⟩
  intro entry hentry
  refine ⟨(hsound.entries handle entry hentry).of_mode_eq (hmode entry.status), rfl, ?_⟩
  have hold := hlocal entry hentry
  have hnew : (change entry.status).isLocal = false := by
    rw [Status.isLocal_eq_mode, hmode, ← Status.isLocal_eq_mode, hold]
  show (if (change entry.status).isLocal then some (change entry.status).tenancy else none) =
    if entry.status.isLocal then some entry.status.tenancy else none
  simp [hold, hnew]

include hsound in
theorem quiet_modifyStatus (handle : Handle) {change : Status → Status}
    (hchange : ∀ status, DeviceFlags.mode (change status).flags = DeviceFlags.mode status.flags ∧
      (change status).tenancy = status.tenancy) : Quiet node (node.modifyStatus handle change) := by
  have h := evolves_modifyStatus (f := fun tenancy => tenancy) hsound handle hchange
  rwa [only_id] at h

include hsound in
/-- What a registration says besides its driver is no matter of tenancies. -/
theorem quiet_modifyRegistration (handle : Handle) {change : Registration → Registration}
    (hdriver : ∀ registration, (change registration).driver = registration.driver) :
    Quiet node (node.modifyRegistration handle change) := by
  refine quiet_update hsound rfl (hsound.wellFormed.modify handle _)
    (node.registry.get?_modify handle _) ?_ ⟨[], (List.append_nil _).symm, rfl⟩
  intro entry hentry
  have hold := hsound.entries handle entry hentry
  obtain ⟨status, kind⟩ := entry
  cases kind with
  | record => exact ⟨hold, rfl, rfl⟩
  | driver registration =>
    refine ⟨⟨?_, hold.2⟩, ?_, rfl⟩
    · rw [hdriver]
      exact hold.1
    · show (change registration).driver.payload? = registration.driver.payload?
      rw [hdriver]

include hsound in
/-- Whatever an ordinary driver is told, the node stays quiet. -/
theorem quiet_call (env : Env) (handle : Handle) (callback : Callback) :
    Quiet node (node.call env handle callback).2 := by
  unfold call
  split
  · rename_i status registration hentry
    have hordinary := (hsound.entries handle _ hentry).1
    let ctx : Context := ⟨env, handle, status, node.log ++ [.called handle callback]⟩
    have hspec := Driver.respond_spec hordinary callback ctx
    obtain ⟨added, hadded, hhellos⟩ := hspec.trace
    have htenancy := Status.tenancy_eq_of_unbonded_eq hspec.unbonded
    refine quiet_update hsound rfl (hsound.wellFormed.set handle _)
      (node.registry.get?_set handle _) ?_ ⟨.called handle callback :: added, ?_, ?_⟩
    · intro entry hentry'
      rw [hentry] at hentry'
      cases hentry'
      refine ⟨⟨hspec.ordinary, ?_⟩, hspec.payload, ?_⟩
      · obtain ⟨role, hrole⟩ := (hsound.entries handle _ hentry).2
        exact ⟨role, (Status.mode_of_unbonded_eq hspec.unbonded).trans hrole⟩
      · show (if (registration.driver.respond callback ctx).context.status.isLocal then
            some (registration.driver.respond callback ctx).context.status.tenancy else none) =
          if status.isLocal then some status.tenancy else none
        rw [htenancy, Status.isLocal_eq_of_tenancy_eq htenancy]
    · show (registration.driver.respond callback ctx).context.log =
        node.log ++ .called handle callback :: added
      rw [hadded.log]
      simp [ctx]
    · exact hhellos
  · exact .refl hsound

include hsound in
/-- An addition to the trace that is no frame is quiet. -/
theorem quiet_queueEvent (handle : Handle) (kind : EventKind) :
    Quiet node (node.queueEvent handle kind) where
  settings := rfl
  wellFormed := hsound.wellFormed
  entries := hsound.entries
  silent := id
  tenancy k := by
    rw [map_still]
    rfl
  trace := ⟨[.event ⟨handle, kind⟩], rfl, rfl⟩

include hsound in
/-- A post that is taken announces its packet. -/
theorem evolves_post {env : Env} {cp : ControlPacket} (henv : env.refusal = none)
    (htype : cp.type = .hello) (hfit : cp.payload.length ≤ controlPayloadLimit) :
    Evolves still [cp] node (node.post env cp) := by
  have hpost : node.post env cp = node.trace (.sent cp.frame) := by
    unfold post
    rw [Env.controlFrame_eq_ok_iff.2 ⟨henv, hfit, rfl⟩]
  rw [hpost]
  exact
    { settings := rfl
      wellFormed := hsound.wellFormed
      entries := hsound.entries
      silent := id
      tenancy := fun k => by
        rw [map_still]
        rfl
      trace := ⟨[.sent cp.frame], rfl, hellosOf_frame htype hfit⟩ }

/-- A record that was just made is sound. -/
theorem sound_freshRecord (cp : ControlPacket) : (⟨.recorded cp, .record⟩ : Entry).Sound := by
  show DeviceFlags.mode (DeviceFlags.record ∪ DeviceFlags.confirmed ∪ DeviceFlags.seen) = Flags.none
  decide

/-- Records have no tenancy. -/
theorem tenancy?_of_record {status : Status} (h : (⟨status, .record⟩ : Entry).Sound) :
    Entry.tenancy? ⟨status, .record⟩ = none := by
  unfold Entry.tenancy?
  rw [(h.record_flags rfl).1]
  rfl

include hsound in
/-- Records are no matter of tenancies. -/
theorem quiet_recordDevice (cp : ControlPacket) : Quiet node (node.recordDevice cp) := by
  have hseen : ∀ {k : Handle} {status : Status},
      node.registry.get? k = some ⟨status, .record⟩ →
        (⟨status.mark DeviceFlags.seen, .record⟩ : Entry).Sound := fun here =>
    (hsound.entries _ _ here).of_mode_eq (congrArg Tenancy.mode (Status.tenancy_mark_seen _))
  refine ⟨by rw [recordDevice_eq], wellFormed_recordDevice cp hsound.wellFormed,
    fun k entry hk => ?_, fun hsilent k entry hk => ?_, fun k => ?_,
    [], (log_recordDevice cp).trans (List.append_nil _).symm, rfl⟩
  · cases noting cp node k with
    | same eq => exact hsound.entries k entry (eq.symm.trans hk)
    | seen here _ eq =>
      cases eq.symm.trans hk
      exact hseen here
    | noted _ _ _ eq =>
      cases eq.symm.trans hk
      exact sound_freshRecord cp
  · cases noting cp node k with
    | same eq => exact hsilent k entry (eq.symm.trans hk)
    | seen _ _ eq | noted _ _ _ eq =>
      cases eq.symm.trans hk
      rfl
  · rw [map_still]
    unfold tenancy?
    cases noting cp node k with
    | same eq => rw [eq]
    | seen here _ eq =>
      rw [eq, here]
      exact (tenancy?_of_record (hseen here)).trans
        (tenancy?_of_record (hsound.entries k _ here)).symm
    | noted free _ _ eq =>
      rw [eq, free]
      exact tenancy?_of_record (sound_freshRecord cp)

/-! ## Coming and going -/

/-- What a node keeps of a driver that was just registered. -/
def newcomer (settings : NodeSettings) (profile : DriverProfile) (driver : Driver) :
    Status × Registration :=
  (startStatus settings profile,
    { driver
      requiredSerial := if profile.role.isLocal then 0 else startSerial settings profile
      wantedAddress := profile.wantedAddress
      partnerSilence := 0 })

/-- A driver that is registered is stored under the handle of a new entry. -/
theorem insert_of_register {node after : Node} {profile : DriverProfile} {driver : Driver}
    {handle : Handle} (ok : node.register profile driver = .ok (handle, after)) :
    ∃ registry, node.registry.insert ⟨(newcomer node.settings profile driver).1,
        .driver (newcomer node.settings profile driver).2⟩ = .ok (handle, registry) ∧
      after = { node with registry } := by
  unfold register at ok
  dsimp only at ok
  split at ok
  · cases ok
  · rename_i hinsert
    cases ok
    exact ⟨_, hinsert, rfl⟩

/-- What is unregistered is told first, if it is a driver that is connected, and then taken out. -/
theorem remove_of_unregister {node after : Node} {env : Env} {handle : Handle}
    {left : Option Driver} (ok : node.unregister env handle = .ok (left, after)) :
    ∃ entry told gone registry, node.registry.get? handle = some entry ∧
      told = (if !entry.isRecord && entry.status.isConnected then node.tellRemoved env handle
        else node) ∧
      told.registry.remove handle = some (gone, registry) ∧ after = { told with registry } ∧
      left = gone.registration?.map (·.driver) := by
  unfold unregister at ok
  split at ok
  · cases ok
  · rename_i entry hentry
    dsimp only at ok
    split at ok
    · cases ok
    · rename_i gone registry hremove
      cases ok
      exact ⟨entry, _, gone, registry, hentry, rfl, hremove, rfl, rfl⟩

end Node

end DeviceBus
