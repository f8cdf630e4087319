import DeviceBus.Proofs.Node.Discovery
import DeviceBus.Proofs.Node.Places
import DeviceBus.Proofs.Node.Routing

/-!
# Hearing of a class

A connected broadcast driver has every device of its class recorded that announces itself for
certain. Then there is an entry for the device, and the data that it sends is handed to the driver.
The announce itself may take an entry for the device to where it is: a remote driver follows it, or
is connected to it. In the end the device is `Sited`.

There is no second entry for one serial number at one address, whatever the classes: where an entry
of another class has both, nothing is recorded, and the driver hears the device only if there is
another reason to.

## Main results

* `attends_receiveAnnounce`: what an announce at a foreign address makes of the entries of a node;
  if a connected broadcast driver of its class hears it, an entry has its address and its serial
  number.
* `hearing_of_comes`: which data of an announced device a broadcast driver hears.
-/

namespace DeviceBus

open ControlPacket

/-- A connected foreign device of the announced class, under the announced serial number and at the
announced address. -/
structure Status.Sited (cp : ControlPacket) (status : Status) : Prop where
  address : status.address = cp.address
  serial : status.serial = cp.serial
  deviceClass : status.deviceClass = cp.deviceClass
  connected : status.isConnected = true
  foreign : status.isLocal = false

theorem Status.Sited.of_official_eq {cp : ControlPacket} {before after : Status}
    (h : before.Sited cp) (hofficial : after.official = before.official) : after.Sited cp where
  address := (address_of_official_eq hofficial).trans h.address
  serial := (serial_of_official_eq hofficial).trans h.serial
  deviceClass := (deviceClass_of_official_eq hofficial).trans h.deviceClass
  connected := (isConnected_of_official_eq hofficial).trans h.connected
  foreign := (isLocal_of_mode_eq (mode_of_official_eq hofficial)).trans h.foreign

/-- A mild driver with a role, or a record without one. -/
def Entry.IsOrderly (_ : Handle) (entry : Entry) : Prop :=
  match entry.kind with
  | .driver registration => registration.driver.IsMild ∧ entry.status.HasRole
  | .record => DeviceFlags.mode entry.status.flags = Flags.none

theorem Entry.isInvariant_isOrderly : Entry.IsInvariant (fun _ _ => True) Entry.IsOrderly where
  record _ status hmode := hmode.trans (by decide)
  restate {_ _ _ kind} hmode _ h := by
    cases kind with
    | driver registration => exact ⟨h.1, h.2.of_mode_eq hmode⟩
    | record => exact hmode.trans h
  rebook hdriver _ h := ⟨hdriver ▸ h.1, h.2⟩
  tell {callback ctx _} _ h := by
    have hreply := h.1.respond callback ctx
    exact ⟨hreply.mild, h.2.of_mode_eq (Status.mode_of_official_eq hreply.official)⟩

/-- What follows a device or waits for one owns no address. -/
theorem Entry.IsOrderly.foreign {handle : Handle} {entry : Entry} (h : entry.IsOrderly handle)
    (hvirtual : entry.status.isVirtual = true) : entry.status.isLocal = false := by
  obtain ⟨status, kind⟩ := entry
  cases kind with
  | driver registration => exact h.2.not_isLocal_of_isVirtual hvirtual
  | record =>
    have hmode : DeviceFlags.mode status.flags = Flags.none := h
    rw [Status.isLocal_eq_mode, hmode]
    decide

namespace Registry

variable {α : Type} (registry : Registry α) (handle : Handle)

@[simp] theorem isFull_set (entry : α) : (registry.set handle entry).isFull = registry.isFull := by
  unfold set
  split <;> rfl

@[simp] theorem isFull_modify (change : α → α) :
    (registry.modify handle change).isFull = registry.isFull := by
  unfold modify
  split
  · exact registry.isFull_set handle _
  · rfl

end Registry

namespace Node

variable {node before mid after : Node} {cp : ControlPacket} {handle k : Handle} {status : Status}
  {registration : Registration}

/-! ## What an announce makes of entries -/

/-- No own driver has an address. -/
def IsUnowned (address : UInt8) (node : Node) : Prop :=
  ∀ k entry, node.registry.get? k = some entry → entry.status.isLocal = true →
    entry.status.address ≠ address

/-- What an announce at a foreign address makes of the entries of a node: all of them stay, new ones
are of the announced device, and what changes in the view of the node is that a device is sited.
Only entries for the device take up room. -/
structure Attends (cp : ControlPacket) (before after : Node) : Prop where
  kept : ∀ k entry, before.registry.get? k = some entry →
    ∃ later, after.registry.get? k = some later ∧
      (later.status.Sited cp ∨ later.status.official = entry.status.official)
  origin : ∀ k later, after.registry.get? k = some later → later.status.Sited cp ∨
    ∃ entry, before.registry.get? k = some entry ∧ later.status.official = entry.status.official
  room : after.registry.isFull = true → before.registry.isFull = true ∨ Knows cp after

theorem attends_of_registry_eq (h : after.registry = before.registry) :
    Attends cp before after where
  kept _ entry hentry := ⟨entry, h ▸ hentry, .inr rfl⟩
  origin _ later hlater := .inr ⟨later, h ▸ hlater, rfl⟩
  room hfull := .inl (h ▸ hfull)

theorem Attends.knows (h : Attends cp before after) (hknows : Knows cp before) :
    Knows cp after := by
  obtain ⟨k, entry, hentry, haddress, hserial⟩ := hknows
  obtain ⟨later, hlater, hsited | hofficial⟩ := h.kept k entry hentry
  · exact ⟨k, later, hlater, hsited.address, hsited.serial⟩
  · exact ⟨k, later, hlater, (Status.address_of_official_eq hofficial).trans haddress,
      (Status.serial_of_official_eq hofficial).trans hserial⟩

theorem Attends.trans (h : Attends cp before mid) (h' : Attends cp mid after) :
    Attends cp before after where
  kept k entry hentry := by
    obtain ⟨next, hnext, hwhy⟩ := h.kept k entry hentry
    obtain ⟨later, hlater, hsited | hofficial⟩ := h'.kept k next hnext
    · exact ⟨later, hlater, .inl hsited⟩
    · exact ⟨later, hlater, hwhy.imp (·.of_official_eq hofficial) hofficial.trans⟩
  origin k later hlater := by
    rcases h'.origin k later hlater with hsited | ⟨next, hnext, hofficial⟩
    · exact .inl hsited
    · rcases h.origin k next hnext with hsited | ⟨entry, hentry, hsame⟩
      · exact .inl (hsited.of_official_eq hofficial)
      · exact .inr ⟨entry, hentry, hofficial.trans hsame⟩
  room hfull := by
    rcases h'.room hfull with hmid | hknows
    · exact (h.room hmid).imp_right h'.knows
    · exact .inr hknows

theorem Attends.isUnowned (h : Attends cp before after) (hbefore : before.IsUnowned cp.address) :
    after.IsUnowned cp.address := by
  intro k later hlater hlocal
  rcases h.origin k later hlater with hsited | ⟨entry, hentry, hofficial⟩
  · exact absurd (hsited.foreign.symm.trans hlocal) Bool.false_ne_true
  · rw [Status.isLocal_of_mode_eq (Status.mode_of_official_eq hofficial)] at hlocal
    rw [Status.address_of_official_eq hofficial]
    exact hbefore k entry hentry hlocal

/-- While there is room for a record, or none is needed, there is room after an announce came to
others, or none is needed. -/
theorem Attends.hasRoom (h : Attends cp before after)
    (hroom : before.registry.isFull = false ∨ Knows cp before) :
    after.registry.isFull = false ∨ Knows cp after := by
  cases hfull : after.registry.isFull with
  | false => exact .inl rfl
  | true =>
    rcases h.room hfull with hbefore | hknows
    · exact .inr (h.knows (hroom.resolve_left (by rw [hbefore]; decide)))
    · exact .inr hknows

/-- A change of one entry. -/
theorem attends_update {change : Entry → Entry}
    (hget : ∀ k, after.registry.get? k =
      if k = handle then (before.registry.get? handle).map change else before.registry.get? k)
    (hfull : after.registry.isFull = before.registry.isFull)
    (hchange : ∀ entry, before.registry.get? handle = some entry →
      (change entry).status.Sited cp ∨
        (change entry).status.official = entry.status.official) : Attends cp before after where
  kept k entry hentry := by
    rw [hget]
    split
    · rename_i hk
      subst hk
      rw [hentry]
      exact ⟨_, rfl, hchange entry hentry⟩
    · exact ⟨entry, hentry, .inr rfl⟩
  origin k later hlater := by
    rw [hget] at hlater
    split at hlater
    · rename_i hk
      subst hk
      obtain ⟨entry, hentry, rfl⟩ := Option.map_eq_some_iff.1 hlater
      exact (hchange entry hentry).imp_right fun hofficial => ⟨entry, hentry, hofficial⟩
    · exact .inr ⟨later, hlater, rfl⟩
  room h := .inl (hfull ▸ h)

theorem attends_modifyStatus {change : Status → Status}
    (hchange : ∀ entry, node.registry.get? handle = some entry →
      (change entry.status).Sited cp ∨ (change entry.status).official = entry.status.official) :
    Attends cp node (node.modifyStatus handle change) :=
  attends_update (node.registry.get?_modify handle _) (node.registry.isFull_modify handle _)
    hchange

theorem attends_call (horderly : node.Each Entry.IsOrderly) (env : Env) (handle : Handle)
    (callback : Callback) : Attends cp node (node.call env handle callback).2 := by
  unfold call
  split
  · rename_i status registration hentry
    refine attends_update (node.registry.get?_set handle _) (node.registry.isFull_set handle _) ?_
    intro entry hentry'
    cases hentry.symm.trans hentry'
    exact .inr ((horderly handle _ hentry).1.respond callback _).official
  · exact attends_of_registry_eq rfl

theorem attends_heard (cp : ControlPacket) (node : Node) : Attends cp node (node.heard cp) := by
  refine List.foldlRecOn (motive := Attends cp node) _ _ (attends_of_registry_eq rfl)
    fun mid hmid handle _ => hmid.trans ?_
  refine attends_update (mid.registry.get?_modify handle _)
    (mid.registry.isFull_modify handle _) fun entry _ => .inr ?_
  obtain ⟨status, kind⟩ := entry
  cases kind <;> rfl

theorem sited_recorded (cp : ControlPacket) : (Status.recorded cp).Sited cp := by
  obtain ⟨hconnected, -, hmode⟩ := Status.isRecorded_recorded cp
  refine ⟨rfl, rfl, rfl, hconnected, ?_⟩
  rw [Status.isLocal_eq_mode, hmode]
  decide

theorem attends_recordDevice (cp : ControlPacket) (node : Node) :
    Attends cp node (node.recordDevice cp) := by
  refine ⟨fun k entry hentry => ?_, fun k later hlater => ?_, fun hfull => ?_⟩
  · cases noting cp node k with
    | same eq => exact ⟨entry, eq.trans hentry, .inr rfl⟩
    | seen here _ eq =>
      cases here.symm.trans hentry
      exact ⟨_, eq, .inr (Status.official_mark _ (by decide))⟩
    | noted free _ _ _ => cases free.symm.trans hentry
  · cases noting cp node k with
    | same eq => exact .inr ⟨later, eq.symm.trans hlater, rfl⟩
    | seen here _ eq =>
      cases eq.symm.trans hlater
      exact .inr ⟨_, here, Status.official_mark _ (by decide)⟩
    | noted _ _ _ eq =>
      cases eq.symm.trans hlater
      exact .inl (sited_recorded cp)
  · rcases enters cp node with ⟨-, heq⟩ | ⟨-, hinsert⟩ | ⟨-, -, heq⟩
    · rw [heq, Registry.isFull_modify] at hfull
      exact .inl hfull
    · obtain ⟨-, hget⟩ := Registry.get?_of_insert hinsert
      exact .inr ⟨_, _, (hget _).trans (if_pos rfl), rfl, rfl⟩
    · rw [heq] at hfull
      exact .inl hfull

/-! ## The round -/

/-- The announce is shown to a driver, after something else was done. -/
theorem attends_deliver {scan : Scan} (h : Attends cp before mid)
    (horderly : mid.Each Entry.IsOrderly) (env : Env) (handle : Handle) (isClaimed : Bool) :
    Attends cp before
      (({ scan with node := mid, isClaimed } : Scan).deliver env handle cp).node :=
  h.trans (attends_call horderly env handle (.control cp))

/-- At a foreign address there is no collision. -/
theorem visit_of_isUnowned {scan : Scan} (horderly : scan.node.Each Entry.IsOrderly)
    (hunowned : scan.node.IsUnowned cp.address) (env : Env) (handle : Handle) :
    ∃ next, visit env cp handle scan = .proceed next ∧ Attends cp scan.node next.node := by
  have hsame : Attends cp scan.node scan.node := attends_of_registry_eq rfl
  rcases exists_driver_or_visit_eq env cp handle scan with ⟨status, registration, held⟩ | heq
  · cases showing env cp held with
    | yields owns | rebukes owns | agrees owns =>
      obtain ⟨hlocal, -, haddress⟩ := ownsAddress_iff.1 owns
      exact absurd haddress (hunowned handle _ held hlocal)
    | moves _ hfollows heq =>
      obtain ⟨hvirtual, hconnected, hserial, hclass⟩ := follows_iff.1 hfollows
      have hmoved : (scan.node.modifyStatus handle (·.followed cp)).Each Entry.IsOrderly :=
        horderly.modifyStatus Entry.isInvariant_isOrderly handle fun status =>
          ⟨DeviceFlags.mode_insert status.flags (by decide), rfl⟩
      refine ⟨_, heq, attends_deliver (attends_modifyStatus fun other hother => .inl ?_) hmoved env
        handle true⟩
      cases held.symm.trans hother
      have hmode := DeviceFlags.mode_insert status.flags
        (by decide : Flags.IsDisjoint DeviceFlags.roleMask DeviceFlags.seen)
      exact ⟨rfl, hserial, hclass, (Status.isConnected_mark_seen _).trans hconnected,
        (Status.isLocal_of_mode_eq hmode).trans ((horderly handle _ held).foreign hvirtual)⟩
    | records _ _ _ _ _ _ heq =>
      exact ⟨_, heq, attends_deliver (attends_recordDevice cp scan.node)
        (horderly.recordDevice Entry.isInvariant_isOrderly cp) env handle _⟩
    | hears _ _ _ _ _ heq | pairs _ _ _ _ _ _ _ _ heq =>
      exact ⟨_, heq, attends_deliver hsame horderly env handle _⟩
    | passes _ _ _ _ heq => exact ⟨scan, heq, hsame⟩
  · exact ⟨scan, heq, hsame⟩

theorem isOrderly_visit {scan : Scan} (horderly : scan.node.Each Entry.IsOrderly) (env : Env)
    (cp : ControlPacket) (handle : Handle) :
    (visit env cp handle scan).node.Each Entry.IsOrderly :=
  horderly.turn Entry.isInvariant_isOrderly (turn_visit env cp handle scan) fun _ => trivial

theorem attends_visitAll (scan : Scan) (horderly : scan.node.Each Entry.IsOrderly)
    (hunowned : scan.node.IsUnowned cp.address) (env : Env) (handles : List Handle) :
    Attends cp scan.node (visitAll env cp handles scan).node := by
  induction handles generalizing scan with
  | nil => exact attends_of_registry_eq rfl
  | cons handle rest ih =>
    obtain ⟨next, hnext, hattends⟩ := visit_of_isUnowned horderly hunowned env handle
    have hkept := isOrderly_visit horderly env cp handle
    rw [hnext] at hkept
    unfold visitAll
    rw [hnext]
    exact hattends.trans (ih next hkept (hattends.isUnowned hunowned))

/-- Where there is room, a device is recorded, or some entry has its address and serial number. -/
theorem knows_recordDevice (wf : node.registry.WellFormed)
    (hroom : node.registry.isFull = false ∨ Knows cp node) : Knows cp (node.recordDevice cp) := by
  by_cases hknows : Knows cp node
  · exact (attends_recordDevice cp node).knows hknows
  · rcases enters cp node with ⟨hshows, -⟩ | ⟨-, hinsert⟩ | ⟨-, hinsert, -⟩
    · exact absurd ⟨_, hshows wf⟩ hknows
    · obtain ⟨-, hget⟩ := Registry.get?_of_insert hinsert
      exact ⟨_, _, (hget _).trans (if_pos rfl), rfl, rfl⟩
    · have hfull := hroom.resolve_right hknows
      unfold Registry.insert at hinsert
      rw [hfull, if_neg Bool.false_ne_true] at hinsert
      dsimp only at hinsert
      split at hinsert <;> cases hinsert

/-- A connected broadcast driver has the announced class. -/
def ListensTo (cp : ControlPacket) (k : Handle) (node : Node) : Prop :=
  ∃ status registration, node.enrolled? k = some (status, registration) ∧
    status.isBroadcast = true ∧ status.isConnected = true ∧ status.deviceClass = cp.deviceClass

instance (cp : ControlPacket) (k : Handle) (node : Node) : Decidable (node.ListensTo cp k) :=
  decidable_of_iff ((node.enrolled? k).any (fun kept => kept.1.isBroadcast && kept.1.isConnected &&
    kept.1.deviceClass == cp.deviceClass) = true) (by
      simp only [Option.any_eq_true, Bool.and_eq_true, beq_iff_eq, and_assoc, Prod.exists,
        ListensTo])

/-- A broadcast driver has a device recorded that announces itself for certain. -/
theorem knows_visit {scan : Scan} (hlistens : scan.node.ListensTo cp k)
    (horderly : scan.node.Each Entry.IsOrderly) (hunowned : scan.node.IsUnowned cp.address)
    (wf : scan.node.registry.WellFormed)
    (hroom : scan.node.registry.isFull = false ∨ Knows cp scan.node)
    (certain : cp.flags.contains ControlFlags.uncertain = false) (env : Env) :
    Knows cp (visit env cp k scan).node := by
  obtain ⟨status, registration, hkept, hbroadcast, hconnected, hclass⟩ := hlistens
  have hentry := enrolled?_eq_some_iff.1 hkept
  cases showing env cp hentry with
  | yields owns | rebukes owns | agrees owns =>
    obtain ⟨hlocal, -, haddress⟩ := ownsAddress_iff.1 owns
    exact absurd haddress (hunowned k _ hentry hlocal)
  | moves _ hfollows =>
    have hreal := Status.isVirtual_eq_false_of_isBroadcast hbroadcast
    cases hreal.symm.trans (follows_iff.1 hfollows).1
  | records _ _ _ _ _ _ heq =>
    rw [heq]
    exact (attends_call (horderly.recordDevice Entry.isInvariant_isOrderly cp) env k
      (.control cp)).knows (knows_recordDevice wf hroom)
  | hears _ _ _ _ unrecorded =>
    rw [hconnected, certain] at unrecorded
    cases unrecorded
  | pairs _ _ unheard | passes _ _ unheard =>
    rw [hbroadcast, hclass, beq_self_eq_true] at unheard
    cases unheard

/-- Once the round came to a broadcast driver of the announced class, the device is known. -/
theorem knows_visitAll (scan : Scan) (hlistens : scan.node.ListensTo cp k)
    (horderly : scan.node.Each Entry.IsOrderly) (hunowned : scan.node.IsUnowned cp.address)
    (wf : scan.node.registry.WellFormed)
    (hroom : scan.node.registry.isFull = false ∨ Knows cp scan.node)
    (certain : cp.flags.contains ControlFlags.uncertain = false) (env : Env)
    {handles : List Handle} (hk : k ∈ handles) :
    Knows cp (visitAll env cp handles scan).node := by
  induction handles generalizing scan with
  | nil => cases hk
  | cons handle rest ih =>
    obtain ⟨next, hnext, hattends⟩ := visit_of_isUnowned horderly hunowned env handle
    have hkept := isOrderly_visit horderly env cp handle
    have hspares := spares_visit env cp handle scan
    rw [hnext] at hkept hspares
    have hunowned' := hattends.isUnowned hunowned
    unfold visitAll
    rw [hnext]
    dsimp only
    by_cases hhandle : k = handle
    · have hknows := knows_visit hlistens horderly hunowned wf hroom certain env
      rw [hhandle, hnext] at hknows
      exact (attends_visitAll next hkept hunowned' env rest).knows hknows
    · have hlistens' : next.node.ListensTo cp k := by
        obtain ⟨status, registration, hkept, hshows⟩ := hlistens
        exact ⟨status, registration, (hspares.enrolled? k hhandle).trans hkept, hshows⟩
      exact ih next hlistens' hkept hunowned' (hspares.wellFormed wf) (hattends.hasRoom hroom)
        ((List.mem_cons.1 hk).resolve_left hhandle)

/-! ## The whole announce -/

/-- A remote driver that is connected to the announced device is sited. -/
theorem attends_adopt (horderly : node.Each Entry.IsOrderly) (env : Env) {entry : Entry}
    (hentry : node.registry.get? handle = some entry) (hawaits : awaits cp entry.status = true) :
    Attends cp node (node.adopt env handle cp) := by
  obtain ⟨hvirtual, -, hclass, -⟩ := awaits_iff.1 hawaits
  have hmode := DeviceFlags.mode_insert entry.status.flags
    (by decide : Flags.IsDisjoint DeviceFlags.roleMask (DeviceFlags.confirmed ∪ DeviceFlags.seen))
  have hfound : Attends cp node (node.modifyStatus handle (Status.found cp)) := by
    refine attends_modifyStatus fun other hother => .inl ?_
    cases hentry.symm.trans hother
    exact ⟨rfl, rfl, hclass, Flags.contains_insert_of_subset _ (by decide),
      (Status.isLocal_of_mode_eq hmode).trans ((horderly handle entry hentry).foreign hvirtual)⟩
  have horderly' : (node.modifyStatus handle (Status.found cp)).Each Entry.IsOrderly :=
    horderly.modifyStatus Entry.isInvariant_isOrderly handle fun status =>
      ⟨DeviceFlags.mode_insert status.flags (by decide), rfl⟩
  have hqueue : ((node.modifyStatus handle (Status.found cp)).queueEvent handle
      (.connected cp.address)).Each Entry.IsOrderly := horderly'
  have hreport : Attends cp (node.modifyStatus handle (Status.found cp))
      ((node.modifyStatus handle (Status.found cp)).queueEvent handle (.connected cp.address)) :=
    attends_of_registry_eq rfl
  have hcall := hqueue.call Entry.isInvariant_isOrderly env handle .connected
    fun _ _ _ _ => trivial
  exact ((hfound.trans hreport).trans (attends_call hqueue env handle .connected)).trans
    (attends_call hcall env handle (.control cp))

theorem attends_settle {scan : Scan} (horderly : scan.node.Each Entry.IsOrderly)
    (wf : scan.node.registry.WellFormed) (env : Env) :
    Attends cp scan.node (settle env cp scan) := by
  obtain ⟨filter, heq | ⟨-, found, hfind, heq⟩⟩ := settle_cases env cp scan
  · rw [heq]
    exact attends_of_registry_eq rfl
  · rw [heq]
    obtain ⟨entry, hentry, hawaits⟩ := wf.get?_of_find?_eq_some hfind
    have hfiltered : Attends cp scan.node { scan.node with filter } := attends_of_registry_eq rfl
    have horderly' : ({ scan.node with filter } : Node).Each Entry.IsOrderly := horderly
    exact hfiltered.trans (attends_adopt horderly' env hentry hawaits)

/-- **What an announce at a foreign address makes of the entries of a node.** If a connected
broadcast driver of its class hears it, and there is room for a record, the device is known. -/
theorem attends_receiveAnnounce (horderly : node.Each Entry.IsOrderly)
    (hunowned : node.IsUnowned cp.address) (wf : node.registry.WellFormed) (env : Env) :
    Attends cp node (node.receiveAnnounce env cp) ∧
      (node.ListensTo cp k → node.registry.isFull = false →
        cp.flags.contains ControlFlags.uncertain = false →
        Knows cp (node.receiveAnnounce env cp)) := by
  have hheard := attends_heard cp node
  have hwf := (spares_heard cp node).wellFormed wf
  have horderly' := horderly.heard Entry.isInvariant_isOrderly cp
  have hunowned' := hheard.isUnowned hunowned
  have hround : Attends cp node (node.round env cp).node :=
    hheard.trans (attends_visitAll ⟨node.heard cp, false, false⟩ horderly' hunowned' env
      (node.heard cp).registry.handles)
  have hknows : node.ListensTo cp k → node.registry.isFull = false →
      cp.flags.contains ControlFlags.uncertain = false → Knows cp (node.round env cp).node := by
    rintro ⟨status, registration, hkept, hshows⟩ hroom certain
    obtain ⟨silence, hkept'⟩ := enrolled?_heard cp hkept
    exact knows_visitAll ⟨node.heard cp, false, false⟩ ⟨status, _, hkept', hshows⟩ horderly'
      hunowned' hwf (hheard.hasRoom (.inl hroom)) certain env (mem_handles_of_enrolled? hwf hkept')
  rcases receiveAnnounce_cases env cp node with heq | ⟨scan, hscan, -, -, heq⟩
  · rw [heq]
    exact ⟨hround, hknows⟩
  · have hvisited : (node.round env cp).node.Each Entry.IsOrderly :=
      horderly.round Entry.isInvariant_isOrderly env fun _ => trivial
    have hwf' := (spares_round env cp node).wellFormed wf
    rw [hscan] at hround hknows hvisited hwf'
    have hsettle : Attends cp scan.node (settle env cp scan) := attends_settle hvisited hwf' env
    rw [heq]
    exact ⟨hround.trans hsettle, fun hlistens hroom certain =>
      hsettle.knows (hknows hlistens hroom certain)⟩

/-! ## Listeners and the devices of their class -/

section

variable {settings : NodeSettings} {draws : Draws} {xs : List Happening}

theorem Comes.isOrderly (h : Comes settings draws Driver.IsMild xs node) :
    node.Each Entry.IsOrderly := by
  rintro k ⟨status, kind⟩ hentry
  cases kind with
  | driver registration =>
    have hsettled := h.isSettled (enrolled?_eq_some_iff.2 hentry)
    exact ⟨hsettled.mild, hsettled.role⟩
  | record => exact (h.isRecorded (record?_eq_some_iff.2 hentry)).mode

/-- A driver that listens to a class goes on listening when it has heard an announce. -/
theorem Comes.listensTo (h : Comes settings draws Driver.IsMild xs node) (env : Env)
    {frame : Bytes} (hattends : Attends cp node (node.receiveFrame env frame))
    (hlistens : node.ListensTo cp k) : (node.receiveFrame env frame).ListensTo cp k := by
  obtain ⟨status, registration, hkept, hbroadcast, hconnected, hclass⟩ := hlistens
  have hprobe : node.probe? k = some registration.driver.isProbe := probe?_of_enrolled? hkept
  -- what a driver was registered as does not change
  obtain ⟨profile, hmember⟩ := h.mem_roster hprobe
  have hlater := h.receive env frame
  have hmember' : (k, profile) ∈ rosterOf (xs ++ [.receive env frame]) := by
    rw [rosterOf_append_singleton]
    exact hmember
  obtain ⟨shown, hserves⟩ := h.serves hmember
  obtain ⟨later, hserves'⟩ := hlater.serves hmember'
  cases hserves.has.status_eq (status?_of_enrolled? hkept)
  obtain ⟨booked, hbooked, -⟩ := hserves'.has
  have hconnected' : later.isConnected = true := by
    obtain ⟨entry, hentry, hsited | hofficial⟩ := hattends.kept k _ (enrolled?_eq_some_iff.1 hkept)
    · cases (enrolled?_eq_some_iff.1 hbooked).symm.trans hentry
      exact hsited.connected
    · cases (enrolled?_eq_some_iff.1 hbooked).symm.trans hentry
      exact (Status.isConnected_of_official_eq hofficial).trans hconnected
  have hmode : DeviceFlags.mode later.flags = DeviceFlags.mode status.flags :=
    hserves'.mode.trans hserves.mode.symm
  refine ⟨later, booked, hbooked, ?_, hconnected',
    (hserves'.deviceClass.trans hserves.deviceClass.symm).trans hclass⟩
  have hflags := DeviceFlags.contains_mode later.flags
    (by decide : Flags.IsSubset DeviceFlags.broadcast DeviceFlags.roleMask)
  rw [hmode, DeviceFlags.contains_mode status.flags (by decide)] at hflags
  exact hflags.symm.trans hbroadcast

/-- Where no entry of another class has the address and the serial number of an announced device,
a device that is known is sited. -/
theorem Comes.exists_sited (h : Comes settings draws Driver.IsMild xs node)
    (hunowned : node.IsUnowned cp.address) (positive : cp.address ≠ 0)
    (hattends : Attends cp node after) (hknows : Knows cp after)
    (hclass : ∀ pair ∈ node.statuses, pair.2.address = cp.address → pair.2.serial = cp.serial →
      pair.2.deviceClass = cp.deviceClass) :
    ∃ k later, after.registry.get? k = some later ∧ later.status.Sited cp := by
  obtain ⟨k, later, hlater, haddress, hserial⟩ := hknows
  refine ⟨k, later, hlater, ?_⟩
  rcases hattends.origin k later hlater with hsited | ⟨entry, hentry, hofficial⟩
  · exact hsited
  · rw [Status.address_of_official_eq hofficial] at haddress
    rw [Status.serial_of_official_eq hofficial] at hserial
    have hforeign : entry.status.isLocal = false := by
      rw [← Bool.not_eq_true]
      exact fun hlocal => hunowned k entry hentry hlocal haddress
    have hmem : (k, entry.status) ∈ node.statuses := by
      rw [mem_statuses_iff h.wellFormed]
      unfold status?
      rw [hentry]
      rfl
    have hbefore : entry.status.Sited cp := ⟨haddress, hserial, hclass _ hmem haddress hserial,
      h.isPlaced hentry hforeign (haddress ▸ positive), hforeign⟩
    exact hbefore.of_official_eq hofficial

theorem mem_classesAt_of_sited (wf : node.registry.WellFormed) {entry : Entry}
    (hentry : node.registry.get? k = some entry) (hsited : entry.status.Sited cp) :
    cp.deviceClass ∈ node.classesAt cp.address := by
  have hstatus : node.status? k = some entry.status := by
    unfold status?
    rw [hentry]
    rfl
  exact mem_classesAt_iff.2 ⟨(k, entry.status), (mem_statuses_iff wf).2 hstatus, hsited.address,
    hsited.connected, hsited.foreign, hsited.deviceClass⟩

/-- The partner of a driver is at an address. -/
def HasPartnerAt (k : Handle) (address : UInt8) (node : Node) : Prop :=
  ∃ status registration, node.enrolled? k = some (status, registration) ∧
    status.isPaired = true ∧ ∃ p ∈ registration.driver.partner?, p.address = address

/-- Data from a foreign address is handed to a broadcast driver if a device of its class is there,
or its partner. -/
theorem callsOf_receiveData_of_listensTo (wf : node.registry.WellFormed)
    (hlistens : node.ListensTo cp k) (hunowned : node.IsUnowned cp.address) (env : Env)
    {packet : Packet} (haddress : packet.address = cp.address) :
    ∃ added, (node.receiveData env packet).log = node.log ++ added ∧
      (callsOf k added = [.data packet] ∨ callsOf k added = []) ∧
      (callsOf k added = [.data packet] ↔
        cp.deviceClass ∈ node.classesAt cp.address ∨ node.HasPartnerAt k cp.address) := by
  obtain ⟨status, registration, hkept, hbroadcast, hconnected, hclass⟩ := hlistens
  obtain ⟨added, hlog, hcalls⟩ := callsOf_receiveData hkept wf env packet
  have hhears : hears packet.address (node.classesAt packet.address) status registration = true ↔
      cp.deviceClass ∈ node.classesAt cp.address ∨ node.HasPartnerAt k cp.address := by
    rw [haddress, hears_iff, hclass]
    constructor
    · rintro (⟨-, hdirect⟩ | ⟨hpaired, hpartner⟩ | ⟨-, -, hwide⟩)
      · -- the address is not the driver's own, so the driver stands for a device of its class there
        have hentry := enrolled?_eq_some_iff.1 hkept
        have hforeign : status.isLocal = false := by
          rw [← Bool.not_eq_true]
          exact fun hlocal => hunowned k _ hentry hlocal hdirect
        exact .inl (mem_classesAt_iff.2 ⟨(k, status),
          (mem_statuses_iff wf).2 (status?_of_enrolled? hkept), hdirect, hconnected, hforeign,
          hclass⟩)
      · exact .inr ⟨status, registration, hkept, hpaired, hpartner⟩
      · exact .inl hwide
    · rintro (hwide | ⟨other, booked, hother, hpaired, hpartner⟩)
      · exact .inr (.inr ⟨hbroadcast, hconnected, hwide⟩)
      · cases hkept.symm.trans hother
        exact .inr (.inl ⟨hpaired, hpartner⟩)
  refine ⟨added, hlog, ?_, ?_⟩
  · rw [hcalls]
    split
    · exact .inl rfl
    · exact .inr rfl
  · rw [← hhears, hcalls]
    split
    · rename_i hears
      exact iff_of_true rfl hears
    · rename_i hnot
      exact iff_of_false (List.cons_ne_nil _ _ ·.symm) hnot

/-- **What a connected broadcast driver hears of a device of its class that announced itself.** It
is told of the next data of the device exactly once, unless an entry of another class had the
address and the serial number of the device before. Then it depends on whether another entry of its
class, or its partner, is at the address after the announce. -/
theorem hearing_of_comes (h : Comes settings draws Driver.IsMild xs node) {frame data : Bytes}
    {packet : Packet} (hello : helloOf? frame = some cp)
    (certain : cp.flags.contains ControlFlags.uncertain = false) (positive : cp.address ≠ 0)
    (kept : node.enrolled? k = some (status, registration))
    (broadcast : status.isBroadcast = true) (connected : status.isConnected = true)
    (sameClass : status.deviceClass = cp.deviceClass)
    (unowned : ∀ pair ∈ node.statuses, pair.2.isLocal = true → pair.2.address ≠ cp.address)
    (room : node.registry.isFull = false) (decodes : Packet.decode data = .ok packet)
    (sender : packet.address = cp.address) (env later : Env) :
    ∃ added, ((node.receiveFrame env frame).receiveFrame later data).log =
        (node.receiveFrame env frame).log ++ added ∧
      ((∀ pair ∈ node.statuses, pair.2.address = cp.address → pair.2.serial = cp.serial →
        pair.2.deviceClass = cp.deviceClass) → callsOf k added = [.data packet]) ∧
      (callsOf k added = [.data packet] ∨ callsOf k added = []) ∧
      (callsOf k added = [.data packet] ↔
        cp.deviceClass ∈ (node.receiveFrame env frame).classesAt cp.address ∨
          (node.receiveFrame env frame).HasPartnerAt k cp.address) := by
  have hlistens : node.ListensTo cp k :=
    ⟨status, registration, kept, broadcast, connected, sameClass⟩
  have hunowned : node.IsUnowned cp.address := by
    intro j entry hentry hlocal
    have hstatus : node.status? j = some entry.status := by
      unfold status?
      rw [hentry]
      rfl
    exact unowned (j, entry.status) ((mem_statuses_iff h.wellFormed).2 hstatus) hlocal
  have hdata : packet.isControl = false := by
    unfold Packet.isControl controlAddress
    rw [sender, beq_eq_false_iff_ne]
    exact positive
  obtain ⟨hattends, hknows⟩ :=
    attends_receiveAnnounce h.isOrderly hunowned h.wellFormed env (k := k)
  rw [← receiveFrame_of_hello node env hello] at hattends hknows
  have hheard := (h.receive env frame).wellFormed
  have hlistens' := h.listensTo env hattends hlistens
  obtain ⟨added, hlog, hcalls, hiff⟩ := callsOf_receiveData_of_listensTo hheard hlistens'
    (hattends.isUnowned hunowned) later sender
  rw [receiveFrame_of_data _ later decodes hdata]
  refine ⟨added, hlog, fun hclass => ?_, hcalls, hiff⟩
  obtain ⟨j, entry, hentry, hsited⟩ :=
    h.exists_sited hunowned positive hattends (hknows hlistens room certain) hclass
  exact hiff.2 (.inl (mem_classesAt_of_sited hheard hentry hsited))

end

/-- Data of the device at address 20. -/
def sample : Packet := ⟨0, 20, [0xaa, 0xbb]⟩

/-- A driver that listens to class 7 hears the data of a device of this class. -/
theorem hearing_of_sniffer :
    let listener := withDriver ⟨.sniffer, 7, none, none⟩ .quiet
    let heard := listener.receiveFrame .taking (ControlPacket.hello 20 7 2).frame
    ∃ added, (heard.receiveFrame .taking sample.toBytes).log = heard.log ++ added ∧
      callsOf ⟨0, 0⟩ added = [.data sample] := by
  intro listener heard
  have hcomes := comes_withDriver Driver.IsMild ⟨.sniffer, 7, none, none⟩ .quiet trivial
  have hello : helloOf? (ControlPacket.hello 20 7 2).frame = some (ControlPacket.hello 20 7 2) := by
    decide +kernel
  have hkept : listener.enrolled? ⟨0, 0⟩ = some (_, _) := rfl
  have hdecodes : Packet.decode sample.toBytes = .ok sample := rfl
  obtain ⟨added, hlog, hheard, -, -⟩ := hearing_of_comes hcomes hello (by decide) (by decide) hkept
    (by decide) (by decide) (by decide) (by decide +kernel) (by decide) hdecodes rfl .taking .taking
  exact ⟨added, hlog, hheard (by decide +kernel)⟩

/-- A connected broadcast driver of the announced class hears a device announce itself at a foreign
address, where there is room to record it, and is told nothing when the device sends data next. -/
structure Misses (cp : ControlPacket) (packet : Packet) (k : Handle) (node : Node) : Prop where
  hello : helloOf? cp.frame = some cp
  certain : cp.flags.contains ControlFlags.uncertain = false
  positive : cp.address ≠ 0
  listens : node.ListensTo cp k
  unowned : ∀ pair ∈ node.statuses, pair.2.isLocal = true → pair.2.address ≠ cp.address
  room : node.registry.isFull = false
  decodes : Packet.decode packet.toBytes = .ok packet
  sender : packet.address = cp.address
  unheard : let heard := node.receiveFrame .taking cp.frame
    callsOf k (heard.receiveFrame .taking packet.toBytes).log = callsOf k heard.log

/-- With a second driver, which listens to a class. -/
def withListener (deviceClass : DeviceClass) (node : Node) : Node :=
  match node.register ⟨.sniffer, deviceClass, none, none⟩ .quiet with
  | .ok (_, joined) => joined
  | .error _ => node

theorem comes_withListener (admits : Driver → Prop) (profile : DriverProfile) (driver : Driver)
    (deviceClass : DeviceClass) (hdriver : admits driver) (hquiet : admits .quiet) :
    Comes {} ⟨fun _ => 0, 0⟩ admits
      [.register ⟨0, 0⟩ profile driver, .register ⟨1, 0⟩ ⟨.sniffer, deviceClass, none, none⟩ .quiet]
      ((withDriver profile driver).withListener deviceClass) := by
  have hadmitted : Happening.IsAdmitted admits
    (.register ⟨1, 0⟩ ⟨.sniffer, deviceClass, none, none⟩ .quiet) := hquiet
  refine (comes_withDriver admits profile driver hdriver).next hadmitted (.register ?_)
  rfl

/-- Two ways to miss a device of class 7 at address 20 that announced itself. A device of class 9
with the same serial number was recorded there, so no record is made. Or a remote driver that is not
mild follows the device, after it made itself an own driver, so the device counts as the node's. -/
theorem misses_of_claimed :
    let other := ((withDriver ⟨.sniffer, 7, none, none⟩ .quiet).withListener 9).receiveFrame .taking
      (ControlPacket.hello 20 9 2).frame
    let turncoat : Driver := .probe { marks := DeviceFlags.own }
    let followed := ((withDriver ⟨.virtual, 7, none, none⟩ turncoat).withListener 7).receiveFrame
      .taking (ControlPacket.hello 30 7 2).frame
    ((∃ xs, Comes {} ⟨fun _ => 0, 0⟩ Driver.IsMild xs other) ∧
      other.Misses (ControlPacket.hello 20 7 2) sample ⟨0, 0⟩) ∧
    (∃ xs, Comes {} ⟨fun _ => 0, 0⟩ (fun _ => True) xs followed) ∧
      (∀ pair ∈ followed.statuses, pair.2.address = 20 → pair.2.serial = 2 →
        pair.2.deviceClass = 7) ∧
      followed.Misses (ControlPacket.hello 20 7 2) sample ⟨1, 0⟩ := by
  intro other turncoat followed
  have hother : other.Misses (ControlPacket.hello 20 7 2) sample ⟨0, 0⟩ :=
    { hello := by decide +kernel
      certain := by decide
      positive := by decide
      listens := by decide +kernel
      unowned := by decide +kernel
      room := by decide +kernel
      decodes := rfl
      sender := rfl
      unheard := by decide +kernel }
  have hfollowed : followed.Misses (ControlPacket.hello 20 7 2) sample ⟨1, 0⟩ :=
    { hello := hother.hello
      certain := hother.certain
      positive := hother.positive
      listens := by decide +kernel
      unowned := by decide +kernel
      room := by decide +kernel
      decodes := rfl
      sender := rfl
      unheard := by decide +kernel }
  have hcomes := comes_withListener Driver.IsMild ⟨.sniffer, 7, none, none⟩ .quiet 9
    trivial trivial
  have hcomes' := comes_withListener (fun _ => True) ⟨.virtual, 7, none, none⟩ turncoat 7
    trivial trivial
  exact ⟨⟨⟨_, hcomes.receive .taking _⟩, hother⟩, ⟨_, hcomes'.receive .taking _⟩,
    by decide +kernel, hfollowed⟩

end Node

end DeviceBus
