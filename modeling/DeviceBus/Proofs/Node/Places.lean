import DeviceBus.Proofs.Node.Episodes
import DeviceBus.Proofs.Node.Records

/-!
# Where devices are

Whatever does not own an address shows one only while its device is there. A remote driver that has
no device has no address; a record, and a driver that only listens, is connected as long as it
stays. So at an address there are no leftovers of devices that are gone.

## Main results

* `Comes.keeps_driver`: what a newcomer has and every episode keeps, a driver has.
* `Comes.isPlaced`: an entry that owns no address shows one only while it is connected.
-/

namespace DeviceBus

/-- Whatever owns no address shows one only while it is connected. -/
def Status.IsPlaced (status : Status) : Prop :=
  status.isLocal = false → status.address ≠ 0 → status.isConnected = true

namespace Status

variable {before after : Status}

theorem isLocal_of_mode_eq
    (h : DeviceFlags.mode after.flags = DeviceFlags.mode before.flags) :
    after.isLocal = before.isLocal := by
  rw [isLocal_eq_mode, isLocal_eq_mode, h]

theorem HasRole.of_mode_eq (h : before.HasRole)
    (hmode : DeviceFlags.mode after.flags = DeviceFlags.mode before.flags) : after.HasRole := by
  obtain ⟨role, hrole⟩ := h
  exact ⟨role, hmode.trans hrole⟩

theorem isPlaced_of_isLocal {status : Status} (h : status.isLocal = true) : status.IsPlaced :=
  fun hforeign => absurd (h.symm.trans hforeign) Bool.noConfusion

theorem isPlaced_of_isConnected {status : Status} (h : status.isConnected = true) :
    status.IsPlaced :=
  fun _ _ => h

theorem IsPlaced.of_official_eq (h : before.IsPlaced)
    (hofficial : after.official = before.official) : after.IsPlaced := by
  intro hforeign haddress
  rw [isLocal_of_mode_eq (mode_of_official_eq hofficial)] at hforeign
  rw [address_of_official_eq hofficial] at haddress
  rw [isConnected_of_official_eq hofficial]
  exact h hforeign haddress

end Status

namespace Node

variable {settings : NodeSettings} {draws : Draws} {admits : Driver → Prop} {xs : List Happening}
  {node : Node} {k : Handle} {kept : Kept}

/-- **What a newcomer has and every episode keeps, a driver has.** -/
theorem Comes.keeps_driver (h : Comes settings draws admits xs node) {kind : Driver → Prop}
    (hkind : Registers k kind xs) {P : Kept → Prop}
    (hnew : ∀ profile driver, kind driver → P (newcomer settings profile driver))
    (hepisode : ∀ {x start k before story after}, P before →
      Episode x start k before story after → P after)
    (hk : node.enrolled? k = some kept) : P kept := by
  obtain ⟨trace, hcourse⟩ := h
  induction hcourse generalizing kept with
  | here => simp [enrolled?, withDraws] at hk
  | @next xs trace node x added after before admitted becomes _ ih =>
    have hcomes : Comes settings draws admits xs node := ⟨trace, before⟩
    have hprobe : after.probe? k = some kept.2.driver.isProbe := probe?_of_enrolled? hk
    rcases probe?_of_becomes becomes hprobe with ⟨hbefore, hstays⟩ | ⟨profile, driver, rfl, -⟩
    · obtain ⟨was, hwas, -⟩ := Option.map_eq_some_iff.1 hbefore
      obtain ⟨later, hlater, hstory⟩ := story_of_becomes hwas hcomes.wellFormed becomes hstays
      cases hk.symm.trans hlater
      exact hstory.keeps (ih hkind.of_append hwas) hepisode
    · cases becomes with
      | register ok =>
        cases hk.symm.trans (joins_register ok).newcomer
        rw [hcomes.upkeep.1]
        exact hnew profile driver (hkind profile driver (List.mem_append_right _
          List.mem_cons_self))

/-- A mild driver that shows an address only while it owns it or is connected. -/
structure IsSettled (kept : Kept) : Prop where
  mild : kept.2.driver.IsMild
  role : kept.1.HasRole
  placed : kept.1.IsPlaced

/-- What a mild driver makes of something it is told leaves it settled. -/
theorem IsSettled.replies {callback : Callback} {later : Kept} {talk : List EventKind}
    (h : IsSettled kept) (replies : Replies k callback kept talk later) : IsSettled later := by
  obtain ⟨ctx, -, hstatus, rfl⟩ := replies.place
  have hreply := h.mild.respond callback ctx
  have hofficial := hreply.official
  rw [hstatus] at hofficial
  exact ⟨hreply.mild, h.role.of_mode_eq (Status.mode_of_official_eq hofficial),
    h.placed.of_official_eq hofficial⟩

theorem IsSettled.restate {before after : Status} {registration : Registration}
    (h : IsSettled (before, registration))
    (hmode : DeviceFlags.mode after.flags = DeviceFlags.mode before.flags)
    (hplaced : after.IsPlaced) : IsSettled (after, registration) :=
  ⟨h.mild, h.role.of_mode_eq hmode, hplaced⟩

/-- What belongs to an own driver stays its own. -/
theorem IsSettled.restate_own {before after : Status} {registration : Registration}
    (h : IsSettled (before, registration)) (own : before.isLocal = true)
    (hmode : DeviceFlags.mode after.flags = DeviceFlags.mode before.flags) :
    IsSettled (after, registration) :=
  h.restate hmode (Status.isPlaced_of_isLocal ((Status.isLocal_of_mode_eq hmode).trans own))

/-- Every episode leaves a mild driver settled. -/
theorem IsSettled.episode {x : Happening} {start : Node} {before after : Kept}
    {story : List Action} (h : IsSettled before) (episode : Episode x start k before story after) :
    IsSettled after := by
  cases episode with
  | booked driver serial => exact ⟨driver ▸ h.mild, h.role, h.placed⟩
  | noticed tenancy =>
    refine h.restate (congrArg Tenancy.mode tenancy) fun hforeign haddress => ?_
    rw [Status.isLocal_eq_of_tenancy_eq tenancy] at hforeign
    have hconnected := h.placed hforeign fun hzero =>
      haddress ((congrArg Tenancy.address tenancy).trans hzero)
    exact (congrArg Tenancy.isConfirmed tenancy).trans hconnected
  | told _ replies => exact h.replies replies
  | @moved cp status registration after talk brings follows replies =>
    refine IsSettled.replies (h.restate (DeviceFlags.mode_insert status.flags (by decide))
      (Status.isPlaced_of_isConnected ?_)) replies
    exact (Status.isConnected_mark_seen status).trans (follows_iff.1 follows).2.1
  | @adopted cp status registration mid after talk more brings awaits connected replies =>
    refine IsSettled.replies (IsSettled.replies (h.restate
      (DeviceFlags.mode_insert status.flags (by decide))
      (Status.isPlaced_of_isConnected ?_)) connected) replies
    exact Flags.contains_insert_of_subset status.flags (by decide)
  | @drawn address status registration own =>
    exact h.restate_own own (congrArg Tenancy.mode (status.tenancy_draw address))
  | @confirmed status registration after talk own pos onProbation replies =>
    exact (h.restate_own own (congrArg Tenancy.mode status.tenancy_confirm)).replies replies
  | @lost status registration own =>
    exact h.restate_own own (congrArg Tenancy.mode status.tenancy_release)
  | @evicted status registration after talk own pos connected replies =>
    exact (h.restate_own own (congrArg Tenancy.mode status.tenancy_release)).replies replies
  | @vacated status registration after talk remote connected replies =>
    have hvacated : IsSettled (status.vacated registration.requiredSerial, registration) :=
      h.restate (Flags.restrict_restrict_of_subset status.flags (by decide))
        fun _ haddress => absurd rfl haddress
    exact hvacated.replies replies
  | worked works => exact ⟨h.mild.works works, h.role, h.placed⟩

theorem Comes.isSettled_of_registers (h : Comes settings draws admits xs node)
    (hmild : Registers k Driver.IsMild xs) (hk : node.enrolled? k = some kept) :
    IsSettled kept := by
  refine h.keeps_driver hmild (fun profile driver hmild => ⟨hmild,
    ⟨profile.role, mode_startStatus settings profile⟩, fun _ haddress => ?_⟩)
    (fun hbefore episode => hbefore.episode episode) hk
  have hstart : (startStatus settings profile).address = 0 := by
    unfold startStatus
    dsimp only
    split <;> rfl
  exact absurd hstart haddress

theorem Comes.isSettled (h : Comes settings draws Driver.IsMild xs node)
    (hk : node.enrolled? k = some kept) : IsSettled kept :=
  h.isSettled_of_registers (h.registers k) hk

/-- **An entry that owns no address shows one only while it is connected.** -/
theorem Comes.isPlaced (h : Comes settings draws Driver.IsMild xs node) {entry : Entry}
    (hk : node.registry.get? k = some entry) : entry.status.IsPlaced := by
  obtain ⟨status, kind⟩ := entry
  cases kind with
  | driver registration => exact (h.isSettled (enrolled?_eq_some_iff.2 hk)).placed
  | record =>
    exact Status.isPlaced_of_isConnected (h.isRecorded (record?_eq_some_iff.2 hk)).connected

end Node

end DeviceBus
