import DeviceBus.Device.Lifecycle
import DeviceBus.Proofs.FlagSets

/-!
# Tenancies

What a status says about the address of its driver is a small part of it: the address, how far it
got, the serial number that defends it and the role. This is the driver's tenancy. The flags of a
bond, the sighting flag and the tick counter are no part of it, so neither pairing nor announces
that are merely heard can touch it.

## Main results

* `tenancy_eq_of_unbonded_eq`: a status that differs in bond flags only has the same tenancy.
* `tenancy_release`, `tenancy_draw`, `tenancy_confirm`: what the three steps of an address do.
-/

namespace DeviceBus

namespace DeviceFlags

/-- The flags of a bond. -/
def bond : DeviceFlags := paired ∪ pairing

end DeviceFlags

namespace Status

/-- The status without the flags of a bond. -/
def unbonded (status : Status) : Status := status.unmark DeviceFlags.bond

theorem unbonded_mark (status : Status) {flags : DeviceFlags}
    (h : flags.IsSubset DeviceFlags.bond) : (status.mark flags).unbonded = status.unbonded := by
  simp only [unbonded, unmark, mark, Flags.remove_insert_of_subset _ h]

theorem unbonded_unmark (status : Status) {flags : DeviceFlags}
    (h : flags.IsSubset DeviceFlags.bond) : (status.unmark flags).unbonded = status.unbonded := by
  simp only [unbonded, unmark, Flags.remove_remove_of_subset _ h]

variable {s t : Status}

theorem contains_of_unbonded_eq (heq : s.unbonded = t.unbonded) {asked : DeviceFlags}
    (h : asked.IsDisjoint DeviceFlags.bond) : s.flags.contains asked = t.flags.contains asked := by
  have hs := Flags.contains_remove_of_disjoint s.flags h
  have ht := Flags.contains_remove_of_disjoint t.flags h
  have hflags : s.flags.remove DeviceFlags.bond = t.flags.remove DeviceFlags.bond :=
    congrArg Status.flags heq
  rw [← hs, hflags, ht]

theorem mode_of_unbonded_eq (heq : s.unbonded = t.unbonded) :
    DeviceFlags.mode s.flags = DeviceFlags.mode t.flags := by
  have hflags : s.flags.remove DeviceFlags.bond = t.flags.remove DeviceFlags.bond :=
    congrArg Status.flags heq
  have hdisjoint : Flags.IsDisjoint DeviceFlags.roleMask DeviceFlags.bond := by decide
  rw [← DeviceFlags.mode_remove s.flags hdisjoint, hflags, DeviceFlags.mode_remove _ hdisjoint]

theorem identity_of_unbonded_eq (heq : s.unbonded = t.unbonded) : s.identity = t.identity := by
  have haddress : s.address = t.address := (Status.mk.inj heq).1
  have hserial : s.serial = t.serial := (Status.mk.inj heq).2.2.2.1
  have hclass : s.deviceClass = t.deviceClass := (Status.mk.inj heq).2.2.2.2
  simp only [identity, haddress, hserial, hclass]

end Status

/-! ## Roles -/

namespace Status

/-- The role bits are those of a role. -/
def HasRole (status : Status) : Prop := ∃ role : Role, DeviceFlags.mode status.flags = role.flags

theorem isLocal_eq_mode (status : Status) :
    status.isLocal = (DeviceFlags.mode status.flags).contains DeviceFlags.own :=
  (DeviceFlags.contains_mode status.flags (by decide)).symm

theorem isVirtual_eq_mode (status : Status) :
    status.isVirtual =
      ((DeviceFlags.mode status.flags).contains DeviceFlags.remote &&
        !(DeviceFlags.mode status.flags).contains DeviceFlags.broadcast) := by
  rw [DeviceFlags.contains_mode status.flags (by decide),
    DeviceFlags.contains_mode status.flags (by decide)]
  rfl

/-- Who listens to a class follows no device. -/
theorem isVirtual_eq_false_of_isBroadcast {status : Status} (h : status.isBroadcast = true) :
    status.isVirtual = false := by
  unfold isVirtual
  rw [h, Bool.not_true, Bool.and_false]

/-- No role both owns an address and follows one. -/
theorem HasRole.not_isLocal_of_isVirtual {status : Status} (h : status.HasRole)
    (hvirtual : status.isVirtual = true) : status.isLocal = false := by
  obtain ⟨role, hrole⟩ := h
  rw [isVirtual_eq_mode, hrole] at hvirtual
  rw [isLocal_eq_mode, hrole]
  revert hvirtual
  cases role <;> decide

theorem mayPair_eq_mode (status : Status) :
    status.mayPair =
      ((DeviceFlags.mode status.flags).contains DeviceFlags.own &&
          (DeviceFlags.mode status.flags).contains DeviceFlags.pairable ||
        (DeviceFlags.mode status.flags).contains DeviceFlags.broadcast &&
          (DeviceFlags.mode status.flags).contains DeviceFlags.pair) := by
  rw [DeviceFlags.contains_mode status.flags (by decide),
    DeviceFlags.contains_mode status.flags (by decide),
    DeviceFlags.contains_mode status.flags (by decide),
    DeviceFlags.contains_mode status.flags (by decide)]
  rfl

/-- Every role that may pair owns its address. -/
theorem HasRole.isLocal_of_mayPair {status : Status} (h : status.HasRole)
    (hmay : status.mayPair = true) : status.isLocal = true := by
  obtain ⟨role, hrole⟩ := h
  rw [mayPair_eq_mode, hrole] at hmay
  rw [isLocal_eq_mode, hrole]
  revert hmay
  cases role <;> decide

end Status

/-! ## Tenancies -/

/-- What a driver's status says about its address. -/
structure Tenancy where
  address : UInt8
  serial : UInt32
  /-- The role bits. -/
  mode : DeviceFlags
  isConfirmed : Bool
  isUnconfirmed : Bool
  deriving DecidableEq, Repr

namespace Tenancy

/-- Without an address. -/
def released (tenancy : Tenancy) : Tenancy :=
  { tenancy with address := 0, isConfirmed := false, isUnconfirmed := false }

/-- With an address that was just drawn. -/
def drawn (address : UInt8) (tenancy : Tenancy) : Tenancy :=
  { tenancy with address, isConfirmed := false, isUnconfirmed := true }

/-- With an address that survived its probation. -/
def confirmed (tenancy : Tenancy) : Tenancy :=
  { tenancy with isConfirmed := true, isUnconfirmed := false }

/-- The address fits the flags: no address goes with no flag, an address is one of a device and
goes with exactly one flag. -/
structure Lawful (tenancy : Tenancy) : Prop where
  address_eq_zero_iff :
    tenancy.address = 0 ↔ tenancy.isConfirmed = false ∧ tenancy.isUnconfirmed = false
  not_both : ¬ (tenancy.isConfirmed = true ∧ tenancy.isUnconfirmed = true)
  address_le : tenancy.address.toNat ≤ 254

theorem Lawful.released (tenancy : Tenancy) : tenancy.released.Lawful where
  address_eq_zero_iff := by simp [Tenancy.released]
  not_both := by simp [Tenancy.released]
  address_le := by simp [Tenancy.released]

theorem Lawful.drawn (tenancy : Tenancy) {address : UInt8} (hpos : address ≠ 0)
    (hle : address.toNat ≤ 254) : (tenancy.drawn address).Lawful where
  address_eq_zero_iff := by simp [Tenancy.drawn, hpos]
  not_both := by simp [Tenancy.drawn]
  address_le := hle

theorem Lawful.confirmed {tenancy : Tenancy} (h : tenancy.Lawful) (hpos : tenancy.address ≠ 0) :
    tenancy.confirmed.Lawful where
  address_eq_zero_iff := by simp [Tenancy.confirmed, hpos]
  not_both := by simp [Tenancy.confirmed]
  address_le := h.address_le

/-- A confirmed tenancy has an address. -/
theorem Lawful.address_ne_zero_of_isConfirmed {tenancy : Tenancy} (h : tenancy.Lawful)
    (hconfirmed : tenancy.isConfirmed = true) : tenancy.address ≠ 0 := by
  intro hzero
  have := (h.address_eq_zero_iff.1 hzero).1
  rw [hconfirmed] at this
  cases this

end Tenancy

namespace Status

/-- The tenancy of a driver. -/
def tenancy (status : Status) : Tenancy :=
  ⟨status.address, status.serial, DeviceFlags.mode status.flags, status.isConfirmed,
    status.isUnconfirmed⟩

theorem tenancy_eq_of_unbonded_eq {s t : Status} (h : s.unbonded = t.unbonded) :
    s.tenancy = t.tenancy := by
  have hid := identity_of_unbonded_eq h
  have haddress : s.address = t.address := congrArg Identity.address hid
  have hserial : s.serial = t.serial := congrArg Identity.serial hid
  simp only [tenancy, isConfirmed, isUnconfirmed, haddress, hserial, mode_of_unbonded_eq h,
    @contains_of_unbonded_eq s t h DeviceFlags.confirmed (by decide),
    @contains_of_unbonded_eq s t h DeviceFlags.unconfirmed (by decide)]

theorem isLocal_eq_of_tenancy_eq {s t : Status} (h : s.tenancy = t.tenancy) :
    s.isLocal = t.isLocal := by
  have hmode : DeviceFlags.mode s.flags = DeviceFlags.mode t.flags := congrArg Tenancy.mode h
  rw [isLocal_eq_mode, isLocal_eq_mode, hmode]

/-- A sighting is no matter of the tenancy. -/
theorem tenancy_mark_seen (status : Status) :
    (status.mark DeviceFlags.seen).tenancy = status.tenancy := by
  simp only [tenancy, mark, isConfirmed, isUnconfirmed,
    DeviceFlags.mode_insert _ (by decide : Flags.IsDisjoint DeviceFlags.roleMask DeviceFlags.seen),
    Flags.contains_insert_of_disjoint _
      (by decide : Flags.IsDisjoint DeviceFlags.confirmed DeviceFlags.seen),
    Flags.contains_insert_of_disjoint _
      (by decide : Flags.IsDisjoint DeviceFlags.unconfirmed DeviceFlags.seen)]

/-- Giving way. -/
theorem tenancy_release (status : Status) :
    status.released.tenancy = status.tenancy.released := by
  simp only [tenancy, released, Tenancy.released, unmark, isConfirmed, isUnconfirmed,
    DeviceFlags.mode_remove _ (by decide : Flags.IsDisjoint DeviceFlags.roleMask
      (DeviceFlags.confirmed ∪ DeviceFlags.unconfirmed ∪ DeviceFlags.seen)),
    Flags.contains_remove_of_not_disjoint _ (by decide : ¬ Flags.IsDisjoint DeviceFlags.confirmed
      (DeviceFlags.confirmed ∪ DeviceFlags.unconfirmed ∪ DeviceFlags.seen)),
    Flags.contains_remove_of_not_disjoint _ (by decide : ¬ Flags.IsDisjoint DeviceFlags.unconfirmed
      (DeviceFlags.confirmed ∪ DeviceFlags.unconfirmed ∪ DeviceFlags.seen))]

/-- Drawing an address. -/
theorem tenancy_draw (status : Status) (address : UInt8) :
    (status.drew address).tenancy = status.tenancy.drawn address := by
  simp only [tenancy, drew, Tenancy.drawn, unmark, mark, isConfirmed, isUnconfirmed,
    DeviceFlags.mode_insert _
      (by decide : Flags.IsDisjoint DeviceFlags.roleMask DeviceFlags.unconfirmed),
    DeviceFlags.mode_remove _
      (by decide : Flags.IsDisjoint DeviceFlags.roleMask DeviceFlags.confirmed),
    Flags.contains_insert_of_disjoint _
      (by decide : Flags.IsDisjoint DeviceFlags.confirmed DeviceFlags.unconfirmed),
    Flags.contains_remove_of_not_disjoint _
      (by decide : ¬ Flags.IsDisjoint DeviceFlags.confirmed DeviceFlags.confirmed),
    Flags.contains_insert_of_subset _
      (by decide : Flags.IsSubset DeviceFlags.unconfirmed DeviceFlags.unconfirmed)]

/-- Confirming an address. -/
theorem tenancy_confirm (status : Status) :
    status.settled.tenancy = status.tenancy.confirmed := by
  simp only [tenancy, settled, Tenancy.confirmed, unmark, mark, isConfirmed, isUnconfirmed,
    DeviceFlags.mode_insert _
      (by decide : Flags.IsDisjoint DeviceFlags.roleMask DeviceFlags.confirmed),
    DeviceFlags.mode_remove _
      (by decide : Flags.IsDisjoint DeviceFlags.roleMask DeviceFlags.unconfirmed),
    Flags.contains_insert_of_disjoint _
      (by decide : Flags.IsDisjoint DeviceFlags.unconfirmed DeviceFlags.confirmed),
    Flags.contains_remove_of_not_disjoint _
      (by decide : ¬ Flags.IsDisjoint DeviceFlags.unconfirmed DeviceFlags.unconfirmed),
    Flags.contains_insert_of_subset _
      (by decide : Flags.IsSubset DeviceFlags.confirmed DeviceFlags.confirmed)]

end Status

end DeviceBus
