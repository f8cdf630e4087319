import DeviceBus.Device.Status

/-!
# The algebra of flag sets

Setting and clearing flags acts on single bits, and every predicate on a status asks for some
bits. So a predicate can only change when one of its own bits is set or cleared. This module says
so once for sets of flags, and then for statuses: what a role fixes and what the life of an
address fixes are disjoint, and both are disjoint from the flags of a bond.

## Main results

* `contains_insert_of_disjoint`, `contains_remove_of_disjoint`: bits that are not asked for do
  not matter.
* `contains_mode`: a question about role bits only depends on the role bits.
-/

namespace DeviceBus

namespace Flags

variable {κ : Type}

/-- The bit at a position. -/
def bit (flags : Flags κ) (i : Nat) : Bool := flags.bits.toBitVec.getLsbD i

/-- Two sets without a common bit. -/
def IsDisjoint (a b : Flags κ) : Prop := a.bits &&& b.bits = 0

instance (a b : Flags κ) : Decidable (IsDisjoint a b) := by
  unfold IsDisjoint
  infer_instance

/-- A set inside another one. -/
def IsSubset (a b : Flags κ) : Prop := a.bits &&& b.bits = a.bits

instance (a b : Flags κ) : Decidable (IsSubset a b) := by
  unfold IsSubset
  infer_instance

theorem ext_bit {a b : Flags κ} (h : ∀ i, i < 16 → a.bit i = b.bit i) : a = b := by
  cases a
  cases b
  rw [mk.injEq]
  apply UInt16.toBitVec_inj.1
  exact BitVec.eq_of_getLsbD_eq h

@[simp] theorem bit_insert (a b : Flags κ) (i : Nat) : (a.insert b).bit i = (a.bit i || b.bit i) := by
  simp [bit, insert]

theorem bit_remove (a b : Flags κ) {i : Nat} (hi : i < 16) :
    (a.remove b).bit i = (a.bit i && !b.bit i) := by
  simp [bit, remove, hi]

@[simp] theorem bit_restrict (a b : Flags κ) (i : Nat) :
    (a.restrict b).bit i = (a.bit i && b.bit i) := by
  simp [bit, restrict]

theorem bits_and_eq_iff (a b c : Flags κ) :
    a.bits &&& b.bits = c.bits ↔ ∀ i, i < 16 → (a.bit i && b.bit i) = c.bit i := by
  constructor
  · intro h i _
    simp only [bit, ← h, UInt16.toBitVec_and, BitVec.getLsbD_and]
  · intro h
    apply UInt16.toBitVec_inj.1
    apply BitVec.eq_of_getLsbD_eq
    intro i hi
    simpa [bit] using h i hi

theorem contains_iff (a b : Flags κ) :
    a.contains b = true ↔ ∀ i, i < 16 → b.bit i = true → a.bit i = true := by
  rw [contains, beq_iff_eq, bits_and_eq_iff a b b]
  constructor
  · intro h i hi hb
    have := h i hi
    rw [hb, Bool.and_true] at this
    exact this
  · intro h i hi
    cases hb : b.bit i with
    | false => simp
    | true => simp [h i hi hb]

theorem IsDisjoint.bit {a b : Flags κ} (h : a.IsDisjoint b) {i : Nat} (hi : i < 16)
    (ha : a.bit i = true) : b.bit i = false := by
  have hand := (bits_and_eq_iff a b ⟨0⟩).1 h i hi
  rw [ha, Bool.true_and] at hand
  rw [hand]
  simp [Flags.bit]

theorem IsSubset.bit {a b : Flags κ} (h : a.IsSubset b) {i : Nat} (hi : i < 16)
    (ha : a.bit i = true) : b.bit i = true := by
  have hand := (bits_and_eq_iff a b a).1 h i hi
  rw [ha, Bool.true_and] at hand
  exact hand

/-! ## Questions after a change -/

theorem contains_insert_of_disjoint (a : Flags κ) {b c : Flags κ} (h : b.IsDisjoint c) :
    (a.insert c).contains b = a.contains b := by
  rw [Bool.eq_iff_iff, contains_iff, contains_iff]
  constructor <;> intro hall i hi hb
  · have := hall i hi hb
    rwa [bit_insert, h.bit hi hb, Bool.or_false] at this
  · rw [bit_insert, hall i hi hb, Bool.true_or]

theorem contains_insert_of_subset (a : Flags κ) {b c : Flags κ} (h : b.IsSubset c) :
    (a.insert c).contains b = true := by
  rw [contains_iff]
  intro i hi hb
  rw [bit_insert, h.bit hi hb, Bool.or_true]

theorem contains_remove_of_disjoint (a : Flags κ) {b c : Flags κ} (h : b.IsDisjoint c) :
    (a.remove c).contains b = a.contains b := by
  rw [Bool.eq_iff_iff, contains_iff, contains_iff]
  constructor <;> intro hall i hi hb
  · have := hall i hi hb
    rwa [bit_remove _ _ hi, h.bit hi hb, Bool.not_false, Bool.and_true] at this
  · rw [bit_remove _ _ hi, hall i hi hb, h.bit hi hb]
    rfl

/-- Clearing one bit of a question answers it with no. -/
theorem contains_remove_of_not_disjoint (a : Flags κ) {b c : Flags κ} (h : ¬ b.IsDisjoint c) :
    (a.remove c).contains b = false := by
  rw [← Bool.not_eq_true, contains_iff]
  intro hall
  apply h
  show b.bits &&& c.bits = (⟨0⟩ : Flags κ).bits
  rw [bits_and_eq_iff]
  intro i hi
  have hzero : (⟨0⟩ : Flags κ).bit i = false := by simp [bit]
  rw [hzero]
  cases hb : b.bit i with
  | false => rfl
  | true =>
    have hai := hall i hi hb
    rw [bit_remove _ _ hi, Bool.and_eq_true] at hai
    simpa using hai.2

/-- Who has no bit of a set does not have all bits of a part of it. -/
theorem contains_eq_false_of_not_intersects {a b c : Flags κ} (h : a.intersects c = false)
    (hsub : b.IsSubset c) (hbits : b.bits ≠ 0) : a.contains b = false := by
  rw [← Bool.not_eq_true, contains_iff]
  intro hall
  apply hbits
  have hdisjoint : a.IsDisjoint c := by simpa [intersects, IsDisjoint] using h
  refine congrArg Flags.bits (ext_bit (b := ⟨0⟩) fun i hi => ?_)
  have hzero : (⟨0⟩ : Flags κ).bit i = false := by simp [bit]
  rw [hzero, ← Bool.not_eq_true]
  intro hb
  have hc := hsub.bit hi hb
  rw [hdisjoint.bit hi (hall i hi hb)] at hc
  cases hc

theorem restrict_insert_of_disjoint (a : Flags κ) {b c : Flags κ} (h : b.IsDisjoint c) :
    (a.insert c).restrict b = a.restrict b := by
  apply ext_bit
  intro i hi
  rw [bit_restrict, bit_restrict, bit_insert]
  cases hb : b.bit i with
  | false => simp
  | true => simp [h.bit hi hb]

theorem restrict_remove_of_disjoint (a : Flags κ) {b c : Flags κ} (h : b.IsDisjoint c) :
    (a.remove c).restrict b = a.restrict b := by
  apply ext_bit
  intro i hi
  rw [bit_restrict, bit_restrict, bit_remove _ _ hi]
  cases hb : b.bit i with
  | false => simp
  | true => simp [h.bit hi hb]

theorem contains_restrict_of_subset (a : Flags κ) {b c : Flags κ} (h : b.IsSubset c) :
    (a.restrict c).contains b = a.contains b := by
  rw [Bool.eq_iff_iff, contains_iff, contains_iff]
  constructor <;> intro hall i hi hb
  · have := hall i hi hb
    rw [bit_restrict, Bool.and_eq_true] at this
    exact this.1
  · rw [bit_restrict, hall i hi hb, h.bit hi hb]
    rfl

theorem restrict_restrict_of_subset (a : Flags κ) {b c : Flags κ} (h : b.IsSubset c) :
    (a.restrict c).restrict b = a.restrict b := by
  apply ext_bit
  intro i hi
  rw [bit_restrict, bit_restrict, bit_restrict]
  cases hb : b.bit i with
  | false => simp
  | true => simp [h.bit hi hb]

/-- Flags inside one set have no part in a disjoint one. -/
theorem restrict_restrict_of_disjoint (a : Flags κ) {b c : Flags κ} (h : b.IsDisjoint c) :
    (a.restrict b).restrict c = none := by
  apply ext_bit
  intro i hi
  have hnone : (none : Flags κ).bit i = false := by simp [bit, none]
  rw [bit_restrict, bit_restrict, hnone]
  cases hb : b.bit i with
  | false => simp
  | true => simp [h.bit hi hb]

/-- Setting flags inside a set that is cleared anyway makes no difference. -/
theorem remove_insert_of_subset (a : Flags κ) {b c : Flags κ} (h : b.IsSubset c) :
    (a.insert b).remove c = a.remove c := by
  apply ext_bit
  intro i hi
  rw [bit_remove _ _ hi, bit_remove _ _ hi, bit_insert]
  cases hb : b.bit i with
  | false => simp
  | true => simp [h.bit hi hb]

/-- Clearing flags inside a set that is cleared anyway makes no difference. -/
theorem remove_remove_of_subset (a : Flags κ) {b c : Flags κ} (h : b.IsSubset c) :
    (a.remove b).remove c = a.remove c := by
  apply ext_bit
  intro i hi
  rw [bit_remove _ _ hi, bit_remove _ _ hi, bit_remove _ _ hi]
  cases hb : b.bit i with
  | false => simp
  | true => simp [h.bit hi hb]

end Flags

/-! ## Role bits -/

namespace DeviceFlags

/-- A question about role bits only depends on the role bits. -/
theorem contains_mode (flags : DeviceFlags) {asked : DeviceFlags} (h : asked.IsSubset roleMask) :
    (mode flags).contains asked = flags.contains asked :=
  Flags.contains_restrict_of_subset flags h

theorem mode_insert (flags : DeviceFlags) {added : DeviceFlags}
    (h : Flags.IsDisjoint roleMask added) : mode (flags.insert added) = mode flags :=
  Flags.restrict_insert_of_disjoint flags h

theorem mode_remove (flags : DeviceFlags) {cleared : DeviceFlags}
    (h : Flags.IsDisjoint roleMask cleared) : mode (flags.remove cleared) = mode flags :=
  Flags.restrict_remove_of_disjoint flags h

end DeviceFlags

/-- A role is nothing but role bits. -/
theorem Role.mode_flags (role : Role) : DeviceFlags.mode role.flags = role.flags := by
  cases role <;> rfl

/-- Different roles have different role bits. -/
theorem Role.flags_injective {a b : Role} (h : a.flags = b.flags) : a = b := by
  revert h
  cases a <;> cases b <;> decide

end DeviceBus
