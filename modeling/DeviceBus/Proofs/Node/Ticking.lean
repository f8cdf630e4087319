import DeviceBus.Proofs.Node.Arbitration
import DeviceBus.Proofs.Node.Chores

/-!
# What a tick does to addresses

With a tick every own driver gets its turn once, in the order of the registry. In its turn a driver
without an address draws a free one, if there is any; a drawn address may be confirmed; and a driver
with an address announces itself. `Ages` lists what a turn can do to a tenancy. No turn touches the
tenancy of another driver, so what happens to a driver in a tick is what happens in its turn.

## Main results

* `tickEntry_spec`: what one turn does, and what it announces.
* `tick_spec`: what a tick does to every driver, in terms of the node when its turn came, and that
  exactly the drivers with an address announce themselves.
-/

namespace DeviceBus

open ControlPacket

/-! ## Free addresses -/

namespace Node

theorem isInUse_eq_false_iff {registry : Registry Entry} (wf : registry.WellFormed)
    {address : UInt8} :
    registry.isInUse address = false ↔
      ∀ handle entry, registry.get? handle = some entry → entry.status.address ≠ address := by
  unfold Registry.isInUse Registry.findStatus?
  rw [Option.isSome_eq_false_iff, Option.isNone_iff_eq_none, wf.find?_eq_none_iff]
  simp

/-- The free addresses are those of devices that no entry has. -/
theorem mem_freeAddresses_iff {registry : Registry Entry} {address : UInt8} :
    address ∈ freeAddresses registry ↔
      address ≠ 0 ∧ address.toNat ≤ 254 ∧ registry.isInUse address = false := by
  unfold freeAddresses highestAddress
  rw [List.mem_filter, List.mem_map]
  constructor
  · rintro ⟨⟨i, hi, rfl⟩, hfree⟩
    rw [List.mem_range] at hi
    have hval : (UInt8.ofNat (i + 1)).toNat = i + 1 := by
      simp only [UInt8.toNat_ofNat']
      omega
    refine ⟨?_, by omega, by simpa using hfree⟩
    intro hzero
    rw [hzero] at hval
    simp at hval
  · rintro ⟨hpos, hle, hfree⟩
    have hnat : address.toNat ≠ 0 := by
      intro h
      exact hpos (UInt8.toNat_inj.1 h)
    refine ⟨⟨address.toNat - 1, List.mem_range.2 (by omega), ?_⟩, by simpa using hfree⟩
    rw [Nat.sub_add_cancel (by omega)]
    exact UInt8.ofNat_toNat

/-- A free address is drawn unless there is none. -/
theorem drawFree_cases (node : Node) :
    (∃ address draws, node.drawFree = (some address, { node with draws }) ∧
      address ∈ freeAddresses node.registry) ∨
    (node.drawFree = (none, node) ∧ freeAddresses node.registry = []) := by
  unfold drawFree
  dsimp only
  cases hfree : freeAddresses node.registry with
  | nil => exact .inr ⟨rfl, rfl⟩
  | cons first rest =>
    left
    have hlt := Draws.index_lt (by simp : 0 < (first :: rest).length) node.draws
    obtain ⟨address, haddress⟩ : ∃ address,
        (first :: rest)[(node.draws.index (first :: rest).length).1]? = some address :=
      ⟨_, List.getElem?_eq_getElem hlt⟩
    refine ⟨address, (node.draws.index (first :: rest).length).2, ?_, ?_⟩
    · dsimp only
      rw [haddress]
    · exact List.mem_of_getElem? haddress

/-! ## Quiet parts -/

variable {node : Node} (hsound : node.Sound)

include hsound in
theorem quiet_withDraws (draws : Draws) : Quiet node { node with draws } where
  settings := rfl
  wellFormed := hsound.wellFormed
  entries := hsound.entries
  silent := id
  tenancy k := by
    rw [map_still]
    rfl
  trace := ⟨[], (List.append_nil _).symm, rfl⟩

include hsound in
/-- Taking out what is no own driver is quiet. -/
theorem quiet_remove {handle : Handle} {entry : Entry} {registry : Registry Entry}
    (hremove : node.registry.remove handle = some (entry, registry))
    (hlocal : entry.status.isLocal = false) : Quiet node { node with registry } := by
  obtain ⟨hentry, hget⟩ := Registry.get?_of_remove hremove
  refine ⟨rfl, hsound.wellFormed.remove hremove, ?_, ?_, ?_, [], (List.append_nil _).symm, rfl⟩
  · intro k old hk
    rw [hget] at hk
    split at hk
    · cases hk
    · exact hsound.entries k old hk
  · intro hsilent k old hk
    rw [hget] at hk
    split at hk
    · cases hk
    · exact hsilent k old hk
  · intro k
    rw [map_still]
    unfold tenancy?
    rw [hget]
    by_cases hk : k = handle
    · rw [if_pos hk, hk, hentry]
      show none = entry.tenancy?
      unfold Entry.tenancy?
      rw [hlocal]
      rfl
    · rw [if_neg hk]

include hsound in
theorem quiet_count (handle : Handle) : Quiet node (node.modifyStatus handle (·.counted)) :=
  quiet_modifyStatus hsound handle fun _ => ⟨rfl, rfl⟩

include hsound in
/-- Aging a device that is no own driver is quiet. -/
theorem quiet_ageDevice (env : Env) {handle : Handle} {entry : Entry}
    (hentry : node.registry.get? handle = some entry) (hlocal : entry.status.isLocal = false) :
    Quiet node (node.ageDevice env handle) := by
  have hremote : ∀ old, node.registry.get? handle = some old → old.status.isLocal = false := by
    intro old hold
    rw [hentry] at hold
    cases hold
    exact hlocal
  unfold ageDevice
  rw [hentry]
  dsimp only
  split
  · exact quiet_modifyStatus_of_not_isLocal hsound handle
      (fun status => DeviceFlags.mode_remove status.flags (by decide)) hremote
  · have hcount := quiet_count hsound handle
    have hget := node.registry.get?_modify handle
      (·.modifyStatus (·.counted)) handle
    rw [if_pos rfl, hentry] at hget
    split
    · exact hcount
    · split
      · split
        · rename_i old registry hremove
          have hold := (Registry.get?_of_remove hremove).1
          have hsame : old = entry.modifyStatus (·.counted) :=
            Option.some.inj (hold.symm.trans hget)
          refine hcount.trans (quiet_remove hcount.sound hremove ?_)
          rw [hsame]
          exact hlocal
        · exact hcount
      · rename_i registration _
        unfold loseRemote tellRemoved
        have hlost : Quiet (node.modifyStatus handle (·.counted))
            ((node.modifyStatus handle (·.counted)).modifyStatus handle
              (·.vacated registration.requiredSerial)) := by
          refine quiet_modifyStatus_of_not_isLocal hcount.sound handle ?_ ?_
          · intro status
            show DeviceFlags.mode (DeviceFlags.mode status.flags) = DeviceFlags.mode status.flags
            apply Flags.ext_bit
            intro i _
            simp [DeviceFlags.mode]
          · intro old hold
            have hsame : old = entry.modifyStatus (·.counted) :=
              Option.some.inj (hold.symm.trans hget)
            rw [hsame]
            exact hlocal
        have hqueue := quiet_queueEvent hlost.sound handle .removed
        exact ((hcount.trans hlost).trans hqueue).trans
          (quiet_call hqueue.sound env handle .removed)

include hsound in
theorem quiet_agePartner (env : Env) (handle : Handle) :
    Quiet node (node.agePartner env handle) := by
  have hset : ∀ missed : UInt8, Quiet node
      (node.modifyRegistration handle fun r => { r with partnerSilence := missed }) :=
    fun missed => quiet_modifyRegistration hsound handle fun _ => rfl
  unfold agePartner
  split
  · exact .refl hsound
  · dsimp only
    split
    · exact hset 0
    · split
      · exact hset _
      · exact (hset 0).trans (quiet_call (hset 0).sound env handle .partnerLost)

/-! ## Getting an address -/

/-- No entry has the address of a device that is given. -/
def IsFree (address : UInt8) (node : Node) : Prop :=
  address ≠ 0 ∧ address.toNat ≤ 254 ∧
    ∀ handle entry, node.registry.get? handle = some entry → entry.status.address ≠ address

/-- Every address of a device is the address of an entry. -/
def IsCrowded (node : Node) : Prop :=
  ∀ address : UInt8, address ≠ 0 → address.toNat ≤ 254 → node.registry.isInUse address = true

theorem get?_modifyRegistration_status (node : Node) (handle : Handle)
    (change : Registration → Registration) (k : Handle) :
    ((node.modifyRegistration handle change).registry.get? k).map (·.status) =
      (node.registry.get? k).map (·.status) := by
  unfold modifyRegistration
  rw [Registry.get?_modify]
  split
  · rename_i hk
    rw [hk, Option.map_map]
    cases node.registry.get? handle with
    | none => rfl
    | some entry =>
      obtain ⟨status, kind⟩ := entry
      cases kind <;> rfl
  · rfl

include hsound in
/-- A change of a registration changes nothing about which addresses are in use. -/
theorem isInUse_modifyRegistration (handle : Handle) {change : Registration → Registration}
    (hdriver : ∀ registration, (change registration).driver = registration.driver)
    (address : UInt8) :
    (node.modifyRegistration handle change).registry.isInUse address =
      node.registry.isInUse address := by
  have hafter := (quiet_modifyRegistration hsound handle hdriver).wellFormed
  have hiff : (node.modifyRegistration handle change).registry.isInUse address = false ↔
      node.registry.isInUse address = false := by
    rw [isInUse_eq_false_iff hafter, isInUse_eq_false_iff hsound.wellFormed]
    have hstatus := get?_modifyRegistration_status node handle change
    constructor
    · intro h k entry hk
      have hk' := hstatus k
      rw [hk] at hk'
      obtain ⟨entry', hentry', heq⟩ := Option.map_eq_some_iff.1 hk'
      have heq' : entry'.status = entry.status := heq
      rw [← heq']
      exact h k entry' hentry'
    · intro h k entry hk
      have hk' := hstatus k
      rw [hk] at hk'
      obtain ⟨entry', hentry', heq⟩ := Option.map_eq_some_iff.1 hk'.symm
      have heq' : entry'.status = entry.status := heq
      rw [← heq']
      exact h k entry' hentry'
  cases hleft : (node.modifyRegistration handle change).registry.isInUse address <;>
    cases hright : node.registry.isInUse address <;> simp_all

include hsound in
/-- An address that is chosen is free, and none is chosen only if none is free. -/
theorem chooseAddress_cases (handle : Handle) :
    Quiet node (node.chooseAddress handle).2 ∧
      ((∃ address, (node.chooseAddress handle).1 = some address ∧ node.IsFree address) ∨
        ((node.chooseAddress handle).1 = none ∧ node.IsCrowded)) := by
  have hquiet : Quiet node
      (node.modifyRegistration handle fun r => { r with wantedAddress := none }) :=
    quiet_modifyRegistration hsound handle fun _ => rfl
  have huse : ∀ address,
      (node.modifyRegistration handle fun r => { r with wantedAddress := none }).registry.isInUse
        address = node.registry.isInUse address :=
    isInUse_modifyRegistration hsound handle fun _ => rfl
  unfold chooseAddress
  dsimp only
  generalize node.modifyRegistration handle (fun r => { r with wantedAddress := none }) = mid
    at hquiet huse ⊢
  split
  · rename_i address hpreferred
    refine ⟨hquiet, .inl ⟨address, rfl, ?_⟩⟩
    obtain ⟨-, havailable⟩ := Option.filter_eq_some_iff.1 hpreferred
    simp only [isAvailable, Bool.and_eq_true, decide_eq_true_eq, Bool.not_eq_true', huse,
      highestAddress] at havailable
    refine ⟨?_, of_decide_eq_true havailable.1.2,
      (isInUse_eq_false_iff hsound.wellFormed).1 havailable.2⟩
    intro hzero
    rw [hzero] at havailable
    simp at havailable
  · rcases mid.drawFree_cases with ⟨address, draws, hdraw, hmem⟩ | ⟨hdraw, hnone⟩
    · rw [hdraw]
      refine ⟨hquiet.trans (quiet_withDraws hquiet.sound draws), .inl ⟨address, rfl, ?_⟩⟩
      obtain ⟨hpos, hle, hfree⟩ := mem_freeAddresses_iff.1 hmem
      rw [huse] at hfree
      exact ⟨hpos, hle, (isInUse_eq_false_iff hsound.wellFormed).1 hfree⟩
    · rw [hdraw]
      refine ⟨hquiet, .inr ⟨rfl, ?_⟩⟩
      intro address hpos hle
      by_contra hfree
      rw [Bool.not_eq_true] at hfree
      have hmem : address ∈ freeAddresses mid.registry :=
        mem_freeAddresses_iff.2 ⟨hpos, hle, (huse address).trans hfree⟩
      rw [hnone] at hmem
      cases hmem

include hsound in
/-- A driver without an address gets a free one, unless there is none. -/
theorem assignAddress_cases (handle : Handle) :
    (∃ address, node.IsFree address ∧
      Evolves (only handle (Tenancy.drawn address)) [] node (node.assignAddress handle)) ∨
    (node.IsCrowded ∧ Quiet node (node.assignAddress handle)) := by
  obtain ⟨hquiet, hchosen⟩ := chooseAddress_cases hsound handle
  unfold assignAddress
  rcases hchosen with ⟨address, haddress, hfree⟩ | ⟨hnone, hcrowded⟩
  · left
    refine ⟨address, hfree, ?_⟩
    split
    · rename_i mid heq
      rw [heq] at haddress
      cases haddress
    · rename_i address' mid heq
      rw [heq] at hquiet haddress
      cases haddress
      have hmodify : Evolves (only handle (Tenancy.drawn address)) [] mid
          (mid.modifyStatus handle (·.drew address)) :=
        evolves_modifyStatus hquiet.sound handle fun status =>
          ⟨congrArg Tenancy.mode (status.tenancy_draw address), status.tenancy_draw address⟩
      exact (hquiet.then hmodify).thenQuiet (quiet_queueEvent hmodify.sound handle _)
  · right
    refine ⟨hcrowded, ?_⟩
    split
    · rename_i mid heq
      rw [heq] at hquiet
      exact hquiet
    · rename_i address' mid heq
      rw [heq] at hnone
      cases hnone

include hsound in
/-- A drawn address is counted, and confirmed when it is time. -/
theorem probation_cases (env : Env) (handle : Handle) (status : Status) :
    Quiet node (node.probation env handle status) ∨
      Evolves (only handle Tenancy.confirmed) [] node (node.probation env handle status) := by
  have hcount := quiet_count hsound handle
  unfold probation
  dsimp only
  generalize node.modifyStatus handle (·.counted) = mid at hcount ⊢
  split
  · unfold confirm
    split
    · exact .inl hcount
    · right
      rename_i status' _
      have hmodify : Evolves (only handle Tenancy.confirmed) [] mid
          (mid.modifyStatus handle (·.settled)) :=
        evolves_modifyStatus hcount.sound handle fun status =>
          ⟨congrArg Tenancy.mode status.tenancy_confirm, status.tenancy_confirm⟩
      have hqueue := quiet_queueEvent hmodify.sound handle (.connected status'.address)
      exact ((hcount.then hmodify).thenQuiet hqueue).thenQuiet
        (quiet_call hqueue.sound env handle .connected)
  · exact .inl hcount

/-! ## Announcing -/

/-- An announce of the driver with a tenancy. -/
structure Announces (cp : ControlPacket) (tenancy : Tenancy) : Prop where
  hello : cp.type = .hello
  address : cp.address = tenancy.address
  serial : cp.serial = tenancy.serial
  conflict : cp.flags.contains ControlFlags.conflict = false
  uncertain : cp.flags.contains ControlFlags.uncertain = tenancy.isUnconfirmed

theorem contains_insertIf_of_disjoint {κ : Type} (condition : Bool) (flags : Flags κ)
    {asked added : Flags κ} (h : asked.IsDisjoint added) :
    (Flags.insertIf condition added flags).contains asked = flags.contains asked := by
  unfold Flags.insertIf
  split
  · exact Flags.contains_insert_of_disjoint flags h
  · rfl

/-- The announce that a status calls for is one of its tenancy. -/
theorem announces_announcement (status : Status) : Announces (announcement status) status.tenancy where
  hello := rfl
  address := rfl
  serial := rfl
  conflict := by
    show (Flags.insertIf status.isUnconfirmed ControlFlags.uncertain _).contains _ = false
    rw [contains_insertIf_of_disjoint _ _ (by decide), contains_insertIf_of_disjoint _ _ (by decide),
      contains_insertIf_of_disjoint _ _ (by decide), contains_insertIf_of_disjoint _ _ (by decide)]
    decide
  uncertain := by
    show (Flags.insertIf status.isUnconfirmed ControlFlags.uncertain _).contains _ =
      status.isUnconfirmed
    cases hunconfirmed : status.isUnconfirmed with
    | true => exact Flags.contains_insert_of_subset _ (by decide)
    | false =>
      show (Flags.insertIf status.isPairable ControlFlags.pairable _).contains _ = false
      rw [contains_insertIf_of_disjoint _ _ (by decide),
        contains_insertIf_of_disjoint _ _ (by decide),
        contains_insertIf_of_disjoint _ _ (by decide)]
      decide

/-- What is said in the turn of a driver: nothing but its announce, and that if it has an
address. -/
structure Says (tenancy? : Option Tenancy) (said : List ControlPacket) : Prop where
  only : ∀ cp ∈ said, ∃ t, tenancy? = some t ∧ t.address ≠ 0 ∧ Announces cp t
  all : ∀ t, tenancy? = some t → t.address ≠ 0 → ∃ cp ∈ said, Announces cp t

theorem says_none : Says none [] where
  only _ hcp := by cases hcp
  all _ ht := by cases ht

theorem says_of_address_eq_zero {tenancy : Tenancy} (h : tenancy.address = 0) :
    Says (some tenancy) [] where
  only _ hcp := by cases hcp
  all t ht hpos := by
    cases ht
    exact absurd h hpos

theorem says_of_address_ne_zero {tenancy : Tenancy} (h : tenancy.address ≠ 0)
    {cp : ControlPacket} (hcp : Announces cp tenancy) : Says (some tenancy) [cp] where
  only other hother := by
    rw [List.mem_singleton] at hother
    exact ⟨tenancy, rfl, h, hother ▸ hcp⟩
  all t ht _ := by
    cases ht
    exact ⟨cp, List.mem_singleton_self cp, hcp⟩

theorem evolves_of_registry_eq {after : Node} (hsound : node.Sound)
    (hsettings : after.settings = node.settings) (hregistry : after.registry = node.registry)
    {added : List Action} (hlog : after.log = node.log ++ added) :
    Evolves still (hellosOf (framesOf added)) node after where
  settings := hsettings
  wellFormed := by
    rw [hregistry]
    exact hsound.wellFormed
  entries := by
    rw [hregistry]
    exact hsound.entries
  silent := by
    unfold IsSilent
    rw [hregistry]
    exact id
  tenancy k := by
    unfold tenancy?
    rw [map_still, hregistry]
  trace := ⟨added, hlog, rfl⟩

/-- A post leaves the registry alone. -/
theorem post_cases (env : Env) (cp : ControlPacket) (node : Node) :
    ∃ added, node.post env cp = { node with log := node.log ++ added } := by
  unfold post
  split
  · exact ⟨[.sent _], rfl⟩
  · exact ⟨[], by rw [List.append_nil]⟩

include hsound in
/-- Announcing touches no tenancy, and a driver that adds nothing says what its tenancy calls
for. -/
theorem announce_spec (env : Env) {handle : Handle} {entry : Entry}
    (hentry : node.registry.get? handle = some entry) (hlocal : entry.status.isLocal = true) :
    ∃ said, Evolves still said node (node.announce env handle) ∧
      (node.IsSilent → env.refusal = none → Says (some entry.status.tenancy) said) := by
  unfold announce
  rw [hentry]
  dsimp only
  by_cases hzero : entry.status.address = 0
  · rw [if_pos hzero]
    exact ⟨[], Quiet.refl hsound, fun _ _ => says_of_address_eq_zero hzero⟩
  · rw [if_neg hzero]
    have hold := hsound.entries handle entry hentry
    cases hkind : entry.kind with
    | record =>
      have hrecord : entry.isRecord = true := by
        unfold Entry.isRecord
        rw [hkind]
      rw [(hold.record_flags hrecord).1] at hlocal
      cases hlocal
    | driver registration =>
      dsimp only
      have hordinary : registration.driver.IsOrdinary := by
        unfold Entry.Sound at hold
        rw [hkind] at hold
        exact hold.1
      by_cases hheard : node.IsSilent ∧ env.refusal = none
      · obtain ⟨hsilent, henv⟩ := hheard
        have hpayload : registration.driver.payload? = none := by
          have hnone := hsilent handle entry hentry
          unfold Entry.payload? at hnone
          rw [hkind] at hnone
          exact hnone
        rw [Driver.fill_eq_of_payload? hordinary hpayload]
        have hlog : ({ node with log := node.log ++ ([] : List Note).map Action.noted } : Node) =
            node := by
          rw [List.map_nil, List.append_nil]
        rw [hlog]
        refine ⟨_, evolves_post hsound henv rfl (Nat.zero_le _), fun _ _ => ?_⟩
        exact says_of_address_ne_zero hzero (announces_announcement entry.status)
      · obtain ⟨added, hpost⟩ := post_cases env
          (registration.driver.fill entry.status (announcement entry.status)).1
          { node with
            log := node.log ++
              (registration.driver.fill entry.status (announcement entry.status)).2.map .noted }
        refine ⟨_, evolves_of_registry_eq hsound (by rw [hpost]) (by rw [hpost])
          (by rw [hpost]; exact List.append_assoc _ _ _), fun hsilent henv => ?_⟩
        exact absurd ⟨hsilent, henv⟩ hheard

/-! ## One turn -/

/-- What a turn can do to the tenancy of an own driver. -/
inductive Ages (node : Node) (tenancy : Tenancy) : Tenancy → Prop where
  | drawn {address : UInt8} (without : tenancy.address = 0) (free : node.IsFree address) :
      Ages node tenancy (tenancy.drawn address)
  | without (without : tenancy.address = 0) (crowded : node.IsCrowded) : Ages node tenancy tenancy
  | kept (pos : tenancy.address ≠ 0) : Ages node tenancy tenancy
  | confirmed (pos : tenancy.address ≠ 0) (onProbation : tenancy.isUnconfirmed = true) :
      Ages node tenancy tenancy.confirmed

include hsound in
/-- Before it announces itself, a driver gets an address or its address ages. -/
theorem enumerate_cases (env : Env) (handle : Handle) (entry : Entry) :
    ∃ f, Ages node entry.status.tenancy (f entry.status.tenancy) ∧
      Evolves (only handle f) [] node (node.enumerate env handle entry.status) := by
  have hstill : Quiet node node → Evolves (only handle fun tenancy => tenancy) [] node node := by
    rw [only_id]
    exact id
  unfold enumerate
  by_cases hzero : entry.status.address = 0
  · rw [if_pos hzero]
    rcases assignAddress_cases hsound handle with ⟨address, hfree, h⟩ | ⟨hcrowded, h⟩
    · exact ⟨_, .drawn hzero hfree, h⟩
    · refine ⟨fun tenancy => tenancy, .without hzero hcrowded, ?_⟩
      rw [only_id]
      exact h
  · rw [if_neg hzero]
    by_cases hunconfirmed : entry.status.isUnconfirmed = true
    · rw [if_pos hunconfirmed]
      rcases probation_cases hsound env handle entry.status with h | h
      · refine ⟨fun tenancy => tenancy, .kept hzero, ?_⟩
        rw [only_id]
        exact h
      · exact ⟨_, .confirmed hzero hunconfirmed, h⟩
    · rw [if_neg hunconfirmed]
      exact ⟨fun tenancy => tenancy, .kept hzero, hstill (.refl hsound)⟩

include hsound in
/-- The turn of an own driver. -/
theorem tickDevice_of_isLocal (env : Env) {handle : Handle} {entry : Entry}
    (hentry : node.registry.get? handle = some entry) (hlocal : entry.status.isLocal = true) :
    ∃ f said, Evolves (only handle f) said node (node.tickDevice env handle entry.status) ∧
      Ages node entry.status.tenancy (f entry.status.tenancy) ∧
      (node.IsSilent → env.refusal = none → Says (some (f entry.status.tenancy)) said) := by
  obtain ⟨f, hages, hevolves⟩ := enumerate_cases hsound env handle entry
  have htenancy : node.tenancy? handle = some entry.status.tenancy :=
    tenancy?_eq_some_iff.2 ⟨entry, hentry, hlocal, rfl⟩
  have hthere := hevolves.tenancy handle
  rw [htenancy] at hthere
  rw [tickDevice_of_own env hlocal]
  generalize node.enumerate env handle entry.status = mid at hevolves hthere ⊢
  obtain ⟨entry', hentry', hlocal', htenancy'⟩ := tenancy?_eq_some_iff.1 hthere
  obtain ⟨said, hsaid, hspoken⟩ := announce_spec hevolves.sound env hentry' hlocal'
  refine ⟨f, said, hevolves.trans hsaid, hages, fun hsilent henv => ?_⟩
  have hown : entry'.status.tenancy = f entry.status.tenancy := by
    rw [htenancy']
    simp [only]
  rw [← hown]
  exact hspoken (hevolves.silent hsilent) henv

include hsound in
/-- The turn of an entry touches its own tenancy at most, and says what that calls for. -/
theorem tickEntry_spec (env : Env) (handle : Handle) :
    ∃ f said, Evolves (only handle f) said node (tickEntry env node handle) ∧
      (∀ t, node.tenancy? handle = some t → Ages node t (f t)) ∧
      (node.IsSilent → env.refusal = none → Says ((node.tenancy? handle).map f) said) := by
  have hquiet : ∀ {after : Node}, Quiet node after → node.tenancy? handle = none →
      ∃ f said, Evolves (only handle f) said node after ∧
        (∀ t, node.tenancy? handle = some t → Ages node t (f t)) ∧
        (node.IsSilent → env.refusal = none → Says ((node.tenancy? handle).map f) said) := by
    intro after h hnone
    refine ⟨fun tenancy => tenancy, [], ?_, ?_, ?_⟩
    · rw [only_id]
      exact h
    · intro t ht
      rw [hnone] at ht
      cases ht
    · intro _ _
      rw [hnone]
      exact says_none
  cases hentry : node.registry.get? handle with
  | none =>
    rw [tickEntry_of_none env hentry]
    refine hquiet (.refl hsound) ?_
    unfold tenancy?
    rw [hentry]
    rfl
  | some entry =>
    have htenancy : entry.status.isLocal = false → node.tenancy? handle = none := by
      intro hlocal
      unfold tenancy?
      rw [hentry]
      show entry.tenancy? = none
      unfold Entry.tenancy?
      rw [hlocal]
      rfl
    obtain ⟨status, kind⟩ := entry
    cases kind with
    | record =>
      rw [tickEntry_of_record env hentry]
      have hremote := ((hsound.entries handle _ hentry).record_flags rfl).1
      exact hquiet (quiet_ageDevice hsound env hentry hremote) (htenancy hremote)
    | driver registration =>
      rw [tickEntry_of_driver env hentry]
      cases hlocal : status.isLocal with
      | true =>
        obtain ⟨f, said, hevolves, hages, hspoken⟩ := tickDevice_of_isLocal hsound env hentry hlocal
        have hown : node.tenancy? handle = some status.tenancy :=
          tenancy?_eq_some_iff.2 ⟨_, hentry, hlocal, rfl⟩
        refine ⟨f, said, hevolves.thenQuiet (quiet_agePartner hevolves.sound env handle), ?_, ?_⟩
        · intro t ht
          rw [hown] at ht
          cases ht
          exact hages
        · rw [hown]
          exact hspoken
      | false =>
        have hdevice : Quiet node (node.tickDevice env handle status) := by
          rw [tickDevice_of_remote env hlocal]
          split
          · exact quiet_ageDevice hsound env hentry hlocal
          · exact .refl hsound
        exact hquiet (hdevice.trans (quiet_agePartner hdevice.sound env handle)) (htenancy hlocal)

/-! ## All turns -/

/-- After some turns, exactly the drivers among some handles that have an address have announced
themselves. -/
structure SaysAll (handles : List Handle) (after : Node) (said : List ControlPacket) : Prop where
  only : ∀ cp ∈ said, ∃ k ∈ handles, ∃ t, after.tenancy? k = some t ∧ t.address ≠ 0 ∧
    Announces cp t
  all : ∀ k ∈ handles, ∀ t, after.tenancy? k = some t → t.address ≠ 0 →
    ∃ cp ∈ said, Announces cp t

/-- What becomes of the tenancies in the turns of some handles, each in terms of the node when its
turn came. -/
structure Turns (env : Env) (handles : List Handle) (change : Handle → Tenancy → Tenancy)
    (node : Node) : Prop where
  other : ∀ k t, k ∉ handles → change k t = t
  turn : ∀ k ∈ handles, ∀ t, node.tenancy? k = some t → ∃ earlier later,
    handles = earlier ++ k :: later ∧ Ages (earlier.foldl (tickEntry env) node) t (change k t)

include hsound in
/-- In a row of turns, every entry has the turn it would have by itself. -/
theorem tickEntries_spec (env : Env) (handles : List Handle) (hnodup : handles.Nodup) :
    ∃ change said, Evolves change said node (handles.foldl (tickEntry env) node) ∧
      Turns env handles change node ∧
      (node.IsSilent → env.refusal = none →
        SaysAll handles (handles.foldl (tickEntry env) node) said) := by
  induction handles generalizing node with
  | nil =>
    refine ⟨still, [], Quiet.refl hsound, ⟨fun _ _ _ => rfl, ?_⟩, fun _ _ => ⟨?_, ?_⟩⟩
    · intro k hk
      cases hk
    · intro cp hcp
      cases hcp
    · intro k hk
      cases hk
  | cons handle rest ih =>
    obtain ⟨hfresh, hrest⟩ := List.nodup_cons.1 hnodup
    obtain ⟨f, first, hfirst, hages, hspoken⟩ := tickEntry_spec hsound env handle
    obtain ⟨change, said, hlater, hturns, hspokenAll⟩ := ih hfirst.sound hrest
    have hnext : ∀ k, k ≠ handle →
        (tickEntry env node handle).tenancy? k = node.tenancy? k := by
      intro k hk
      rw [hfirst.tenancy]
      unfold only
      cases node.tenancy? k with
      | none => rfl
      | some t => simp [hk]
    have hlast : (rest.foldl (tickEntry env) (tickEntry env node handle)).tenancy? handle =
        (node.tenancy? handle).map f := by
      rw [hlater.tenancy, hfirst.tenancy]
      cases node.tenancy? handle with
      | none => rfl
      | some t => simp [only, hturns.other handle _ hfresh]
    refine ⟨_, first ++ said, hfirst.trans hlater, ⟨?_, ?_⟩, ?_⟩
    · intro k t hk
      rw [List.mem_cons, not_or] at hk
      rw [hturns.other k _ hk.2]
      simp [only, hk.1]
    · intro k hk t ht
      by_cases hhandle : k = handle
      · subst hhandle
        refine ⟨[], rest, rfl, ?_⟩
        rw [hturns.other k _ hfresh]
        simp only [only, ↓reduceIte, List.foldl_nil]
        exact hages t ht
      · obtain ⟨earlier, later, hsplit, hturn⟩ :=
          hturns.turn k ((List.mem_cons.1 hk).resolve_left hhandle) t (by rw [hnext k hhandle, ht])
        refine ⟨handle :: earlier, later, by rw [hsplit]; rfl, ?_⟩
        simp only [only, hhandle, ↓reduceIte, List.foldl_cons]
        exact hturn
    · intro hsilent henv
      have hnow := hspoken hsilent henv
      have hthen := hspokenAll (hfirst.silent hsilent) henv
      constructor
      · intro cp hcp
        rcases List.mem_append.1 hcp with h | h
        · obtain ⟨t, ht, hpos, hcp'⟩ := hnow.only cp h
          exact ⟨handle, List.mem_cons_self, t, hlast.trans ht, hpos, hcp'⟩
        · obtain ⟨k, hk, t, ht⟩ := hthen.only cp h
          exact ⟨k, List.mem_cons_of_mem _ hk, t, ht⟩
      · intro k hk t ht hpos
        rcases List.mem_cons.1 hk with rfl | hk'
        · obtain ⟨cp, hcp, hannounces⟩ := hnow.all t (hlast.symm.trans ht) hpos
          exact ⟨cp, List.mem_append_left _ hcp, hannounces⟩
        · obtain ⟨cp, hcp, hannounces⟩ := hthen.all k hk' t ht hpos
          exact ⟨cp, List.mem_append_right _ hcp, hannounces⟩

/-- Who has an address has a handle. -/
theorem mem_handles_of_tenancy? {node : Node} (hsound : node.Sound) {handle : Handle}
    {tenancy : Tenancy} (h : node.tenancy? handle = some tenancy) :
    handle ∈ node.registry.handles := by
  obtain ⟨entry, hentry, -⟩ := tenancy?_eq_some_iff.1 h
  exact hsound.wellFormed.mem_handles_iff.2 ⟨entry, hentry⟩

include hsound in
/-- **A tick.** What happens to a driver in a tick is what happens in its turn. -/
theorem tick_spec (env : Env) :
    ∃ change said, Evolves change said node (node.tick env) ∧
      Turns env node.registry.handles change node ∧
      (node.IsSilent → env.refusal = none → SaysAll node.registry.handles (node.tick env) said) :=
  tickEntries_spec hsound env node.registry.handles hsound.wellFormed.nodup_handles

end Node

end DeviceBus
