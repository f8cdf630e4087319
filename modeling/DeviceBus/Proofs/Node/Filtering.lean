import DeviceBus.Proofs.Node.Limits
import DeviceBus.Proofs.Node.Reception

/-!
# The filter of paired devices

What an announce does to the filter it does at its end, and it gets there only if it is for certain,
meets no collision, and no driver handles it; then it `Settles`. A paired device is put on the
filter, if there is room, and any other is taken off. So an address on the filter belongs to a
device of which the last announce that settled showed a bond.

An announce that a driver handles changes nothing there: a device that was put on the filter and
says that it is free stays on it, if some driver handles the news.

## Main results

* `filter_of_settles`, `filter_of_not_settles`: what an announce does to the filter.
* `isTaken_or_exists_handles`: why an announce does not settle.
* `filtersPaired_of_comes`: what the filter holds, in any run.
* `staysFiltered_of_askingHost`: a device that says it is free and stays on the filter.
-/

namespace DeviceBus

open ControlPacket

/-! ## The set of addresses -/

namespace AddressFilter

variable {filter : AddressFilter} {address other : UInt8} {limit : Nat}

theorem insertSorted_perm (address : UInt8) (addresses : List UInt8) :
    (insertSorted address addresses).Perm (address :: addresses) := by
  induction addresses with
  | nil => exact .refl _
  | cons first rest ih =>
    unfold insertSorted
    split
    · exact .refl _
    · exact (ih.cons first).trans (.swap address first rest)

/-- An address joins a filter if there is room for it, but never the logic address. -/
theorem mem_add : other ∈ (filter.add address).2.addresses ↔ other ∈ filter.addresses ∨
    other = address ∧ address ≠ 0 ∧ filter.addresses.length < filter.capacity := by
  unfold add
  split
  · rename_i hzero
    simp [hzero]
  · rename_i hzero
    split
    · rename_i hmem
      refine ⟨.inl, ?_⟩
      rintro (hother | ⟨rfl, -⟩)
      · exact hother
      · exact hmem
    · split
      · rename_i hfull
        simp [Nat.not_lt.2 hfull]
      · rename_i hroom
        rw [(insertSorted_perm address filter.addresses).mem_iff, List.mem_cons, or_comm]
        simp [hzero, Nat.not_le.1 hroom]

theorem mem_remove : other ∈ (filter.remove address).addresses ↔
    other ∈ filter.addresses ∧ other ≠ address := by
  unfold remove
  rw [List.mem_filter, bne_iff_ne]

/-- A filter that holds what it may: no more addresses than its capacity, none of them twice, and
not the logic address. -/
structure IsSound (limit : Nat) (filter : AddressFilter) : Prop where
  capacity : filter.capacity = limit
  length_le : filter.addresses.length ≤ limit
  zero : 0 ∉ filter.addresses
  nodup : filter.addresses.Nodup

theorem isSound_empty (limit : Nat) : (empty limit).IsSound limit :=
  ⟨rfl, Nat.zero_le _, List.not_mem_nil, List.nodup_nil⟩

theorem IsSound.add (h : filter.IsSound limit) (address : UInt8) :
    (filter.add address).2.IsSound limit := by
  have hzero : 0 ∉ (filter.add address).2.addresses := by
    rw [mem_add]
    rintro (hmem | ⟨rfl, hne, -⟩)
    · exact h.zero hmem
    · exact hne rfl
  unfold AddressFilter.add at hzero ⊢
  by_cases hlogic : address = 0
  · rw [if_pos hlogic]
    exact h
  · rw [if_neg hlogic] at hzero ⊢
    by_cases hmem : address ∈ filter.addresses
    · rw [if_pos hmem]
      exact h
    · rw [if_neg hmem] at hzero ⊢
      by_cases hfull : filter.capacity ≤ filter.addresses.length
      · rw [if_pos hfull]
        exact h
      · rw [if_neg hfull] at hzero ⊢
        have hperm := insertSorted_perm address filter.addresses
        rw [h.capacity, Nat.not_le] at hfull
        refine ⟨h.capacity, ?_, hzero, hperm.nodup_iff.2 (List.nodup_cons.2 ⟨hmem, h.nodup⟩)⟩
        exact Nat.le_trans (Nat.le_of_eq hperm.length_eq) hfull

theorem IsSound.remove (h : filter.IsSound limit) (address : UInt8) :
    (filter.remove address).IsSound limit where
  capacity := h.capacity
  length_le := Nat.le_trans (List.length_filter_le _ _) h.length_le
  zero hmem := h.zero (mem_remove.1 hmem).1
  nodup := h.nodup.filter _

/-- What an announce does to the filter when it comes there. -/
def learn (cp : ControlPacket) (filter : AddressFilter) : AddressFilter :=
  if cp.flags.contains ControlFlags.paired then (filter.add cp.address).2
  else filter.remove cp.address

theorem IsSound.learn (h : filter.IsSound limit) (cp : ControlPacket) :
    (filter.learn cp).IsSound limit := by
  unfold AddressFilter.learn
  split
  · exact h.add cp.address
  · exact h.remove cp.address

end AddressFilter

/-- What a status may be like when its driver is shown an announce: as it is, marked as seen, or at
the announced address as well. -/
def Status.ShownWith (cp : ControlPacket) (status shown : Status) : Prop :=
  shown = status ∨ shown = status.mark DeviceFlags.seen ∨
    shown = status.followed cp

namespace Node

variable {node after : Node} {env : Env} {cp : ControlPacket} {handle k : Handle}
  {scan next : Scan} {x : Happening} {added : List Action}

/-! ## How far an announce gets -/

/-- An announce gets to the filter: it is for certain, meets no collision, and no driver handles
it. -/
def Settles (env : Env) (cp : ControlPacket) (node : Node) : Prop :=
  cp.flags.isSafe = true ∧ ∃ scan, node.round env cp = .proceed scan ∧ scan.handled = false

/-- The driver at a handle handles an announce that it is shown. -/
def Handles (env : Env) (cp : ControlPacket) (k : Handle) (node : Node) : Prop :=
  ∃ status registration ctx, node.enrolled? k = some (status, registration) ∧ ctx.env = env ∧
    ctx.handle = k ∧ status.ShownWith cp ctx.status ∧
    (registration.driver.respond (.control cp) ctx).handled = true

/-- A call is handled by the driver that is called. -/
theorem exists_of_call_handled {callback : Callback}
    (h : (node.call env handle callback).1 = true) :
    ∃ status registration ctx, node.enrolled? handle = some (status, registration) ∧
      ctx.env = env ∧ ctx.handle = handle ∧ ctx.status = status ∧
      (registration.driver.respond callback ctx).handled = true := by
  unfold call at h
  split at h
  · rename_i status registration hentry
    exact ⟨status, registration, _, enrolled?_eq_some_iff.2 hentry, rfl, rfl, rfl, h⟩
  · cases h

/-- Showing an announce to a driver whose status was changed. -/
theorem handles_of_deliver {mid : Node} {isHandled isClaimed : Bool}
    (h : (Scan.deliver env handle cp ⟨mid, isHandled, isClaimed⟩).handled = true)
    (hkept : ∀ shown registration, mid.enrolled? handle = some (shown, registration) →
      ∃ status, node.enrolled? handle = some (status, registration) ∧ status.ShownWith cp shown) :
    isHandled = true ∨ Handles env cp handle node := by
  have hhandled : isHandled = true ∨ (mid.call env handle (.control cp)).1 = true := by
    simp only [Scan.deliver, Bool.or_eq_true, Bool.and_eq_true] at h
    exact h.imp_right And.left
  refine hhandled.imp_right fun hcall => ?_
  obtain ⟨shown, registration, ctx, hmid, henv, hhandle, hstatus, hreply⟩ :=
    exists_of_call_handled hcall
  obtain ⟨status, hnode, hshown⟩ := hkept shown registration hmid
  exact ⟨status, registration, ctx, hnode, henv, hhandle, hstatus ▸ hshown, hreply⟩

theorem enrolled?_modifyStatus_eq {change : Status → Status} {shown : Status}
    {registration : Registration}
    (h : (node.modifyStatus handle change).enrolled? handle = some (shown, registration)) :
    ∃ status, node.enrolled? handle = some (status, registration) ∧ change status = shown := by
  have hentry := enrolled?_eq_some_iff.1 h
  unfold modifyStatus at hentry
  rw [Registry.get?_modify, if_pos rfl] at hentry
  obtain ⟨⟨status, kind⟩, hbefore, heq⟩ := Option.map_eq_some_iff.1 hentry
  cases heq
  exact ⟨status, enrolled?_eq_some_iff.2 hbefore, rfl⟩

/-- What is handled at an entry is handled by its driver. -/
theorem handles_of_visit (hvisit : visit env cp handle scan = .proceed next)
    (h : next.handled = true) : scan.handled = true ∨ Handles env cp handle scan.node := by
  have hsame : ∀ {mid : Node} {isClaimed : Bool},
      (∀ shown registration, mid.enrolled? handle = some (shown, registration) →
        scan.node.enrolled? handle = some (shown, registration)) →
      next = Scan.deliver env handle cp ⟨mid, scan.handled, isClaimed⟩ →
      scan.handled = true ∨ Handles env cp handle scan.node := by
    rintro mid isClaimed hkept rfl
    exact handles_of_deliver h fun shown registration hmid =>
      ⟨shown, hkept shown registration hmid, .inl rfl⟩
  have hchange : ∀ {change : Status → Status} {isClaimed : Bool},
      (∀ status : Status, status.ShownWith cp (change status)) →
      next = Scan.deliver env handle cp
        ⟨scan.node.modifyStatus handle change, scan.handled, isClaimed⟩ →
      scan.handled = true ∨ Handles env cp handle scan.node := by
    rintro change isClaimed hshown rfl
    refine handles_of_deliver h fun shown registration hmid => ?_
    obtain ⟨status, hnode, rfl⟩ := enrolled?_modifyStatus_eq hmid
    exact ⟨status, hnode, hshown status⟩
  rcases exists_driver_or_visit_eq env cp handle scan with ⟨status, registration, held⟩ | heq
  · cases showing env cp held with
    | yields _ _ heq | rebukes _ _ _ _ heq => cases heq.symm.trans hvisit
    | agrees _ _ _ heq =>
      cases heq.symm.trans hvisit
      exact hchange (fun _ => .inr (.inl rfl)) rfl
    | moves _ _ heq =>
      cases heq.symm.trans hvisit
      exact hchange (fun _ => .inr (.inr rfl)) rfl
    | records _ _ _ _ _ _ heq =>
      have hspares := spares_recordDevice cp scan.node
      cases heq.symm.trans hvisit
      exact hsame (fun _ _ hmid => (hspares.enrolled? handle trivial).symm.trans hmid) rfl
    | hears _ _ _ _ _ heq | pairs _ _ _ _ _ _ _ _ heq =>
      cases heq.symm.trans hvisit
      exact hsame (fun _ _ hmid => hmid) rfl
    | passes _ _ _ _ heq =>
      cases heq.symm.trans hvisit
      exact .inl h
  · cases heq.symm.trans hvisit
    exact .inl h

/-- What is handled in a round is handled by a driver that is as it was when the round began. -/
theorem exists_handles_of_visitAll {handles : List Handle} (hnodup : handles.Nodup)
    (hround : visitAll env cp handles scan = .proceed next) (h : next.handled = true) :
    scan.handled = true ∨ ∃ k ∈ handles, Handles env cp k scan.node := by
  induction handles generalizing scan with
  | nil =>
    cases hround
    exact .inl h
  | cons handle rest ih =>
    obtain ⟨hnot, hrest⟩ := List.nodup_cons.1 hnodup
    have hspares := spares_visit env cp handle scan
    unfold visitAll at hround
    split at hround
    · cases hround
    · rename_i mid hvisit
      rw [hvisit] at hspares
      rcases ih hrest hround with hmid | ⟨k, hk, status, registration, ctx, hkept, hrests⟩
      · exact (handles_of_visit hvisit hmid).imp_right fun hhandles =>
          ⟨handle, List.mem_cons_self, hhandles⟩
      · have hne : k ≠ handle := fun heq => hnot (heq ▸ hk)
        exact .inr ⟨k, List.mem_cons_of_mem _ hk, status, registration, ctx,
          (hspares.enrolled? k hne).symm.trans hkept, hrests⟩

/-- **Why an announce for certain does not settle**: an own driver has its address, or a driver
handles it. -/
theorem isTaken_or_exists_handles (wf : node.registry.WellFormed) (safe : cp.flags.isSafe = true)
    (h : ¬ node.Settles env cp) : node.IsTaken cp ∨ ∃ k, Handles env cp k node := by
  cases hround : node.round env cp with
  | collision found => exact .inl (isTaken_of_collision wf hround)
  | proceed scan =>
    have hhandled : scan.handled = true := by
      rw [← Bool.not_eq_false]
      exact fun hnot => h ⟨safe, scan, hround, hnot⟩
    have hwf := (spares_heard cp node).wellFormed wf
    rcases exists_handles_of_visitAll hwf.nodup_handles hround hhandled with
      hstart | ⟨k, -, status, registration, ctx, hkept, hshown⟩
    · cases hstart
    · -- that a partner was heard of is no matter of the driver's answer
      obtain ⟨booked, hwas, silence, rfl⟩ := exists_enrolled?_of_heard cp hkept
      exact .inr ⟨k, status, booked, ctx, hwas, hshown⟩

/-! ## What an announce does to the filter -/

theorem filter_discover (env : Env) (cp : ControlPacket) (node : Node) :
    (node.discover env cp).filter = node.filter := by
  unfold discover
  split
  · exact (houses_adopt node _ env cp).filter
  · rfl

theorem filter_settle {limit : Nat} (hsound : scan.node.filter.IsSound limit) (env : Env)
    (cp : ControlPacket) : (settle env cp scan).filter = scan.node.filter.learn cp := by
  have hend : ∀ mid : Node, (if scan.isClaimed then mid else mid.discover env cp).filter =
      mid.filter := by
    intro mid
    split
    · rfl
    · exact filter_discover env cp mid
  unfold settle AddressFilter.learn
  dsimp only
  cases hpaired : cp.flags.contains ControlFlags.paired with
  | true =>
    cases hfiltered : scan.node.filter.contains cp.address with
    | false => rfl
    | true =>
      -- what is on the filter is not put there again
      simp only [AddressFilter.contains, Bool.and_eq_true, decide_eq_true_eq] at hfiltered
      have hpositive : cp.address ≠ 0 := fun heq => hsound.zero (heq ▸ hfiltered.2)
      refine (hend scan.node).trans ?_
      rw [if_pos rfl, AddressFilter.add, if_neg hpositive, if_pos hfiltered.2]
  | false =>
    cases hfiltered : scan.node.filter.contains cp.address with
    | true => exact hend { scan.node with filter := scan.node.filter.remove cp.address }
    | false =>
      have hnone : cp.address ∉ scan.node.filter.addresses := by
        intro hmem
        have hpos : 0 < cp.address := by
          rw [UInt8.pos_iff_ne_zero]
          rintro heq
          exact hsound.zero (heq ▸ hmem)
        rw [AddressFilter.contains, decide_eq_true hpos, decide_eq_true hmem] at hfiltered
        cases hfiltered
      refine (hend scan.node).trans ?_
      show scan.node.filter = scan.node.filter.remove cp.address
      unfold AddressFilter.remove
      rw [List.filter_eq_self.2 fun other hother => bne_iff_ne.2 fun heq : other = cp.address =>
        hnone (heq ▸ hother)]

theorem filter_round (env : Env) (cp : ControlPacket) (node : Node) :
    (node.round env cp).node.filter = node.filter :=
  (houses_visitAll env cp (node.heard cp).registry.handles
    ⟨node.heard cp, false, false⟩).filter.trans
    (filter_heard cp node)

/-- An announce that settles teaches the filter. -/
theorem filter_of_settles {limit : Nat} (hsound : node.filter.IsSound limit)
    (h : node.Settles env cp) : (node.receiveAnnounce env cp).filter = node.filter.learn cp := by
  obtain ⟨safe, scan, hround, hfree⟩ := h
  have hfilter := filter_round env cp node
  rw [hround] at hfilter
  have hfilter' : scan.node.filter = node.filter := hfilter
  rw [receiveAnnounce_eq, hround]
  dsimp only
  rw [hfree, safe, Bool.not_true, Bool.or_self, if_neg Bool.false_ne_true,
    filter_settle (hfilter' ▸ hsound) env cp, hfilter']

/-- An announce that does not settle leaves the filter alone. -/
theorem filter_of_not_settles (h : ¬ node.Settles env cp) :
    (node.receiveAnnounce env cp).filter = node.filter := by
  have hfilter := filter_round env cp node
  rw [receiveAnnounce_eq]
  split
  · rename_i heq
    rw [heq] at hfilter
    exact hfilter
  · rename_i scan heq
    rw [heq] at hfilter
    have hstop : (scan.handled || !cp.flags.isSafe) = true := by
      rw [← Bool.not_eq_false]
      intro hgoes
      rw [Bool.or_eq_false_iff, Bool.not_eq_false'] at hgoes
      exact h ⟨hgoes.2, scan, heq, hgoes.1⟩
    rw [if_pos hstop]
    exact hfilter

/-- Whatever happens, the filter holds what it may. -/
theorem isSound_of_becomes {limit : Nat} (hsound : node.filter.IsSound limit)
    (becomes : Becomes x node added after) : after.filter.IsSound limit := by
  by_cases hbrings : ∃ cp, x.Brings cp
  · obtain ⟨cp, env, frame, rfl, hello⟩ := hbrings
    cases becomes
    rw [receiveFrame_of_hello node env hello]
    by_cases hsettles : node.Settles env cp
    · rw [filter_of_settles hsound hsettles]
      exact hsound.learn cp
    · rw [filter_of_not_settles hsettles]
      exact hsound
  · rw [(houses_of_becomes becomes fun cp brings => hbrings ⟨cp, brings⟩).filter]
    exact hsound

/-! ## Any run -/

section

variable {settings : NodeSettings} {draws : Draws} {xs : List Happening} {address : UInt8}

theorem Comes.isSound {admits : Driver → Prop} (h : Comes settings draws admits xs node) :
    node.filter.IsSound settings.filterCapacity := by
  obtain ⟨trace, hcourse⟩ := h
  induction hcourse with
  | here => exact AddressFilter.isSound_empty _
  | next _ _ becomes _ ih => exact isSound_of_becomes ih becomes

/-- Of the announces for certain of an address, the last one that was not kept from the filter was
of a paired device. What keeps an announce from the filter is that an own driver has the address, or
that a driver handles it. -/
inductive LastPaired (settings : NodeSettings) (draws : Draws) (address : UInt8) : Node → Prop where
  /-- A paired device announced itself. -/
  | reported {xs : List Happening} {node after : Node} {env : Env} {frame : Bytes}
      {added : List Action} {cp : ControlPacket}
      (before : Comes settings draws (fun _ => True) xs node) (hello : helloOf? frame = some cp)
      (there : cp.address = address) (paired : cp.flags.contains ControlFlags.paired = true)
      (settles : node.Settles env cp) (becomes : Becomes (.receive env frame) node added after) :
      LastPaired settings draws address after
  /-- Something happened, but it was no other announce of the address. -/
  | since {node after : Node} {x : Happening} {added : List Action}
      (before : LastPaired settings draws address node) (becomes : Becomes x node added after)
      (quiet : ∀ env frame cp, x = .receive env frame → helloOf? frame = some cp →
        cp.flags.isSafe = true → cp.address = address →
        cp.flags.contains ControlFlags.paired = true ∨ node.IsTaken cp ∨
          ∃ k, Handles env cp k node) :
      LastPaired settings draws address after

/-- An address goes on the filter with the announce of a paired device, and stays there while no
other announce of the address settles. -/
theorem mem_filter_of_becomes (h : Comes settings draws (fun _ => True) xs node)
    (becomes : Becomes x node added after) (hmem : address ∈ after.filter.addresses) :
    (∃ env frame cp, x = .receive env frame ∧ helloOf? frame = some cp ∧ cp.address = address ∧
      cp.flags.contains ControlFlags.paired = true ∧ node.Settles env cp) ∨
    address ∈ node.filter.addresses ∧ ∀ env frame cp, x = .receive env frame →
      helloOf? frame = some cp → cp.flags.isSafe = true → cp.address = address →
      cp.flags.contains ControlFlags.paired = true ∨ node.IsTaken cp ∨
        ∃ k, Handles env cp k node := by
  by_cases hbrings : ∃ cp, x.Brings cp
  · obtain ⟨cp, env, frame, rfl, hello⟩ := hbrings
    have honly : ∀ env' frame' cp', Happening.receive env frame = .receive env' frame' →
        helloOf? frame' = some cp' → env' = env ∧ cp' = cp := by
      rintro env' frame' cp' heq hello'
      cases heq
      exact ⟨rfl, Option.some.inj (hello'.symm.trans hello)⟩
    cases becomes
    rw [receiveFrame_of_hello node env hello] at hmem
    by_cases hsettles : node.Settles env cp
    · rw [filter_of_settles h.isSound hsettles, AddressFilter.learn] at hmem
      cases hpaired : cp.flags.contains ControlFlags.paired with
      | true =>
        rw [hpaired, if_pos rfl, AddressFilter.mem_add] at hmem
        rcases hmem with hmem | ⟨rfl, -⟩
        · refine .inr ⟨hmem, fun env' frame' cp' heq hello' _ _ => .inl ?_⟩
          rw [(honly env' frame' cp' heq hello').2]
          exact hpaired
        · exact .inl ⟨env, frame, cp, rfl, hello, rfl, hpaired, hsettles⟩
      | false =>
        rw [hpaired, if_neg Bool.false_ne_true, AddressFilter.mem_remove] at hmem
        refine .inr ⟨hmem.1, fun env' frame' cp' heq hello' _ hthere => absurd hthere ?_⟩
        rw [(honly env' frame' cp' heq hello').2]
        exact hmem.2.symm
    · rw [filter_of_not_settles hsettles] at hmem
      refine .inr ⟨hmem, fun env' frame' cp' heq hello' safe _ => .inr ?_⟩
      obtain ⟨rfl, rfl⟩ := honly env' frame' cp' heq hello'
      exact isTaken_or_exists_handles h.wellFormed safe hsettles
  · rw [(houses_of_becomes becomes fun cp brings => hbrings ⟨cp, brings⟩).filter] at hmem
    exact .inr ⟨hmem, fun env frame cp heq hello _ _ =>
      absurd ⟨cp, env, frame, heq, hello⟩ hbrings⟩

theorem Comes.lastPaired (h : Comes settings draws (fun _ => True) xs node)
    (hmem : address ∈ node.filter.addresses) : LastPaired settings draws address node := by
  obtain ⟨trace, hcourse⟩ := h
  induction hcourse with
  | here => exact absurd hmem List.not_mem_nil
  | @next xs trace node x added after before admitted becomes _ ih =>
    have hcomes : Comes settings draws (fun _ => True) xs node := ⟨trace, before⟩
    rcases mem_filter_of_becomes hcomes becomes hmem with
      ⟨env, frame, cp, rfl, hello, hthere, hpaired, hsettles⟩ | ⟨hwas, hquiet⟩
    · exact .reported hcomes hello hthere hpaired hsettles becomes
    · exact .since (ih hwas) becomes hquiet

/-- What the filter of a node holds. -/
structure FiltersPaired (settings : NodeSettings) (draws : Draws) (node : Node) : Prop where
  /-- It holds no more addresses than it may, none of them twice. -/
  bounded : node.filter.addresses.length ≤ settings.filterCapacity ∧ node.filter.addresses.Nodup
  /-- It never holds the logic address. -/
  positive : 0 ∉ node.filter.addresses
  /-- The last announce of a filtered address that was not kept from the filter was of a paired
  device. -/
  justified : ∀ address ∈ node.filter.addresses, LastPaired settings draws address node
  /-- An address whose device says that it is free is off the filter, unless an own driver has the
  address or a driver handles the news. -/
  released : ∀ env frame cp, helloOf? frame = some cp → cp.flags.isSafe = true →
    cp.flags.contains ControlFlags.paired = false →
    cp.address ∈ (node.receiveFrame env frame).filter.addresses →
    cp.address ∈ node.filter.addresses ∧ (node.IsTaken cp ∨ ∃ k, Handles env cp k node)

/-- **The filter holds devices last heard of as paired**, as far as their announces got to it. -/
theorem filtersPaired_of_comes (h : Comes settings draws (fun _ => True) xs node) :
    FiltersPaired settings draws node where
  bounded := ⟨h.isSound.length_le, h.isSound.nodup⟩
  positive := h.isSound.zero
  justified _ hmem := h.lastPaired hmem
  released env frame cp hello safe unpaired hmem := by
    rw [receiveFrame_of_hello node env hello] at hmem
    by_cases hsettles : node.Settles env cp
    · rw [filter_of_settles h.isSound hsettles, AddressFilter.learn, unpaired,
        if_neg Bool.false_ne_true, AddressFilter.mem_remove] at hmem
      exact absurd rfl hmem.2
    · rw [filter_of_not_settles hsettles] at hmem
      exact ⟨hmem, isTaken_or_exists_handles h.wellFormed safe hsettles⟩

end

/-! ## A device that stays on the filter -/

/-- The announce of a device. -/
def deviceHello (flags : ControlFlags) : ControlPacket :=
  { ControlPacket.hello 20 7 2 with flags }

/-- A pairable host that has its address, when a paired device of its class announced itself. -/
def filteringHost : Node :=
  ((withDriver ⟨.pairableHost, 7, some 1, some 10⟩ (.pairable (.ofGated .idle))).afterTicks
    4).receiveFrame .taking (deviceHello ControlFlags.paired).frame

theorem comes_filteringHost :
    ∃ xs, Comes {} ⟨fun _ => 0, 0⟩ (fun _ => True) xs filteringHost :=
  ⟨_, ((comes_withDriver (fun _ => True) ⟨.pairableHost, 7, some 1, some 10⟩
    (.pairable (.ofGated .idle)) trivial).afterTicks 4).receive .taking _⟩

/-- The paired device is on the filter. -/
theorem filtersPaired_of_filteringHost :
    20 ∈ filteringHost.filter.addresses ∧
      FiltersPaired {} ⟨fun _ => 0, 0⟩ filteringHost := by
  obtain ⟨xs, hcomes⟩ := comes_filteringHost
  exact ⟨by decide +kernel, filtersPaired_of_comes hcomes⟩

/-- A device says for certain that it is free, no own driver has its address, and it stays on the
filter. -/
structure StaysFiltered (cp : ControlPacket) (node : Node) : Prop where
  hello : helloOf? cp.frame = some cp
  safe : cp.flags.isSafe = true
  unpaired : cp.flags.contains ControlFlags.paired = false
  foreign : ∀ pair ∈ node.statuses, pair.2.isLocal = true → pair.2.address ≠ cp.address
  filtered : cp.address ∈ (node.receiveFrame .taking cp.frame).filter.addresses

/-- When the device is free again and says so, the host asks it to pair. With that it handled the
announce, so the device is not taken off the filter. -/
theorem staysFiltered_of_askingHost :
    (∃ xs, Comes {} ⟨fun _ => 0, 0⟩ (fun _ => True) xs filteringHost) ∧
      filteringHost.StaysFiltered (deviceHello ControlFlags.pairable) :=
  ⟨comes_filteringHost,
    { hello := by decide +kernel
      safe := by decide
      unpaired := by decide
      foreign := by decide +kernel
      filtered := by decide +kernel }⟩

end Node

end DeviceBus
