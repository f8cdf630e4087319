import DeviceBus.Proofs.Node.Lifecycle
import DeviceBus.Proofs.Simulation.Lossless

/-!
# Addresses on the whole bus

Nodes draw addresses that are free as far as they know, so two of them can draw the same one. What
keeps this from lasting is what is under way: while two own drivers at different sites have one
address, an announce or a flagged conflict waits somewhere that will take it from one of them. A
certain announce only ever waits where its address is unknown, and a flagged conflict only where
nobody is confirmed at its address; so a confirmed address is never taken.

`Arbitrated` says this of a world. It holds between any two steps, as long as nodes tick in silence
only.

## Main results

* `Arbitrated.handle`, `Arbitrated.tick`, `Arbitrated.register`, `Arbitrated.unregister`: every step
  keeps a world arbitrated.
* `addresses_of_runs`: in a silent world addresses are unique, and a confirmed driver keeps its
  address for good.
-/

namespace DeviceBus

open ControlPacket

namespace World

/-! ## What is under way -/

/-- The announces waiting for a site. -/
def hellos (i : Nat) (world : World) : List ControlPacket := hellosOf (world.queueOf i)

/-- The tenancy of an own driver of a site. -/
def tenancy? (i : Nat) (handle : Handle) (world : World) : Option Tenancy :=
  (world.node? i).bind (·.tenancy? handle)

/-- No frame is under way. -/
def IsQuiet (world : World) : Prop := ∀ i, world.queueOf i = []

/-- Own drivers of different sites have different serial numbers. -/
def HasDistinctSerials (world : World) : Prop :=
  ∀ i j h k s t, i ≠ j → world.tenancy? i h = some s → world.tenancy? j k = some t →
    s.serial ≠ t.serial

/-- An announce that takes the address of a tenancy from everybody on probation and makes everybody
confirmed flag the conflict. -/
structure Challenges (cp : ControlPacket) (tenancy : Tenancy) : Prop where
  conflict : cp.flags.contains ControlFlags.conflict = false
  uncertain : cp.flags.contains ControlFlags.uncertain = true
  address : cp.address = tenancy.address
  serial : cp.serial = tenancy.serial

/-- A conflict flagged at an address. -/
structure FlagsAt (cp : ControlPacket) (address : UInt8) : Prop where
  conflict : cp.flags.contains ControlFlags.conflict = true
  address : cp.address = address

/-- A driver of site `i` is on probation, and either its announce still waits for site `j`, or a
conflict at its address waits for itself. -/
def IsPending (i : Nat) (tenancy : Tenancy) (j : Nat) (world : World) : Prop :=
  tenancy.isUnconfirmed = true ∧
    ((∃ cp ∈ world.hellos j, Challenges cp tenancy) ∨
      ∃ cp ∈ world.hellos i, FlagsAt cp tenancy.address)

/-- Every shared address is contested, and what waits can take no confirmed address. -/
structure Arbitrated (world : World) : Prop where
  lossless : world.Lossless
  orderly : ∀ i node, world.node? i = some node → node.Orderly ∧ node.IsSilent
  serials : world.HasDistinctSerials
  contested : ∀ i j h k s t, i ≠ j → world.tenancy? i h = some s → world.tenancy? j k = some t →
    s.address ≠ 0 → s.address = t.address → world.IsPending i s j ∨ world.IsPending j t i
  certain : ∀ j k t cp, world.tenancy? j k = some t → cp ∈ world.hellos j →
    cp.flags.contains ControlFlags.conflict = false →
    cp.flags.contains ControlFlags.uncertain = false → ¬ t.Owns cp.address
  flagged : ∀ j k t cp, world.tenancy? j k = some t → cp ∈ world.hellos j →
    cp.flags.contains ControlFlags.conflict = true → t.Owns cp.address → t.isConfirmed = false

/-- The trace of a node is no matter of its order. -/
theorem orderly_withoutLog {node : Node} (h : node.Orderly) :
    ({ node with log := [] } : Node).Orderly :=
  ⟨⟨h.sound.wellFormed, h.sound.entries⟩, h.lawful, h.distinct⟩

/-- Drivers that were there before with the same serial numbers still have different ones. -/
theorem serials_of_before {before after : World} (h : before.HasDistinctSerials)
    (hbefore : ∀ j k u, after.tenancy? j k = some u →
      ∃ t, before.tenancy? j k = some t ∧ t.serial = u.serial) : after.HasDistinctSerials := by
  intro i j a b s t hij hs ht
  obtain ⟨s', hs', hserial_s⟩ := hbefore i a s hs
  obtain ⟨t', ht', hserial_t⟩ := hbefore j b t ht
  rw [← hserial_s, ← hserial_t]
  exact h i j a b s' t' hij hs' ht'

theorem notMem_hellos_of_isQuiet {world : World} (hquiet : world.IsQuiet) (i : Nat)
    (cp : ControlPacket) : cp ∉ world.hellos i := by
  unfold hellos
  rw [hquiet i]
  exact List.not_mem_nil

/-! ## Steps on tenancies and announces -/

theorem node?_of_tenancy? {world : World} {i : Nat} {handle : Handle} {tenancy : Tenancy}
    (h : world.tenancy? i handle = some tenancy) :
    ∃ node, world.node? i = some node ∧ node.tenancy? handle = some tenancy :=
  Option.bind_eq_some_iff.1 h

theorem tenancy?_of_node? {world : World} {i : Nat} {node : Node} (h : world.node? i = some node)
    (handle : Handle) : world.tenancy? i handle = node.tenancy? handle := by
  unfold tenancy?
  rw [h]
  rfl

/-- A step of a site, as far as tenancies and announces go. -/
structure Passes (i : Nat) (node : Node) (said : List ControlPacket) (before after : World) :
    Prop where
  lossless : after.Lossless
  nodes : ∀ j, after.node? j = if j = i then some { node with log := [] } else before.node? j
  heard : ∀ j cp, cp ∈ after.hellos j → cp ∈ before.hellos j ∨ j ≠ i ∧ cp ∈ said
  kept : ∀ j cp, cp ∈ before.hellos j → cp ∈ after.hellos j
  told : ∀ j other cp, j ≠ i → before.node? j = some other → cp ∈ said → cp ∈ after.hellos j

theorem Passes.tenancy? {i : Nat} {node : Node} {said : List ControlPacket} {before after : World}
    (h : Passes i node said before after) (j : Nat) (k : Handle) :
    after.tenancy? j k = if j = i then node.tenancy? k else before.tenancy? j k := by
  unfold World.tenancy?
  rw [h.nodes]
  split
  · rfl
  · rfl

/-- If the node's drivers were there before, so were those of all sites. -/
theorem Passes.tenancy?_before {i : Nat} {node next : Node} {said : List ControlPacket}
    {before after : World} (h : Passes i next said before after) (hnode : before.node? i = some node)
    {P : Tenancy → Prop}
    (hback : ∀ k u, next.tenancy? k = some u → P u → node.tenancy? k = some u) (j : Nat)
    (k : Handle) (u : Tenancy) (hu : after.tenancy? j k = some u) (hP : P u) :
    before.tenancy? j k = some u := by
  rw [h.tenancy?] at hu
  split at hu
  · rename_i hj
    subst hj
    rw [tenancy?_of_node? hnode]
    exact hback k u hu hP
  · exact hu

/-- What holds of the nodes before and of the new one, holds of the nodes after. -/
theorem Passes.forall_nodes {i : Nat} {node : Node} {said : List ControlPacket}
    {before after : World} (h : Passes i node said before after) {P : Node → Prop}
    (hnew : P { node with log := [] }) (hold : ∀ j other, before.node? j = some other → P other)
    (j : Nat) (other : Node) (hother : after.node? j = some other) : P other := by
  rw [h.nodes] at hother
  split at hother
  · cases hother
    exact hnew
  · exact hold j other hother

theorem lt_length_of_mem_hellos {world : World} (h : world.Lossless) {j : Nat} {cp : ControlPacket}
    (hcp : cp ∈ world.hellos j) : j < world.sites.length := by
  by_contra hj
  unfold hellos at hcp
  rw [queueOf_eq_nil_of_le h (Nat.le_of_not_lt hj)] at hcp
  cases hcp

theorem Steps.passes {i : Nat} {node : Node} {before after : World} (h : Steps i node before after)
    (hbefore : before.Lossless) {said : List ControlPacket}
    (hsaid : hellosOf (framesOf node.log) = said) : Passes i node said before after where
  lossless := h.lossless
  nodes := h.nodes
  heard j cp hcp := by
    have hj := lt_length_of_mem_hellos h.lossless hcp
    rw [h.length] at hj
    unfold hellos at hcp
    rw [h.queue j hj] at hcp
    split at hcp
    · exact .inl hcp
    · rename_i hji
      rw [hellosOf_append, List.mem_append, hsaid] at hcp
      rcases hcp with hold | hnew
      · exact .inl hold
      · exact .inr ⟨hji, hnew⟩
  kept j cp hcp := by
    have hj := lt_length_of_mem_hellos hbefore hcp
    unfold hellos
    rw [h.queue j hj]
    split
    · exact hcp
    · rw [hellosOf_append]
      exact List.mem_append_left _ hcp
  told j other cp hji hother hcp := by
    unfold hellos
    rw [h.queue j (lt_length_of_node? hother), if_neg hji, hellosOf_append, hsaid]
    exact List.mem_append_right _ hcp

theorem IsPending.mono {before after : World} {i j : Nat} {t : Tenancy}
    (h : before.IsPending i t j) (hkept : ∀ j cp, cp ∈ before.hellos j → cp ∈ after.hellos j) :
    after.IsPending i t j := by
  obtain ⟨hunconfirmed, ⟨cp, hcp, hchallenges⟩ | ⟨cp, hcp, hflags⟩⟩ := h
  · exact ⟨hunconfirmed, .inl ⟨cp, hkept j cp hcp, hchallenges⟩⟩
  · exact ⟨hunconfirmed, .inr ⟨cp, hkept i cp hcp, hflags⟩⟩

/-- Between silent sites nobody shares an address. -/
theorem Arbitrated.unique {world : World} (h : world.Arbitrated) (hquiet : world.IsQuiet)
    {i j : Nat} {a b : Handle} {s t : Tenancy} (hs : world.tenancy? i a = some s)
    (ht : world.tenancy? j b = some t) (hpos : s.address ≠ 0) (haddress : s.address = t.address) :
    i = j ∧ a = b := by
  have hnone := notMem_hellos_of_isQuiet hquiet
  by_cases hij : i = j
  · subst hij
    obtain ⟨node, hnode, hs'⟩ := node?_of_tenancy? hs
    rw [tenancy?_of_node? hnode] at ht
    exact ⟨rfl, (h.orderly i node hnode).1.distinct a b s t hs' ht hpos haddress⟩
  · rcases h.contested i j a b s t hij hs ht hpos haddress with
      ⟨-, ⟨cp, hcp, -⟩ | ⟨cp, hcp, -⟩⟩ | ⟨-, ⟨cp, hcp, -⟩ | ⟨cp, hcp, -⟩⟩ <;>
      exact absurd hcp (hnone _ cp)

/-! ## One step

A step keeps a world arbitrated if it gives nobody an address, keeps what is pending as long as both
addresses last, and sends nothing but conflicts that no confirmed driver can hear. -/

theorem Arbitrated.step {before after : World} (h : before.Arbitrated)
    (hlossless : after.Lossless)
    (horderly : ∀ i node, after.node? i = some node → node.Orderly ∧ node.IsSilent)
    (hserials : after.HasDistinctSerials)
    (hback : ∀ j k u, after.tenancy? j k = some u → u.address ≠ 0 → before.tenancy? j k = some u)
    (hpending : ∀ i j a b s t, i ≠ j → after.tenancy? i a = some s → after.tenancy? j b = some t →
      s.address ≠ 0 → s.address = t.address → before.IsPending i s j → after.IsPending i s j)
    (hheard : ∀ j cp, cp ∈ after.hellos j → cp ∈ before.hellos j ∨
      cp.flags.contains ControlFlags.conflict = true ∧
        ∀ k t, after.tenancy? j k = some t → t.Owns cp.address → t.isConfirmed = false) :
    after.Arbitrated where
  lossless := hlossless
  orderly := horderly
  serials := hserials
  contested i j a b s t hij hs ht hpos haddress := by
    have hpos' : t.address ≠ 0 := haddress ▸ hpos
    have hs' := hback i a s hs hpos
    have ht' := hback j b t ht hpos'
    rcases h.contested i j a b s t hij hs' ht' hpos haddress with hp | hp
    · exact .inl (hpending i j a b s t hij hs ht hpos haddress hp)
    · exact .inr (hpending j i b a t s (Ne.symm hij) ht hs hpos' haddress.symm hp)
  certain j k t cp ht hcp hconflict huncertain howns := by
    have hpos : t.address ≠ 0 := howns.1
    rcases hheard j cp hcp with hold | ⟨hnew, -⟩
    · exact h.certain j k t cp (hback j k t ht hpos) hold hconflict huncertain howns
    · rw [hconflict] at hnew
      cases hnew
  flagged j k t cp ht hcp hconflict howns := by
    rcases hheard j cp hcp with hold | ⟨-, hnew⟩
    · exact h.flagged j k t cp (hback j k t ht howns.1) hold hconflict howns
    · exact hnew k t ht howns

/-! ## Handling a frame -/

/-- A site handled the oldest frame of its queue. -/
structure Handles (i : Nat) (node : Node) (frame : Bytes) (change : Handle → Tenancy → Tenancy)
    (said : List ControlPacket) (before after : World) : Prop where
  lossless : after.Lossless
  site : before.node? i = some node
  hears : Node.Hears frame node change said
  nodes : ∃ next, Node.Evolves change said node next ∧
    ∀ j, after.node? j = if j = i then some { next with log := [] } else before.node? j
  head : ∀ cp, helloOf? frame = some cp → cp ∈ before.hellos i
  kept : ∀ j cp, cp ∈ before.hellos j → cp ∈ after.hellos j ∨ j = i ∧ helloOf? frame = some cp
  heard : ∀ j cp, cp ∈ after.hellos j → cp ∈ before.hellos j ∨ j ≠ i ∧ cp ∈ said
  told : ∀ j other cp, j ≠ i → before.node? j = some other → cp ∈ said → cp ∈ after.hellos j

theorem handleOldest_of_queueOf_eq_nil {world : World} {i : Nat} (h : world.queueOf i = []) :
    world.handleOldest i = world := by
  unfold handleOldest SharedBus.receive
  rw [show world.medium.bus.queue i = [] from h]

theorem handles_of_arbitrated {world : World} (h : world.Arbitrated) (i : Nat) :
    world.handleOldest i = world ∨
      ∃ node frame change said, Handles i node frame change said world (world.handleOldest i) := by
  cases hqueue : world.queueOf i with
  | nil => exact .inl (handleOldest_of_queueOf_eq_nil hqueue)
  | cons frame rest =>
    right
    obtain ⟨node, hnode⟩ := exists_node? (lt_length_of_queueOf_eq_cons h.lossless hqueue)
    obtain ⟨horderly, -⟩ := h.orderly i node hnode
    obtain ⟨taken, hlossless, hsteps, hsites, htaken⟩ := handleOldest_spec h.lossless hnode hqueue
    have henv : world.quietEnv.refusal = none := rfl
    obtain ⟨change, said, hevolves, hhears⟩ :=
      Node.receiveFrame_spec horderly.sound horderly.distinct henv frame
    have hsaid : hellosOf (framesOf (node.receiveFrame world.quietEnv frame).log) = said := by
      obtain ⟨added, hlog, hadded⟩ := hevolves.trace
      rw [hlog, log_of_node? h.lossless hnode]
      exact hadded
    have hpasses := hsteps.passes hlossless hsaid
    have hsame : ∀ j, taken.node? j = world.node? j := by
      intro j
      unfold node?
      rw [hsites]
    have hhead : world.hellos i = (helloOf? frame).toList ++ hellosOf rest := by
      unfold hellos hellosOf
      rw [hqueue, List.filterMap_cons]
      cases helloOf? frame <;> rfl
    have hothers : ∀ j, j ≠ i → taken.hellos j = world.hellos j := by
      intro j hj
      unfold hellos
      rw [htaken, if_neg hj]
    have hrest : taken.hellos i = hellosOf rest := by
      unfold hellos
      rw [htaken, if_pos rfl]
    refine ⟨node, frame, change, said, hpasses.lossless, hnode, hhears,
      ⟨_, hevolves, fun j => ?_⟩, ?_, ?_, ?_, ?_⟩
    · rw [hpasses.nodes, hsame]
    · intro cp hcp
      rw [hhead, hcp]
      exact List.mem_append_left _ (List.mem_singleton_self cp)
    · intro j cp hcp
      by_cases hj : j = i
      · subst hj
        rw [hhead, List.mem_append, Option.mem_toList] at hcp
        rcases hcp with hfirst | hlater
        · exact .inr ⟨rfl, hfirst⟩
        · exact .inl (hpasses.kept j cp (hrest ▸ hlater))
      · exact .inl (hpasses.kept j cp (by rw [hothers j hj]; exact hcp))
    · intro j cp hcp
      rcases hpasses.heard j cp hcp with hold | hnew
      · left
        by_cases hj : j = i
        · subst hj
          rw [hrest] at hold
          rw [hhead]
          exact List.mem_append_right _ hold
        · rw [← hothers j hj]
          exact hold
      · exact .inr hnew
    · intro j other cp hj hother hcp
      exact hpasses.told j other cp hj (by rw [hsame]; exact hother) hcp

theorem Handles.tenancy? {i : Nat} {node : Node} {frame : Bytes}
    {change : Handle → Tenancy → Tenancy} {said : List ControlPacket} {before after : World}
    (h : Handles i node frame change said before after) (j : Nat) (k : Handle) :
    after.tenancy? j k =
      if j = i then (before.tenancy? j k).map (change k) else before.tenancy? j k := by
  obtain ⟨next, hevolves, hnodes⟩ := h.nodes
  by_cases hj : j = i
  · subst hj
    rw [if_pos rfl, tenancy?_of_node? h.site]
    unfold World.tenancy?
    rw [hnodes, if_pos rfl]
    exact hevolves.tenancy k
  · rw [if_neg hj]
    unfold World.tenancy?
    rw [hnodes, if_neg hj]

section

variable {i : Nat} {node : Node} {frame : Bytes} {change : Handle → Tenancy → Tenancy}
  {said : List ControlPacket} {before after : World}

/-- A driver keeps its tenancy or loses its address to a frame that makes it yield. -/
theorem Handles.release (h : Handles i node frame change said before after) {k : Handle}
    {t : Tenancy} (ht : before.tenancy? i k = some t) :
    change k t = t ∨ change k t = t.released ∧
      ∃ cp, helloOf? frame = some cp ∧ t.Owns cp.address ∧ t.verdict cp = .yield := by
  rw [tenancy?_of_node? h.site] at ht
  exact h.hears.release k t ht

/-- Who has an address had it before. -/
theorem Handles.tenancy?_before (h : Handles i node frame change said before after) {j : Nat}
    {k : Handle} {u : Tenancy} (hu : after.tenancy? j k = some u) (hpos : u.address ≠ 0) :
    before.tenancy? j k = some u := by
  rw [h.tenancy?] at hu
  split at hu
  · rename_i hj
    subst hj
    obtain ⟨t, ht, rfl⟩ := Option.map_eq_some_iff.1 hu
    rcases h.release ht with heq | ⟨heq, -⟩
    · rw [heq]
      exact ht
    · rw [heq] at hpos
      exact absurd rfl hpos
  · exact hu

/-- An owner at the site that still has its address agreed with the announce or flagged it. -/
theorem Handles.verdict_ne_yield (h : Handles i node frame change said before after) {k : Handle}
    {t : Tenancy} {cp : ControlPacket} (ht : after.tenancy? i k = some t)
    (hcp : helloOf? frame = some cp) (howns : t.Owns cp.address) : t.verdict cp ≠ .yield := by
  intro hverdict
  have hold := h.tenancy?_before ht howns.1
  rw [h.tenancy?, if_pos rfl, hold] at ht
  rw [tenancy?_of_node? h.site] at hold
  have hgone := h.hears.yielded cp k t hcp hold howns hverdict
  have hsame : change k t = t := Option.some.inj ht
  have hzero : t.address = 0 := by
    rw [← hsame, hgone]
    rfl
  exact howns.1 hzero

theorem Handles.serials (h : Handles i node frame change said before after)
    (hserials : before.HasDistinctSerials) : after.HasDistinctSerials := by
  refine serials_of_before hserials fun j k u hu => ?_
  rw [h.tenancy?] at hu
  split at hu
  · rename_i hj
    subst hj
    obtain ⟨t, ht, rfl⟩ := Option.map_eq_some_iff.1 hu
    rcases h.release ht with heq | ⟨heq, -⟩
    · exact ⟨t, ht, by rw [heq]⟩
    · exact ⟨t, ht, by rw [heq]; rfl⟩
  · exact ⟨u, hu, rfl⟩

/-- What is pending between two drivers that still share an address stays pending: a challenge that
reached the other driver came back as a flagged conflict. -/
theorem Handles.pending (h : Handles i node frame change said before after)
    (hserials : before.HasDistinctSerials) {j k : Nat} {a b : Handle} {s t : Tenancy} (hjk : j ≠ k)
    (hs : after.tenancy? j a = some s) (ht : after.tenancy? k b = some t) (hpos : s.address ≠ 0)
    (haddress : s.address = t.address) (hpending : before.IsPending j s k) :
    after.IsPending j s k := by
  obtain ⟨hunconfirmed, ⟨cp, hcp, hchallenges⟩ | ⟨cp, hcp, hflags⟩⟩ := hpending
  · rcases h.kept k cp hcp with hkept | ⟨rfl, hhead⟩
    · exact ⟨hunconfirmed, .inl ⟨cp, hkept, hchallenges⟩⟩
    · have howns : t.Owns cp.address :=
        ⟨haddress ▸ hpos, (hchallenges.address.trans haddress).symm⟩
      have hold := h.tenancy?_before ht howns.1
      have hrebuke : t.verdict cp = .rebuke := by
        cases hverdict : t.verdict cp with
        | yield => exact absurd hverdict (h.verdict_ne_yield ht hhead howns)
        | rebuke => rfl
        | agree =>
          have hserial := (Tenancy.verdict_eq_agree_iff.1 hverdict).2
          have hdiffer := hserials j k a b s t hjk (h.tenancy?_before hs hpos) hold
          exact absurd (hserial.trans hchallenges.serial).symm hdiffer
      rw [tenancy?_of_node? h.site] at hold
      have hsaid := h.hears.rebuked cp b t hhead hold howns hrebuke
      obtain ⟨other, hother, -⟩ := node?_of_tenancy? (h.tenancy?_before hs hpos)
      have hflagged : FlagsAt cp.flagged s.address :=
        ⟨Flags.contains_insert_of_subset _ (by decide), hchallenges.address⟩
      exact ⟨hunconfirmed, .inr ⟨_, h.told j other _ hjk hother hsaid, hflagged⟩⟩
  · rcases h.kept j cp hcp with hkept | ⟨rfl, hhead⟩
    · exact ⟨hunconfirmed, .inr ⟨cp, hkept, hflags⟩⟩
    · have howns : s.Owns cp.address := ⟨hpos, hflags.address.symm⟩
      exact absurd (s.verdict_of_conflict hflags.conflict) (h.verdict_ne_yield hs hhead howns)

/-- Whatever is sent is a conflict, and no confirmed driver elsewhere has its address: the owner
that flagged it is confirmed, so whoever shares its address is on probation. -/
theorem Handles.flagged (h : Handles i node frame change said before after)
    (harbitrated : before.Arbitrated) {j : Nat} {cp : ControlPacket} (hji : j ≠ i)
    (hsaid : cp ∈ said) : cp.flags.contains ControlFlags.conflict = true ∧
      ∀ b t, after.tenancy? j b = some t → t.Owns cp.address → t.isConfirmed = false := by
  obtain ⟨challenge, k, owner, -, rfl, hthere, howns, hverdict⟩ := h.hears.said cp hsaid
  obtain ⟨-, -, hconfirmed, -⟩ := Tenancy.verdict_eq_rebuke_iff.1 hverdict
  refine ⟨Flags.contains_insert_of_subset _ (by decide), fun b t ht howns' => ?_⟩
  have haddress : owner.address = t.address := howns.2.trans howns'.2.symm
  have hthere' : before.tenancy? i k = some owner := by
    rw [tenancy?_of_node? h.site]
    exact hthere
  have ht' := h.tenancy?_before ht howns'.1
  rcases harbitrated.contested i j k b owner t (Ne.symm hji) hthere' ht' howns.1 haddress with
    ⟨hunconfirmed, -⟩ | ⟨hunconfirmed, -⟩
  · have hlawful := (harbitrated.orderly i node h.site).1.lawful k owner hthere
    exact absurd ⟨hconfirmed, hunconfirmed⟩ hlawful.not_both
  · obtain ⟨other, hother, hthere''⟩ := node?_of_tenancy? ht'
    have hlawful := (harbitrated.orderly j other hother).1.lawful b t hthere''
    rw [← Bool.not_eq_true]
    exact fun hc => hlawful.not_both ⟨hc, hunconfirmed⟩

end

/-- **A frame that is handled keeps a world arbitrated.** -/
theorem Arbitrated.handle {world : World} (h : world.Arbitrated) (i : Nat) :
    (world.handleOldest i).Arbitrated := by
  rcases handles_of_arbitrated h i with heq | ⟨node, frame, change, said, hhandles⟩
  · rw [heq]
    exact h
  refine h.step hhandles.lossless ?_ (hhandles.serials h.serials)
    (fun j k u => hhandles.tenancy?_before) ?_ ?_
  · obtain ⟨horderly, hsilent⟩ := h.orderly i node hhandles.site
    obtain ⟨next, hevolves, hnodes⟩ := hhandles.nodes
    intro j other hother
    rw [hnodes] at hother
    split at hother
    · cases hother
      refine ⟨orderly_withoutLog (horderly.evolve hevolves fun k t ht => ?_),
        hevolves.silent hsilent⟩
      exact (hhandles.hears.release k t ht).imp id And.left
    · exact h.orderly j other hother
  · intro j k a b s t hjk hs ht hpos haddress hpending
    exact hhandles.pending h.serials hjk hs ht hpos haddress hpending
  · intro j cp hcp
    rcases hhandles.heard j cp hcp with hold | ⟨hji, hsaid⟩
    · exact .inl hold
    · exact .inr (hhandles.flagged h hji hsaid)

/-! ## A tick -/

/-- A site ticked: every own driver had its turn, and exactly those with an address said so. -/
structure Ticks (i : Nat) (node : Node) (change : Handle → Tenancy → Tenancy)
    (said : List ControlPacket) (before after : World) : Prop where
  passes : Passes i node said before after
  tenancy : ∀ k, after.tenancy? i k = (before.tenancy? i k).map (change k)
  ages : ∀ k t, before.tenancy? i k = some t → ∃ mid, Node.Ages mid t (change k t)
  only : ∀ cp ∈ said, ∃ k s, after.tenancy? i k = some s ∧ s.address ≠ 0 ∧ Node.Announces cp s
  all : ∀ k s, after.tenancy? i k = some s → s.address ≠ 0 → ∃ cp ∈ said, Node.Announces cp s

theorem ticks_of_arbitrated {world : World} (h : world.Arbitrated) {i : Nat} {node : Node}
    (hnode : world.node? i = some node) :
    ∃ change said,
      Ticks i (node.tick world.quietEnv) change said world (world.run i Node.tick) := by
  obtain ⟨horderly, hsilent⟩ := h.orderly i node hnode
  obtain ⟨change, said, hevolves, hturns, hspoken⟩ := Node.tick_spec horderly.sound world.quietEnv
  have hspoken := hspoken hsilent rfl
  have hsaid : hellosOf (framesOf (node.tick world.quietEnv).log) = said := by
    obtain ⟨added, hlog, hadded⟩ := hevolves.trace
    rw [hlog, log_of_node? h.lossless hnode]
    exact hadded
  have hpasses := (run_spec h.lossless hnode Node.tick).passes h.lossless hsaid
  have hthere : ∀ k, (world.run i Node.tick).tenancy? i k =
      (node.tick world.quietEnv).tenancy? k := by
    intro k
    rw [hpasses.tenancy?, if_pos rfl]
  refine ⟨change, said, hpasses, ?_, ?_, ?_, ?_⟩
  · intro k
    rw [hthere, hevolves.tenancy, tenancy?_of_node? hnode]
  · intro k t ht
    rw [tenancy?_of_node? hnode] at ht
    obtain ⟨earlier, later, -, hages⟩ :=
      hturns.turn k (Node.mem_handles_of_tenancy? horderly.sound ht) t ht
    exact ⟨_, hages⟩
  · intro cp hcp
    obtain ⟨k, -, s, hs, hpos, hannounces⟩ := hspoken.only cp hcp
    rw [← hthere] at hs
    exact ⟨k, s, hs, hpos, hannounces⟩
  · intro k s hs hpos
    rw [hthere] at hs
    have hbefore : ∃ t, node.tenancy? k = some t := by
      rw [hevolves.tenancy] at hs
      obtain ⟨t, ht, -⟩ := Option.map_eq_some_iff.1 hs
      exact ⟨t, ht⟩
    obtain ⟨t, ht⟩ := hbefore
    exact hspoken.all k (Node.mem_handles_of_tenancy? horderly.sound ht) s hs hpos

/-- **A tick in silence keeps a world arbitrated.** -/
theorem Arbitrated.tick {world : World} (h : world.Arbitrated) (hquiet : world.IsQuiet) (i : Nat) :
    (world.run i Node.tick).Arbitrated := by
  cases hnode : world.node? i with
  | none =>
    rw [run_of_node?_eq_none hnode]
    exact h
  | some node =>
  obtain ⟨horderly, hsilent⟩ := h.orderly i node hnode
  obtain ⟨change, said, hpasses, htenancy, hturn, honly, hall⟩ := ticks_of_arbitrated h hnode
  have hages : ∀ k s, (world.run i Node.tick).tenancy? i k = some s →
      ∃ t mid, world.tenancy? i k = some t ∧ Node.Ages mid t s := by
    intro k s hs
    rw [htenancy] at hs
    obtain ⟨t, ht, rfl⟩ := Option.map_eq_some_iff.1 hs
    obtain ⟨mid, hage⟩ := hturn k t ht
    exact ⟨t, mid, ht, hage⟩
  have hother : ∀ j k, j ≠ i →
      (world.run i Node.tick).tenancy? j k = world.tenancy? j k := by
    intro j k hj
    rw [hpasses.tenancy?, if_neg hj]
  have hsilence := notMem_hellos_of_isQuiet hquiet
  -- Whoever now shares an address with another site drew it, and says so.
  have hpending : ∀ a s j b t, j ≠ i → (world.run i Node.tick).tenancy? i a = some s →
      (world.run i Node.tick).tenancy? j b = some t → s.address ≠ 0 → s.address = t.address →
      (world.run i Node.tick).IsPending i s j := by
    intro a s j b t hj hs ht hpos haddress
    obtain ⟨old, mid, hold, hage⟩ := hages a s hs
    rw [hother j b hj] at ht
    rcases hage.isUnconfirmed_or with hunconfirmed | hsame
    · obtain ⟨cp, hcp, hannounces⟩ := hall a s hs hpos
      obtain ⟨other, hthere, -⟩ := node?_of_tenancy? ht
      have hchallenges : Challenges cp s :=
        ⟨hannounces.conflict, hannounces.uncertain.trans hunconfirmed, hannounces.address,
          hannounces.serial⟩
      exact ⟨hunconfirmed, .inl ⟨cp, hpasses.told j other cp hj hthere hcp, hchallenges⟩⟩
    · have hunique := h.unique hquiet hold ht (hsame ▸ hpos) (hsame.symm.trans haddress)
      exact absurd hunique.1.symm hj
  refine ⟨hpasses.lossless, ?_, ?_, ?_, ?_, ?_⟩
  · obtain ⟨_, _, hevolves, -⟩ := Node.tick_spec horderly.sound world.quietEnv
    exact hpasses.forall_nodes ⟨orderly_withoutLog (horderly.tick _), hevolves.silent hsilent⟩
      h.orderly
  · refine serials_of_before h.serials fun j k u hu => ?_
    by_cases hj : j = i
    · subst hj
      obtain ⟨t, mid, ht, hage⟩ := hages k u hu
      exact ⟨t, ht, hage.sameDriver.1.symm⟩
    · rw [hother j k hj] at hu
      exact ⟨u, hu, rfl⟩
  · intro j k a b s t hjk hs ht hpos haddress
    by_cases hj : j = i
    · subst hj
      exact .inl (hpending a s k b t (Ne.symm hjk) hs ht hpos haddress)
    · by_cases hk : k = i
      · subst hk
        exact .inr (hpending b t j a s hj ht hs (haddress ▸ hpos) haddress.symm)
      · rw [hother j a hj] at hs
        rw [hother k b hk] at ht
        exact absurd (h.unique hquiet hs ht hpos haddress).1 hjk
  · intro j k t cp ht hcp _ huncertain howns
    rcases hpasses.heard j cp hcp with hold | ⟨hj, hsaid⟩
    · exact hsilence j cp hold
    obtain ⟨b, s, hs, hpos, hannounces⟩ := honly cp hsaid
    obtain ⟨old, mid, hold, hage⟩ := hages b s hs
    rw [hother j k hj] at ht
    rcases hage.isUnconfirmed_or with hunconfirmed | hsame
    · rw [hannounces.uncertain, hunconfirmed] at huncertain
      cases huncertain
    · have haddress : old.address = t.address :=
        hsame.symm.trans (hannounces.address.symm.trans howns.2.symm)
      have hpos' : old.address ≠ 0 := hsame ▸ hpos
      exact hj (h.unique hquiet hold ht hpos' haddress).1.symm
  · intro j k t cp _ hcp hconflict
    rcases hpasses.heard j cp hcp with hold | ⟨-, hsaid⟩
    · exact absurd hold (hsilence j cp)
    · obtain ⟨_, _, -, -, hannounces⟩ := honly cp hsaid
      rw [hannounces.conflict] at hconflict
      cases hconflict

/-! ## Coming and going -/

/-- A step of a site that says nothing and gives nobody an address keeps a world arbitrated. -/
theorem Arbitrated.silentStep {world after : World} (h : world.Arbitrated) {i : Nat}
    {node next : Node} (hnode : world.node? i = some node) (hsteps : Steps i next world after)
    (horderly : next.Orderly) (hsilent : next.IsSilent)
    (hsaid : hellosOf (framesOf next.log) = [])
    (hback : ∀ k u, next.tenancy? k = some u → u.address ≠ 0 → node.tenancy? k = some u)
    (hserials : after.HasDistinctSerials) : after.Arbitrated := by
  have hpasses := hsteps.passes h.lossless hsaid
  refine h.step hpasses.lossless ?_ hserials ?_ ?_ ?_
  · exact hpasses.forall_nodes ⟨orderly_withoutLog horderly, hsilent⟩ h.orderly
  · intro j k u hu hpos
    exact hpasses.tenancy?_before hnode (fun k u => hback k u) j k u hu hpos
  · intro j k a b s t _ _ _ _ _ hp
    exact hp.mono hpasses.kept
  · intro j cp hcp
    rcases hpasses.heard j cp hcp with hold | ⟨-, hnew⟩
    · exact .inl hold
    · cases hnew

/-- A site that did nothing. -/
theorem Arbitrated.idle {world after : World} (h : world.Arbitrated) {i : Nat} {node : Node}
    (hnode : world.node? i = some node) (hsteps : Steps i node world after) :
    after.Arbitrated := by
  obtain ⟨horderly, hsilent⟩ := h.orderly i node hnode
  have hsaid : hellosOf (framesOf node.log) = [] := by
    rw [log_of_node? h.lossless hnode]
    rfl
  refine h.silentStep hnode hsteps horderly hsilent hsaid (fun k u hu _ => hu)
    (serials_of_before h.serials fun j k u hu => ⟨u, ?_, rfl⟩)
  exact (hsteps.passes h.lossless hsaid).tenancy?_before hnode (fun k u hu (_ : True) => hu)
    j k u hu trivial

theorem said_of_replaces {world : World} (h : world.Lossless) {i : Nat} {node next : Node}
    (hnode : world.node? i = some node) {handle : Handle} {tenancy? : Option Tenancy}
    (hreplaces : Node.Replaces handle tenancy? node next) :
    hellosOf (framesOf next.log) = [] := by
  obtain ⟨added, hlog, hadded⟩ := hreplaces.trace
  rw [hlog, log_of_node? h hnode]
  exact hadded

theorem Arbitrated.register {world : World} (h : world.Arbitrated) (i : Nat)
    {profile : DriverProfile} {driver : Driver} (hordinary : driver.IsOrdinary)
    (hplain : driver.payload? = none)
    (hserials : (world.register i profile driver).2.HasDistinctSerials) :
    (world.register i profile driver).2.Arbitrated := by
  cases hnode : world.node? i with
  | none =>
    unfold World.register
    rw [attempt_of_node?_eq_none hnode]
    exact h
  | some node =>
  obtain ⟨horderly, hsilent⟩ := h.orderly i node hnode
  rcases register_cases h.lossless hnode profile driver with
    ⟨handle, next, hok, hsteps⟩ | hsteps
  · obtain ⟨hreplaces, -, hstillSilent⟩ := Node.register_spec horderly.sound hordinary hok
    refine h.silentStep hnode hsteps (horderly.register hordinary hok)
      (hstillSilent hsilent hplain) (said_of_replaces h.lossless hnode hreplaces) ?_ hserials
    intro k u hu hpos
    rw [hreplaces.tenancy] at hu
    split at hu
    · exact absurd (Node.startTenancy?_fresh hu).1 hpos
    · exact hu
  · exact h.idle hnode hsteps

theorem Arbitrated.unregister {world : World} (h : world.Arbitrated) (i : Nat) (handle : Handle) :
    (world.unregister i handle).2.Arbitrated := by
  cases hnode : world.node? i with
  | none =>
    unfold World.unregister
    rw [attempt_of_node?_eq_none hnode]
    exact h
  | some node =>
  obtain ⟨horderly, hsilent⟩ := h.orderly i node hnode
  rcases unregister_cases h.lossless hnode handle with ⟨driver?, next, hok, hsteps⟩ | hsteps
  · obtain ⟨hreplaces, hstillSilent⟩ := Node.unregister_spec horderly.sound hok
    have hsaid := said_of_replaces h.lossless hnode hreplaces
    have hback : ∀ k u, next.tenancy? k = some u → node.tenancy? k = some u := by
      intro k u hu
      rw [hreplaces.tenancy] at hu
      split at hu
      · cases hu
      · exact hu
    refine h.silentStep hnode hsteps (horderly.unregister hok) (hstillSilent hsilent) hsaid
      (fun k u hu _ => hback k u hu) (serials_of_before h.serials fun j k u hu => ⟨u, ?_, rfl⟩)
    exact (hsteps.passes h.lossless hsaid).tenancy?_before hnode
      (fun k u hu (_ : True) => hback k u hu) j k u hu
      trivial
  · exact h.idle hnode hsteps

/-! ## Confirmed drivers -/

/-- A frame takes no confirmed address. -/
theorem Arbitrated.keeps_handle {world : World} (h : world.Arbitrated) (i j : Nat) {k : Handle}
    {t : Tenancy} (ht : world.tenancy? j k = some t) (hconfirmed : t.isConfirmed = true) :
    (world.handleOldest i).tenancy? j k = some t := by
  rcases handles_of_arbitrated h i with heq | ⟨node, frame, change, said, hhandles⟩
  · rw [heq]
    exact ht
  rw [hhandles.tenancy?]
  by_cases hj : j = i
  · subst hj
    rw [if_pos rfl, ht]
    have hthere : node.tenancy? k = some t := by
      rw [← tenancy?_of_node? hhandles.site]
      exact ht
    rcases hhandles.hears.release k t hthere with hsame | ⟨-, cp, hcp, howns, hverdict⟩
    · exact congrArg some hsame
    · have hwaits := hhandles.head cp hcp
      cases hconflict : cp.flags.contains ControlFlags.conflict with
      | true =>
        have := h.flagged j k t cp ht hwaits hconflict howns
        rw [hconfirmed] at this
        cases this
      | false =>
        cases huncertain : cp.flags.contains ControlFlags.uncertain with
        | false => exact absurd howns (h.certain j k t cp ht hwaits hconflict huncertain)
        | true =>
          by_cases hserial : t.serial = cp.serial
          · rw [Tenancy.verdict_eq_agree_iff.2 ⟨hconflict, hserial⟩] at hverdict
            cases hverdict
          · have hstays := Tenancy.verdict_eq_rebuke_iff.2
              ⟨hconflict, hserial, hconfirmed, huncertain⟩
            rw [hstays] at hverdict
            cases hverdict
  · rw [if_neg hj]
    exact ht

theorem Arbitrated.keeps_tick {world : World} (h : world.Arbitrated) (i j : Nat) {k : Handle}
    {t : Tenancy} (ht : world.tenancy? j k = some t) (hconfirmed : t.isConfirmed = true) :
    (world.run i Node.tick).tenancy? j k = some t := by
  cases hnode : world.node? i with
  | none =>
    rw [run_of_node?_eq_none hnode]
    exact ht
  | some node =>
  obtain ⟨change, said, hticks⟩ := ticks_of_arbitrated h hnode
  by_cases hj : j = i
  · subst hj
    obtain ⟨mid, hage⟩ := hticks.ages k t ht
    obtain ⟨node', hnode', hthere⟩ := node?_of_tenancy? ht
    have hlawful := (h.orderly j node' hnode').1.lawful k t hthere
    rw [hticks.tenancy, ht]
    exact congrArg some (hage.eq_of_isConfirmed hlawful hconfirmed)
  · rw [hticks.passes.tenancy?, if_neg hj]
    exact ht

/-- Another driver that comes or goes takes nobody's place. -/
theorem keeps_replaces {world after : World} {i j : Nat} {node next : Node} {handle k : Handle}
    {tenancy? : Option Tenancy} {t : Tenancy} (hnode : world.node? i = some node)
    (hsteps : Steps i next world after) (hreplaces : Node.Replaces handle tenancy? node next)
    (hother : j = i → k ≠ handle) (ht : world.tenancy? j k = some t) :
    after.tenancy? j k = some t := by
  unfold World.tenancy?
  rw [hsteps.nodes]
  by_cases hj : j = i
  · rw [if_pos hj]
    show next.tenancy? k = some t
    rw [hreplaces.tenancy, if_neg (hother hj), ← tenancy?_of_node? hnode, ← hj]
    exact ht
  · rw [if_neg hj]
    exact ht

theorem keeps_idle {world after : World} {i j : Nat} {node : Node} {k : Handle} {t : Tenancy}
    (hnode : world.node? i = some node) (hsteps : Steps i node world after)
    (ht : world.tenancy? j k = some t) : after.tenancy? j k = some t := by
  unfold World.tenancy?
  rw [hsteps.nodes]
  by_cases hj : j = i
  · rw [if_pos hj]
    show node.tenancy? k = some t
    rw [← tenancy?_of_node? hnode, ← hj]
    exact ht
  · rw [if_neg hj]
    exact ht

theorem Arbitrated.keeps_register {world : World} (h : world.Arbitrated) (i j : Nat)
    (profile : DriverProfile) {driver : Driver} (hordinary : driver.IsOrdinary) {k : Handle}
    {t : Tenancy} (ht : world.tenancy? j k = some t) :
    (world.register i profile driver).2.tenancy? j k = some t := by
  cases hnode : world.node? i with
  | none =>
    unfold World.register
    rw [attempt_of_node?_eq_none hnode]
    exact ht
  | some node =>
  rcases register_cases h.lossless hnode profile driver with
    ⟨handle, next, hok, hsteps⟩ | hsteps
  · obtain ⟨hreplaces, hfresh, -⟩ :=
      Node.register_spec (h.orderly i node hnode).1.sound hordinary hok
    refine keeps_replaces hnode hsteps hreplaces ?_ ht
    rintro rfl rfl
    rw [tenancy?_of_node? hnode, hfresh] at ht
    cases ht
  · exact keeps_idle hnode hsteps ht

theorem Arbitrated.keeps_unregister {world : World} (h : world.Arbitrated) (i j : Nat)
    (handle : Handle) {k : Handle} (hother : ¬ (j = i ∧ k = handle)) {t : Tenancy}
    (ht : world.tenancy? j k = some t) :
    (world.unregister i handle).2.tenancy? j k = some t := by
  cases hnode : world.node? i with
  | none =>
    unfold World.unregister
    rw [attempt_of_node?_eq_none hnode]
    exact ht
  | some node =>
  rcases unregister_cases h.lossless hnode handle with ⟨driver?, next, hok, hsteps⟩ | hsteps
  · obtain ⟨hreplaces, -⟩ := Node.unregister_spec (h.orderly i node hnode).1.sound hok
    exact keeps_replaces hnode hsteps hreplaces (fun hj hk => hother ⟨hj, hk⟩) ht
  · exact keeps_idle hnode hsteps ht

/-! ## Runs -/

/-- What happens on a bus. -/
inductive Move where
  /-- A site ticks. -/
  | tick (site : Nat)
  /-- A site handles the oldest frame of its queue. -/
  | handle (site : Nat)
  | register (site : Nat) (profile : DriverProfile) (driver : Driver)
  | unregister (site : Nat) (handle : Handle)
  /-- Time passes. -/
  | wait (milliseconds : Nat)

/-- The world after a move. -/
def apply (move : Move) (world : World) : World :=
  match move with
  | .tick i => world.run i Node.tick
  | .handle i => world.handleOldest i
  | .register i profile driver => (world.register i profile driver).2
  | .unregister i handle => (world.unregister i handle).2
  | .wait milliseconds => { world with now := world.now + milliseconds }

/-- Sites tick in silence only, and drivers put nothing into announces and bring serial numbers that
no other site has. -/
def Allows (move : Move) (world : World) : Prop :=
  match move with
  | .tick _ => world.IsQuiet
  | .register _ _ driver =>
    driver.IsOrdinary ∧ driver.payload? = none ∧ (world.apply move).HasDistinctSerials
  | _ => True

/-- A run, with its moves in order. -/
inductive Runs : World → List Move → World → Prop where
  | start (world : World) : Runs world [] world
  | move {first world : World} {moves : List Move} (earlier : Runs first moves world) (move : Move)
      (allowed : world.Allows move) : Runs first (moves ++ [move]) (world.apply move)

/-- Nodes without drivers on one bus, each with a source of addresses. -/
def ofNodes (starts : List (NodeSettings × Draws)) : World :=
  starts.foldl (fun world start => world.addSite (Node.withDraws start.1 start.2) .bus true) .empty

/-- No driver, no address and no announce. -/
theorem arbitrated_ofNodes (starts : List (NodeSettings × Draws)) :
    (ofNodes starts).Arbitrated := by
  have hgrow : ∀ (rest : List (NodeSettings × Draws)) (world : World), world.Lossless →
      (∀ i node, world.node? i = some node → ∃ settings draws, node = .withDraws settings draws) →
      (∀ i, world.queueOf i = []) →
      (rest.foldl (fun world start => world.addSite (Node.withDraws start.1 start.2) .bus true)
        world).Lossless ∧
      (∀ i node, (rest.foldl (fun world start =>
        world.addSite (Node.withDraws start.1 start.2) .bus true) world).node? i = some node →
        ∃ settings draws, node = .withDraws settings draws) ∧
      ∀ i, (rest.foldl (fun world start =>
        world.addSite (Node.withDraws start.1 start.2) .bus true) world).queueOf i = [] := by
    intro rest
    induction rest with
    | nil => exact fun world hlossless hfresh hquiet => ⟨hlossless, hfresh, hquiet⟩
    | cons start rest ih =>
      intro world hlossless hfresh hquiet
      obtain ⟨hlossless', hnodes, hqueues⟩ :=
        lossless_addSite hlossless (show (Node.withDraws start.1 start.2).log = [] from rfl)
      refine ih _ hlossless' ?_ fun i => (hqueues i).trans (hquiet i)
      intro i node hnode
      rw [hnodes] at hnode
      split at hnode
      · cases hnode
        exact ⟨start.1, start.2, rfl⟩
      · exact hfresh i node hnode
  have hempty : ∀ i, World.empty.node? i = none := fun i => rfl
  obtain ⟨hlossless, hfresh, hquiet⟩ := hgrow starts .empty lossless_empty
    (fun i node hnode => by rw [hempty] at hnode; cases hnode) fun i => rfl
  have hnone : ∀ i k, (ofNodes starts).tenancy? i k = none := by
    intro i k
    cases ht : (ofNodes starts).tenancy? i k with
    | none => rfl
    | some t =>
      obtain ⟨node, hnode, hthere⟩ := node?_of_tenancy? ht
      obtain ⟨settings, draws, rfl⟩ := hfresh i node hnode
      simp [Node.tenancy?, Node.withDraws] at hthere
  refine ⟨hlossless, ?_, ?_, ?_, ?_, ?_⟩
  · intro i node hnode
    obtain ⟨settings, draws, rfl⟩ := hfresh i node hnode
    refine ⟨Node.orderly_withDraws settings draws, fun handle entry hentry => ?_⟩
    simp [Node.withDraws] at hentry
  · intro i j a b s t _ hs
    rw [hnone] at hs
    cases hs
  · intro i j a b s t _ hs
    rw [hnone] at hs
    cases hs
  · intro j k t cp ht
    rw [hnone] at ht
    cases ht
  · intro j k t cp ht
    rw [hnone] at ht
    cases ht

theorem Arbitrated.apply {world : World} (h : world.Arbitrated) {move : Move}
    (hallowed : world.Allows move) : (world.apply move).Arbitrated := by
  cases move with
  | tick i => exact h.tick hallowed i
  | handle i => exact h.handle i
  | register i profile driver =>
    obtain ⟨hordinary, hplain, hserials⟩ := hallowed
    exact h.register i hordinary hplain hserials
  | unregister i handle => exact h.unregister i handle
  | wait milliseconds =>
    exact
      { lossless := ⟨h.lossless.ports, h.lossless.isOpen, h.lossless.receiving, h.lossless.wiring⟩
        orderly := h.orderly
        serials := h.serials
        contested := h.contested
        certain := h.certain
        flagged := h.flagged }

theorem Arbitrated.runs {first last : World} {moves : List Move} (h : first.Arbitrated)
    (hruns : Runs first moves last) : last.Arbitrated := by
  induction hruns with
  | start => exact h
  | move _ move allowed ih => exact ih.apply allowed

/-- A confirmed driver keeps its tenancy in every move but its own leaving. -/
theorem Arbitrated.keeps {world : World} (h : world.Arbitrated) {move : Move}
    (hallowed : world.Allows move) {j : Nat} {k : Handle} (hstays : move ≠ .unregister j k)
    {t : Tenancy} (ht : world.tenancy? j k = some t) (hconfirmed : t.isConfirmed = true) :
    (world.apply move).tenancy? j k = some t := by
  cases move with
  | tick i => exact h.keeps_tick i j ht hconfirmed
  | handle i => exact h.keeps_handle i j ht hconfirmed
  | register i profile driver => exact h.keeps_register i j profile hallowed.1 ht
  | unregister i handle =>
    refine h.keeps_unregister i j handle ?_ ht
    rintro ⟨rfl, rfl⟩
    exact hstays rfl
  | wait milliseconds => exact ht

theorem Arbitrated.keeps_runs {first last : World} {moves : List Move} (h : first.Arbitrated)
    (hruns : Runs first moves last) {j : Nat} {k : Handle}
    (hstays : ∀ move ∈ moves, move ≠ .unregister j k) {t : Tenancy}
    (ht : first.tenancy? j k = some t) (hconfirmed : t.isConfirmed = true) :
    last.tenancy? j k = some t := by
  induction hruns with
  | start => exact ht
  | move earlier move allowed ih =>
    have hearlier := ih fun m hm => hstays m (List.mem_append_left _ hm)
    exact (h.runs earlier).keeps allowed
      (hstays move (List.mem_append_right _ (List.mem_singleton_self move))) hearlier hconfirmed

/-- The status of an own driver of a site. -/
def own? (i : Nat) (handle : Handle) (world : World) : Option Status :=
  ((world.node? i).bind (·.status? handle)).filter Status.isLocal

theorem tenancy?_of_own? {world : World} {i : Nat} {handle : Handle} {status : Status}
    (h : world.own? i handle = some status) :
    world.tenancy? i handle = some status.tenancy := by
  obtain ⟨hsome, hlocal⟩ := Option.filter_eq_some_iff.1 h
  obtain ⟨node, hnode, hstatus⟩ := Option.bind_eq_some_iff.1 hsome
  rw [tenancy?_of_node? hnode]
  exact Node.tenancy?_of_status? hstatus hlocal

theorem own?_of_tenancy? {world : World} {i : Nat} {handle : Handle} {tenancy : Tenancy}
    (h : world.tenancy? i handle = some tenancy) :
    ∃ status, world.own? i handle = some status ∧ status.tenancy = tenancy := by
  obtain ⟨node, hnode, hthere⟩ := node?_of_tenancy? h
  obtain ⟨entry, hentry, hlocal, rfl⟩ := Node.tenancy?_eq_some_iff.1 hthere
  refine ⟨entry.status, ?_, rfl⟩
  unfold own? Node.status?
  rw [hnode, Option.bind_some, hentry]
  exact Option.filter_some_pos hlocal

/-- **Addresses on the whole bus.** Whoever comes and goes, in whatever order sites tick and handle
frames and whatever addresses they draw, as long as they tick in silence: in silence no two own
drivers have the same address, and an own driver that is connected keeps its address and stays
connected until it leaves. -/
theorem addresses_of_runs {starts : List (NodeSettings × Draws)} {moves : List Move}
    {world : World} (h : Runs (ofNodes starts) moves world) :
    (world.IsQuiet → ∀ i j a b s t, world.own? i a = some s → world.own? j b = some t →
      s.address ≠ 0 → s.address = t.address → i = j ∧ a = b) ∧
    ∀ i a s later after, world.own? i a = some s → s.isConnected = true →
      Runs world later after → (∀ move ∈ later, move ≠ .unregister i a) →
      ∃ s', after.own? i a = some s' ∧ s'.address = s.address ∧ s'.isConnected = true := by
  have harbitrated := (arbitrated_ofNodes starts).runs h
  constructor
  · intro hquiet i j a b s t hs ht hpos haddress
    exact harbitrated.unique hquiet (tenancy?_of_own? hs) (tenancy?_of_own? ht) hpos haddress
  · intro i a s later after hs hconnected hruns hstays
    have hlater := harbitrated.keeps_runs hruns hstays (tenancy?_of_own? hs) hconnected
    obtain ⟨s', hs', htenancy⟩ := own?_of_tenancy? hlater
    refine ⟨s', hs', congrArg Tenancy.address htenancy, ?_⟩
    have hsame : s'.isConfirmed = s.isConfirmed := congrArg Tenancy.isConfirmed htenancy
    exact hsame.trans hconnected

/-! Two hosts that draw the same address: the one that is confirmed keeps it. -/

/-- Two nodes that confirm an address with the tick after it was drawn and draw the same ones. -/
def twinNodes : List (NodeSettings × Draws) :=
  [({ probationTime := 0 }, ⟨fun _ => 0, 0⟩), ({ probationTime := 0 }, ⟨fun _ => 0, 0⟩)]

/-- A host with either node. -/
def twinHosts : World :=
  ((ofNodes twinNodes).apply (.register 0 ⟨.host, 1, some 1, none⟩ .quiet)).apply
    (.register 1 ⟨.host, 1, some 2, none⟩ .quiet)

/-- The first host was confirmed. -/
def confirmedTwin : World :=
  (((twinHosts.apply (.tick 0)).apply (.handle 1)).apply (.tick 0)).apply (.handle 1)

/-- The second host drew the same address, and lost it. -/
def challengedTwin : World :=
  ((confirmedTwin.apply (.tick 1)).apply (.handle 0)).apply (.handle 1)

theorem isQuiet_of_two_sites {world : World} (h : world.Lossless)
    (hlength : world.sites.length = 2) (hfirst : world.queueOf 0 = [])
    (hsecond : world.queueOf 1 = []) : world.IsQuiet := by
  rintro (_ | _ | i)
  · exact hfirst
  · exact hsecond
  · exact queueOf_eq_nil_of_le h (by omega)

theorem serials_twinHosts : twinHosts.HasDistinctSerials := by
  have hfirst : ∀ k t, twinHosts.tenancy? 0 k = some t → t.serial = 1 := by
    rintro ⟨_ | slot, generation⟩ t ht
    · have hslot : (if (0 : UInt16) = generation then some _ else none : Option Entry).bind
          Entry.tenancy? = some t := ht
      split at hslot
      · cases hslot
        rfl
      · cases hslot
    · cases ht
  have hsecond : ∀ k t, twinHosts.tenancy? 1 k = some t → t.serial = 2 := by
    rintro ⟨_ | slot, generation⟩ t ht
    · have hslot : (if (0 : UInt16) = generation then some _ else none : Option Entry).bind
          Entry.tenancy? = some t := ht
      split at hslot
      · cases hslot
        rfl
      · cases hslot
    · cases ht
  have hnone : ∀ i k, twinHosts.tenancy? (i + 2) k = none := fun _ _ => rfl
  rintro (_ | _ | i) (_ | _ | j) h k s t hij hs ht
  · exact absurd rfl hij
  · rw [hfirst h s hs, hsecond k t ht]
    decide
  · rw [hnone] at ht
    cases ht
  · rw [hsecond h s hs, hfirst k t ht]
    decide
  · exact absurd rfl hij
  · rw [hnone] at ht
    cases ht
  · rw [hnone] at hs
    cases hs
  · rw [hnone] at hs
    cases hs
  · rw [hnone] at hs
    cases hs

theorem serials_firstTwin :
    ((ofNodes twinNodes).apply
      (.register 0 ⟨.host, 1, some 1, none⟩ .quiet)).HasDistinctSerials := by
  rintro (_ | i) (_ | j) h k s t hij hs ht
  · exact absurd rfl hij
  · cases j <;> cases ht
  · cases i <;> cases hs
  · cases i <;> cases hs

theorem runs_confirmedTwin :
    Runs (ofNodes twinNodes)
      [.register 0 ⟨.host, 1, some 1, none⟩ .quiet, .register 1 ⟨.host, 1, some 2, none⟩ .quiet,
        .tick 0, .handle 1, .tick 0, .handle 1] confirmedTwin := by
  have hstart := arbitrated_ofNodes twinNodes
  have hquiet : Driver.quiet.IsOrdinary := trivial
  have hfirst := Runs.move (.start (ofNodes twinNodes))
    (.register 0 ⟨.host, 1, some 1, none⟩ .quiet) ⟨hquiet, rfl, serials_firstTwin⟩
  have hhosts := hfirst.move (.register 1 ⟨.host, 1, some 2, none⟩ .quiet)
    ⟨hquiet, rfl, serials_twinHosts⟩
  have hdrawn := (hhosts.move (.tick 0) (isQuiet_of_two_sites (hstart.runs hhosts).lossless
    (by decide +kernel) (by decide +kernel) (by decide +kernel))).move (.handle 1) trivial
  exact (hdrawn.move (.tick 0) (isQuiet_of_two_sites (hstart.runs hdrawn).lossless
    (by decide +kernel) (by decide +kernel) (by decide +kernel))).move (.handle 1) trivial

theorem runs_challengedTwin :
    Runs confirmedTwin [.tick 1, .handle 0, .handle 1] challengedTwin := by
  have hstart := (arbitrated_ofNodes twinNodes).runs runs_confirmedTwin
  have hquiet : confirmedTwin.IsQuiet := isQuiet_of_two_sites hstart.lossless
    (by decide +kernel) (by decide +kernel) (by decide +kernel)
  exact (((Runs.start confirmedTwin).move (.tick 1) hquiet).move (.handle 0) trivial).move
    (.handle 1) trivial

theorem addresses_of_twins :
    ∃ s, confirmedTwin.own? 0 ⟨0, 0⟩ = some s ∧ s.isConnected = true ∧
      (∃ s', challengedTwin.own? 0 ⟨0, 0⟩ = some s' ∧ s'.address = s.address ∧
        s'.isConnected = true) ∧
      ∀ i j a b s t, confirmedTwin.own? i a = some s → confirmedTwin.own? j b = some t →
        s.address ≠ 0 → s.address = t.address → i = j ∧ a = b := by
  have hruns := runs_confirmedTwin
  obtain ⟨hunique, hstable⟩ := addresses_of_runs hruns
  have hany : (confirmedTwin.own? 0 ⟨0, 0⟩).any Status.isConnected = true := by decide +kernel
  obtain ⟨s, hs, hconnected⟩ := (Option.any_eq_true _ _).1 hany
  have hquiet : confirmedTwin.IsQuiet :=
    isQuiet_of_two_sites ((arbitrated_ofNodes twinNodes).runs hruns).lossless
      (by decide +kernel) (by decide +kernel) (by decide +kernel)
  exact ⟨s, hs, hconnected,
    hstable 0 ⟨0, 0⟩ s _ _ hs hconnected runs_challengedTwin (by simp), hunique hquiet⟩

end World

end DeviceBus
