import DeviceBus.Proofs.Node.Bystanders

/-!
# What a frame does to one driver

A frame comes to a driver once at most, and all that happens before and after spares the driver.
Each lemma here cuts a walk at the turn of one driver, so that what a frame makes of the driver
follows from what its turn makes of it.

A frame that is no announce is told to a driver or it spares the driver. An announce comes to a
driver three times: its partner is heard of, the round comes by, and in the end it may be the driver
that is discovered.

## Main results

* `silentFrame_cases`: a frame that is no announce is told to a driver, or it spares the driver.
* `exists_turn_of_heard`, `exists_turn_of_round`, `receiveAnnounce_or_adopt`: the three parts of an
  announce.
-/

namespace DeviceBus

open ControlPacket

namespace Node

variable {node : Node} {k : Handle}

/-! ## A frame that is no announce -/

/-- A pairing packet names an own driver. -/
theorem isLocal_of_isTarget {cp : ControlPacket} {status : Status}
    (h : isTarget cp status = true) : status.isLocal = true := by
  simp only [isTarget, Bool.and_eq_true] at h
  exact h.1.1.1

/-- What a driver is told of a frame that is no announce: a pairing packet if it names the driver,
data if the driver hears it. -/
inductive IsTold (frame : Bytes) (node : Node) (status : Status) (registration : Registration) :
    Callback → Prop where
  | pairing {cp : ControlPacket} (target : isTarget cp status = true) :
      IsTold frame node status registration (.control cp)
  | data {packet : Packet} (read : Packet.decode frame = .ok packet)
      (isData : packet.isControl = false)
      (hears : hears packet.address (node.classesAt packet.address) status registration = true) :
      IsTold frame node status registration (.data packet)

/-- **What a frame that is no announce does to a driver**: it is told to the driver, or it spares
the driver. -/
theorem silentFrame_cases {status : Status} {registration : Registration}
    (h : node.enrolled? k = some (status, registration)) (wf : node.registry.WellFormed) (env : Env)
    {frame : Bytes} (hsilent : helloOf? frame = none) :
    Spares (· = k) node (node.receiveFrame env frame) ∨
      ∃ mid callback, IsTold frame node status registration callback ∧ Spares (· = k) node mid ∧
        Spares (· = k) (mid.call env k callback).2 (node.receiveFrame env frame) := by
  cases node.arrival env frame with
  | announce hello _ => cases hsilent.symm.trans hello
  | nothing _ heq =>
    rw [heq]
    exact .inl (.refl _ node)
  | @pairing cp _ _ _ heq =>
    rw [heq]
    rcases receivePairing_eq_or env cp node with heq | ⟨handle, hfind, heq⟩
    · rw [heq]
      exact .inl (.refl _ node)
    · rw [heq]
      by_cases hk : k = handle
      · subst hk
        obtain ⟨entry, hentry, htarget⟩ := wf.get?_of_find?_eq_some hfind
        cases (enrolled?_eq_some_iff.1 h).symm.trans hentry
        exact .inr ⟨node, .control cp, .pairing htarget, .refl _ node, .refl _ _⟩
      · exact .inl ((spares_call env handle (.control cp) node).mono fun j hj => hj ▸ hk)
  | @data packet _ read isData heq =>
    rw [heq]
    obtain ⟨mid, hbefore, hafter⟩ :=
      exists_turn_of_foldl (spares_routeTo env packet (node.classesAt packet.address))
        wf.nodup_handles (mem_handles_of_enrolled? wf h) node
    rcases routeTo_eq_or env packet (node.classesAt packet.address) mid k with
      hpass | ⟨_, _, hentry, hhears, hcall⟩
    · rw [hpass] at hafter
      exact .inl (hbefore.trans hafter)
    · rw [hcall] at hafter
      cases (enrolled?_eq_some_iff.1 ((hbefore.enrolled? k rfl).trans h)).symm.trans hentry
      exact .inr ⟨mid, .data packet, .data read isData hhears, hbefore, hafter⟩

/-! ## An announce -/

/-- That partners are heard of comes to a driver once. -/
theorem exists_turn_of_heard {kept : Status × Registration} (h : node.enrolled? k = some kept)
    (wf : node.registry.WellFormed) (cp : ControlPacket) :
    ∃ mid, Spares (· = k) node mid ∧ Spares (· = k) (mid.refreshPartner cp k) (node.heard cp) :=
  exists_turn_of_foldl (spares_refreshPartner cp) wf.nodup_handles (mem_handles_of_enrolled? wf h)
    node

/-- The round of an announce comes to a driver once, unless it ends before. -/
theorem exists_turn_of_round {cp : ControlPacket} {kept : Status × Registration}
    (h : (node.heard cp).enrolled? k = some kept) (wf : node.registry.WellFormed) (env : Env) :
    (∃ found, node.round env cp = .collision found ∧ Spares (· = k) (node.heard cp) found) ∨
      ∃ scan, Spares (· = k) (node.heard cp) scan.node ∧
        Spares (· = k) (visit env cp k scan).node (node.round env cp).node := by
  have hwf := (spares_heard cp node).wellFormed wf
  rcases exists_visit_of_visitAll env cp hwf.nodup_handles (mem_handles_of_enrolled? hwf h)
    ⟨node.heard cp, false, false⟩ with hends | ⟨scan, hbefore, hafter, -⟩
  · exact .inl hends
  · exact .inr ⟨scan, hbefore, hafter⟩

/-- **The end of an announce** spares a driver, or the driver waits for the announced device and is
connected to it. -/
theorem receiveAnnounce_or_adopt (wf : node.registry.WellFormed) (env : Env) (cp : ControlPacket)
    (k : Handle) :
    Spares (· = k) (node.round env cp).node (node.receiveAnnounce env cp) ∨
      ∃ mid, Spares (· = k) (node.round env cp).node mid ∧
        (∀ kept, mid.enrolled? k = some kept → awaits cp kept.1 = true) ∧
        node.receiveAnnounce env cp = mid.adopt env k cp := by
  rcases receiveAnnounce_cases env cp node with heq | ⟨scan, hscan, -, -, heq⟩
  · rw [heq]
    exact .inl (.refl _ _)
  · have hwf := (spares_round env cp node).wellFormed wf
    rw [hscan] at hwf ⊢
    rw [heq]
    obtain ⟨filter, hend | ⟨-, handle, hfind, hend⟩⟩ := settle_cases env cp scan
    · rw [hend]
      exact .inl ((spares_withFilter filter scan.node).mono fun _ _ => trivial)
    · have hfilter : Spares (· = k) scan.node { scan.node with filter } :=
        (spares_withFilter filter scan.node).mono fun _ _ => trivial
      rw [hend]
      by_cases hk : k = handle
      · subst hk
        refine .inr ⟨_, hfilter, fun ⟨status, registration⟩ hkept => ?_, rfl⟩
        obtain ⟨entry, hentry, hawaits⟩ := hwf.get?_of_find?_eq_some hfind
        cases (enrolled?_eq_some_iff.1 ((hfilter.enrolled? k rfl).symm.trans hkept)).symm.trans
          hentry
        exact hawaits
      · exact .inl (hfilter.trans
          ((spares_adopt env handle cp _).mono fun j hj => hj ▸ hk))

end Node

end DeviceBus
