import DeviceBus.Proofs.Node.Remotes

/-!
# Adoption

An announce that nobody handled, and whose device no driver follows, connects the oldest driver that
waits for such a device. Nothing else that happens to a node connects a virtual driver: each keeps
the device that it has, goes on waiting, or loses its device.

## Main results

* `listens_or_adopts`: an announce connects one driver or none.
* `fate_or_adopts`: what a happening makes of the virtual drivers.
-/

namespace DeviceBus

open ControlPacket EventKind

namespace Node

variable {node : Node} {k : Handle} {pinned : UInt32} {status : Status}

/-! ## What an announce connects -/

/-- Every driver is mild. -/
def IsMild (node : Node) : Prop :=
  ∀ k, (node.enrolled? k).isSome = true → ∃ pinned status, node.Has k pinned status

/-- An announce connects a driver: the announce is safe, no virtual driver follows its device, the
driver is the oldest one that waits, and everybody else only listens. -/
structure Adopts (cp : ControlPacket) (k : Handle) (node after : Node) : Prop where
  safe : cp.flags.isSafe = true
  unfollowed : ∀ j pinned status, node.Has j pinned status → follows cp status = false
  connects : ∃ pinned status later, node.Has k pinned status ∧ awaits cp status = true ∧
    Leads k pinned node after later [.connected cp.address] ∧ Meets cp status later
  oldest : ∃ earlier later, node.drivers = earlier ++ k :: later ∧
    ∀ j ∈ earlier, ∀ pinned status, node.Has j pinned status → awaits cp status = false
  others : ∀ j pinned status, j ≠ k → node.Has j pinned status → Listens j pinned status node after

/-- Who waits after the round of an announce waited before. -/
theorem Rounds.waiting {round : Node} (h : Rounds node round) (hk : node.Has k pinned status)
    (cp : ControlPacket) : ∃ later, Leads k pinned node round later [] ∧
      (awaits cp later = true → later = status) ∧
      (awaits cp status = true → later = status) := by
  obtain ⟨later, hround, hminds⟩ := h.listens k pinned status hk
  have hsame := Status.isVirtual_of_mode_eq hminds.mode
  have hwaits : later.isVirtual = true → later.isConnected = false → later = status := by
    intro hvirtual hoff
    rw [hsame] at hvirtual
    exact (hminds.tracks hvirtual).waiting hoff
  refine ⟨later, hround, fun hawaits => ?_, fun hawaits => ?_⟩
  · obtain ⟨hvirtual, hoff, -⟩ := awaits_iff.1 hawaits
    exact hwaits hvirtual hoff
  · obtain ⟨hvirtual, hoff, -⟩ := awaits_iff.1 hawaits
    refine hwaits (hsame.trans hvirtual) ?_
    rw [← Bool.not_eq_true]
    intro hon
    rw [hminds.connected hon] at hoff
    cases hoff

section

variable {round : Node} {cp : ControlPacket} (h : Rounds node round)
  (hfind : round.registry.findStatus? (awaits cp) = some k)

include h hfind in
/-- The driver that waits after the round of an announce is connected. -/
theorem Rounds.connects (hk : node.Has k pinned status) (wf : round.registry.WellFormed)
    (env : Env) (filter : AddressFilter) :
    awaits cp status = true ∧
      ∃ later, Leads k pinned node (({ round with filter } : Node).adopt env k cp) later
        [.connected cp.address] ∧ Meets cp status later := by
  obtain ⟨shown, hround, hawaited, -⟩ := h.waiting hk cp
  obtain ⟨entry, hentry, hawaits⟩ := wf.get?_of_find?_eq_some hfind
  obtain ⟨registration, hshown⟩ := hround.has.get?
  rw [hshown] at hentry
  cases hentry
  have heq : shown = status := hawaited hawaits
  subst heq
  have hfilter := hround.trans (leads_of_spares hround.has (spares_withFilter filter round) trivial)
  obtain ⟨later, hadopt, hmeets⟩ := leads_adopt hfilter.has env cp
  exact ⟨hawaits, later, hfilter.trans hadopt, hmeets⟩

include h hfind in
/-- No older driver waits. -/
theorem Rounds.oldest (hk : node.Has k pinned status) (wf : node.registry.WellFormed) :
    ∃ earlier later, node.drivers = earlier ++ k :: later ∧
      ∀ j ∈ earlier, ∀ pinned status, node.Has j pinned status →
        awaits cp status = false := by
  obtain ⟨earlier, later, hhandles, hnone⟩ :=
    (h.spares.wellFormed wf).handles_of_find?_eq_some hfind
  refine ⟨earlier.filter fun h => (round.enrolled? h).isSome,
    later.filter fun h => (round.enrolled? h).isSome, ?_, fun j hj other before hj' => ?_⟩
  · obtain ⟨shown, hround, -⟩ := h.waiting hk cp
    obtain ⟨registration, hkept, -⟩ := hround.has
    rw [← h.spares.drivers wf]
    unfold drivers
    rw [hhandles, List.filter_append, List.filter_cons, if_pos (by rw [hkept]; rfl)]
  · obtain ⟨shown, hround, -, hwaited⟩ := h.waiting hj' cp
    obtain ⟨registration, hshown⟩ := hround.has.get?
    rw [← Bool.not_eq_true]
    intro hawaits
    have hfalse := hnone j (List.mem_filter.1 hj).1 _ hshown
    dsimp only at hfalse
    rw [hwaited hawaits, hawaits] at hfalse
    cases hfalse

end

theorem Listens.then {after last : Node} {who : Handle → Prop}
    (h : Listens k pinned status node after) (hspares : Spares who after last) (hk : who k) :
    Listens k pinned status node last := by
  obtain ⟨later, hleads, hminds⟩ := h
  exact ⟨later, hleads.trans (leads_of_spares hleads.has hspares hk), hminds⟩

/-- **An announce connects one driver or none.** If it connects one, the driver is the oldest one
that waits for the device. -/
theorem listens_or_adopts (hmild : node.IsMild) (wf : node.registry.WellFormed) (env : Env)
    (cp : ControlPacket) :
    (∀ k pinned status, node.Has k pinned status →
        Listens k pinned status node (node.receiveAnnounce env cp)) ∨
      ∃ k, Adopts cp k node (node.receiveAnnounce env cp) := by
  obtain ⟨round, filter, hrounds, heq | ⟨hsafe, hunfollowed, handle, hfind, heq⟩⟩ :=
    announce_cases wf env cp
  · rw [heq]
    exact .inl fun k pinned status hk =>
      (hrounds.listens k pinned status hk).then (spares_withFilter filter round) trivial
  · rw [heq]
    have hothers : ∀ j pinned status, j ≠ handle → node.Has j pinned status →
        Listens j pinned status node (({ round with filter } : Node).adopt env handle cp) :=
      fun j pinned status hj hk =>
        ((hrounds.listens j pinned status hk).then (spares_withFilter filter round) trivial).then
          (spares_adopt env handle cp _) hj
    by_cases hdriver : (node.enrolled? handle).isSome = true
    · obtain ⟨pinned, status, hk⟩ := hmild handle hdriver
      obtain ⟨hawaits, later, hleads, hmeets⟩ :=
        hrounds.connects hfind hk (hrounds.spares.wellFormed wf) env filter
      exact .inr ⟨handle, hsafe, hunfollowed, ⟨pinned, status, later, hk, hawaits, hleads, hmeets⟩,
        hrounds.oldest hfind hk wf, hothers⟩
    · refine .inl fun j pinned status hk => hothers j pinned status (fun hj => hdriver ?_) hk
      obtain ⟨registration, hkept, -⟩ := hk
      rw [← hj, hkept]
      rfl

/-! ## What a happening makes of a virtual driver -/

theorem Has.status_eq (h : node.Has k pinned status) {other : Status}
    (hs : node.status? k = some other) : other = status := by
  rw [h.status?] at hs
  exact (Option.some.inj hs).symm

theorem fate_of_enrolled?_eq {after : Node} (h : node.Has k pinned status)
    (hsame : after.enrolled? k = node.enrolled? k) : Fate k pinned status after := by
  obtain ⟨registration, hkept, hrest⟩ := h
  exact ⟨status, ⟨registration, hsame.trans hkept, hrest⟩, .inl (.refl status)⟩

theorem Listens.fate {after : Node} (h : Listens k pinned status node after)
    (hvirtual : status.isVirtual = true) : Fate k pinned status after := by
  obtain ⟨later, hleads, hminds⟩ := h
  exact ⟨later, hleads.has, .inl (hminds.tracks hvirtual)⟩

/-- A driver works on, and its status stays. -/
theorem fate_work (h : node.Has k pinned status) {handle : Handle} {registration : Registration}
    {driver : Driver} (held : node.registration? handle = some registration)
    (works : registration.driver.Works driver) :
    Fate k pinned status (node.modifyRegistration handle fun r => { r with driver }) := by
  by_cases hk : k = handle
  · subst hk
    obtain ⟨other, hkept, hmild, hrest⟩ := h
    obtain ⟨before, hentry⟩ := registration?_eq_some_iff.1 held
    rw [enrolled?_eq_some_iff.1 hkept] at hentry
    cases hentry
    exact ⟨status, ⟨_, enrolled?_modifyRegistration hkept _, hmild.works works, hrest⟩,
      .inl (.refl status)⟩
  · exact ⟨status, (leads_of_spares h (spares_work held works) hk).has, .inl (.refl status)⟩

/-- Only an announce connects a driver, and only one. -/
theorem fate_or_adopts (hmild : node.IsMild) (wf : node.registry.WellFormed) {x : Happening}
    {added : List Action} {after : Node} (becomes : Becomes x node added after) :
    (∀ k pinned status, node.Has k pinned status → status.isVirtual = true → IsBare status →
        (∀ env, x ≠ .unregister env k) → Fate k pinned status after) ∨
      ∃ cp k, Adopts cp k node after := by
  cases becomes with
  | @register _ _ handle profile driver ok =>
    have hjoins := joins_register ok
    refine .inl fun k pinned status hk _ _ _ => fate_of_enrolled?_eq hk (hjoins.others k ?_)
    rintro rfl
    obtain ⟨registration, hkept, -⟩ := hk
    rw [hjoins.fresh] at hkept
    cases hkept
  | @unregister _ _ env handle left _ ok log =>
    obtain ⟨told, hdeparts, -, htold⟩ := unregister_cases ok
    refine .inl fun k pinned status hk _ _ hstays => ?_
    have hne : k ≠ handle := fun hne => hstays env (hne ▸ rfl)
    refine fate_of_enrolled?_eq hk ((hdeparts.others k hne).trans ?_)
    rcases htold with ⟨rfl, -⟩ | ⟨rfl, -⟩
    · rfl
    · exact (spares_tellRemoved env handle node).enrolled? k hne
  | receive env frame log =>
    cases hhello : helloOf? frame with
    | none =>
      exact .inl fun k pinned status hk hvirtual hbare _ =>
        fate_receiveFrame hk hvirtual hbare wf env hhello
    | some cp =>
      rw [receiveFrame_of_hello node env hhello]
      rcases listens_or_adopts hmild wf env cp with hlistens | ⟨k, hadopts⟩
      · exact .inl fun k pinned status hk hvirtual _ _ =>
          (hlistens k pinned status hk).fate hvirtual
      · exact .inr ⟨cp, k, hadopts⟩
  | tick env log =>
    exact .inl fun k pinned status hk hvirtual hbare _ => fate_tick hk hvirtual hbare wf env
  | work held works => exact .inl fun k pinned status hk _ _ _ => fate_work hk held works
  | takeLog =>
    exact .inl fun k pinned status hk _ _ _ => ⟨status, hk, .inl (.refl status)⟩

end Node

end DeviceBus
