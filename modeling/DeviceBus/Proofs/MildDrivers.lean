import DeviceBus.Proofs.Pairing.Standings

/-!
# Mild drivers

A driver may change the status that it is shown, but some of a status is the affair of the node: the
flags of the role, and the one that says that the device is there. A driver that leaves them alone
is mild. All drivers are, except for probes that are made to set such flags.

## Main results

* `IsMild.respond`: what a mild driver leaves alone, whatever it is told.
* `contains_respond`, `identity_respond`: what any driver leaves alone: it takes no flag back but
  those of a bond, and shows the same device.
-/

namespace DeviceBus

/-- The flags that are the affair of a node: those of a role, and that the device is there. -/
def DeviceFlags.official : DeviceFlags := roleMask ∪ confirmed

namespace Status

/-- A status without the flags that a driver may change. -/
def official (status : Status) : Status :=
  { status with flags := status.flags.restrict DeviceFlags.official }

theorem official_mark (status : Status) {flags : DeviceFlags}
    (h : DeviceFlags.official.IsDisjoint flags) :
    (status.mark flags).official = status.official := by
  simp only [official, mark, Flags.restrict_insert_of_disjoint _ h]

theorem official_unmark (status : Status) {flags : DeviceFlags}
    (h : DeviceFlags.official.IsDisjoint flags) :
    (status.unmark flags).official = status.official := by
  simp only [official, unmark, Flags.restrict_remove_of_disjoint _ h]

variable {s t : Status}

/-- No flag of a bond is the affair of a node. -/
theorem official_of_unbonded_eq (h : s.unbonded = t.unbonded) : s.official = t.official := by
  rw [← official_unmark s (by decide : DeviceFlags.official.IsDisjoint DeviceFlags.bond),
    ← official_unmark t (by decide : DeviceFlags.official.IsDisjoint DeviceFlags.bond)]
  exact congrArg official h

/-- A status without the flags of a bond is what remains without them. -/
theorem eq_of_unbonded_eq (h : s.unbonded = t.unbonded)
    (hs : s.flags.restrict DeviceFlags.bond = Flags.none)
    (ht : t.flags.restrict DeviceFlags.bond = Flags.none) : s = t := by
  have hflags : s.flags = t.flags := by
    have hremove : s.flags.remove DeviceFlags.bond = t.flags.remove DeviceFlags.bond :=
      congrArg Status.flags h
    apply Flags.ext_bit
    intro i hi
    have hout := congrArg (Flags.bit · i) hremove
    have hin := congrArg (Flags.bit · i) (hs.trans ht.symm)
    simp only [Flags.bit_remove _ _ hi, Flags.bit_restrict] at hout hin
    cases hbond : DeviceFlags.bond.bit i with
    | true =>
      rw [hbond, Bool.and_true, Bool.and_true] at hin
      exact hin
    | false =>
      rw [hbond, Bool.not_false, Bool.and_true, Bool.and_true] at hout
      exact hout
  obtain ⟨address, counter, flags, serial, deviceClass⟩ := s
  obtain ⟨address', counter', flags', serial', deviceClass'⟩ := t
  cases hflags
  cases h
  rfl

theorem contains_of_official_eq (h : s.official = t.official) {asked : DeviceFlags}
    (hsub : asked.IsSubset DeviceFlags.official) :
    s.flags.contains asked = t.flags.contains asked := by
  rw [← Flags.contains_restrict_of_subset s.flags hsub,
    ← Flags.contains_restrict_of_subset t.flags hsub]
  exact congrArg (·.flags.contains asked) h

theorem isConnected_of_official_eq (h : s.official = t.official) :
    s.isConnected = t.isConnected :=
  contains_of_official_eq h (by decide)

theorem mode_of_official_eq (h : s.official = t.official) :
    DeviceFlags.mode s.flags = DeviceFlags.mode t.flags := by
  have hsub : Flags.IsSubset DeviceFlags.roleMask DeviceFlags.official := by decide
  unfold DeviceFlags.mode
  rw [← Flags.restrict_restrict_of_subset s.flags hsub,
    ← Flags.restrict_restrict_of_subset t.flags hsub]
  exact congrArg (·.flags.restrict DeviceFlags.roleMask) h

theorem address_of_official_eq (h : s.official = t.official) : s.address = t.address :=
  congrArg (·.address) h

theorem serial_of_official_eq (h : s.official = t.official) : s.serial = t.serial :=
  congrArg (·.serial) h

theorem deviceClass_of_official_eq (h : s.official = t.official) : s.deviceClass = t.deviceClass :=
  congrArg (·.deviceClass) h

end Status

/-! ## What probes do to a status -/

namespace Context

theorem status_conclude (result : Except BusError Bytes) (ctx : Context) :
    (ctx.conclude result).2.status = ctx.status := by
  cases result <;> rfl

theorem status_send (data : Bytes) (ctx : Context) : (ctx.send data).2.status = ctx.status := by
  unfold send
  split
  · rfl
  · exact status_conclude _ ctx

theorem status_askToPair (target : Identity) (ctx : Context) :
    (ctx.askToPair target).2.status = ctx.status := by
  unfold askToPair
  split
  · exact status_conclude _ ctx
  · rfl

end Context

/-- Only at a control packet a probe changes its status. -/
theorem Probe.status_respond (probe : Probe) {callback : Callback}
    (h : ∀ cp, callback ≠ .control cp) (ctx : Context) :
    (probe.respond callback ctx).2.status = ctx.status := by
  cases callback with
  | control cp => exact absurd rfl (h cp)
  | data packet =>
    show (probe.answer (ctx.note (.data ctx.handle packet))).status = ctx.status
    unfold answer
    split
    · rfl
    · exact Context.status_send _ _
  | connected =>
    show (probe.ask (ctx.note (.connected ctx.handle ctx.status))).status = ctx.status
    unfold ask
    split
    · rfl
    · exact Context.status_askToPair _ _
  | removed => rfl
  | partnerLost => rfl

/-! ## Mild drivers -/

namespace Driver

/-- A driver that sets no flag that is the affair of its node. -/
def IsMild : Driver → Prop
  | probe p => DeviceFlags.official.IsDisjoint p.marks
  | _ => True

theorem IsOrdinary.isMild {driver : Driver} (h : driver.IsOrdinary) : driver.IsMild := by
  cases driver with
  | probe p => exact h.elim
  | _ => trivial

/-- What the reply of a mild driver leaves alone: all that is the affair of the node, and a status
without a flag of a bond unless the driver is told a control packet. -/
structure Mild (callback : Callback) (ctx : Context) (reply : Reply Driver) : Prop where
  mild : reply.driver.IsMild
  official : reply.context.status.official = ctx.status.official
  same : ctx.status.flags.restrict DeviceFlags.bond = Flags.none →
    (∀ cp, callback ≠ .control cp) → reply.context.status = ctx.status

/-- A driver that lets its peer go shows no bond. -/
theorem same_of_letGo {ctx : Context} {p : Pairable} {after : Status}
    (hafter : after = (p.letGo ctx).2.status)
    (hbare : ctx.status.flags.restrict DeviceFlags.bond = Flags.none) : after = ctx.status := by
  obtain ⟨hstate, hunbonded, -⟩ := p.letGo_spec ctx
  have hmarked := p.isMarked_letGo ctx
  unfold Pairable.IsMarked at hmarked
  rw [hstate] at hmarked
  rw [hafter]
  exact Status.eq_of_unbonded_eq hunbonded hmarked hbare

/-- What a driver that pairs is told beside control packets leaves a status without a bond alone. -/
theorem same_of_pairable (p : Pairable) {callback : Callback} {ctx : Context}
    (hbare : ctx.status.flags.restrict DeviceFlags.bond = Flags.none)
    (hcallback : ∀ cp, callback ≠ .control cp) :
    (p.respond callback ctx).context.status = ctx.status := by
  cases callback with
  | control cp => exact absurd rfl (hcallback cp)
  | data packet => exact (p.onData_spec packet ctx).2.1
  | connected => exact (p.gated.isSilent_connected ctx).1
  | removed =>
    exact same_of_letGo ((p.letGo ctx).1.gated.isSilent_removed (p.letGo ctx).2).1 hbare
  | partnerLost => exact same_of_letGo rfl hbare

/-- Whatever a mild driver is told, its reply is mild. -/
theorem IsMild.respond {driver : Driver} (h : driver.IsMild) (callback : Callback)
    (ctx : Context) : Mild callback ctx (driver.respond callback ctx) := by
  by_cases hordinary : driver.IsOrdinary
  · have htame := respond_spec hordinary callback ctx
    refine ⟨htame.ordinary.isMild, Status.official_of_unbonded_eq htame.unbonded,
      fun hbare hcallback => ?_⟩
    cases driver with
    | probe p => exact hordinary.elim
    | pairable p => exact same_of_pairable p hbare hcallback
    | console c => cases callback <;> rfl
    | _ => rfl
  · cases driver with
    | probe p =>
      refine ⟨h, ?_, fun _ hcallback => p.status_respond hcallback ctx⟩
      by_cases hcallback : ∃ cp, callback = .control cp
      · obtain ⟨cp, rfl⟩ := hcallback
        exact Status.official_mark ctx.status h
      · exact congrArg Status.official
          (p.status_respond (fun cp hcp => hcallback ⟨cp, hcp⟩) ctx)
    | _ => exact absurd trivial hordinary

/-- Whatever a driver is told, it takes no flag back but those of a bond. -/
theorem contains_respond (driver : Driver) (callback : Callback) {ctx : Context}
    {asked : DeviceFlags} (hbond : asked.IsDisjoint DeviceFlags.bond)
    (h : ctx.status.flags.contains asked = true) :
    (driver.respond callback ctx).context.status.flags.contains asked = true := by
  by_cases hordinary : driver.IsOrdinary
  · exact (Status.contains_of_unbonded_eq (respond_spec hordinary callback ctx).unbonded
      hbond).trans h
  · cases driver with
    | probe p =>
      by_cases hcallback : ∃ cp, callback = .control cp
      · obtain ⟨cp, rfl⟩ := hcallback
        show (ctx.status.flags.insert p.marks).contains asked = true
        rw [Flags.contains_iff]
        intro i hi hasked
        rw [Flags.bit_insert, (Flags.contains_iff _ _).1 h i hi hasked, Bool.true_or]
      · rw [← h]
        exact congrArg (fun status : Status => status.flags.contains asked)
          (p.status_respond (fun cp hcp => hcallback ⟨cp, hcp⟩) ctx)
    | _ => exact absurd trivial hordinary

/-- Whatever a driver is told, it shows the same device as before. -/
theorem identity_respond (driver : Driver) (callback : Callback) (ctx : Context) :
    (driver.respond callback ctx).context.status.identity = ctx.status.identity := by
  by_cases hordinary : driver.IsOrdinary
  · exact Status.identity_of_unbonded_eq (respond_spec hordinary callback ctx).unbonded
  · cases driver with
    | probe p =>
      by_cases hcallback : ∃ cp, callback = .control cp
      · obtain ⟨cp, rfl⟩ := hcallback
        rfl
      · exact congrArg Status.identity
          (p.status_respond (fun cp hcp => hcallback ⟨cp, hcp⟩) ctx)
    | _ => exact absurd trivial hordinary

end Driver

end DeviceBus
