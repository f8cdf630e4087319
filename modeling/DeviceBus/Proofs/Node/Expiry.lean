import DeviceBus.Proofs.Node.Absence

/-!
# Records of silent devices

A record goes as the device of a remote driver does: the tick after the last mark takes the mark
back, the ticks that follow are counted, and with the last of as many as the settings name the
record is gone. No own driver can make a record miss its device, for what counts is not that the
device was announced, but that the record was marked.

`Lingers` says for how many ticks a record was not marked.

## Main results

* `Comes.exists_lingers`: every record has lingered for some ticks.
* `absence_of_comes`: when virtual drivers lose their devices and records go, in any run.
-/

namespace DeviceBus

open ControlPacket EventKind Relation

/-- The announced device has a record that shows this status, and the record is marked. -/
structure ControlPacket.Marks (cp : ControlPacket) (status : Status) : Prop where
  seen : status.isSeen = true
  address : status.address = cp.address
  serial : status.serial = cp.serial

/-- What a tick makes of the record of a device that was silent for some ticks. -/
theorem Status.IsSilentFor.aged {limit : UInt8} {ticks : Nat} {status : Status}
    (h : status.IsSilentFor ticks) (hpos : 0 < limit.toNat) (hle : ticks ≤ limit.toNat) :
    if ticks = limit.toNat then status.aged limit = none
    else ∃ is, status.aged limit = some is ∧ is.IsSilentFor (ticks + 1) ∧
      ticks + 1 ≤ limit.toNat := by
  unfold Status.aged
  cases hseen : status.isSeen with
  | true =>
    have hzero := h.eq_zero hseen
    subst hzero
    rw [if_neg (Nat.ne_of_lt hpos), if_pos rfl]
    exact ⟨_, rfl, status.isSilentFor_unseen, hpos⟩
  | false =>
    rw [if_neg Bool.false_ne_true]
    by_cases hearly : countUp status.counter < limit
    · obtain ⟨hlt, hsilent⟩ := h.counted hseen hearly
      rw [if_neg (Nat.ne_of_lt hlt), if_pos hearly]
      exact ⟨_, rfl, hsilent, hlt⟩
    · have hdue := h.le_of_due hseen (UInt8.not_lt.1 hearly)
      rw [if_pos (Nat.le_antisymm hle hdue), if_neg hearly]

namespace Node

variable {settings : NodeSettings} {draws : Draws} {xs : List Happening} {node after : Node}
  {k : Handle} {x : Happening} {added : List Action} {was is : Status} {ticks : Nat}

/-! ## Marks -/

theorem marks_recorded (cp : ControlPacket) : cp.Marks (.recorded cp) where
  seen := by
    show Flags.contains (DeviceFlags.record ∪ DeviceFlags.confirmed ∪ DeviceFlags.seen)
      DeviceFlags.seen = true
    decide
  address := rfl
  serial := rfl

/-- What is left of the status of a record where no tick is: the record may have been marked. -/
structure Remains (x : Happening) (was is : Status) : Prop where
  counter : is.counter = was.counter
  seen : is.isSeen = was.isSeen ∨ ∃ cp, x.Brings cp ∧ cp.Marks is

/-- A new record was marked. -/
theorem Jots.marks (h : Jots x k node after) (hnone : node.record? k = none)
    (his : after.record? k = some is) : ∃ cp, x.Brings cp ∧ cp.Marks is := by
  unfold Jots at h
  rw [hnone] at h
  generalize after.record? k = last at h his
  induction h generalizing is with
  | refl => cases his
  | @tail mid last _ jot ih =>
    subst his
    cases jot with
    | noted brings => exact ⟨_, brings, marks_recorded _⟩
    | @seen cp status brings address serial =>
      exact ⟨cp, brings, Flags.contains_insert_of_subset status.flags (by decide), address, serial⟩
    | present isTick =>
      obtain ⟨cp, ⟨env, frame, hframe, -⟩, -⟩ := ih rfl
      cases hframe.symm.trans isTick
    | missed isTick =>
      obtain ⟨cp, ⟨env, frame, hframe, -⟩, -⟩ := ih rfl
      cases hframe.symm.trans isTick

/-- Where no tick is, a record remains. -/
theorem Jots.remains (h : Jots x k node after) (hnoTick : x.isTick = false)
    (hstays : ∀ env, x ≠ .unregister env k) (hwas : node.record? k = some was) :
    ∃ is, after.record? k = some is ∧ Remains x was is := by
  unfold Jots at h
  rw [hwas] at h
  generalize after.record? k = last at h
  induction h with
  | refl => exact ⟨was, rfl, rfl, .inl rfl⟩
  | @tail mid last _ jot ih =>
    obtain ⟨shown, rfl, hremains⟩ := ih
    cases jot with
    | @seen cp status brings address serial =>
      exact ⟨_, rfl, hremains.counter, .inr ⟨cp, brings,
        Flags.contains_insert_of_subset shown.flags (by decide), address, serial⟩⟩
    | present isTick => cases isTick ▸ hnoTick
    | missed isTick => cases isTick ▸ hnoTick
    | expired isTick => cases isTick ▸ hnoTick
    | taken leaves => exact absurd leaves (hstays _)

/-! ## One happening -/

/-- A handle that is neither a driver's nor a record's is nobody's. -/
theorem get?_eq_none (hdriver : node.enrolled? k = none) (hrecord : node.record? k = none) :
    node.registry.get? k = none := by
  cases hget : node.registry.get? k with
  | none => rfl
  | some entry =>
    obtain ⟨status, kind⟩ := entry
    cases kind with
    | driver registration => cases (enrolled?_eq_some_iff.2 hget).symm.trans hdriver
    | record => cases (record?_eq_some_iff.2 hget).symm.trans hrecord

theorem record?_of_get?_eq_none (h : node.registry.get? k = none) : node.record? k = none := by
  unfold record?
  rw [h]

/-- No tick puts a driver where a record was. -/
theorem enrolled?_tick_of_record (h : node.record? k = some was) (env : Env) :
    (node.tick env).enrolled? k = none := by
  have hnone : node.enrolled? k = none := by
    rw [Option.eq_none_iff_forall_ne_some]
    intro kept hkept
    cases (record?_of_enrolled? hkept).symm.trans h
  have hprobe := (spares_tick env node).probe? k
  unfold probe? at hprobe
  rw [hnone] at hprobe
  exact Option.map_eq_none_iff.1 hprobe

/-- **What one happening makes of a record.** With the tick at the limit the record is gone;
otherwise it stays, and is marked or goes on waiting. -/
theorem Comes.lingers {admits : Driver → Prop} (h : Comes settings draws admits xs node)
    (hwas : node.record? k = some was) (hsilent : was.IsSilentFor ticks)
    (hle : ticks ≤ settings.silenceTicks.toNat) (becomes : Becomes x node added after)
    (hstays : ∀ env, x ≠ .unregister env k) :
    if x.isTick ∧ ticks = settings.silenceTicks.toNat then after.registry.get? k = none
    else ∃ is, after.record? k = some is ∧
      ((∃ cp, x.Brings cp ∧ cp.Marks is) ∨
        is.IsSilentFor (x.lasting ticks) ∧ x.lasting ticks ≤ settings.silenceTicks.toNat) := by
  cases hx : x.isTick with
  | true =>
    cases becomes with
    | tick env =>
      have hlater := record?_tick env hwas h.wellFormed
      have haged := hsilent.aged (ticksCovering_bounds settings.silenceLimit settings.period).1 hle
      rw [h.upkeep.1] at hlater
      split at haged
      · rename_i heq
        rw [if_pos ⟨rfl, heq⟩]
        exact get?_eq_none (enrolled?_tick_of_record hwas env) (hlater.trans haged)
      · rename_i hne
        rw [if_neg fun hand => hne hand.2]
        obtain ⟨is, his, hlater', hle'⟩ := haged
        exact ⟨is, hlater.trans his, .inr ⟨hlater', hle'⟩⟩
    | _ => cases hx
  | false =>
    rw [if_neg fun hand => Bool.false_ne_true hand.1, x.lasting_of_isTick_eq_false ticks hx]
    obtain ⟨is, his, hremains⟩ :=
      (jots_of_becomes h.wellFormed h.isPlain becomes k).remains hx hstays hwas
    refine ⟨is, his, ?_⟩
    rcases hremains.seen with hseen | hmarks
    · exact .inr ⟨hsilent.congr hseen hremains.counter, hle⟩
    · exact .inl hmarks

/-! ## Any run -/

/-- A record was marked some ticks ago, and not since. -/
inductive Lingers (settings : NodeSettings) (draws : Draws) (k : Handle) : Nat → Node → Prop where
  /-- An announce marks the record, which may be new. -/
  | marked {xs : List Happening} {node after : Node} {x : Happening} {added : List Action}
      {cp : ControlPacket} {is : Status} (before : Comes settings draws (fun _ => True) xs node)
      (becomes : Becomes x node added after) (brings : x.Brings cp)
      (later : after.record? k = some is) (marks : cp.Marks is) : Lingers settings draws k 0 after
  /-- Something happens, and the record is still there. -/
  | kept {ticks : Nat} {node after : Node} {x : Happening} {added : List Action} {is : Status}
      (before : Lingers settings draws k ticks node) (becomes : Becomes x node added after)
      (later : after.record? k = some is) (unmarked : ∀ cp, x.Brings cp → ¬ cp.Marks is) :
      Lingers settings draws k (x.lasting ticks) after

/-- Whoever finds a record there afterwards did not take it out. -/
theorem stays_of_record (becomes : Becomes x node added after) (his : after.record? k = some is) :
    ∀ env, x ≠ .unregister env k := by
  rintro env rfl
  cases becomes with
  | unregister ok => cases (record?_of_unregister ok).symm.trans his

/-- A record that lingers has waited for a mark no longer than it may. -/
theorem Lingers.isSilentFor (h : Lingers settings draws k ticks node) :
    ticks ≤ settings.silenceTicks.toNat ∧ ∃ xs status,
      Comes settings draws (fun _ => True) xs node ∧ node.record? k = some status ∧
      status.IsSilentFor ticks := by
  induction h with
  | marked before becomes brings later marks =>
    exact ⟨Nat.zero_le _, _, _, before.next_of_true becomes, later,
      Status.isSilentFor_of_isSeen marks.seen⟩
  | kept before becomes later unmarked ih =>
    obtain ⟨hle, xs, was, hcomes, hwas, hsilent⟩ := ih
    have hpast := hcomes.lingers hwas hsilent hle becomes (stays_of_record becomes later)
    split at hpast
    · rw [record?_of_get?_eq_none hpast] at later
      cases later
    · obtain ⟨is, his, hmarks | hsilent'⟩ := hpast
      · cases his.symm.trans later
        obtain ⟨cp, hbrings, hcp⟩ := hmarks
        exact absurd hcp (unmarked cp hbrings)
      · cases his.symm.trans later
        exact ⟨hsilent'.2, _, _, hcomes.next_of_true becomes, later, hsilent'.1⟩

/-- **Every record has lingered for some ticks.** -/
theorem Comes.exists_lingers (h : Comes settings draws (fun _ => True) xs node)
    (his : node.record? k = some is) : ∃ ticks, Lingers settings draws k ticks node := by
  obtain ⟨trace, hcourse⟩ := h
  induction hcourse generalizing is with
  | here => simp [record?, withDraws] at his
  | @next xs trace node x added after hbefore admitted becomes _ ih =>
    have hcomes : Comes settings draws (fun _ => True) xs node := ⟨trace, hbefore⟩
    by_cases hmarks : ∃ cp, x.Brings cp ∧ cp.Marks is
    · obtain ⟨cp, hbrings, hcp⟩ := hmarks
      exact ⟨0, .marked hcomes becomes hbrings his hcp⟩
    · cases hwas : node.record? k with
      | none =>
        exact absurd
          ((jots_of_becomes hcomes.wellFormed hcomes.isPlain becomes k).marks hwas his) hmarks
      | some was =>
        obtain ⟨ticks, hlingers⟩ := ih hwas
        exact ⟨_, hlingers.kept becomes his fun cp hbrings hcp => hmarks ⟨cp, hbrings, hcp⟩⟩

/-- **Silence is counted exactly.** A mild virtual driver loses its device with the first tick after
as many as the limit says without an announce of the device, and with nothing else that happens, as
long as no own driver has an address at which the device is announced, whatever other drivers do:
then the driver is as it was registered, the removal is reported once, and the driver is told so.
Every record has lingered for some ticks since it was last marked, and it goes in the same way,
whatever happens, unless it is taken out. -/
theorem absence_of_comes (settings : NodeSettings) (draws : Draws) (k : Handle) :
    (∀ profile device ticks node, Sighted settings draws k profile device ticks node →
      ticks ≤ settings.silenceTicks.toNat ∧
      ∀ x added after, Becomes x node added after → (∀ env, x ≠ .unregister env k) →
        (∀ cp, x.Brings cp → device.isSameDevice cp.announced = true → ¬ node.IsTaken cp) →
        ∃ status, after.status? k = some status ∧
          if x.isTick ∧ ticks = settings.silenceTicks.toNat then
            status = vacantFor settings profile ∧ milestones (reportsOf k added) = [.removed] ∧
              tidingsFor k added = [.removed]
          else
            status.isConnected = true ∧ device.isSameDevice status.identity = true ∧
              milestones (reportsOf k added) = [] ∧ tidingsFor k added = []) ∧
    (∀ xs node status, Comes settings draws (fun _ => True) xs node →
      node.record? k = some status → ∃ ticks, Lingers settings draws k ticks node) ∧
    ∀ ticks node, Lingers settings draws k ticks node →
      ticks ≤ settings.silenceTicks.toNat ∧
      ∀ x added after, Becomes x node added after → (∀ env, x ≠ .unregister env k) →
        if x.isTick ∧ ticks = settings.silenceTicks.toNat then after.registry.get? k = none
        else ∃ status, after.record? k = some status := by
  refine ⟨fun profile device ticks node h => ⟨h.misses.1, fun x added after becomes stays untaken =>
    h.next becomes stays untaken⟩, fun xs node status h hstatus => h.exists_lingers hstatus,
    fun ticks node h => ?_⟩
  obtain ⟨hle, xs, status, hcomes, hstatus, hsilent⟩ := h.isSilentFor
  refine ⟨hle, fun x added after becomes stays => ?_⟩
  have hpast := hcomes.lingers hstatus hsilent hle becomes stays
  split at hpast
  · rename_i hdue
    rwa [if_pos hdue]
  · rename_i hearly
    rw [if_neg hearly]
    obtain ⟨is, his, -⟩ := hpast
    exact ⟨is, his⟩

/-- A driver that is connected after each of some ticks has waited for that many ticks more. -/
theorem Sighted.afterTicks {profile : DriverProfile} {device : Identity}
    (h : Sighted settings draws k profile device ticks node) {more : Nat}
    (hconnected : ∀ n < more,
      ((node.afterTicks (n + 1)).status? k).map (·.isConnected) = some true) :
    Sighted settings draws k profile device (ticks + more) (node.afterTicks more) := by
  induction more with
  | zero => exact h
  | succ more ih =>
    have hbefore := ih fun n hn => hconnected n (Nat.lt_succ_of_lt hn)
    obtain ⟨is, his, hon⟩ := Option.map_eq_some_iff.1 (hconnected more (Nat.lt_succ_self more))
    rw [afterTicks_succ] at his ⊢
    obtain ⟨added, hlog, -⟩ := (spares_tick .taking (node.afterTicks more)).trace
    exact hbefore.kept (x := .tick .taking) (.tick .taking hlog) nofun
      (fun cp ⟨_, _, heq, _⟩ => nomatch heq) his hon

/-- A record that is there after each of some ticks has waited for that many ticks more. -/
theorem Lingers.afterTicks (h : Lingers settings draws k ticks node) {more : Nat}
    (hthere : ∀ n < more, ((node.afterTicks (n + 1)).record? k).isSome = true) :
    Lingers settings draws k (ticks + more) (node.afterTicks more) := by
  induction more with
  | zero => exact h
  | succ more ih =>
    have hbefore := ih fun n hn => hthere n (Nat.lt_succ_of_lt hn)
    obtain ⟨is, his⟩ := Option.isSome_iff_exists.1 (hthere more (Nat.lt_succ_self more))
    rw [afterTicks_succ] at his ⊢
    obtain ⟨added, hlog, -⟩ := (spares_tick .taking (node.afterTicks more)).trace
    exact hbefore.kept (x := .tick .taking) (.tick .taking hlog) his
      fun cp ⟨_, _, heq, _⟩ => nomatch heq

/-- A device with serial number 2 announced itself once. With the usual settings, the virtual driver
that it was connected to loses it with the fourth tick, and the record that a sniffer has of it goes
with the fourth tick too. -/
theorem absence_of_silentDevice :
    let frame := (ControlPacket.hello 20 7 2).frame
    let found := (withDriver ⟨.virtual, 7, none, none⟩ .quiet).receiveFrame .taking frame
    let noted := (withDriver ⟨.sniffer, 7, none, none⟩ .quiet).receiveFrame .taking frame
    ({} : NodeSettings).silenceTicks = 3 ∧
      Sighted {} ⟨fun _ => 0, 0⟩ ⟨0, 0⟩ ⟨.virtual, 7, none, none⟩ ⟨20, 2, 7⟩ 3
        (found.afterTicks 3) ∧
      (found.afterTicks 4).status? ⟨0, 0⟩ = some (vacantFor {} ⟨.virtual, 7, none, none⟩) ∧
      Lingers {} ⟨fun _ => 0, 0⟩ ⟨1, 0⟩ 3 (noted.afterTicks 3) ∧
      (noted.afterTicks 4).registry.get? ⟨1, 0⟩ = none := by
  intro frame found noted
  have hlimit : ({} : NodeSettings).silenceTicks = 3 := by decide
  have hbrings : (Happening.receive .taking frame).Brings (ControlPacket.hello 20 7 2) :=
    Happening.brings_receive_iff.2 (by decide +kernel)
  obtain ⟨_, hfound, -⟩ := (spares_receiveFrame .taking frame
    (withDriver ⟨.virtual, 7, none, none⟩ .quiet)).trace
  obtain ⟨_, hnoted, -⟩ := (spares_receiveFrame .taking frame
    (withDriver ⟨.sniffer, 7, none, none⟩ .quiet)).trace
  -- the driver finds the device, and waits for it for three ticks
  obtain ⟨is, his, hfinds⟩ := Option.map_eq_some_iff.1
    (show (found.status? ⟨0, 0⟩).map (fun s => (s.isConnected, s.identity)) =
      some (true, ⟨20, 2, 7⟩) by decide +kernel)
  obtain ⟨hconnected, hidentity⟩ := Prod.mk.inj hfinds
  have hcomes := comes_withDriver Driver.IsMild ⟨.virtual, 7, none, none⟩ .quiet trivial
  have hstart : Sighted {} ⟨fun _ => 0, 0⟩ ⟨0, 0⟩ ⟨.virtual, 7, none, none⟩ ⟨20, 2, 7⟩ 0 found :=
    .found (x := .receive .taking frame) (hcomes.mono fun _ _ => trivial)
      (hcomes.registers ⟨0, 0⟩) ⟨List.mem_singleton.2 rfl, rfl, rfl⟩ rfl
      (.receive .taking frame hfound) nofun his hconnected hidentity
  have hsighted := hstart.afterTicks (show ∀ n < 3,
    ((found.afterTicks (n + 1)).status? ⟨0, 0⟩).map (·.isConnected) = some true by decide +kernel)
  -- the device is recorded, and the record waits as long
  obtain ⟨shown, hshown, hmarks⟩ := Option.map_eq_some_iff.1
    (show (noted.record? ⟨1, 0⟩).map (fun s => (s.isSeen, s.address, s.serial)) =
      some (true, 20, 2) by decide +kernel)
  obtain ⟨hseen, hmarks⟩ := Prod.mk.inj hmarks
  obtain ⟨haddress, hserial⟩ := Prod.mk.inj hmarks
  have hnew : Lingers {} ⟨fun _ => 0, 0⟩ ⟨1, 0⟩ 0 noted :=
    .marked (comes_withDriver (fun _ => True) ⟨.sniffer, 7, none, none⟩ .quiet trivial)
      (.receive .taking frame hnoted) hbrings hshown ⟨hseen, haddress, hserial⟩
  have hlingers := hnew.afterTicks (show ∀ n < 3,
    ((noted.afterTicks (n + 1)).record? ⟨1, 0⟩).isSome = true by decide +kernel)
  obtain ⟨_, hlost, -⟩ := (spares_tick .taking (found.afterTicks 3)).trace
  obtain ⟨_, hgone, -⟩ := (spares_tick .taking (noted.afterTicks 3)).trace
  obtain ⟨status, hstatus, hvacant⟩ :=
    ((absence_of_comes {} ⟨fun _ => 0, 0⟩ ⟨0, 0⟩).1 _ _ _ _ hsighted).2 (.tick .taking) _ _
      (.tick .taking hlost) nofun fun cp ⟨_, _, heq, _⟩ => nomatch heq
  have hnone := ((absence_of_comes {} ⟨fun _ => 0, 0⟩ ⟨1, 0⟩).2.2 _ _ hlingers).2 (.tick .taking) _
    _ (.tick .taking hgone) nofun
  rw [if_pos ⟨rfl, by rw [hlimit]; rfl⟩] at hvacant hnone
  rw [hvacant.1] at hstatus
  exact ⟨hlimit, hsighted, hstatus, hlingers, hnone⟩

end Node

end DeviceBus
