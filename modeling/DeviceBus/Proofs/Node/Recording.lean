import DeviceBus.Proofs.Node.Expiry
import DeviceBus.Proofs.Node.Hearing
import DeviceBus.Proofs.Node.Limits

/-!
# One record for each device

A record is made while an announce goes round, and only where the announce comes to a connected
broadcast driver of its class. It is not made where an entry has the announced address and serial
number, so records are apart: no two of them show the same address and serial number. From this the
rest follows. What an announce records shows the announced address and serial number, so it records
one device at most, and nothing as long as the record of the device is there.

## Main results

* `exists_listensTo_of_receiveAnnounce`: what an announce has to meet to be recorded.
* `Jots.origin`: a record shows the device that it showed before, or it is new.
* `recordsApart_of_becomes`: records stay apart, whatever happens.
* `recordKeeping_of_comes`: what there is to know about the records of a node.
-/

namespace DeviceBus

open ControlPacket Relation

/-- A driver is on one side of the bus: it owns an address or follows one. -/
def Entry.HasSide (_ : Handle) (entry : Entry) : Prop :=
  entry.isRecord = false → entry.status.isLocal = true ∨ entry.status.isRemote = true

theorem Entry.isInvariant_hasSide : Entry.IsInvariant (fun _ _ => True) Entry.HasSide where
  record _ _ _ hdriver := nomatch hdriver
  restate {_ before after _} hmode _ h hdriver := by
    have hsame : ∀ {asked : DeviceFlags}, asked.IsSubset DeviceFlags.roleMask →
        after.flags.contains asked = before.flags.contains asked := fun hsub => by
      rw [← DeviceFlags.contains_mode after.flags hsub, hmode,
        DeviceFlags.contains_mode before.flags hsub]
    exact (h hdriver).imp (hsame (by decide)).trans (hsame (by decide)).trans
  rebook _ _ h hdriver := h hdriver
  tell _ h _ := (h rfl).imp (Driver.contains_respond _ _ (by decide))
    (Driver.contains_respond _ _ (by decide))

namespace Node

variable {node before mid after : Node} {handle k : Handle} {x : Happening} {cp : ControlPacket}
  {was is : Status}

theorem hasSide_newcomer (settings : NodeSettings) (profile : DriverProfile) (driver : Driver)
    (handle : Handle) : Entry.HasSide handle ⟨(newcomer settings profile driver).1,
      .driver (newcomer settings profile driver).2⟩ := by
  intro _
  show (startStatus settings profile).flags.contains DeviceFlags.own = true ∨
    (startStatus settings profile).flags.contains DeviceFlags.remote = true
  rw [← DeviceFlags.contains_mode _ (by decide),
    ← DeviceFlags.contains_mode (startStatus settings profile).flags
      (by decide : Flags.IsSubset DeviceFlags.remote DeviceFlags.roleMask),
    mode_startStatus]
  cases profile.role <;> decide

theorem Comes.hasSide {settings : NodeSettings} {draws : Draws} {admits : Driver → Prop}
    {xs : List Happening} (h : Comes settings draws admits xs node) :
    node.Each Entry.HasSide := by
  obtain ⟨trace, hcourse⟩ := h
  induction hcourse with
  | here => exact each_withDraws _ settings draws
  | next before admitted becomes _ ih =>
    exact each_of_becomes Entry.isInvariant_hasSide (fun _ hold _ => hold rfl) becomes
      (fun handle profile driver _ _ => hasSide_newcomer _ profile driver handle)
      (before.wellFormed (Registry.WellFormed.empty _)) ih

/-! ## What an announce makes of the records -/

section

variable (env : Env) (handle) (cp)

/-- If the round of an announce touches a record, one of the drivers that it comes to listens. -/
theorem exists_listensTo_of_visitAll {handles : List Handle} (hnodup : handles.Nodup)
    (scan : Scan) :
    (∀ k, (visitAll env cp handles scan).node.record? k = scan.node.record? k) ∨
      (cp.flags.contains ControlFlags.uncertain = false ∧
        ∃ k ∈ handles, scan.node.ListensTo cp k) := by
  induction handles generalizing scan with
  | nil => exact .inl fun _ => rfl
  | cons handle rest ih =>
    obtain ⟨hnot, hrest⟩ := List.nodup_cons.1 hnodup
    have hspares := spares_visit env cp handle scan
    rcases record?_visit handle cp env scan with hsame | ⟨certain, hlistens, -⟩
    · unfold visitAll
      split
      · rename_i heq
        rw [heq] at hsame
        exact .inl hsame
      · rename_i next heq
        rw [heq] at hsame hspares
        rcases ih hrest next with hsame' | ⟨certain, k, hk, status, registration, hkept, hshows⟩
        · exact .inl fun k => (hsame' k).trans (hsame k)
        · -- what comes later in the round is as it was when the round began
          have hne : k ≠ handle := fun heq => hnot (heq ▸ hk)
          exact .inr ⟨certain, k, List.mem_cons_of_mem _ hk, status, registration,
            (hspares.enrolled? k hne).symm.trans hkept, hshows⟩
    · exact .inr ⟨certain, handle, List.mem_cons_self, hlistens⟩

end

/-- Who listens when partners were heard listened before. -/
theorem ListensTo.of_heard (h : (node.heard cp).ListensTo cp k) : node.ListensTo cp k := by
  obtain ⟨status, registration, hkept, hshows⟩ := h
  obtain ⟨booked, hbefore, -⟩ := exists_enrolled?_of_heard cp hkept
  exact ⟨status, booked, hbefore, hshows⟩

/-- **Only where a driver listens to the announced class, and the announce is for certain, an
announce touches a record.** -/
theorem exists_listensTo_of_receiveAnnounce (wf : node.registry.WellFormed)
    (hplain : node.Each Entry.IsPlain) (env : Env)
    (hk : (node.receiveAnnounce env cp).record? k ≠ node.record? k) :
    cp.flags.contains ControlFlags.uncertain = false ∧ ∃ k, node.ListensTo cp k := by
  have hheard := record?_heard cp node k
  have hnodup := ((spares_heard cp node).wellFormed wf).nodup_handles
  rw [record?_receiveAnnounce wf hplain] at hk
  rcases exists_listensTo_of_visitAll cp env hnodup ⟨node.heard cp, false, false⟩ with
    hsame | ⟨certain, j, -, hlistens⟩
  · exact absurd ((hsame k).trans hheard) hk
  · exact ⟨certain, j, hlistens.of_heard⟩

/-! ## Where a record comes from -/

/-- A record shows the device that it showed before, or it is new and shows what was announced. -/
theorem Jots.origin (h : Jots x k before after) (his : after.record? k = some is) :
    (∃ was, before.record? k = some was ∧ was.identity = is.identity) ∨
      before.record? k = none ∧ ∃ cp, x.Brings cp ∧ is.identity = cp.announced := by
  unfold Jots at h
  generalize before.record? k = first at h
  generalize after.record? k = last at h his
  -- Where a record goes no announce arrives, so none comes after one went.
  have hwhole : (∀ is, last = some is →
      (∃ was, first = some was ∧ was.identity = is.identity) ∨
        first = none ∧ ∃ cp, x.Brings cp ∧ is.identity = cp.announced) ∧
      (last = none → first = none ∨ ∀ cp, ¬ x.Brings cp) := by
    clear his
    induction h with
    | refl => exact ⟨fun is h => .inl ⟨is, h, rfl⟩, .inl⟩
    | tail _ jot ih =>
      cases jot with
      | noted brings =>
        refine ⟨fun is h => ?_, nofun⟩
        cases h
        rcases ih.2 rfl with hnone | hsilent
        · exact .inr ⟨hnone, _, brings, rfl⟩
        · exact absurd brings (hsilent _)
      | @seen _ status =>
        refine ⟨fun is h => ?_, nofun⟩
        cases h
        exact ih.1 status rfl
      | @present status =>
        refine ⟨fun is h => ?_, nofun⟩
        cases h
        exact ih.1 status rfl
      | @missed status =>
        refine ⟨fun is h => ?_, nofun⟩
        cases h
        exact ih.1 status rfl
      | expired ticks =>
        refine ⟨nofun, fun _ => .inr ?_⟩
        rintro cp ⟨env, frame, rfl, -⟩
        cases ticks
      | taken leaves =>
        refine ⟨nofun, fun _ => .inr ?_⟩
        rintro cp ⟨env, frame, rfl, -⟩
        cases leaves
  exact hwhole.1 is his

/-! ## Records are apart -/

/-- No two records show the same address and serial number. -/
def RecordsApart (node : Node) : Prop :=
  ∀ j k was is, node.record? j = some was → node.record? k = some is →
    was.address = is.address → was.serial = is.serial → j = k

/-- Where no record is new, records stay apart. -/
theorem RecordsApart.of_origin (h : before.RecordsApart)
    (horigin : ∀ k is, after.record? k = some is →
      ∃ was, before.record? k = some was ∧ was.identity = is.identity) : after.RecordsApart := by
  intro j k s t hj hk haddress hserial
  obtain ⟨s', hj', hs⟩ := horigin j s hj
  obtain ⟨t', hk', ht⟩ := horigin k t hk
  refine h j k s' t' hj' hk' ?_ ?_
  · exact (congrArg Identity.address hs).trans (haddress.trans (congrArg Identity.address ht).symm)
  · exact (congrArg Identity.serial hs).trans (hserial.trans (congrArg Identity.serial ht).symm)

theorem RecordsApart.of_record?_eq (h : before.RecordsApart)
    (hsame : ∀ k, after.record? k = before.record? k) : after.RecordsApart :=
  h.of_origin fun k is his => ⟨is, (hsame k).symm.trans his, rfl⟩

/-- A device is recorded only where no entry has its address and serial number. -/
theorem RecordsApart.recordDevice (h : node.RecordsApart) (wf : node.registry.WellFormed)
    (cp : ControlPacket) : (node.recordDevice cp).RecordsApart := by
  -- a record shows what an old one showed, or it is new, and nobody shows the device
  have horigin : ∀ {k : Handle} {is : Status}, (node.recordDevice cp).record? k = some is →
      (∃ was, node.record? k = some was ∧ was.address = is.address ∧ was.serial = is.serial) ∨
        is = .recorded cp ∧ ¬ node.Knows cp ∧ ∃ registry,
          node.registry.insert ⟨.recorded cp, .record⟩ = .ok (k, registry) := by
    intro k is his
    rw [record?_eq_some_iff] at his
    cases noting cp node k with
    | same eq => exact .inl ⟨is, record?_eq_some_iff.2 (eq.symm.trans his), rfl, rfl⟩
    | seen here _ eq =>
      cases eq.symm.trans his
      exact .inl ⟨_, record?_eq_some_iff.2 here, rfl, rfl⟩
    | noted _ unknown insert eq =>
      cases eq.symm.trans his
      exact .inr ⟨rfl, unknown wf, _, insert⟩
  intro j k s t hj hk haddress hserial
  rcases horigin hj with ⟨was, hwas, hplace, hnumber⟩ | ⟨rfl, hunknown, _, hinsert⟩ <;>
    rcases horigin hk with ⟨was', hwas', hplace', hnumber'⟩ | ⟨rfl, hunknown', _, hinsert'⟩
  · exact h j k was was' hwas hwas' (hplace.trans (haddress.trans hplace'.symm))
      (hnumber.trans (hserial.trans hnumber'.symm))
  · exact absurd ⟨j, _, record?_eq_some_iff.1 hwas, hplace.trans haddress,
      hnumber.trans hserial⟩ hunknown'
  · exact absurd ⟨k, _, record?_eq_some_iff.1 hwas', hplace'.trans haddress.symm,
      hnumber'.trans hserial.symm⟩ hunknown
  · cases hinsert.symm.trans hinsert'
    rfl

theorem RecordsApart.visitAll (env : Env) (cp : ControlPacket) (handles : List Handle)
    (scan : Scan) (h : scan.node.RecordsApart) (wf : scan.node.registry.WellFormed) :
    (visitAll env cp handles scan).node.RecordsApart := by
  refine (visitAll_of_visit (R := fun before after => before.registry.WellFormed →
    after.registry.WellFormed ∧ (before.RecordsApart → after.RecordsApart)) (fun _ wf => ⟨wf, id⟩)
    (fun hfirst hsecond wf => ?_) env cp (fun handle _ scan wf => ?_) scan wf).2 h
  · obtain ⟨hwf, hkeeps⟩ := hfirst wf
    obtain ⟨hwf', hkeeps'⟩ := hsecond hwf
    exact ⟨hwf', fun hapart => hkeeps' (hkeeps hapart)⟩
  · refine ⟨(spares_visit env cp handle scan).wellFormed wf, fun hapart => ?_⟩
    rcases record?_visit handle cp env scan with hsame | ⟨-, -, hsame⟩
    · exact hapart.of_record?_eq hsame
    · exact (hapart.recordDevice wf cp).of_record?_eq hsame

theorem RecordsApart.receiveAnnounce (h : node.RecordsApart) (wf : node.registry.WellFormed)
    (hplain : node.Each Entry.IsPlain) (env : Env) (cp : ControlPacket) :
    (node.receiveAnnounce env cp).RecordsApart := by
  have hheard : (node.heard cp).RecordsApart :=
    h.of_record?_eq (record?_heard cp node)
  have hround : (node.round env cp).node.RecordsApart :=
    hheard.visitAll env cp _ ⟨node.heard cp, false, false⟩ ((spares_heard cp node).wellFormed wf)
  exact hround.of_record?_eq (record?_receiveAnnounce wf hplain)

/-- **Records stay apart**, whatever happens. -/
theorem recordsApart_of_becomes (h : node.RecordsApart) (wf : node.registry.WellFormed)
    (hplain : node.Each Entry.IsPlain) {added : List Action}
    (becomes : Becomes x node added after) : after.RecordsApart := by
  by_cases hbrings : ∃ cp, x.Brings cp
  · obtain ⟨cp, env, frame, rfl, hello⟩ := hbrings
    cases becomes
    rw [receiveFrame_of_hello node env hello]
    exact h.receiveAnnounce wf hplain env cp
  · refine h.of_origin fun k is his => ?_
    rcases (jots_of_becomes wf hplain becomes k).origin his with horigin | ⟨-, cp, brings, -⟩
    · exact horigin
    · exact absurd ⟨cp, brings⟩ hbrings

/-! ## Any run -/

section

variable {settings : NodeSettings} {draws : Draws} {xs : List Happening}

theorem Comes.recordsApart {admits : Driver → Prop}
    (h : Comes settings draws admits xs node) : node.RecordsApart := by
  obtain ⟨trace, hcourse⟩ := h
  induction hcourse with
  | here =>
    intro j k s t hj
    simp [record?, withDraws] at hj
  | @next xs trace node x added after before admitted becomes _ ih =>
    have hcomes : Comes settings draws admits xs node := ⟨trace, before⟩
    exact recordsApart_of_becomes ih hcomes.wellFormed hcomes.isPlain becomes

/-- A record was made for an announce, and is there since. -/
inductive RecordedFor (settings : NodeSettings) (draws : Draws) (cp : ControlPacket) (k : Handle) :
    Node → Prop where
  | noted {xs : List Happening} {node after : Node} {x : Happening} {added : List Action}
      {is : Status} (before : Comes settings draws (fun _ => True) xs node)
      (becomes : Becomes x node added after) (brings : x.Brings cp)
      (fresh : node.record? k = none) (later : after.record? k = some is) :
      RecordedFor settings draws cp k after
  | kept {node after : Node} {x : Happening} {added : List Action} {is : Status}
      (before : RecordedFor settings draws cp k node) (becomes : Becomes x node added after)
      (later : after.record? k = some is) : RecordedFor settings draws cp k after

theorem RecordedFor.exists_comes (h : RecordedFor settings draws cp k node) :
    ∃ xs, Comes settings draws (fun _ => True) xs node := by
  induction h with
  | noted before becomes => exact ⟨_, before.next_of_true becomes⟩
  | kept _ becomes _ ih =>
    obtain ⟨xs, hcomes⟩ := ih
    exact ⟨_, hcomes.next_of_true becomes⟩

/-- A record shows the device of the announce that it was made for. -/
theorem RecordedFor.shows (h : RecordedFor settings draws cp k node) :
    ∃ is, node.record? k = some is ∧ is.identity = cp.announced := by
  induction h with
  | @noted xs node after x added is before becomes brings fresh later =>
    refine ⟨is, later, ?_⟩
    rcases (jots_of_becomes before.wellFormed before.isPlain becomes k).origin later with
      ⟨was, hwas, -⟩ | ⟨-, other, brings', hshows⟩
    · cases fresh.symm.trans hwas
    · rw [hshows, brings.eq brings']
  | @kept node after x added is before becomes later ih =>
    obtain ⟨xs, hcomes⟩ := before.exists_comes
    obtain ⟨was, hwas, hshows⟩ := ih
    refine ⟨is, later, ?_⟩
    rcases (jots_of_becomes hcomes.wellFormed hcomes.isPlain becomes k).origin later with
      ⟨earlier, hearlier, hsame⟩ | ⟨hnone, -⟩
    · cases hwas.symm.trans hearlier
      exact hsame.symm.trans hshows
    · cases hnone.symm.trans hwas

/-- Every record was made for an announce. -/
theorem Comes.exists_recordedFor (h : Comes settings draws (fun _ => True) xs node)
    (his : node.record? k = some is) : ∃ cp, RecordedFor settings draws cp k node := by
  obtain ⟨trace, hcourse⟩ := h
  induction hcourse generalizing is with
  | here => simp [record?, withDraws] at his
  | @next xs trace node x added after before admitted becomes _ ih =>
    have hcomes : Comes settings draws (fun _ => True) xs node := ⟨trace, before⟩
    rcases (jots_of_becomes hcomes.wellFormed hcomes.isPlain becomes k).origin his with
      ⟨was, hwas, -⟩ | ⟨hnone, cp, brings, -⟩
    · obtain ⟨cp, hbefore⟩ := ih hwas
      exact ⟨cp, hbefore.kept becomes his⟩
    · exact ⟨cp, .noted hcomes becomes brings hnone his⟩

/-- A step records a device under a handle. -/
def Records (k : Handle) (before after : Node) : Prop :=
  before.record? k = none ∧ (after.record? k).isSome = true

/-- What a frame records was announced by it. -/
theorem Comes.shows_of_records (h : Comes settings draws (fun _ => True) xs node) {env : Env}
    {frame : Bytes} (hnew : Records k node (node.receiveFrame env frame)) :
    ∃ cp is, helloOf? frame = some cp ∧ (node.receiveFrame env frame).record? k = some is ∧
      is.identity = cp.announced := by
  obtain ⟨hnone, hsome⟩ := hnew
  obtain ⟨is, his⟩ := Option.isSome_iff_exists.1 hsome
  rcases (jots_receiveFrame h.wellFormed h.isPlain frame k).origin his with
    ⟨was, hwas, -⟩ | ⟨-, cp, brings, hshows⟩
  · cases hnone.symm.trans hwas
  · exact ⟨cp, is, Happening.brings_receive_iff.1 brings, his, hshows⟩

/-- What there is to know about the records of a node. -/
structure RecordKeeping (settings : NodeSettings) (draws : Draws) (node : Node) : Prop where
  /-- No two records show the same address and serial number. -/
  apart : node.RecordsApart
  /-- There is room for all entries. -/
  bounded : node.registry.size ≤ settings.registryCapacity
  /-- A record carries the mark of records, it is connected, and it has no role. -/
  passive : ∀ k is, node.record? k = some is → is.isRecord = true ∧ is.isConnected = true ∧
    DeviceFlags.mode is.flags = Flags.none
  /-- A record shows the device of the announce that it was made for. -/
  origin : ∀ k is, node.record? k = some is → ∃ cp, RecordedFor settings draws cp k node ∧
    is.address = cp.address ∧ is.serial = cp.serial ∧ is.deviceClass = cp.deviceClass
  /-- A frame records one device at most. -/
  single : ∀ env frame j k, Records j node (node.receiveFrame env frame) →
    Records k node (node.receiveFrame env frame) → j = k
  /-- A device is recorded if its announce is for certain and a connected broadcast driver has the
  announced class. -/
  listened : ∀ env frame j, Records j node (node.receiveFrame env frame) →
    ∃ cp, helloOf? frame = some cp ∧ cp.flags.contains ControlFlags.uncertain = false ∧
      ∃ k status registration, node.enrolled? k = some (status, registration) ∧
        (status.isBroadcaster = true ∨ status.isSniffer = true ∨ status.isPairClient = true) ∧
        status.isConnected = true ∧ status.deviceClass = cp.deviceClass
  /-- While the record that was made for an announce is there, the announce records nothing. -/
  repeated : ∀ cp k, RecordedFor settings draws cp k node → ∀ env frame,
    helloOf? frame = some cp → ∀ j, ¬ Records j node (node.receiveFrame env frame)

/-- **Records are unique and passive**, whatever drivers there are. -/
theorem recordKeeping_of_comes (h : Comes settings draws (fun _ => True) xs node) :
    RecordKeeping settings draws node := by
  have hlater : ∀ env frame, (node.receiveFrame env frame).RecordsApart := fun env frame =>
    (h.receive env frame).recordsApart
  constructor
  case apart => exact h.recordsApart
  case bounded => exact h.size_le
  case passive =>
    intro k is his
    obtain ⟨hconnected, hrecord, hmode⟩ := h.isRecorded his
    exact ⟨hrecord, hconnected, hmode⟩
  case origin =>
    intro k is his
    obtain ⟨cp, hmade⟩ := h.exists_recordedFor his
    obtain ⟨shown, hshown, hshows⟩ := hmade.shows
    cases his.symm.trans hshown
    exact ⟨cp, hmade, congrArg Identity.address hshows, congrArg Identity.serial hshows,
      congrArg Identity.deviceClass hshows⟩
  case single =>
    intro env frame j k hj hk
    obtain ⟨cp, s, hello, hs, hshows⟩ := h.shows_of_records hj
    obtain ⟨cp', t, hello', ht, hshows'⟩ := h.shows_of_records hk
    cases hello.symm.trans hello'
    have hsame := hshows.trans hshows'.symm
    exact hlater env frame j k s t hs ht (congrArg Identity.address hsame)
      (congrArg Identity.serial hsame)
  case listened =>
    intro env frame j hj
    obtain ⟨cp, is, hello, his, -⟩ := h.shows_of_records hj
    rw [receiveFrame_of_hello node env hello] at his
    obtain ⟨certain, k, status, registration, hkept, hbroadcast, hshows⟩ :=
      exists_listensTo_of_receiveAnnounce h.wellFormed h.isPlain env (k := j)
        (by rw [his, hj.1]; nofun)
    refine ⟨cp, hello, certain, k, status, registration, hkept, ?_, hshows⟩
    rcases h.hasSide k _ (enrolled?_eq_some_iff.1 hkept) rfl with hlocal | hremote
    · exact .inl (Bool.and_eq_true_iff.2 ⟨hlocal, hbroadcast⟩)
    · exact .inr (.inl (Bool.and_eq_true_iff.2 ⟨hremote, hbroadcast⟩))
  case repeated =>
    intro cp k hmade env frame hello j hj
    obtain ⟨was, hwas, hshown⟩ := hmade.shows
    obtain ⟨cp', is, hello', his, hshows⟩ := h.shows_of_records hj
    cases hello.symm.trans hello'
    -- A frame takes no record away, so the old one and the new one would be the same.
    have hjots : Jots (.receive env frame) k node (node.receiveFrame env frame) :=
      jots_receiveFrame h.wellFormed h.isPlain frame k
    obtain ⟨left, hleft, -⟩ := hjots.remains rfl nofun hwas
    have hstill : left.identity = cp.announced := by
      rcases hjots.origin hleft with ⟨earlier, hearlier, hsame⟩ | ⟨hnone, -⟩
      · cases hwas.symm.trans hearlier
        exact hsame.symm.trans hshown
      · cases hnone.symm.trans hwas
    have hsame := hshows.trans hstill.symm
    have heq := hlater env frame j k is left his hleft (congrArg Identity.address hsame)
      (congrArg Identity.serial hsame)
    rw [heq] at hj
    cases hwas.symm.trans hj.1

/-- A sniffer has a device of its class recorded, which announces itself again. -/
theorem recordKeeping_of_sniffer :
    let node := (withDriver ⟨.sniffer, 7, none, none⟩ .quiet).receiveFrame .taking
      (ControlPacket.hello 20 7 2).frame
    (node.record? ⟨1, 0⟩).isSome = true ∧ RecordKeeping {} ⟨fun _ => 0, 0⟩ node := by
  intro node
  have hcomes := (comes_withDriver (fun _ => True) ⟨.sniffer, 7, none, none⟩ .quiet trivial).receive
    .taking (ControlPacket.hello 20 7 2).frame
  exact ⟨by decide +kernel, recordKeeping_of_comes hcomes⟩

end

end Node

end DeviceBus
