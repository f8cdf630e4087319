import DeviceBus.Proofs.Node.Involvement
import DeviceBus.Proofs.Node.Remotes

/-!
# What a frame is about

A frame is about few of the entries of a node. An announce is about the drivers of the announced
class and those that own the announced address, a pairing packet about the own driver that it names,
data about the drivers that hear it, and what cannot be read about nobody. Whoever a frame is not
about is as it was, but for how long its partner was silent, and has done nothing.

## Main results

* `involves_visit`: showing an announce to a driver involves this driver, if the announce is about
  it.
* `receiveAnnounce_spec`, `receivePairing_spec`: who is involved in a control packet.
* `undisturbed_receiveData`: data changes no status, nobody's standing and not the filter.
* `confined_of_comes`: every frame, at every node, changes only what it is about.
-/

namespace DeviceBus

open ControlPacket

namespace Node

variable {node mid before after : Node} {k : Handle} (env : Env) (handle : Handle)
  {cp : ControlPacket}

/-! ## Announces -/

/-- Whether an announce is about a driver: it has the announced class or owns the announced
address. -/
def IsAbout (cp : ControlPacket) (node : Node) (k : Handle) : Prop :=
  ∃ status registration, node.enrolled? k = some (status, registration) ∧
    (status.deviceClass = cp.deviceClass ∨ ownsAddress cp status = true)

/-- Whoever an announce is about after part of its round, it was about before. -/
theorem IsAbout.of_involves (h : Involves (IsAbout cp before) before after)
    (hk : IsAbout cp after k) : IsAbout cp before k := by
  by_contra hnot
  obtain ⟨status, registration, hkept, hwhy⟩ := hk
  rw [h.others.enrolled? k hnot] at hkept
  exact hnot ⟨status, registration, hkept, hwhy⟩

/-- Parts of the round of an announce join. -/
theorem Involves.join (h : Involves (IsAbout cp before) before mid)
    (h' : Involves (IsAbout cp mid) mid after) : Involves (IsAbout cp before) before after :=
  h.trans (h'.mono fun _ hk => hk.of_involves h)

variable (cp)

/-- An announce passes whoever it is not about. -/
theorem visit_of_not_isAbout {scan : Scan} (h : ¬ IsAbout cp scan.node handle) :
    visit env cp handle scan = .proceed scan := by
  rcases exists_driver_or_visit_eq env cp handle scan with ⟨status, registration, held⟩ | heq
  · have hkept := enrolled?_eq_some_iff.2 held
    cases showing env cp held with
    | yields owns | rebukes owns | agrees owns =>
      exact absurd ⟨status, registration, hkept, .inr owns⟩ h
    | moves _ hfollows =>
      exact absurd ⟨status, registration, hkept, .inl (follows_iff.1 hfollows).2.2.2⟩ h
    | records _ _ _ sameClass | hears _ _ _ sameClass | pairs _ _ _ _ _ _ sameClass =>
      exact absurd ⟨status, registration, hkept, .inl sameClass⟩ h
    | passes _ _ _ _ heq => exact heq
  · exact heq

/-- **Showing an announce to a driver involves this driver, if the announce is about it.** -/
theorem involves_visit (scan : Scan) :
    Involves (IsAbout cp scan.node) scan.node (visit env cp handle scan).node := by
  by_cases habout : IsAbout cp scan.node handle
  · refine (turn_visit env cp handle scan).involves.mono ?_
    rintro k rfl
    exact habout
  · rw [visit_of_not_isAbout env handle cp habout]
    exact .refl _ scan.node

theorem involves_visitAll (handles : List Handle) (scan : Scan) :
    Involves (IsAbout cp scan.node) scan.node (visitAll env cp handles scan).node :=
  visitAll_of_visit (R := fun before after => Involves (IsAbout cp before) before after)
    (fun node => .refl _ node) Involves.join env cp
    (fun handle _ next => involves_visit env handle cp next) scan

end Node

/-- A record is no remote driver. -/
def Entry.IsPlain (_ : Handle) (entry : Entry) : Prop :=
  entry.isRecord = true → entry.status.isVirtual = false

theorem Entry.isInvariant_isPlain : Entry.IsInvariant (fun _ _ => True) Entry.IsPlain where
  record _ status hmode _ := by
    rw [Status.isVirtual_eq_mode, hmode]
    decide
  restate hmode _ h hrecord := by
    rw [Status.isVirtual_eq_mode, hmode, ← Status.isVirtual_eq_mode]
    exact h hrecord
  rebook _ _ _ hrecord := nomatch hrecord
  tell _ _ hrecord := nomatch hrecord

namespace Node

variable {node : Node} {k : Handle} (env : Env) (cp : ControlPacket)

theorem Comes.isPlain {settings : NodeSettings} {draws : Draws} {admits : Driver → Prop}
    {xs : List Happening} (h : Comes settings draws admits xs node) : node.Each Entry.IsPlain := by
  obtain ⟨trace, hcourse⟩ := h
  induction hcourse with
  | here => exact each_withDraws _ settings draws
  | next before admitted becomes _ ih =>
    exact each_of_becomes Entry.isInvariant_isPlain (fun _ _ hrecord => nomatch hrecord) becomes
      (fun _ _ _ _ _ hrecord => nomatch hrecord)
      (before.wellFormed (Registry.WellFormed.empty _)) ih

/-- The end of an announce involves the driver that is discovered. -/
theorem involves_settle {scan : Scan} (wf : scan.node.registry.WellFormed)
    (hplain : scan.node.Each Entry.IsPlain) :
    Involves (IsAbout cp scan.node) scan.node (settle env cp scan) := by
  obtain ⟨filter, heq | ⟨-, handle, hfound, heq⟩⟩ := settle_cases env cp scan
  · rw [heq]
    exact involves_withFilter filter scan.node
  · rw [heq]
    refine (involves_withFilter filter scan.node).trans
      ((turn_adopt env handle cp _).involves.mono ?_)
    rintro k rfl
    obtain ⟨⟨status, kind⟩, hentry, hawaits⟩ := wf.get?_of_find?_eq_some hfound
    obtain ⟨hvirtual, -, hclass, -⟩ := awaits_iff.1 hawaits
    -- what waits for a device is a driver: records are never remote
    cases kind with
    | record => exact absurd ((hplain _ _ hentry rfl).symm.trans hvirtual) Bool.false_ne_true
    | driver registration =>
      exact ⟨status, registration, enrolled?_eq_some_iff.2 hentry, .inl hclass⟩

/-- Hearing of partners leaves all of a driver but its count as it is. -/
theorem enrolled?_heard {status : Status} {registration : Registration}
    (hkept : node.enrolled? k = some (status, registration)) :
    ∃ silence, (node.heard cp).enrolled? k =
      some (status, { registration with partnerSilence := silence }) := by
  obtain ⟨⟨later, kind⟩, hentry, hstatus, hkind⟩ :=
    get?_heard cp (enrolled?_eq_some_iff.1 hkept)
  dsimp only at hstatus hkind
  subst hstatus
  rcases hkind with rfl | ⟨other, silence, hother, -, rfl⟩
  · exact ⟨registration.partnerSilence, enrolled?_eq_some_iff.2 hentry⟩
  · cases hother
    exact ⟨silence, enrolled?_eq_some_iff.2 hentry⟩

/-- What a driver is when partners were heard, it was before, all but its count. -/
theorem exists_enrolled?_of_heard {status : Status} {registration : Registration}
    (hkept : (node.heard cp).enrolled? k = some (status, registration)) :
    ∃ booked, node.enrolled? k = some (status, booked) ∧
      ∃ silence, registration = { booked with partnerSilence := silence } := by
  have hprobe := (spares_heard cp node).probe? k
  unfold probe? at hprobe
  rw [hkept, Option.map_some] at hprobe
  obtain ⟨⟨earlier, booked⟩, hbefore, -⟩ := Option.map_eq_some_iff.1 hprobe.symm
  obtain ⟨silence, hafter⟩ := enrolled?_heard cp hbefore
  cases hkept.symm.trans hafter
  exact ⟨booked, hbefore, silence, rfl⟩

/-- Whoever an announce is about when partners were heard, it was about before. -/
theorem IsAbout.of_heard (hk : IsAbout cp (node.heard cp) k) : IsAbout cp node k := by
  obtain ⟨status, registration, hkept, hwhy⟩ := hk
  obtain ⟨booked, hbefore, -⟩ := exists_enrolled?_of_heard cp hkept
  exact ⟨status, booked, hbefore, hwhy⟩

theorem involves_heard (node : Node) : Involves (fun _ => True) node (node.heard cp) :=
  involves_foldl (fun node handle => involves_refreshPartner handle cp node) node.registry.handles
    node

/-- The partners of drivers are heard first, then the announce involves those it is about. -/
theorem involves_receiveAnnounce (wf : node.registry.WellFormed)
    (hplain : node.Each Entry.IsPlain) :
    Involves (IsAbout cp (node.heard cp)) (node.heard cp) (node.receiveAnnounce env cp) := by
  have hround : Involves (IsAbout cp (node.heard cp)) (node.heard cp) (node.round env cp).node :=
    involves_visitAll env cp (node.heard cp).registry.handles ⟨node.heard cp, false, false⟩
  rcases receiveAnnounce_cases env cp node with heq | ⟨scan, hscan, -, -, heq⟩
  · rw [heq]
    exact hround
  · have hwf := (spares_round env cp node).wellFormed wf
    have hvisited : (node.round env cp).node.Each Entry.IsPlain :=
      hplain.round Entry.isInvariant_isPlain env fun _ => trivial
    rw [hscan] at hround hwf hvisited
    rw [heq]
    exact hround.join (involves_settle env cp hwf hvisited)

/-- An announce leaves whoever it is not about as it was, but for the silence of its partner, tells
it nothing and reports nothing about it. -/
theorem receiveAnnounce_spec (wf : node.registry.WellFormed) (hplain : node.Each Entry.IsPlain) :
    (∀ k status registration, node.enrolled? k = some (status, registration) →
      ¬ IsAbout cp node k → ∃ silence, (node.receiveAnnounce env cp).enrolled? k =
        some (status, { registration with partnerSilence := silence })) ∧
    (∃ added, (node.receiveAnnounce env cp).log = node.log ++ added ∧
      ∀ k, ¬ IsAbout cp node k → reportsOf k added = [] ∧ callsOf k added = []) ∧
    Does (IsAbout cp node) node (node.receiveAnnounce env cp) := by
  have hround := involves_receiveAnnounce env cp wf hplain
  have hlog := log_heard cp node
  refine ⟨fun k status registration hkept hnot => ?_, ?_, ?_⟩
  · obtain ⟨silence, hheard⟩ := enrolled?_heard cp hkept
    have hspared := hround.others.enrolled? k fun hk => hnot hk.of_heard
    exact ⟨silence, hspared.trans hheard⟩
  · obtain ⟨added, hadded, hnone⟩ := hround.others.trace
    rw [hlog] at hadded
    exact ⟨added, hadded, fun k hk => hnone k fun hround => hk hround.of_heard⟩
  · have hheard : Does (IsAbout cp node) node (node.heard cp) := does_of_log_eq hlog
    exact hheard.trans (hround.does.mono fun k hk => hk.of_heard)

/-! ## Pairing packets -/

theorem receivePairing_cases (wf : node.registry.WellFormed) :
    node.receivePairing env cp = node ∨ ∃ k status registration,
      node.enrolled? k = some (status, registration) ∧ isTarget cp status = true ∧
        node.receivePairing env cp = (node.call env k (.control cp)).2 := by
  rcases receivePairing_eq_or env cp node with heq | ⟨k, hfound, heq⟩
  · exact .inl heq
  · obtain ⟨⟨status, kind⟩, hentry, htarget⟩ := wf.get?_of_find?_eq_some hfound
    cases kind with
    | record =>
      rcases node.exists_driver_or_call_eq env k (.control cp) with ⟨_, _, hdriver⟩ | hcall
      · cases hentry.symm.trans hdriver
      · exact .inl (heq.trans hcall)
    | driver registration =>
      exact .inr ⟨k, status, registration, enrolled?_eq_some_iff.2 hentry, htarget, heq⟩

/-- A pairing packet changes and involves one driver at most: the one that it names. -/
theorem receivePairing_spec (wf : node.registry.WellFormed) : ∃ target : Option Handle,
    (∀ k ∈ target, ∃ status registration, node.enrolled? k = some (status, registration) ∧
      isTarget cp status = true) ∧
    (∀ k ∉ target, (node.receivePairing env cp).registry.get? k = node.registry.get? k) ∧
    Does (· ∈ target) node (node.receivePairing env cp) ∧
    (node.receivePairing env cp).filter = node.filter := by
  rcases receivePairing_cases env cp wf with heq | ⟨k, status, registration, hkept, htarget, heq⟩
  · rw [heq]
    exact ⟨none, by simp, fun _ _ => rfl, does_of_log_eq rfl, rfl⟩
  · rw [heq]
    refine ⟨some k, fun j hj => ?_, fun j hj => ?_, ?_, filter_call ..⟩
    · cases hj
      exact ⟨status, registration, hkept, htarget⟩
    · exact get?_call_of_ne env (.control cp) fun hjk => hj (by simp [hjk])
    · exact (involves_call env k (.control cp) node).does.mono fun j hj => by simp [hj]

/-! ## Data -/

theorem involves_routeTo (handle : Handle) (packet : Packet) (classes : List DeviceClass)
    (node : Node) : Involves (· = handle) node (routeTo env packet classes node handle) := by
  rcases routeTo_eq_or env packet classes node handle with heq | ⟨_, _, -, -, heq⟩
  · rw [heq]
    exact .refl _ node
  · rw [heq]
    exact involves_call env handle (.data packet) node

end Node

/-- Data leaves the status of an ordinary driver alone, and where it stands with its peer. -/
theorem Driver.respond_data {driver : Driver} (hordinary : driver.IsOrdinary) (packet : Packet)
    (ctx : Context) :
    (driver.respond (.data packet) ctx).context.status = ctx.status ∧
      (driver.respond (.data packet) ctx).driver.standing = driver.standing := by
  cases driver with
  | probe p => exact hordinary.elim
  | pairable p =>
    obtain ⟨hstate, hsilent⟩ := p.onData_spec packet ctx
    exact ⟨hsilent.1, hstate⟩
  | _ => exact ⟨rfl, rfl⟩

namespace Node

variable {node mid before after : Node}

/-- No ordinary driver changed its status or where it stands with its peer, no record changed, and
neither did the filter. -/
structure Undisturbed (before after : Node) : Prop where
  drivers : ∀ k status registration, before.enrolled? k = some (status, registration) →
    registration.driver.IsOrdinary → ∃ driver, driver.IsOrdinary ∧
      driver.standing = registration.driver.standing ∧
      after.enrolled? k = some (status, { registration with driver })
  records : ∀ k status, before.registry.get? k = some ⟨status, .record⟩ →
    after.registry.get? k = some ⟨status, .record⟩
  filter : after.filter = before.filter

namespace Undisturbed

theorem refl (node : Node) : Undisturbed node node where
  drivers _ _ registration hkept hordinary := ⟨registration.driver, hordinary, rfl, hkept⟩
  records _ _ hrecord := hrecord
  filter := rfl

theorem trans (h : Undisturbed before mid) (h' : Undisturbed mid after) :
    Undisturbed before after where
  drivers k status registration hkept hordinary := by
    obtain ⟨next, hnext, hsame, hmid⟩ := h.drivers k status registration hkept hordinary
    obtain ⟨last, hlast, hsame', hafter⟩ := h'.drivers k status _ hmid hnext
    exact ⟨last, hlast, hsame'.trans hsame, hafter⟩
  records k status hrecord := h'.records k status (h.records k status hrecord)
  filter := h'.filter.trans h.filter

end Undisturbed

variable (env : Env) (packet : Packet)

theorem undisturbed_call (handle : Handle) (node : Node) :
    Undisturbed node (node.call env handle (.data packet)).2 := by
  rcases node.exists_driver_or_call_eq env handle (.data packet) with
    ⟨status, registration, hentry⟩ | heq
  · refine ⟨fun k other booked hkept hordinary => ?_, fun k other hrecord => ?_, filter_call ..⟩
    · by_cases hk : k = handle
      · subst hk
        cases hentry.symm.trans (enrolled?_eq_some_iff.1 hkept)
        have hafter := enrolled?_eq_some_iff.2 (get?_call env (.data packet) hentry)
        obtain ⟨hstatus, hstanding⟩ := Driver.respond_data hordinary packet
          ⟨env, k, status, node.log ++ [.called k (.data packet)]⟩
        rw [hstatus] at hafter
        exact ⟨_, (Driver.respond_spec hordinary _ _).ordinary, hstanding, hafter⟩
      · have hother := (spares_call env handle (.data packet) node).enrolled? k hk
        exact ⟨booked.driver, hordinary, rfl, hother.trans hkept⟩
    · have hk : k ≠ handle := by
        rintro rfl
        cases hentry.symm.trans hrecord
      exact (get?_call_of_ne env (.data packet) hk).trans hrecord
  · rw [heq]
    exact .refl node

/-- **Data disturbs nobody**: it changes no status, nobody's standing and not the filter. -/
theorem undisturbed_receiveData (node : Node) : Undisturbed node (node.receiveData env packet) := by
  refine List.foldlRecOn (motive := Undisturbed node) _ _ (.refl node) fun mid hmid handle _ => ?_
  rcases routeTo_eq_or env packet (node.classesAt packet.address) mid handle with
    heq | ⟨_, _, -, -, heq⟩
  · rw [heq]
    exact hmid
  · rw [heq]
    exact hmid.trans (undisturbed_call env packet handle mid)

/-! ## Any frame -/

/-- A frame that a node can make nothing of. -/
inductive IsUnread (frame : Bytes) : Prop where
  /-- It is no packet. -/
  | malformed {e : FrameError} (h : Packet.decode frame = .error e)
  /-- It is a control packet without a whole header. -/
  | short {packet : Packet} (h : Packet.decode frame = .ok packet)
      (control : packet.isControl = true) (short : packet.data.length < controlHeaderLength)
  /-- It is a control packet of an unknown type. -/
  | unknown {cp : ControlPacket} {byte : UInt8} (h : ofFrame? frame = some cp)
      (type : cp.type = .unknown byte)

theorem receiveFrame_of_isUnread {frame : Bytes} (h : IsUnread frame) (node : Node) :
    node.receiveFrame env frame = node := by
  cases h with
  | malformed h =>
    unfold receiveFrame
    rw [h]
  | @short packet h control short =>
    have hshort : ∃ e, ControlPacket.decode packet.data = .error e := by
      unfold ControlPacket.decode
      split
      · rename_i heq
        rw [heq] at short
        simp only [List.length_cons, controlHeaderLength] at short
        omega
      · exact ⟨_, rfl⟩
    obtain ⟨e, he⟩ := hshort
    simp [receiveFrame, receivePacket, h, control, he]
  | unknown h type =>
    rw [receiveFrame_of_control node h]
    unfold receiveControl
    rw [type]

/-- No driver comes, goes or moves by a frame. -/
theorem involves_receiveFrame (wf : node.registry.WellFormed) (hplain : node.Each Entry.IsPlain)
    (frame : Bytes) : Involves (fun _ => True) node (node.receiveFrame env frame) := by
  cases node.arrival env frame with
  | @announce cp _ heq =>
    rw [heq]
    exact (involves_heard cp node).trans
      ((involves_receiveAnnounce env cp wf hplain).mono fun _ _ => trivial)
  | @pairing cp _ _ _ heq =>
    rw [heq]
    rcases receivePairing_cases env cp wf with heq | ⟨k, -, -, -, -, heq⟩
    · rw [heq]
      exact .refl _ node
    · rw [heq]
      exact (involves_call env k (.control cp) node).mono fun _ _ => trivial
  | @data packet _ _ _ heq =>
    rw [heq]
    exact involves_foldl (fun node handle => involves_routeTo env handle packet _ node) _ node
  | nothing _ heq =>
    rw [heq]
    exact .refl _ node

/-- What a frame changes, and what it does not. -/
structure Confined (frame : Bytes) (before after : Node) : Prop where
  /-- Whoever an announce is not about is as it was, but for the silence of its partner. -/
  bystanders : ∀ cp, helloOf? frame = some cp → ∀ k status registration,
    before.enrolled? k = some (status, registration) → ¬ IsAbout cp before k →
    ∃ silence, after.enrolled? k = some (status, { registration with partnerSilence := silence })
  /-- It is told nothing, and nothing is reported about it. -/
  untold : ∀ cp, helloOf? frame = some cp → ∃ added, after.log = before.log ++ added ∧
    ∀ k, ¬ IsAbout cp before k → reportsOf k added = [] ∧ callsOf k added = []
  /-- All that is done at an announce, sends included, are deeds of those that it is about. -/
  announce : ∀ cp, helloOf? frame = some cp → Does (IsAbout cp before) before after
  /-- A pairing packet changes and involves one driver at most: the one that it names. -/
  pairing : ∀ cp, ofFrame? frame = some cp → cp.type = .pairing → ∃ target : Option Handle,
    (∀ k ∈ target, ∃ status registration, before.enrolled? k = some (status, registration) ∧
      isTarget cp status = true) ∧
    (∀ k ∉ target, after.registry.get? k = before.registry.get? k) ∧
    Does (· ∈ target) before after ∧ after.filter = before.filter
  /-- Data changes no status, nobody's standing and not the filter. -/
  data : ∀ packet, Packet.decode frame = .ok packet → packet.isControl = false →
    Undisturbed before after
  /-- Every entry keeps its handle and its place, and only records come. -/
  grows : Grows before after
  /-- No driver comes or goes. -/
  drivers : after.drivers = before.drivers
  /-- What cannot be read changes nothing. -/
  unread : IsUnread frame → after = before

/-- **Every frame, at every node, changes only what it is about.** -/
theorem confined_of_comes {settings : NodeSettings} {draws : Draws} {xs : List Happening}
    (h : Comes settings draws (fun _ => True) xs node) (frame : Bytes) :
    Confined frame node (node.receiveFrame env frame) := by
  have wf := h.wellFormed
  have hinvolves := involves_receiveFrame env wf h.isPlain frame
  have hannounce := fun cp => receiveAnnounce_spec env cp wf h.isPlain
  refine ⟨fun cp hcp => ?_, fun cp hcp => ?_, fun cp hcp => ?_, fun cp hcp htype => ?_,
    fun packet hpacket hdata => ?_, hinvolves.grows wf, hinvolves.others.drivers wf,
    fun hunread => receiveFrame_of_isUnread env hunread node⟩
  · rw [receiveFrame_of_hello node env hcp]
    exact (hannounce cp).1
  · rw [receiveFrame_of_hello node env hcp]
    exact (hannounce cp).2.1
  · rw [receiveFrame_of_hello node env hcp]
    exact (hannounce cp).2.2
  · rw [receiveFrame_of_control node hcp]
    unfold receiveControl
    rw [htype]
    exact receivePairing_spec env cp wf
  · unfold receiveFrame receivePacket
    rw [hpacket]
    dsimp only
    rw [hdata]
    exact undisturbed_receiveData env packet node

/-- A remote driver does not notice the announce of another class. -/
theorem confined_of_otherClass :
    let joined := withDriver ⟨.virtual, 7, none, none⟩ .quiet
    let announce := ControlPacket.hello 20 9 2
    Confined announce.frame joined (joined.receiveFrame .taking announce.frame) ∧
      helloOf? announce.frame = some announce ∧ ¬ IsAbout announce joined ⟨0, 0⟩ := by
  intro joined announce
  have hcomes := comes_withDriver (fun _ => True) ⟨.virtual, 7, none, none⟩ .quiet trivial
  refine ⟨confined_of_comes .taking hcomes announce.frame, by decide +kernel, ?_⟩
  rintro ⟨status, registration, hkept, hwhy⟩
  have hstart : joined.enrolled? ⟨0, 0⟩ = some (_, _) := rfl
  cases hstart.symm.trans hkept
  revert hwhy
  decide

end Node

end DeviceBus
