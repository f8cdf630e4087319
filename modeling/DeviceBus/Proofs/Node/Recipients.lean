import DeviceBus.Proofs.Node.Hearing

/-!
# Recipients of data

Who hears data is told of it once, and the others are not. Here the walk over the registry is
followed as a whole: the drivers that are told are the ones that the data was for when it came, in
the order in which they were registered, and each of them is told as the driver that it was then.
What an earlier one does makes no difference to a later one, because a call changes nothing but the
driver that is called.

A driver that is bonded lets data through to what it wraps only if the data is from its partner.

## Main results

* `isRecipient_iff`: who data is for, as the node asks it.
* `exists_visits_of_foldl`: a walk with data over some drivers, as a list of visits.
* `delivers_receivePacket`: data is handed to its recipients, each of them once and in order.
-/

namespace DeviceBus

namespace Node

variable {node : Node} {k : Handle} {status : Status} {registration : Registration}

/-- Data from an address is for the drivers that are connected to that address, for those that are
paired with a partner there, and for the connected drivers that listen to the class of a connected
foreign device there. -/
inductive IsRecipient (address : UInt8) (k : Handle) (node : Node) : Prop where
  | direct {status : Status} {registration : Registration}
      (kept : node.enrolled? k = some (status, registration))
      (connected : status.isConnected = true) (here : status.address = address)
  | partner {status : Status} {registration : Registration} {partner : Identity}
      (kept : node.enrolled? k = some (status, registration))
      (paired : status.isPaired = true) (bond : registration.driver.partner? = some partner)
      (there : partner.address = address)
  | wide {status : Status} {registration : Registration} {other : Handle × Status}
      (kept : node.enrolled? k = some (status, registration))
      (listens : status.isBroadcast = true) (connected : status.isConnected = true)
      (listed : other ∈ node.statuses) (there : other.2.address = address)
      (present : other.2.isConnected = true) (foreign : other.2.isLocal = false)
      (sameClass : other.2.deviceClass = status.deviceClass)

theorem IsRecipient.exists_enrolled {address : UInt8} (h : node.IsRecipient address k) :
    ∃ status registration, node.enrolled? k = some (status, registration) := by
  cases h with
  | direct kept => exact ⟨_, _, kept⟩
  | partner kept => exact ⟨_, _, kept⟩
  | wide kept => exact ⟨_, _, kept⟩

/-- Data is for the drivers that hear it. -/
theorem isRecipient_iff (h : node.enrolled? k = some (status, registration)) {address : UInt8} :
    node.IsRecipient address k ↔
      hears address (node.classesAt address) status registration = true := by
  rw [hears_iff, mem_classesAt_iff]
  constructor
  · intro hrecipient
    cases hrecipient with
    | direct kept connected here =>
      rw [h] at kept
      cases kept
      exact .inl ⟨connected, here⟩
    | partner kept paired bond there =>
      rw [h] at kept
      cases kept
      exact .inr (.inl ⟨paired, _, bond, there⟩)
    | wide kept listens connected listed there present foreign sameClass =>
      rw [h] at kept
      cases kept
      exact .inr (.inr ⟨listens, connected, _, listed, there, present, foreign, sameClass⟩)
  · rintro (⟨connected, here⟩ | ⟨paired, partner, bond, there⟩ |
      ⟨listens, connected, other, listed, there, present, foreign, sameClass⟩)
    · exact .direct h connected here
    · exact .partner h paired bond there
    · exact .wide h listens connected listed there present foreign sameClass

/-! ## One driver -/

/-- A driver is told of data as it was before and is kept as its reply leaves it, and what it did is
its own. A bonded driver does nothing with data that is not from its partner, whatever it wraps. -/
structure Told (env : Env) (packet : Packet) (before after : Node) (k : Handle)
    (added : List Action) : Prop where
  own : ∀ action ∈ added, action.IsOwn k
  reply : ∃ status registration log, before.enrolled? k = some (status, registration) ∧
    let reply := registration.driver.respond (.data packet) ⟨env, k, status, log⟩
    after.enrolled? k =
        some (reply.context.status, { registration with driver := reply.driver }) ∧
      reply.context.log = log ++ added
  gate : ∀ driver partner, before.pairable? k = some driver → driver.state = .paired partner →
    packet.address ≠ partner.address →
      added = [] ∧ after.enrolled? k = before.enrolled? k

theorem pairable?_of_enrolled? (h : node.enrolled? k = some (status, registration)) :
    node.pairable? k = registration.driver.pairable? := by
  unfold pairable?
  rw [registration?_eq_some_iff.2 ⟨status, enrolled?_eq_some_iff.1 h⟩]
  rfl

/-- Data from anybody but the partner ends at the gate of a bonded driver. -/
theorem respond_data_of_paired {driver : Pairable} {partner : Identity} {packet : Packet}
    (hstate : driver.state = .paired partner) (hother : packet.address ≠ partner.address)
    (ctx : Context) :
    (Driver.pairable driver).respond (.data packet) ctx = ⟨true, .pairable driver, ctx⟩ := by
  have hgate : driver.onData packet ctx = ⟨true, driver, ctx⟩ := by
    unfold Pairable.onData
    rw [hstate]
    exact if_neg hother
  show (⟨(driver.onData packet ctx).handled, .pairable (driver.onData packet ctx).driver,
    (driver.onData packet ctx).context⟩ : Reply Driver) = _
  rw [hgate]

/-- The call of a driver that is handed data. -/
theorem told_call (h : node.enrolled? k = some (status, registration)) (env : Env)
    (packet : Packet) :
    ∃ added, (node.call env k (.data packet)).2.log =
        node.log ++ .called k (.data packet) :: added ∧
      Told env packet node (node.call env k (.data packet)).2 k added := by
  have hentry := enrolled?_eq_some_iff.1 h
  have hafter := enrolled?_call h env (.data packet)
  obtain ⟨added, hadded, hown⟩ :=
    registration.driver.respond_adds (.data packet) (node.placeOf env k (.data packet) status)
  refine ⟨added, ?_, hown, ⟨status, registration, _, h, hafter, hadded.log⟩, ?_⟩
  · rw [log_call env (.data packet) hentry]
    refine hadded.log.trans ?_
    show node.log ++ [.called k (.data packet)] ++ added = _
    rw [List.append_assoc]
    rfl
  · intro driver partner hpairs hstate hother
    rw [pairable?_of_enrolled? h] at hpairs
    have hdriver := Driver.pairable?_eq_some_iff.1 hpairs
    have hlog := hadded.log
    rw [hdriver, respond_data_of_paired hstate hother] at hafter hlog
    refine ⟨List.append_right_eq_self.1 hlog.symm, ?_⟩
    rw [hafter, h, ← hdriver]
    rfl

theorem Told.of_before {before earlier after : Node} {env : Env} {packet : Packet}
    {added : List Action} (h : Told env packet earlier after k added)
    (hsame : earlier.enrolled? k = before.enrolled? k) : Told env packet before after k added where
  own := h.own
  reply := by
    obtain ⟨status, registration, log, hkept, hreply⟩ := h.reply
    exact ⟨status, registration, log, hsame.symm.trans hkept, hreply⟩
  gate driver partner hpairs hstate hother := by
    obtain ⟨status, registration, log, hkept, -⟩ := h.reply
    have hearlier := pairable?_of_enrolled? hkept
    have hbefore := pairable?_of_enrolled? (hsame.symm.trans hkept)
    obtain ⟨hnone, hstays⟩ :=
      h.gate driver partner (hearlier.trans (hbefore.symm.trans hpairs)) hstate hother
    exact ⟨hnone, hstays.trans hsame⟩

theorem Told.of_after {before later after : Node} {env : Env} {packet : Packet}
    {added : List Action} (h : Told env packet before later k added)
    (hsame : after.enrolled? k = later.enrolled? k) : Told env packet before after k added where
  own := h.own
  reply := by
    obtain ⟨status, registration, log, hkept, hlater, hlog⟩ := h.reply
    exact ⟨status, registration, log, hkept, hsame.trans hlater, hlog⟩
  gate driver partner hpairs hstate hother := by
    obtain ⟨hnone, hstays⟩ := h.gate driver partner hpairs hstate hother
    exact ⟨hnone, hsame.trans hstays⟩

/-! ## The walk -/

/-- Whether the driver at a handle hears data. -/
def isHearer (address : UInt8) (classes : List DeviceClass) (node : Node) (k : Handle) : Bool :=
  (node.enrolled? k).any fun kept => hears address classes kept.1 kept.2

theorem isHearer_of_enrolled?_eq {earlier : Node}
    (h : earlier.enrolled? k = node.enrolled? k) (address : UInt8) (classes : List DeviceClass) :
    earlier.isHearer address classes k = node.isHearer address classes k := by
  unfold isHearer
  rw [h]

theorem isHearer_iff {address : UInt8} :
    node.isHearer address (node.classesAt address) k = true ↔ node.IsRecipient address k := by
  unfold isHearer
  constructor
  · intro h
    obtain ⟨⟨status, registration⟩, hkept, hhears⟩ := (Option.any_eq_true _ _).1 h
    exact (isRecipient_iff hkept).2 hhears
  · intro h
    obtain ⟨status, registration, hkept⟩ := h.exists_enrolled
    rw [hkept]
    exact (isRecipient_iff hkept).1 h

/-- Whoever hears data is called, and nobody else. -/
theorem routeTo_eq (env : Env) (packet : Packet) (classes : List DeviceClass) (node : Node)
    (k : Handle) : routeTo env packet classes node k =
      if node.isHearer packet.address classes k then (node.call env k (.data packet)).2
      else node := by
  unfold routeTo isHearer
  cases hkept : node.enrolled? k with
  | some kept =>
    rw [enrolled?_eq_some_iff.1 hkept]
    rfl
  | none =>
    split
    · rename_i hentry
      rw [enrolled?_eq_some_iff.2 hentry] at hkept
      cases hkept
    · rfl

/-- What the visits of some drivers with data add to the log. -/
def tellings (packet : Packet) (visits : List (Handle × List Action)) : List Action :=
  visits.flatMap fun visit => .called visit.1 (.data packet) :: visit.2

/-- A walk with data over some drivers visits those that hear the data as they are when the walk
begins. Nothing happens to the others. -/
theorem exists_visits_of_foldl (env : Env) (packet : Packet) (classes : List DeviceClass)
    {handles : List Handle} (hnodup : handles.Nodup) (node : Node) :
    ∃ visits : List (Handle × List Action),
      visits.map (·.1) = handles.filter (node.isHearer packet.address classes) ∧
      (handles.foldl (routeTo env packet classes) node).log =
        node.log ++ tellings packet visits ∧
      (∀ visit ∈ visits, Told env packet node
        (handles.foldl (routeTo env packet classes) node) visit.1 visit.2) ∧
      ∀ k, k ∉ visits.map (·.1) →
        (handles.foldl (routeTo env packet classes) node).enrolled? k = node.enrolled? k := by
  induction handles generalizing node with
  | nil =>
    exact ⟨[], rfl, (List.append_nil _).symm, fun visit hvisit => (List.not_mem_nil hvisit).elim,
      fun _ _ => rfl⟩
  | cons handle rest ih =>
    obtain ⟨hnot, hrest⟩ := List.nodup_cons.1 hnodup
    have hspares := spares_routeTo env packet classes node handle
    obtain ⟨visits, hvisits, hlog, htold, hothers⟩ :=
      ih hrest (routeTo env packet classes node handle)
    have hne : ∀ k ∈ rest, k ≠ handle := fun k hk heq => hnot (heq ▸ hk)
    have hsame : rest.filter ((routeTo env packet classes node handle).isHearer packet.address
        classes) = rest.filter (node.isHearer packet.address classes) :=
      List.filter_congr fun k hk =>
        isHearer_of_enrolled?_eq (hspares.enrolled? k (hne k hk)) packet.address classes
    rw [hsame] at hvisits
    have hlater : ∀ visit ∈ visits, visit.1 ∈ rest := by
      intro visit hvisit
      have hmem : visit.1 ∈ visits.map (·.1) := List.mem_map_of_mem hvisit
      rw [hvisits] at hmem
      exact (List.mem_filter.1 hmem).1
    have hfresh : handle ∉ visits.map (·.1) := by
      intro hmem
      obtain ⟨visit, hvisit, rfl⟩ := List.mem_map.1 hmem
      exact hnot (hlater visit hvisit)
    have htold' : ∀ visit ∈ visits, Told env packet node
        (rest.foldl (routeTo env packet classes) (routeTo env packet classes node handle))
        visit.1 visit.2 := fun visit hvisit =>
      (htold visit hvisit).of_before (hspares.enrolled? _ (hne _ (hlater visit hvisit)))
    rw [List.foldl_cons, List.filter_cons]
    rw [routeTo_eq] at hspares hlog htold' hothers ⊢
    by_cases hhears : node.isHearer packet.address classes handle = true
    · rw [if_pos hhears] at hspares hlog htold' hothers ⊢
      rw [if_pos hhears]
      obtain ⟨⟨status, registration⟩, hkept, -⟩ := (Option.any_eq_true _ _).1 hhears
      obtain ⟨added, hadded, hcall⟩ := told_call hkept env packet
      refine ⟨(handle, added) :: visits, ?_, ?_, ?_, ?_⟩
      · rw [List.map_cons, hvisits]
      · rw [hlog, hadded, List.append_assoc]
        rfl
      · intro visit hvisit
        rcases List.mem_cons.1 hvisit with rfl | hvisit
        · exact hcall.of_after (hothers handle hfresh)
        · exact htold' visit hvisit
      · intro k hk
        rw [List.map_cons, List.mem_cons, not_or] at hk
        exact (hothers k hk.2).trans (hspares.enrolled? k hk.1)
    · rw [if_neg hhears] at hspares hlog htold' hothers ⊢
      rw [if_neg hhears]
      exact ⟨visits, hvisits, hlog, htold', hothers⟩

/-! ## Delivery -/

/-- Data is handed out to drivers of a roster: the visits name exactly its recipients, each of them
once and in the order of the roster, and nothing else happens. -/
structure Delivers (env : Env) (packet : Packet) (roster : List Handle) (before after : Node)
    (visits : List (Handle × List Action)) : Prop where
  ordered : (visits.map (·.1)).Sublist roster
  once : (visits.map (·.1)).Nodup
  exactly : ∀ k, k ∈ visits.map (·.1) ↔ before.IsRecipient packet.address k
  trace : after.log = before.log ++ tellings packet visits
  told : ∀ visit ∈ visits, Told env packet before after visit.1 visit.2
  others : ∀ k, ¬ before.IsRecipient packet.address k →
    after.enrolled? k = before.enrolled? k

/-- **Data reaches its recipients**, and each of them once, in the order of the registrations,
whatever the earlier ones do. -/
theorem delivers_receivePacket {settings : NodeSettings} {draws : Draws} {xs : List Happening}
    (hcomes : Comes settings draws (fun _ => True) xs node) {packet : Packet}
    (data : packet.address ≠ 0) (env : Env) :
    ∃ visits, Delivers env packet ((rosterOf xs).map (·.1)) node
      (node.receivePacket env packet) visits := by
  have wf := hcomes.wellFormed
  have hroute : node.receivePacket env packet = node.receiveData env packet :=
    if_neg fun h => data (beq_iff_eq.1 h)
  obtain ⟨visits, hvisits, hlog, htold, hothers⟩ := exists_visits_of_foldl env packet
    (node.classesAt packet.address) wf.nodup_handles node
  have hexactly : ∀ k, k ∈ visits.map (·.1) ↔ node.IsRecipient packet.address k := by
    intro k
    rw [hvisits, List.mem_filter, isHearer_iff]
    refine ⟨fun h => h.2, fun h => ⟨?_, h⟩⟩
    obtain ⟨status, registration, hkept⟩ := h.exists_enrolled
    exact mem_handles_of_enrolled? wf hkept
  rw [hroute]
  refine ⟨visits, ?_, ?_, hexactly, hlog, htold,
    fun k hk => hothers k fun hmem => hk ((hexactly k).1 hmem)⟩
  · -- The recipients are some of the drivers, and these are listed as they were registered.
    rw [hvisits, ← hcomes.drivers]
    refine List.monotone_filter_right node.registry.handles fun k hk => ?_
    obtain ⟨kept, hkept, -⟩ := (Option.any_eq_true _ _).1 hk
    rw [hkept]
    rfl
  · rw [hvisits]
    exact wf.nodup_handles.filter _

/-- A virtual driver that is connected to the sender and a listener to its class. -/
theorem delivers_to_two :
    let node := ((withDriver ⟨.virtual, 7, none, none⟩ .quiet).withListener 7).receiveFrame
      .taking (ControlPacket.hello 20 7 2).frame
    node.IsRecipient 20 ⟨0, 0⟩ ∧ node.IsRecipient 20 ⟨1, 0⟩ ∧
      ∃ visits, Delivers .taking sample [⟨0, 0⟩, ⟨1, 0⟩] node
        (node.receivePacket .taking sample) visits := by
  intro node
  have hcomes := (comes_withListener (fun _ => True) ⟨.virtual, 7, none, none⟩ .quiet 7 trivial
    trivial).receive .taking (ControlPacket.hello 20 7 2).frame
  have hfirst : node.enrolled? ⟨0, 0⟩ = some (_, _) := rfl
  have hsecond : node.enrolled? ⟨1, 0⟩ = some (_, _) := rfl
  refine ⟨(isRecipient_iff hfirst).2 (by decide +kernel),
    (isRecipient_iff hsecond).2 (by decide +kernel), ?_⟩
  exact delivers_receivePacket hcomes (by decide) .taking

end Node

end DeviceBus
