import DeviceBus.Proofs.Node.Calls

/-!
# The round of an announce

An announce goes round: it is shown to one entry after the other until a collision ends it. A round
is harmless for whoever it is not about. It changes no entry but those it visits and records of
devices, it leaves remote drivers alone that still wait for their device, it queues no event, and
all that it sends are pairing requests of the drivers that it visits.

`Approaches` is what has happened when the announce comes to a given driver, `conclude` is what
happens after it.

## Main results

* `round_visitAll`: a round that meets no owner of the announced address ends harmlessly.
* `receiveAnnounce_eq_conclude`: an announce comes to every own driver that nobody else keeps it
  from, and finds it as it was.
-/

namespace DeviceBus

open ControlPacket

/-- A remote driver that has not found its device. -/
def Status.Waits (status : Status) : Prop :=
  status.isVirtual = true ∧ status.isConnected = false

/-- The same entry, but for how long its driver's partner was silent. -/
structure Entry.SameButSilence (before after : Entry) : Prop where
  status : after.status = before.status
  kind : after.kind = before.kind ∨
    ∃ registration silence, before.kind = .driver registration ∧
      registration.driver.partner?.isSome = true ∧
      after.kind = .driver { registration with partnerSilence := silence }

theorem Entry.SameButSilence.refl (entry : Entry) : entry.SameButSilence entry := ⟨rfl, .inl rfl⟩

theorem Entry.SameButSilence.trans {first second third : Entry}
    (h : first.SameButSilence second) (h' : second.SameButSilence third) :
    first.SameButSilence third := by
  refine ⟨h'.status.trans h.status, ?_⟩
  rcases h.kind with hkind | ⟨registration, silence, hkind, hpartner, hafter⟩
  · rw [← hkind]
    exact h'.kind
  · rcases h'.kind with hsame | ⟨registration', silence', hkind', -, hafter'⟩
    · exact .inr ⟨registration, silence, hkind, hpartner, hsame.trans hafter⟩
    · rw [hafter] at hkind'
      cases hkind'
      exact .inr ⟨registration, silence', hkind, hpartner, hafter'⟩

theorem Entry.SameButSilence.isRecord {before after : Entry} (h : before.SameButSilence after) :
    after.isRecord = before.isRecord := by
  unfold Entry.isRecord
  rcases h.kind with hkind | ⟨registration, silence, hkind, -, hafter⟩
  · rw [hkind]
  · rw [hkind, hafter]

namespace Node

variable {node : Node}

/-! ## Rounds -/

/-- The frames are requests to the announced device, sent by connected own drivers of some handles
only. -/
def AreRequestsOf (who : Handle → Prop) (cp : ControlPacket) (node : Node)
    (frames : List Bytes) : Prop :=
  ∀ frame ∈ frames, ∃ k, who k ∧ ∃ t, node.tenancy? k = some t ∧ t.isConfirmed = true ∧
    ∃ sender : Identity, sender.address = t.address ∧
      frame = (pairingMessage cp.announced askingFlags sender).frame

theorem areRequestsOf_nil (who : Handle → Prop) (cp : ControlPacket) (node : Node) :
    AreRequestsOf who cp node [] := fun _ hframe => by cases hframe

theorem AreRequestsOf.mono {who others : Handle → Prop} {cp : ControlPacket} {frames : List Bytes}
    (h : AreRequestsOf who cp node frames) (hwho : ∀ k, who k → others k) :
    AreRequestsOf others cp node frames := by
  intro frame hframe
  obtain ⟨k, hk, hrest⟩ := h frame hframe
  exact ⟨k, hwho k hk, hrest⟩

theorem AreRequestsOf.of_quiet {who : Handle → Prop} {cp : ControlPacket} {frames : List Bytes}
    {before after : Node} (h : AreRequestsOf who cp after frames) (hquiet : Quiet before after) :
    AreRequestsOf who cp before frames := by
  intro frame hframe
  obtain ⟨k, hk, t, ht, hrest⟩ := h frame hframe
  rw [tenancy?_of_quiet hquiet] at ht
  exact ⟨k, hk, t, ht, hrest⟩

theorem AreRequestsOf.append {who : Handle → Prop} {cp : ControlPacket} {xs ys : List Bytes}
    (h : AreRequestsOf who cp node xs) (h' : AreRequestsOf who cp node ys) :
    AreRequestsOf who cp node (xs ++ ys) := by
  intro frame hframe
  rcases List.mem_append.1 hframe with hx | hy
  · exact h frame hx
  · exact h' frame hy

/-- Who is no own driver sends no request. -/
theorem AreRequestsOf.eq_nil {handle : Handle} {cp : ControlPacket} {frames : List Bytes}
    (h : AreRequestsOf (· = handle) cp node frames) (hnone : node.tenancy? handle = none) :
    frames = [] := by
  rw [List.eq_nil_iff_forall_not_mem]
  intro frame hframe
  obtain ⟨k, rfl, t, ht, -⟩ := h frame hframe
  rw [hnone] at ht
  cases ht

/-- What a part of the round of an announce, shown to some entries, makes of a node. -/
structure Round (cp : ControlPacket) (handles : List Handle) (before after : Node) : Prop where
  quiet : Quiet before after
  filter : after.filter = before.filter
  spared : ∀ k entry, before.registry.get? k = some entry → entry.isRecord = false →
    k ∉ handles ∨ entry.status.Waits → after.registry.get? k = some entry
  trace : ∃ added, after.log = before.log ++ added ∧ eventsOf added = [] ∧
    AreRequestsOf (· ∈ handles) cp before (framesOf added)

theorem Round.refl (cp : ControlPacket) (hsound : node.Sound) : Round cp [] node node where
  quiet := .refl hsound
  filter := rfl
  spared _ _ hentry _ _ := hentry
  trace := ⟨[], (List.append_nil _).symm, rfl, areRequestsOf_nil _ _ _⟩

/-- A round may be said to have visited more entries than it did. -/
theorem Round.mono {cp : ControlPacket} {hs js : List Handle} {before after : Node}
    (h : Round cp hs before after) (hsub : ∀ k ∈ hs, k ∈ js) : Round cp js before after where
  quiet := h.quiet
  filter := h.filter
  spared k entry hentry hdriver hspared :=
    h.spared k entry hentry hdriver (hspared.imp_left fun hk hmem => hk (hsub k hmem))
  trace := by
    obtain ⟨added, hlog, hevents, hframes⟩ := h.trace
    exact ⟨added, hlog, hevents, hframes.mono hsub⟩

/-- Parts of a round join. -/
theorem Round.trans {cp : ControlPacket} {hs js : List Handle} {first second third : Node}
    (h : Round cp hs first second) (h' : Round cp js second third) :
    Round cp (hs ++ js) first third where
  quiet := h.quiet.trans h'.quiet
  filter := h'.filter.trans h.filter
  spared k entry hentry hdriver hspared := by
    have hfirst := h.spared k entry hentry hdriver
      (hspared.imp_left fun hk hmem => hk (List.mem_append_left js hmem))
    exact h'.spared k entry hfirst hdriver
      (hspared.imp_left fun hk hmem => hk (List.mem_append_right hs hmem))
  trace := by
    obtain ⟨added, hlog, hevents, hframes⟩ := h.trace
    obtain ⟨more, hlog', hevents', hframes'⟩ := h'.trace
    refine ⟨added ++ more, by rw [hlog', hlog, List.append_assoc], ?_, ?_⟩
    · rw [eventsOf_append, hevents, hevents']
      rfl
    · rw [framesOf_append]
      exact (hframes.mono fun k hk => List.mem_append_left js hk).append
        ((hframes'.of_quiet h.quiet).mono fun k hk => List.mem_append_right hs hk)

section

variable (hsound : node.Sound)

include hsound in
theorem round_recordDevice (cp : ControlPacket) : Round cp [] node (node.recordDevice cp) where
  quiet := quiet_recordDevice hsound cp
  filter := filter_recordDevice cp
  spared _ _ hentry hdriver _ := get?_recordDevice cp hentry hdriver
  trace := ⟨[], by rw [log_recordDevice, List.append_nil], rfl, areRequestsOf_nil _ _ _⟩

theorem round_modifyStatus (cp : ControlPacket) {handle : Handle} {change : Status → Status}
    (hquiet : Quiet node (node.modifyStatus handle change)) {entry : Entry}
    (hentry : node.registry.get? handle = some entry) (hbusy : ¬ entry.status.Waits) :
    Round cp [handle] node (node.modifyStatus handle change) where
  quiet := hquiet
  filter := rfl
  spared k other hother _ hspared := by
    have hk : k ≠ handle := by
      rintro rfl
      rw [hentry] at hother
      cases hother
      exact hspared.elim (fun hk => hk (List.mem_singleton_self _)) hbusy
    rw [get?_modifyStatus_of_ne change hk, hother]
  trace := ⟨[], (List.append_nil _).symm, rfl, areRequestsOf_nil _ _ _⟩

include hsound in
/-- What a driver sends at an announce. -/
theorem trace_call (env : Env) {cp : ControlPacket} (hello : cp.type = .hello) (handle : Handle) :
    ∃ added, (node.call env handle (.control cp)).2.log = node.log ++ added ∧ eventsOf added = [] ∧
      AreRequestsOf (· = handle) cp node (framesOf added) := by
  rcases exists_driver_or_call_eq env handle (.control cp) with
    ⟨status, registration, hentry⟩ | hnobody
  · obtain ⟨hordinary, hrole⟩ := hsound.entries handle _ hentry
    rw [log_call env (.control cp) hentry]
    rcases Driver.respond_announce hordinary hello
        ⟨env, handle, status, node.log ++ [.called handle (.control cp)]⟩ with
      hcontext | ⟨hmay, hconnected, -, added, hadded, hframes, hevents⟩
    · rw [hcontext]
      exact ⟨[.called handle (.control cp)], rfl, rfl, areRequestsOf_nil _ _ _⟩
    · refine ⟨.called handle (.control cp) :: added, ?_, hevents, ?_⟩
      · rw [hadded.log, List.append_assoc]
        rfl
      · intro frame hframe
        have hframe' : frame ∈ framesOf added := hframe
        rw [hframes, List.mem_singleton] at hframe'
        exact ⟨handle, rfl, status.tenancy,
          tenancy?_eq_some_iff.2 ⟨_, hentry, hrole.isLocal_of_mayPair hmay, rfl⟩, hconnected,
          status.identity, rfl, hframe'⟩
  · rw [hnobody]
    exact ⟨[], (List.append_nil _).symm, rfl, areRequestsOf_nil _ _ _⟩

include hsound in
/-- Showing an announce to one driver. -/
theorem round_call (env : Env) {cp : ControlPacket} (hello : cp.type = .hello) {handle : Handle}
    {entry : Entry} (hentry : node.registry.get? handle = some entry)
    (hbusy : ¬ entry.status.Waits) :
    Round cp [handle] node (node.call env handle (.control cp)).2 where
  quiet := quiet_call hsound env handle (.control cp)
  filter := filter_call env handle (.control cp)
  spared k other hother _ hspared := by
    have hk : k ≠ handle := by
      rintro rfl
      rw [hentry] at hother
      cases hother
      exact hspared.elim (fun hk => hk (List.mem_singleton_self _)) hbusy
    rw [get?_call_of_ne env (.control cp) hk, hother]
  trace := by
    obtain ⟨added, hlog, hevents, hframes⟩ := trace_call hsound env hello handle
    exact ⟨added, hlog, hevents, hframes.mono fun k hk => by simp [hk]⟩

include hsound in
/-- A remote driver follows its device. -/
theorem round_follow (env : Env) {cp : ControlPacket} (hello : cp.type = .hello) {handle : Handle}
    {entry : Entry} (hentry : node.registry.get? handle = some entry)
    (hfollows : follows cp entry.status = true) :
    Round cp [handle] node
      ((node.modifyStatus handle (·.followed cp)).call env handle (.control cp)).2 := by
  obtain ⟨hvirtual, hconnected, -⟩ := follows_iff.1 hfollows
  have hremote := (hsound.entries handle entry hentry).not_isLocal_of_isVirtual hvirtual
  have hquiet : Quiet node (node.modifyStatus handle (·.followed cp)) := by
    refine quiet_modifyStatus_of_not_isLocal hsound handle
      (fun status => DeviceFlags.mode_insert status.flags (by decide)) fun other hother => ?_
    rw [hentry] at hother
    cases hother
    exact hremote
  have hbusy : ¬ entry.status.Waits := by
    rintro ⟨-, hwaits⟩
    rw [hconnected] at hwaits
    cases hwaits
  have hkept : (entry.status.mark DeviceFlags.seen).isConnected = entry.status.isConnected :=
    Flags.contains_insert_of_disjoint _
      (by decide : Flags.IsDisjoint DeviceFlags.confirmed DeviceFlags.seen)
  have hstill : ¬ (entry.modifyStatus (·.followed cp)).status.Waits := by
    rintro ⟨-, hwaits⟩
    have hafter : (entry.status.mark DeviceFlags.seen).isConnected = false := hwaits
    rw [hkept, hconnected] at hafter
    cases hafter
  have hround := (round_modifyStatus cp hquiet hentry hbusy).trans
    (round_call hquiet.sound env hello (get?_modifyStatus _ hentry) hstill)
  exact hround.mono fun k hk => by simpa using hk

include hsound in
/-- A driver that hears its class may have the announced device recorded first. -/
theorem round_listen (env : Env) {cp : ControlPacket} (hello : cp.type = .hello) {handle : Handle}
    {entry : Entry} (hentry : node.registry.get? handle = some entry)
    (hdriver : entry.isRecord = false)
    (hbroadcast : entry.status.isBroadcast = true) (isRecorded : Bool) :
    Round cp [handle] node
      ((if isRecorded then node.recordDevice cp else node).call env handle (.control cp)).2 := by
  have hbusy : ¬ entry.status.Waits := fun hwaits => by
    cases (Status.isVirtual_eq_false_of_isBroadcast hbroadcast).symm.trans hwaits.1
  cases isRecorded with
  | true =>
    have hrecord := round_recordDevice hsound cp
    have hthere := get?_recordDevice cp hentry hdriver
    exact hrecord.trans (round_call hrecord.quiet.sound env hello hthere hbusy)
  | false => exact round_call hsound env hello hentry hbusy

end

/-- An announce passes an entry that does not own the announced address. -/
theorem round_visit (env : Env) {cp : ControlPacket} (hello : cp.type = .hello) {handle : Handle}
    {scan : Scan} (hscan : scan.node.Sound)
    (hother : ∀ t, scan.node.tenancy? handle = some t → ¬ t.Owns cp.address) :
    ∃ next, visit env cp handle scan = .proceed next ∧ Round cp [handle] scan.node next.node := by
  have hstay : Round cp [handle] scan.node scan.node :=
    (Round.refl cp hscan).mono fun k hk => by cases hk
  rcases exists_driver_or_visit_eq env cp handle scan with ⟨status, registration, held⟩ | heq
  · cases showing env cp held with
    | yields owns | rebukes owns | agrees owns =>
      obtain ⟨hlocal, hpos, haddress⟩ := ownsAddress_iff.1 owns
      exact absurd ⟨hpos, haddress⟩
        (hother status.tenancy (tenancy?_eq_some_iff.2 ⟨_, held, hlocal, rfl⟩))
    | moves _ hfollows heq => exact ⟨_, heq, round_follow hscan env hello held hfollows⟩
    | records _ _ broadcast _ _ _ heq =>
      exact ⟨_, heq, round_listen hscan env hello held rfl broadcast true⟩
    | hears _ _ broadcast _ _ heq =>
      exact ⟨_, heq, round_listen hscan env hello held rfl broadcast false⟩
    | pairs _ _ _ _ _ connected _ _ heq =>
      have hbusy : ¬ status.Waits := fun hwaits => by cases hwaits.2.symm.trans connected
      exact ⟨_, heq, round_call hscan env hello held hbusy⟩
    | passes _ _ _ _ heq => exact ⟨scan, heq, hstay⟩
  · exact ⟨scan, heq, hstay⟩

/-- A round that meets no owner of the announced address ends harmlessly. -/
theorem round_visitAll (env : Env) {cp : ControlPacket} (hello : cp.type = .hello)
    (handles : List Handle) {scan : Scan} (hscan : scan.node.Sound)
    (hothers : ∀ k ∈ handles, ∀ t, scan.node.tenancy? k = some t → ¬ t.Owns cp.address) :
    ∃ next, visitAll env cp handles scan = .proceed next ∧
      Round cp handles scan.node next.node := by
  induction handles generalizing scan with
  | nil => exact ⟨scan, rfl, .refl cp hscan⟩
  | cons handle rest ih =>
    obtain ⟨next, hnext, hround⟩ := round_visit env hello hscan (hothers handle (by simp))
    obtain ⟨last, hlast, hround'⟩ := ih hround.quiet.sound fun k hk t ht =>
      hothers k (by simp [hk]) t (by rwa [tenancy?_of_quiet hround.quiet] at ht)
    refine ⟨last, ?_, hround.trans hround'⟩
    unfold visitAll
    rw [hnext]
    exact hlast

theorem visitAll_append (env : Env) (cp : ControlPacket) (earlier later : List Handle)
    (scan : Scan) :
    visitAll env cp (earlier ++ later) scan =
      match visitAll env cp earlier scan with
      | .collision node => .collision node
      | .proceed next => visitAll env cp later next := by
  induction earlier generalizing scan with
  | nil => rfl
  | cons handle rest ih =>
    simp only [List.cons_append, visitAll]
    cases visit env cp handle scan with
    | collision node => rfl
    | proceed next => exact ih next

/-! ## Before and after one driver -/

/-- The announce of a partner restarts the count of its silence, and nothing else changes. -/
theorem get?_refreshPartner (cp : ControlPacket) (handle : Handle) {k : Handle} {entry : Entry}
    (hentry : node.registry.get? k = some entry) :
    ∃ entry', (node.refreshPartner cp handle).registry.get? k = some entry' ∧
      entry.SameButSilence entry' := by
  unfold refreshPartner modifyRegistration
  dsimp only
  rw [Registry.get?_modify]
  by_cases hk : k = handle
  · subst hk
    rw [if_pos rfl, hentry, Option.map_some]
    refine ⟨_, rfl, ?_⟩
    obtain ⟨status, kind⟩ := entry
    cases kind with
    | record => exact .refl _
    | driver registration =>
      refine ⟨rfl, ?_⟩
      dsimp only
      cases hpartner : registration.driver.partner? with
      | none => exact .inl rfl
      | some partner =>
        dsimp only
        split
        · exact .inr ⟨registration, 0, rfl, by rw [hpartner]; rfl, rfl⟩
        · exact .inl rfl
  · rw [if_neg hk]
    exact ⟨entry, hentry, .refl entry⟩

theorem get?_heard (cp : ControlPacket) {k : Handle} {entry : Entry}
    (hentry : node.registry.get? k = some entry) :
    ∃ entry', (node.heard cp).registry.get? k = some entry' ∧ entry.SameButSilence entry' := by
  refine List.foldlRecOn (motive := fun after : Node => ∃ entry', after.registry.get? k =
    some entry' ∧ entry.SameButSilence entry') _ _ ⟨entry, hentry, .refl entry⟩
    fun mid ⟨held, hheld, hsame⟩ handle _ => ?_
  obtain ⟨last, hlast, hsame'⟩ := get?_refreshPartner cp handle hheld
  exact ⟨last, hlast, hsame.trans hsame'⟩

/-- What has become of a node when an announce comes to a driver: others may have asked the
announced device, but the driver itself is as it was, and so are the remote drivers that wait. -/
structure Approaches (cp : ControlPacket) (handle : Handle) (before after : Node) : Prop where
  quiet : Quiet before after
  filter : after.filter = before.filter
  spared : ∀ k entry, before.registry.get? k = some entry → entry.isRecord = false →
    k = handle ∨ entry.status.Waits →
    ∃ entry', after.registry.get? k = some entry' ∧ entry.SameButSilence entry'
  trace : ∃ added, after.log = before.log ++ added ∧ eventsOf added = [] ∧
    AreRequestsOf (· ≠ handle) cp before (framesOf added)

/-- The driver that an announce comes to is as it was. -/
theorem Approaches.driver {cp : ControlPacket} {handle : Handle} {mid : Node}
    (h : Approaches cp handle node mid) {status : Status} {registration : Registration}
    (hentry : node.registry.get? handle = some ⟨status, .driver registration⟩) :
    ∃ now, mid.registry.get? handle = some ⟨status, .driver now⟩ ∧
      now.driver = registration.driver := by
  obtain ⟨⟨after, kind⟩, hthere, hlike⟩ := h.spared handle _ hentry rfl (.inl rfl)
  have hstatus : after = status := hlike.status
  rw [hthere, hstatus]
  rcases hlike.kind with hkind | ⟨before, silence, hbefore, -, hkind⟩
  · have hsame : kind = .driver registration := hkind
    exact ⟨registration, by rw [hsame], rfl⟩
  · cases hbefore
    have hsame : kind = .driver { registration with partnerSilence := silence } := hkind
    exact ⟨{ registration with partnerSilence := silence }, by rw [hsame], rfl⟩

/-- What becomes of an announce after one entry was visited and some others are still to come. -/
def conclude (env : Env) (cp : ControlPacket) (later : List Handle) : Finding → Node
  | .collision node => node
  | .proceed scan =>
    match visitAll env cp later scan with
    | .collision node => node
    | .proceed scan =>
      if scan.handled || !cp.flags.isSafe then scan.node else settle env cp scan

/-- No own driver but one has the announced address. -/
def NoOtherOwns (cp : ControlPacket) (handle : Handle) (node : Node) : Prop :=
  ∀ k t, k ≠ handle → node.tenancy? k = some t → ¬ t.Owns cp.address

theorem NoOtherOwns.of_quiet {cp : ControlPacket} {handle : Handle} {before after : Node}
    (h : before.NoOtherOwns cp handle) (hquiet : Quiet before after) :
    after.NoOtherOwns cp handle := by
  intro k t hk ht
  rw [tenancy?_of_quiet hquiet] at ht
  exact h k t hk ht

/-- An announce comes to a driver, if no other own driver has its address: what happens before
concerns neither the driver nor those who wait. -/
theorem receiveAnnounce_eq_conclude (hsound : node.Sound) (env : Env) {cp : ControlPacket}
    (hello : cp.type = .hello) {handle : Handle} {entry : Entry}
    (hentry : node.registry.get? handle = some entry) (hothers : node.NoOtherOwns cp handle) :
    ∃ (next : Scan) (later : List Handle), handle ∉ later ∧ Approaches cp handle node next.node ∧
      node.receiveAnnounce env cp = conclude env cp later (visit env cp handle next) := by
  have hheard := quiet_heard hsound cp
  obtain ⟨entry', hentry', -⟩ := get?_heard cp hentry
  -- The handle is listed once, so neither what comes before it nor what comes after it is it.
  obtain ⟨earlier, later, hsplit⟩ :=
    List.append_of_mem (hheard.wellFormed.mem_handles_iff.2 ⟨entry', hentry'⟩)
  have hnodup := hheard.wellFormed.nodup_handles
  rw [hsplit, List.nodup_append] at hnodup
  obtain ⟨-, hlater, hdisjoint⟩ := hnodup
  have hearlier : handle ∉ earlier := fun hmem => hdisjoint handle hmem handle (by simp) rfl
  let start : Scan := ⟨node.heard cp, false, false⟩
  obtain ⟨next, hnext, hround⟩ : ∃ next, visitAll env cp earlier start = .proceed next ∧
      Round cp earlier start.node next.node := by
    refine round_visitAll env hello earlier hheard.sound fun k hk t ht => ?_
    refine hothers.of_quiet hheard k t ?_ ht
    rintro rfl
    exact hearlier hk
  refine ⟨next, later, (List.nodup_cons.1 hlater).1, ?_, ?_⟩
  · refine ⟨hheard.trans hround.quiet, hround.filter.trans (filter_heard cp node), ?_, ?_⟩
    · intro k old hold hdriver hspared
      obtain ⟨mid, hmid, hlike⟩ := get?_heard cp hold
      refine ⟨mid, hround.spared k mid hmid (hlike.isRecord.trans hdriver) ?_, hlike⟩
      rcases hspared with rfl | hwaits
      · exact .inl hearlier
      · exact .inr (by rw [hlike.status]; exact hwaits)
    · obtain ⟨added, hadded, hevents, hframes⟩ := hround.trace
      refine ⟨added, hadded.trans (congrArg (· ++ added) (log_heard cp node)), hevents, ?_⟩
      refine (hframes.of_quiet hheard).mono fun k hk => ?_
      rintro rfl
      exact hearlier hk
  · have hround : node.round env cp =
        match visit env cp handle next with
        | .collision node => .collision node
        | .proceed scan => visitAll env cp later scan := by
      show visitAll env cp (node.heard cp).registry.handles start = _
      rw [hsplit, visitAll_append, hnext]
      rfl
    rw [receiveAnnounce_eq, hround]
    cases visit env cp handle next with
    | collision node => rfl
    | proceed scan => rfl

/-! ## The end of a round -/

/-- A driver whose device is connected shows nothing outside by itself. -/
theorem silent_call_connected (hsound : node.Sound) (env : Env) (handle : Handle) :
    ∃ added, (node.call env handle .connected).2.log = node.log ++ added ∧
      framesOf added = [] ∧ eventsOf added = [] := by
  unfold call
  split
  · rename_i status registration hentry
    have hordinary := (hsound.entries handle _ hentry).1
    obtain ⟨driver, required, wanted, silence⟩ := registration
    cases driver with
    | quiet => exact ⟨_, rfl, rfl, rfl⟩
    | probe p => exact hordinary.elim
    | console c => exact ⟨_, rfl, rfl, rfl⟩
    | logger client => exact ⟨_, rfl, rfl, rfl⟩
    | pairable p =>
      obtain ⟨-, added, hadded, hframes, hevents⟩ :=
        p.gated.isSilent_connected ⟨env, handle, status, node.log ++ [.called handle .connected]⟩
      refine ⟨.called handle .connected :: added, ?_, hframes, hevents⟩
      refine hadded.log.trans ?_
      simp
  · exact ⟨[], (List.append_nil _).symm, rfl, rfl⟩

/-- Connecting a remote driver touches no other entry and sends nothing. -/
theorem adopt_spec (hsound : node.Sound) (env : Env) {cp : ControlPacket} (hello : cp.type = .hello)
    {handle : Handle} {entry : Entry} (hentry : node.registry.get? handle = some entry)
    (hremote : entry.status.isLocal = false) :
    (∀ k, k ≠ handle → (node.adopt env handle cp).registry.get? k = node.registry.get? k) ∧
      ∃ added, (node.adopt env handle cp).log = node.log ++ added ∧ framesOf added = [] ∧
        NoLoss added := by
  have hnone : node.tenancy? handle = none := by
    unfold tenancy? Entry.tenancy?
    rw [hentry, Option.bind_some, hremote]
    rfl
  have hmodify : Quiet node (node.modifyStatus handle (Status.found cp)) := by
    refine quiet_modifyStatus_of_not_isLocal hsound handle
      (fun status => DeviceFlags.mode_insert status.flags (by decide)) fun other hother => ?_
    rw [hentry] at hother
    cases hother
    exact hremote
  let found := node.modifyStatus handle (Status.found cp)
  let connected := found.queueEvent handle (.connected cp.address)
  have hqueue : Quiet node connected :=
    hmodify.trans (quiet_queueEvent hmodify.sound handle (.connected cp.address))
  have hconnected := hqueue.trans (quiet_call hqueue.sound env handle .connected)
  obtain ⟨added, hadded, hframes, hevents⟩ := silent_call_connected hqueue.sound env handle
  obtain ⟨more, hmore, hmoreEvents, hrequests⟩ := trace_call hconnected.sound env hello handle
  have hsilent : framesOf more = [] := (hrequests.of_quiet hconnected).eq_nil hnone
  refine ⟨fun k hk => ?_, [.event ⟨handle, .connected cp.address⟩] ++ added ++ more, ?_, ?_, ?_⟩
  · show ((connected.call env handle .connected).2.call env handle
      (.control cp)).2.registry.get? k = _
    rw [get?_call_of_ne env _ hk, get?_call_of_ne env _ hk]
    exact get?_modifyStatus_of_ne _ hk
  · show ((connected.call env handle .connected).2.call env handle (.control cp)).2.log = _
    rw [hmore, hadded]
    show node.log ++ [.event ⟨handle, .connected cp.address⟩] ++ added ++ more = _
    rw [List.append_assoc, List.append_assoc, List.append_assoc]
  · rw [framesOf_append, framesOf_append, hframes, hsilent]
    rfl
  · refine NoLoss.append (NoLoss.append ?_ (noLoss_of_eventsOf_eq_nil hevents))
      (noLoss_of_eventsOf_eq_nil hmoreEvents)
    intro event hevent
    rw [List.mem_singleton.1 hevent]
    rfl

/-- Own drivers are as they were, nothing was sent and no address was lost. -/
structure SparesOwn (before after : Node) : Prop where
  kept : ∀ k entry, before.registry.get? k = some entry → entry.status.isLocal = true →
    after.registry.get? k = some entry
  trace : ∃ added, after.log = before.log ++ added ∧ framesOf added = [] ∧ NoLoss added

theorem sparesOwn_withFilter (filter : AddressFilter) : SparesOwn node { node with filter } where
  kept _ _ hentry _ := hentry
  trace := ⟨[], (List.append_nil _).symm, rfl, noLoss_of_eventsOf_eq_nil rfl⟩

theorem SparesOwn.trans {first second third : Node} (h : SparesOwn first second)
    (h' : SparesOwn second third) : SparesOwn first third where
  kept k entry hentry hlocal := h'.kept k entry (h.kept k entry hentry hlocal) hlocal
  trace := by
    obtain ⟨added, hlog, hframes, hnone⟩ := h.trace
    obtain ⟨more, hmore, hmoreFrames, hmoreNone⟩ := h'.trace
    refine ⟨added ++ more, by rw [hmore, hlog, List.append_assoc], ?_, hnone.append hmoreNone⟩
    rw [framesOf_append, hframes, hmoreFrames]
    rfl

/-- Connecting a remote driver concerns no own driver. -/
theorem sparesOwn_adopt (hsound : node.Sound) (env : Env) {cp : ControlPacket}
    (hello : cp.type = .hello) {handle : Handle} {entry : Entry}
    (hentry : node.registry.get? handle = some entry) (hremote : entry.status.isLocal = false) :
    SparesOwn node (node.adopt env handle cp) := by
  obtain ⟨hkept, hlog⟩ := adopt_spec hsound env hello hentry hremote
  refine ⟨fun k old hold hlocal => ?_, hlog⟩
  have hk : k ≠ handle := by
    rintro rfl
    cases hentry.symm.trans hold
    cases hlocal.symm.trans hremote
  rw [hkept k hk, hold]

/-- The end of an announce concerns the filter and remote drivers. -/
theorem sparesOwn_settle (env : Env) {cp : ControlPacket} (hello : cp.type = .hello) {scan : Scan}
    (hscan : scan.node.Sound) : SparesOwn scan.node (settle env cp scan) := by
  obtain ⟨filter, heq | ⟨-, handle, hfind, heq⟩⟩ := settle_cases env cp scan
  · rw [heq]
    exact sparesOwn_withFilter filter
  · obtain ⟨entry, hentry, hremote⟩ := exists_remote_of_awaits hscan hfind
    have hfiltered : ({ scan.node with filter } : Node).Sound := ⟨hscan.wellFormed, hscan.entries⟩
    rw [heq]
    exact (sparesOwn_withFilter filter).trans
      (sparesOwn_adopt hfiltered env hello hentry hremote)

/-- What comes after a driver leaves it as it is, and only others send anything. -/
theorem conclude_spec (env : Env) {cp : ControlPacket} (hello : cp.type = .hello) {scan : Scan}
    (hscan : scan.node.Sound) {handle : Handle} {later : List Handle} (hlater : handle ∉ later)
    (hothers : scan.node.NoOtherOwns cp handle) {entry : Entry}
    (hentry : scan.node.registry.get? handle = some entry) (hlocal : entry.status.isLocal = true) :
    (conclude env cp later (.proceed scan)).registry.get? handle = some entry ∧
      ∃ added, (conclude env cp later (.proceed scan)).log = scan.node.log ++ added ∧
        AreRequestsOf (· ≠ handle) cp scan.node (framesOf added) ∧ NoLoss added := by
  have hdriver : entry.isRecord = false := by
    by_contra hrecord
    rw [Bool.not_eq_false] at hrecord
    have hnot := ((hscan.entries handle entry hentry).record_flags hrecord).1
    rw [hlocal] at hnot
    cases hnot
  obtain ⟨next, hnext, hround⟩ := round_visitAll env hello later hscan fun k hk t ht => by
    refine hothers k t ?_ ht
    rintro rfl
    exact hlater hk
  have hthere := hround.spared handle entry hentry hdriver (.inl hlater)
  obtain ⟨added, hlog, hevents, hframes⟩ := hround.trace
  have hnoLoss := noLoss_of_eventsOf_eq_nil hevents
  have hothersAsk : AreRequestsOf (· ≠ handle) cp scan.node (framesOf added) := by
    refine hframes.mono fun k hk => ?_
    rintro rfl
    exact hlater hk
  unfold conclude
  dsimp only
  rw [hnext]
  dsimp only
  split
  · exact ⟨hthere, added, hlog, hothersAsk, hnoLoss⟩
  · obtain ⟨hkept, more, hmore, hsilent, hmoreLoss⟩ := sparesOwn_settle env hello hround.quiet.sound
    refine ⟨hkept handle entry hthere hlocal, added ++ more, ?_, ?_, hnoLoss.append hmoreLoss⟩
    · rw [hmore, hlog, List.append_assoc]
    · rw [framesOf_append, hsilent, List.append_nil]
      exact hothersAsk

end Node

end DeviceBus
