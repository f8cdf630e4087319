import DeviceBus.Proofs.Links
import DeviceBus.Proofs.Node.Protocol
import DeviceBus.Proofs.Node.Utterances

/-!
# What goes out under the logic address

Control packets go out under address 0, the logic address, and every peer reads what it gets under
that address as a control packet. What a node sends itself are control packets. What its drivers
send by themselves, lines and stream commands, goes out under their links, and a link must
therefore never be the logic address.

Two kinds of frames can make it the logic address: an announce of address 0 connects a remote
driver there, and data can reach a streaming driver that has no address. Where none of these frames
arrive, only control packets go out under the logic address.

## Main results

* `LinkSafe.episode`: without such frames every episode keeps links apart from the logic address.
* `spoken_of_airs`: what is sent under the logic address, and what is not, in every course of
  events.
* `misread_of_announcedZero`: a log line that goes out under the logic address.
-/

namespace DeviceBus

open ControlPacket EventKind

namespace Node

variable {x : Happening} {k : Handle} {start node : Node} {before after : Kept}
  {story : List Action}

/-! ## Links that are safe -/

/-- The link of a driver is not the logic address. A log client has a link only while it is
connected to an address. -/
structure LinkSafe (kept : Kept) : Prop where
  discreet : kept.2.driver.IsDiscreet
  apart : kept.2.driver.link? ≠ some 0
  logger : kept.2.driver.isLogger = true → kept.2.driver.link?.isSome = true →
    kept.1.isConnected = true ∧ kept.1.address ≠ 0

theorem linkSafe_of_link_eq_none {kept : Kept} (hdiscreet : kept.2.driver.IsDiscreet)
    (hlink : kept.2.driver.link? = none) : LinkSafe kept where
  discreet := hdiscreet
  apart := by simp [hlink]
  logger _ hsome := by simp [hlink] at hsome

section

variable {callback : Callback} {talk : List EventKind}

/-- A driver whose device is gone has no link. -/
theorem linkSafe_of_removed (replies : Replies k .removed before talk after)
    (hdiscreet : before.2.driver.IsDiscreet) : LinkSafe after :=
  linkSafe_of_link_eq_none (replies.discreet hdiscreet).1 replies.link

/-- A driver whose device is there has the address of the device as link, if any. -/
theorem linkSafe_of_connected (replies : Replies k .connected before talk after)
    (hdiscreet : before.2.driver.IsDiscreet) (hconnected : before.1.isConnected = true)
    (hpos : before.1.address ≠ 0) : LinkSafe after := by
  obtain ⟨hafter, htenancy⟩ := replies.discreet hdiscreet
  have haddress : after.1.address = before.1.address := congrArg Tenancy.address htenancy
  have hsame : after.1.isConnected = before.1.isConnected :=
    congrArg Tenancy.isConfirmed htenancy
  refine ⟨hafter, ?_, fun _ _ => ⟨hsame.trans hconnected, haddress ▸ hpos⟩⟩
  rw [replies.link]
  simp only [Driver.linkAfter]
  split
  · simpa using hpos
  · simp

/-- Whatever else a driver is told, its link stays safe, if a streaming driver without an address
gets no data. -/
theorem LinkSafe.told (h : LinkSafe before) (replies : Replies k callback before talk after)
    (hcallback : callback ≠ .connected)
    (hdata : ∀ packet, callback = .data packet → before.2.driver.streams = true →
      before.1.address ≠ 0) : LinkSafe after := by
  obtain ⟨hafter, htenancy⟩ := replies.discreet h.discreet
  have haddress : after.1.address = before.1.address := congrArg Tenancy.address htenancy
  have hsame : after.1.isConnected = before.1.isConnected :=
    congrArg Tenancy.isConfirmed htenancy
  have hlogger : before.2.driver.isLogger = true → before.2.driver.link?.isSome = true →
      after.1.isConnected = true ∧ after.1.address ≠ 0 := by
    rw [haddress, hsame]
    exact h.logger
  have hlink := replies.link
  have hkind := replies.kind.2
  cases callback with
  | connected => exact absurd rfl hcallback
  | removed => exact linkSafe_of_removed replies h.discreet
  | partnerLost =>
    refine ⟨hafter, hlink ▸ h.apart, ?_⟩
    rw [hlink, hkind]
    exact hlogger
  | control cp =>
    cases hlog : before.2.driver.isLogger with
    | false =>
      simp only [Driver.linkAfter, hlog, Bool.false_eq_true, if_false] at hlink
      refine ⟨hafter, hlink ▸ h.apart, ?_⟩
      rw [hlink, hkind]
      exact hlogger
    | true =>
      simp only [Driver.linkAfter, hlog, if_true] at hlink
      cases hbefore : before.2.driver.link? with
      | none => exact linkSafe_of_link_eq_none hafter (by rw [hlink, hbefore]; rfl)
      | some address =>
        have hhere := hlogger hlog (by rw [hbefore]; rfl)
        refine ⟨hafter, ?_, fun _ _ => hhere⟩
        rw [hlink, hbefore, ← haddress]
        simpa using hhere.2
  | data packet =>
    simp only [Driver.linkAfter] at hlink
    split at hlink
    · rename_i hobeys
      have hstreams := Driver.streams_of_obeys hobeys
      refine ⟨hafter, ?_, fun hlog => ?_⟩
      · rw [hlink]
        simpa using hdata packet rfl hstreams
      · rw [hkind, Driver.isLogger_of_streams hstreams] at hlog
        cases hlog
    · refine ⟨hafter, hlink ▸ h.apart, ?_⟩
      rw [hlink, hkind]
      exact hlogger

end

/-- A frame that leaves links apart from the logic address: it is no announce of that address, and
no data that a streaming driver without an address hears. -/
structure IsClean (node : Node) (frame : Bytes) : Prop where
  hello : ∀ cp, helloOf? frame = some cp → cp.address ≠ 0
  data : ∀ packet k kept, Packet.decode frame = .ok packet → packet.isControl = false →
    node.enrolled? k = some kept → kept.2.driver.streams = true →
    hears packet.address (node.classesAt packet.address) kept.1 kept.2 = true → kept.1.address ≠ 0

/-- **Every episode keeps links apart from the logic address**, if the frame that it comes from is
clean. -/
theorem LinkSafe.episode (h : LinkSafe before)
    (hclean : ∀ env frame, x = .receive env frame → start.IsClean frame)
    (hepisode : Episode x start k before story after) : LinkSafe after := by
  have hbrings : ∀ cp, x.Brings cp → cp.address ≠ 0 := by
    rintro cp ⟨env, frame, rfl, hhello⟩
    exact (hclean env frame rfl).hello cp hhello
  have hunlinked : ∀ {status : Status} {registration : Registration},
      LinkSafe (status, registration) → status.isConnected = false ∨ status.address = 0 →
      registration.driver.isLogger = true → registration.driver.link?.isSome = true → False := by
    intro status registration hsafe hnot hlog hsome
    obtain ⟨hconnected, hpos⟩ := hsafe.logger hlog hsome
    rcases hnot with hnot | hnot
    · exact Bool.false_ne_true (hnot.symm.trans hconnected)
    · exact hpos hnot
  cases hepisode with
  | booked driver =>
    obtain ⟨hdiscreet, hapart, hlogger⟩ := h
    rw [← driver] at hdiscreet hapart hlogger
    exact ⟨hdiscreet, hapart, hlogger⟩
  | @noticed _ later _ tenancy =>
    have haddress : later.address = _ := congrArg Tenancy.address tenancy
    have hsame : later.isConnected = _ := congrArg Tenancy.isConfirmed tenancy
    refine ⟨h.discreet, h.apart, ?_⟩
    rw [haddress, hsame]
    exact h.logger
  | @told callback _ _ talk heard replies =>
    refine h.told replies ?_ ?_
    · rintro rfl
      exact heard
    · rintro packet rfl hstreams
      obtain ⟨⟨env, frame, rfl, hpacket, hdata⟩, hkept, hhears⟩ := heard
      exact (hclean env frame rfl).data packet k _ hpacket hdata hkept hstreams hhears
  | @moved cp status registration _ talk brings follows replies =>
    -- a log client takes the announced address over at once; other links stay behind
    have hpos := hbrings cp brings
    have hmoved : LinkSafe (status.followed cp, registration) :=
      ⟨h.discreet, h.apart, fun _ _ =>
        ⟨(Status.isConnected_mark_seen _).trans (follows_iff.1 follows).2.1, hpos⟩⟩
    exact hmoved.told replies nofun nofun
  | @adopted cp status registration mid _ talk more brings awaits connected replies =>
    have hmid : LinkSafe mid := linkSafe_of_connected connected h.discreet
      (Flags.contains_insert_of_subset _ (by decide)) (hbrings cp brings)
    exact hmid.told replies nofun nofun
  | drawn own without =>
    exact ⟨h.discreet, h.apart, fun hlog hsome => (hunlinked h (.inr without) hlog hsome).elim⟩
  | @confirmed status registration _ talk own pos onProbation replies =>
    have hconfirmed := congrArg Tenancy.isConfirmed (Status.tenancy_confirm status)
    exact linkSafe_of_connected replies h.discreet hconfirmed pos
  | lost own pos unconnected =>
    exact ⟨h.discreet, h.apart, fun hlog hsome => (hunlinked h (.inl unconnected) hlog hsome).elim⟩
  | evicted own pos connected replies => exact linkSafe_of_removed replies h.discreet
  | vacated remote connected replies => exact linkSafe_of_removed replies h.discreet
  | worked works =>
    obtain ⟨-, hlog, hlink⟩ := works.sameLink
    refine ⟨h.discreet.works works, hlink ▸ h.apart, ?_⟩
    rw [hlink, hlog]
    exact h.logger

/-! ## A node and its sink -/

/-- The link of every driver is safe. -/
def HasSafeLinks (node : Node) : Prop := ∀ k kept, node.enrolled? k = some kept → LinkSafe kept

end Node

/-- A driver as it is made: no probe, and without a link. -/
def Driver.IsFresh (driver : Driver) : Prop := driver.IsOrdinary ∧ driver.link? = none

namespace Node

variable {x : Happening} {node after : Node}

/-- Whatever happens to a node leaves its links safe, if the frame that arrives is clean. -/
theorem safeLinks_of_becomes (h : node.HasSafeLinks) (wf : node.registry.WellFormed)
    {added : List Action} (becomes : Becomes x node added after)
    (hadmitted : x.IsAdmitted Driver.IsFresh)
    (hclean : ∀ env frame, x = .receive env frame → node.IsClean frame) : after.HasSafeLinks := by
  intro k later hlater
  have hprobe : after.probe? k = some later.2.driver.isProbe := probe?_of_enrolled? hlater
  rcases probe?_of_becomes becomes hprobe with ⟨hbefore, hstays⟩ | ⟨profile, driver, rfl, -⟩
  · obtain ⟨kept, hkept, -⟩ := Option.map_eq_some_iff.1 hbefore
    obtain ⟨last, hlast, hstory⟩ := story_of_becomes hkept wf becomes hstays
    rw [hlater] at hlast
    cases hlast
    exact hstory.keeps (h k kept hkept) fun hsafe hepisode => hsafe.episode hclean hepisode
  · cases becomes with
    | register ok =>
      rw [(joins_register ok).newcomer] at hlater
      cases hlater
      exact linkSafe_of_link_eq_none hadmitted.1.isDiscreet hadmitted.2

/-- The link of a driver that leaves a node is safe, too. -/
theorem apart_of_unregister (h : node.HasSafeLinks) {env : Env} {handle : Handle}
    {gone : Option Driver} (ok : node.unregister env handle = .ok (gone, after)) :
    ∀ driver ∈ gone.toList, driver.link? ≠ some 0 := by
  intro driver hdriver
  obtain ⟨told, -, rfl, htold⟩ := unregister_cases ok
  obtain ⟨registration, hheld, rfl⟩ :=
    Option.map_eq_some_iff.1 (Option.mem_toList.1 hdriver)
  obtain ⟨status, hentry⟩ := registration?_eq_some_iff.1 hheld
  have hkept := enrolled?_eq_some_iff.2 hentry
  rcases htold with ⟨rfl, -⟩ | ⟨rfl, before, was, hwas, -⟩
  · exact (h handle _ hkept).apart
  · obtain ⟨talk, later, hreplies, hchronicle⟩ := chronicle_tellRemoved hwas env
    have hsafe := linkSafe_of_removed hreplies (h handle _ hwas).discreet
    rw [hchronicle.later] at hkept
    cases hkept
    exact hsafe.apart

/-- What happens to a fresh node that hands its frames to a sink, the frames that it sent itself,
those that drivers sent by themselves, the drivers that left it, and where all this leads. Frames
that `meets` allows arrive. Drivers also work after they left. -/
inductive Airs (settings : NodeSettings) (draws : Draws) (meets : Node → Bytes → Prop) :
    List Happening → List Bytes → List Bytes → List Driver → Node → Prop where
  | start : Airs settings draws meets [] [] [] [] (withDraws settings draws)
  | register {xs : List Happening} {said sent : List Bytes} {left : List Driver}
      {node after : Node} {handle : Handle} {profile : DriverProfile} {driver : Driver}
      (before : Airs settings draws meets xs said sent left node) (fresh : driver.IsFresh)
      (ok : node.register profile driver = .ok (handle, after)) :
      Airs settings draws meets (xs ++ [.register handle profile driver]) said sent left after
  | unregister {xs : List Happening} {said sent : List Bytes} {left : List Driver}
      {node after : Node} {env : Env} {handle : Handle} {gone : Option Driver}
      {added : List Action} (before : Airs settings draws meets xs said sent left node)
      (ok : node.unregister env handle = .ok (gone, after))
      (log : after.log = node.log ++ added) :
      Airs settings draws meets (xs ++ [.unregister env handle]) (said ++ framesOf added) sent
        (left ++ gone.toList) after
  | receive {xs : List Happening} {said sent : List Bytes} {left : List Driver} {node : Node}
      {added : List Action} (env : Env) (frame : Bytes)
      (before : Airs settings draws meets xs said sent left node) (met : meets node frame)
      (log : (node.receiveFrame env frame).log = node.log ++ added) :
      Airs settings draws meets (xs ++ [.receive env frame]) (said ++ framesOf added) sent left
        (node.receiveFrame env frame)
  | tick {xs : List Happening} {said sent : List Bytes} {left : List Driver} {node : Node}
      {added : List Action} (env : Env) (before : Airs settings draws meets xs said sent left node)
      (log : (node.tick env).log = node.log ++ added) :
      Airs settings draws meets (xs ++ [.tick env]) (said ++ framesOf added) sent left
        (node.tick env)
  | takeLog {xs : List Happening} {said sent : List Bytes} {left : List Driver} {node : Node}
      (before : Airs settings draws meets xs said sent left node) :
      Airs settings draws meets (xs ++ [.takeLog]) said sent left node.takeLog.2
  | work {xs : List Happening} {said sent frames : List Bytes} {left : List Driver} {node : Node}
      {handle : Handle} {registration : Registration} {driver : Driver}
      (before : Airs settings draws meets xs said sent left node)
      (held : node.registration? handle = some registration)
      (sends : registration.driver.Sends frames driver) :
      Airs settings draws meets (xs ++ [.work handle driver]) said (sent ++ frames) left
        (node.modifyRegistration handle fun r => { r with driver })
  | workAway {xs : List Happening} {said sent frames : List Bytes}
      {earlier later : List Driver} {node : Node} {driver worked : Driver}
      (before : Airs settings draws meets xs said sent (earlier ++ driver :: later) node)
      (sends : driver.Sends frames worked) :
      Airs settings draws meets xs said (sent ++ frames) (earlier ++ worked :: later) node

section

variable {settings : NodeSettings} {draws : Draws} {meets : Node → Bytes → Prop}
  {xs : List Happening} {said sent : List Bytes} {left : List Driver}

/-- What holds along the way without regard to links. -/
structure InSpeech (xs : List Happening) (said sent : List Bytes) (node : Node) : Prop where
  noProbe : node.NoProbe
  wellFormed : node.registry.WellFormed
  said : ∀ frame ∈ said, ∃ x ∈ xs, Utterance x frame
  sent : ∀ frame ∈ sent, ∃ address, GoesUnder address frame

/-- Something happens to the node. -/
theorem InSpeech.becomes (h : InSpeech xs said sent node) {added : List Action}
    (becomes : Becomes x node added after) (hadmitted : x.IsAdmitted Driver.IsOrdinary) :
    InSpeech (xs ++ [x]) (said ++ framesOf added) sent after where
  noProbe := noProbe_of_becomes h.noProbe becomes hadmitted
  wellFormed := wellFormed_of_becomes becomes h.wellFormed
  said frame hframe := by
    rcases List.mem_append.1 hframe with hsaid | hadded
    · obtain ⟨y, hy, hutters⟩ := h.said frame hsaid
      exact ⟨y, List.mem_append_left _ hy, hutters⟩
    · exact ⟨x, by simp, utters_of_becomes h.noProbe becomes frame hadded⟩
  sent := h.sent

/-- A driver sends by itself. -/
theorem InSpeech.sends (h : InSpeech xs said sent node) {before worked : Driver}
    {frames : List Bytes} (hsends : before.Sends frames worked) :
    InSpeech xs said (sent ++ frames) node where
  noProbe := h.noProbe
  wellFormed := h.wellFormed
  said := h.said
  sent frame hframe := by
    rcases List.mem_append.1 hframe with hsent | hnew
    · exact h.sent frame hsent
    · obtain ⟨address, -, hunder⟩ := hsends.spec.2 frame hnew
      exact ⟨address, hunder⟩

theorem Airs.inSpeech (h : Airs settings draws meets xs said sent left node) :
    InSpeech xs said sent node := by
  induction h with
  | start =>
    exact ⟨fun k => nofun, Registry.WellFormed.empty _, by simp, by simp⟩
  | register _ fresh ok ih => simpa using ih.becomes (.register ok) fresh.1
  | unregister _ ok log ih => exact ih.becomes (.unregister ok log) trivial
  | receive env frame _ _ log ih => exact ih.becomes (.receive env frame log) trivial
  | tick env _ log ih => exact ih.becomes (.tick env log) trivial
  | takeLog _ ih => simpa using ih.becomes .takeLog trivial
  | work _ held sends ih =>
    have hworked := (ih.sends sends).becomes (.work held sends.works) trivial
    simpa using hworked
  | workAway _ sends ih => exact ih.sends sends

/-- Links stay apart from the logic address, and so does what drivers send by themselves. -/
structure IsApart (sent : List Bytes) (left : List Driver) (node : Node) : Prop where
  links : node.HasSafeLinks
  left : ∀ driver ∈ left, driver.link? ≠ some 0
  sent : ∀ frame ∈ sent, ∃ address, address ≠ 0 ∧ GoesUnder address frame

/-- What a driver sends under a link that is not the logic address. -/
theorem apart_of_sends {before worked : Driver} {frames : List Bytes}
    (hapart : before.link? ≠ some 0) (hsends : before.Sends frames worked)
    (hsent : ∀ frame ∈ sent, ∃ address, address ≠ 0 ∧ GoesUnder address frame) :
    ∀ frame ∈ sent ++ frames, ∃ address, address ≠ 0 ∧ GoesUnder address frame := by
  intro frame hframe
  rcases List.mem_append.1 hframe with hold | hnew
  · exact hsent frame hold
  · obtain ⟨address, hlink, hunder⟩ := hsends.spec.2 frame hnew
    refine ⟨address, ?_, hunder⟩
    rintro rfl
    exact hapart hlink

theorem Airs.isApart (h : Airs settings draws meets xs said sent left node)
    (hclean : ∀ node frame, meets node frame → node.IsClean frame) : IsApart sent left node := by
  induction h with
  | start => exact ⟨fun k kept => nofun, by simp, by simp⟩
  | register before fresh ok ih =>
    exact ⟨safeLinks_of_becomes ih.links before.inSpeech.wellFormed (.register ok) fresh nofun,
      ih.left, ih.sent⟩
  | unregister before ok log ih =>
    refine ⟨safeLinks_of_becomes ih.links before.inSpeech.wellFormed (.unregister ok log) trivial
      nofun, fun driver hdriver => ?_, ih.sent⟩
    rcases List.mem_append.1 hdriver with hold | hgone
    · exact ih.left driver hold
    · exact apart_of_unregister ih.links ok driver hgone
  | @receive _ _ _ _ node _ env frame before met log ih =>
    refine ⟨safeLinks_of_becomes ih.links before.inSpeech.wellFormed (.receive env frame log)
      trivial ?_, ih.left, ih.sent⟩
    rintro other arrived heq
    cases heq
    exact hclean node frame met
  | tick env before log ih =>
    exact ⟨safeLinks_of_becomes ih.links before.inSpeech.wellFormed (.tick env log) trivial nofun,
      ih.left, ih.sent⟩
  | takeLog before ih =>
    exact ⟨safeLinks_of_becomes ih.links before.inSpeech.wellFormed .takeLog trivial nofun,
      ih.left, ih.sent⟩
  | @work _ _ _ _ _ node handle registration _ before held sends ih =>
    obtain ⟨status, hentry⟩ := registration?_eq_some_iff.1 held
    have hsafe := ih.links handle _ (enrolled?_eq_some_iff.2 hentry)
    exact ⟨safeLinks_of_becomes ih.links before.inSpeech.wellFormed (.work held sends.works) trivial
      nofun, ih.left, apart_of_sends hsafe.apart sends ih.sent⟩
  | @workAway _ _ _ _ earlier later _ driver worked before sends ih =>
    have hdriver := ih.left driver (by simp)
    refine ⟨ih.links, fun other hother => ?_, apart_of_sends hdriver sends ih.sent⟩
    rcases List.mem_append.1 hother with hearlier | hlater
    · exact ih.left other (List.mem_append_left _ hearlier)
    · rcases List.mem_cons.1 hlater with rfl | hlater
      · rw [sends.spec.1.link]
        exact hdriver
      · exact ih.left other (by simp [hlater])

/-- What a node and its drivers have put on the bus. -/
structure Spoken (xs : List Happening) (said sent : List Bytes) (clean : Prop) : Prop where
  /-- Every frame is read to its last byte. -/
  whole : ∀ frame ∈ said ++ sent, ∃ packet, Packet.decode frame = .ok packet ∧
    packet.toBytes = frame
  /-- What the node sent are control packets: announces of its drivers, announces that came in with
  the conflict flag, and pairing packets. -/
  control : ∀ frame ∈ said, (∃ x ∈ xs, Utterance x frame) ∧
    ∃ cp, ofFrame? frame = some cp ∧ (cp.type = .hello ∨ cp.type = .pairing)
  /-- What drivers sent by themselves did not go out under the logic address, if every frame that
  arrived was clean. -/
  apart : clean → ∀ frame ∈ sent, ∀ packet, Packet.decode frame = .ok packet →
    packet.isControl = false

/-- **Only control packets go out under the logic address**, if every frame that arrives is clean.
In any case everything that is sent is read to its last byte. -/
theorem spoken_of_airs (h : Airs settings draws meets xs said sent left node) :
    Spoken xs said sent (∀ node frame, meets node frame → node.IsClean frame) := by
  have hspeech := h.inSpeech
  have hcontrol : ∀ frame ∈ said, (∃ x ∈ xs, Utterance x frame) ∧ ∃ cp : ControlPacket,
      frame = cp.frame ∧ ofFrame? frame = some cp ∧ (cp.type = .hello ∨ cp.type = .pairing) := by
    intro frame hframe
    obtain ⟨x, hx, hutters⟩ := hspeech.said frame hframe
    exact ⟨⟨x, hx, hutters⟩, hutters.reads⟩
  refine ⟨fun frame hframe => ?_, fun frame hframe => ?_,
    fun hclean frame hframe packet hpacket => ?_⟩
  · rcases List.mem_append.1 hframe with hsaid | hsent
    · obtain ⟨-, cp, rfl, hread, -⟩ := hcontrol frame hsaid
      exact ⟨_, decode_frame (fits_of_ofFrame? hread).1, rfl⟩
    · obtain ⟨address, hunder⟩ := hspeech.sent frame hsent
      obtain ⟨packet, hread, hwhole, -⟩ := hunder.decode
      exact ⟨packet, hread, hwhole⟩
  · obtain ⟨hutters, cp, -, hread, htype⟩ := hcontrol frame hframe
    exact ⟨hutters, cp, hread, htype⟩
  · obtain ⟨address, hpos, hunder⟩ := (h.isApart hclean).sent frame hframe
    obtain ⟨read, hread, -, rfl⟩ := hunder.decode
    rw [hread] at hpacket
    cases hpacket
    simpa [Packet.isControl, controlAddress] using hpos

end

/-- A log client that heard an announce of class 7 at an address. -/
def metByClient (address : UInt8) : Node :=
  (withDriver ⟨.virtual, 7, none, none⟩ (.logger ⟨none⟩)).receiveFrame .taking
    (ControlPacket.hello address 7 2).frame

/-- A short log line. -/
def shortLine : Request := .log .log ['h', 'e', 'l', 'l', 'o']

/-- The frame of the short line, under an address. -/
def lineUnder (address : UInt8) : Bytes :=
  (⟨0, address, [1, 104, 101, 108, 108, 111]⟩ : Packet).toBytes

theorem airs_metByClient {meets : Node → Bytes → Prop} {address : UInt8}
    (hmet : meets (withDriver ⟨.virtual, 7, none, none⟩ (.logger ⟨none⟩))
      (ControlPacket.hello address 7 2).frame)
    (hsent : ((metByClient address).registration? ⟨0, 0⟩).map (fun r =>
      framesOf (r.driver.serve .taking ⟨0, 0⟩ shortLine).actions) = some [lineUnder address]) :
    ∃ xs said left node,
      Airs {} ⟨fun _ => 0, 0⟩ meets xs said [lineUnder address] left node := by
  have hstart : Airs {} ⟨fun _ => 0, 0⟩ meets [] [] [] [] _ := .start
  have hjoined := hstart.register (show (Driver.logger ⟨none⟩).IsFresh from ⟨trivial, rfl⟩)
    (show Node.register ⟨.virtual, 7, none, none⟩ (.logger ⟨none⟩) _ = .ok (⟨0, 0⟩, _) from rfl)
  have hheard := hjoined.receive .taking (ControlPacket.hello address 7 2).frame hmet
    (show (metByClient address).log = [] ++ (metByClient address).log from rfl)
  obtain ⟨registration, hheld, hline⟩ := Option.map_eq_some_iff.1 hsent
  have hsaid := hheard.work hheld (.serve .taking ⟨0, 0⟩ shortLine registration.driver)
  rw [hline] at hsaid
  exact ⟨_, _, _, _, hsaid⟩

/-- A log client that hears an announce of address 0 is connected there, and every peer takes its
next line for a control packet. -/
theorem misread_of_announcedZero :
    (∃ xs said left node, Airs {} ⟨fun _ => 0, 0⟩
      (fun _ frame => frame = (ControlPacket.hello 0 7 2).frame) xs said [lineUnder 0] left node) ∧
    ∃ packet, Packet.decode (lineUnder 0) = .ok packet ∧ packet.isControl = true ∧
      ofFrame? (lineUnder 0) = none :=
  ⟨airs_metByClient rfl (by decide +kernel), ⟨0, 0, [1, 104, 101, 108, 108, 111]⟩, rfl, rfl, rfl⟩

/-- A log client that hears an announce of another address. -/
theorem spoken_of_metClient :
    ∃ xs said left node, Airs {} ⟨fun _ => 0, 0⟩ IsClean xs said [lineUnder 20] left node ∧
      Spoken xs said [lineUnder 20] (∀ node frame, IsClean node frame → IsClean node frame) := by
  have hread : ofFrame? (ControlPacket.hello 20 7 2).frame = some (ControlPacket.hello 20 7 2) := by
    decide +kernel
  have hclean : IsClean (withDriver ⟨.virtual, 7, none, none⟩ (.logger ⟨none⟩))
      (ControlPacket.hello 20 7 2).frame := by
    refine ⟨fun cp hcp => ?_, fun packet k kept hpacket hdata => ?_⟩
    · cases hread.symm.trans (helloOf?_eq_some_iff.1 hcp).1
      decide
    · have hcontrol : Packet.decode (ControlPacket.hello 20 7 2).frame = .ok ⟨0, 0, _⟩ :=
        decode_frame (by decide)
      cases hcontrol.symm.trans hpacket
      cases hdata
  obtain ⟨xs, said, left, node, hairs⟩ := airs_metByClient hclean (by decide +kernel)
  exact ⟨xs, said, left, node, hairs, spoken_of_airs hairs⟩

end Node

end DeviceBus
