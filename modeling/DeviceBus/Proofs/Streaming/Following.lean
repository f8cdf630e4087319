import DeviceBus.Proofs.Links
import DeviceBus.Proofs.Node.Protocol

/-!
# How a stream follows its device

A streaming driver has two addresses: the one in its status, which the node keeps, and its link,
which it sends under. The link of an own driver is the address in its status whenever the driver is
connected. The status of a remote driver moves with the announces of its device, but its link only
moves when the device is connected and when a stream command comes in: until the device that moved
has sent something, requests go to where it was.

## Main results

* `Following.episode`: every episode keeps to this.
* `linkOf_course`: a streaming driver that is no sniffer, in every course of events after its
  registration.
* `stale_of_movedHost`: a remote driver that asks its host under the address that the host left.
-/

namespace DeviceBus

open ControlPacket EventKind

/-! ## Where a device was met -/

/-- The address at which a device is connected. -/
def EventKind.place? : EventKind → Option UInt8
  | connected address => some address
  | _ => none

/-- The address at which a driver hears an announce of its device. -/
def Callback.sighting? : Callback → Option UInt8
  | .control cp => some cp.address
  | _ => none

/-- The address that a driver gets a stream command from. -/
def Callback.contact? : Callback → Option UInt8
  | .data packet => if packet.isCommand then some packet.address else none
  | _ => none

/-- Where a driver's device was met, oldest first: where it was connected, and where the driver was
called from. -/
def placesOf (from? : Callback → Option UInt8) (k : Handle) (log : List Action) : List UInt8 :=
  log.filterMap fun
    | .event e => if e.handle = k then e.kind.place? else none
    | .called handle callback => if handle = k then from? callback else none
    | _ => none

section

variable {from? : Callback → Option UInt8} {k : Handle}

theorem placesOf_append (a b : List Action) :
    placesOf from? k (a ++ b) = placesOf from? k a ++ placesOf from? k b :=
  List.filterMap_append

theorem placesOf_storyOf (log : List Action) :
    placesOf from? k (storyOf k log) = placesOf from? k log := by
  unfold placesOf storyOf
  rw [List.filterMap_filter]
  refine List.filterMap_congr fun action _ => ?_
  cases action with
  | event e =>
    by_cases hk : e.handle = k <;> simp [Action.isAbout, hk]
  | called handle callback =>
    by_cases hk : handle = k <;> simp [Action.isAbout, hk]
  | _ => simp [Action.isAbout]

theorem placesOf_map_report (reports : List EventKind) :
    placesOf from? k (reports.map (.report k)) = reports.filterMap place? := by
  unfold placesOf
  rw [List.filterMap_map]
  exact List.filterMap_congr fun kind _ => if_pos rfl

/-- What a driver reports about its peer is no place of its device. -/
theorem placesOf_sequel (reports : List EventKind) (callback : Callback) {talk : List EventKind}
    (htalk : ∀ kind ∈ talk, kind.concernsPeer = true) :
    placesOf from? k (sequel k reports callback talk) =
      reports.filterMap place? ++ (from? callback).toList := by
  have hnone : talk.filterMap place? = [] := by
    refine List.filterMap_eq_nil_iff.2 fun kind hkind => ?_
    have hpeer := htalk kind hkind
    cases kind <;> simp_all [place?, concernsPeer]
  have hcalled : placesOf from? k (.called k callback :: talk.map (.report k)) =
      (from? callback).toList := by
    have hlist : Action.called k callback :: talk.map (.report k) =
        [.called k callback] ++ talk.map (.report k) := rfl
    rw [hlist, placesOf_append, placesOf_map_report, hnone, List.append_nil]
    cases hfrom : from? callback <;> simp [placesOf, hfrom]
  rw [sequel, placesOf_append, placesOf_map_report, hcalled]

end

namespace Driver

theorem isDiscreet_of_streams {driver : Driver} (h : driver.streams = true) :
    driver.IsDiscreet := by
  cases driver with
  | pairable p => trivial
  | _ => cases h

/-- A streaming driver without a peer takes every stream command that comes in. -/
theorem obeys_of_unpaired {driver : Driver} (h : driver.streams = true)
    (hunpaired : driver.standing = .unpaired) (packet : Packet) :
    driver.obeys packet = packet.isCommand := by
  cases driver with
  | pairable p =>
    have hstate : p.state = .unpaired := hunpaired
    have hstreams : p.gated.streams = true := h
    simp [obeys, Pairable.admits, hstate, hstreams]
  | _ => cases h

end Driver

namespace Node

variable {role : Role} {k : Handle} {x : Happening} {start : Node} {kept before after : Kept}
  {past story : List Action}

/-! ## What becomes of the link -/

section

variable {callback : Callback} {talk : List EventKind}

/-- The reply of a streaming driver leaves its status alone but for its bond. -/
theorem Replies.ofStreams (h : Replies k callback before talk after)
    (hstreams : before.2.driver.streams = true) :
    after.1.address = before.1.address ∧ after.1.isConnected = before.1.isConnected ∧
      after.2.driver.streams = true := by
  have htenancy := (h.discreet (Driver.isDiscreet_of_streams hstreams)).2
  exact ⟨congrArg Tenancy.address htenancy, congrArg Tenancy.isConfirmed htenancy,
    h.kind.1.trans hstreams⟩

end

/-- No episode makes a driver another one. -/
theorem Episode.streams (h : Episode x start k before story after) :
    after.2.driver.streams = before.2.driver.streams := by
  cases h with
  | booked driver => exact congrArg Driver.streams driver
  | told heard replies => exact replies.kind.1
  | moved brings follows replies => exact replies.kind.1
  | adopted brings awaits connected replies => exact replies.kind.1.trans connected.kind.1
  | confirmed own pos onProbation replies => exact replies.kind.1
  | evicted own pos connected replies => exact replies.kind.1
  | vacated remote connected replies => exact replies.kind.1
  | worked works => exact works.sameLink.streams
  | noticed => rfl
  | drawn => rfl
  | lost => rfl

/-! ## Own drivers -/

/-- A connected driver has its own address as link. -/
def IsLinked (kept : Kept) : Prop :=
  kept.1.isConnected = true → kept.2.driver.link? = some kept.1.address

/-- What is told to a connected driver beside the life of its address sets the link to its address
or leaves it alone. -/
theorem IsLinked.told {callback : Callback} {talk : List EventKind} (h : IsLinked before)
    (hstreams : before.2.driver.streams = true) (heard : IsHeard x start k before callback)
    (replies : Replies k callback before talk after) : IsLinked after := by
  intro hconnected
  obtain ⟨haddress, hsame, -⟩ := replies.ofStreams hstreams
  have hlink := h (hsame.symm.trans hconnected)
  rw [replies.link, haddress]
  cases callback with
  | control cp => simp [Driver.linkAfter, hlink]
  | data packet => simp [Driver.linkAfter, hlink]
  | partnerLost => exact hlink
  | connected => exact heard.elim
  | removed => exact heard.elim

/-- The link of an own driver keeps to its address. -/
theorem IsLinked.episode (h : IsLinked before) (hstreams : before.2.driver.streams = true)
    (hmode : DeviceFlags.mode before.1.flags = role.flags) (hlocal : role.isLocal = true)
    (hepisode : Episode x start k before story after) : IsLinked after := by
  have hnever : ∀ status : Status, DeviceFlags.mode status.flags = role.flags →
      status.isVirtual ≠ true := by
    intro status hstatus hvirtual
    rw [eq_virtual_of_mode hstatus hvirtual] at hlocal
    cases hlocal
  cases hepisode with
  | booked driver =>
    unfold IsLinked
    rw [driver]
    exact h
  | @noticed _ later _ tenancy =>
    intro hconnected
    have haddress : later.address = _ := congrArg Tenancy.address tenancy
    have hsame : later.isConnected = _ := congrArg Tenancy.isConfirmed tenancy
    rw [haddress]
    exact h (hsame.symm.trans hconnected)
  | told heard replies => exact h.told hstreams heard replies
  | moved brings follows => exact absurd (follows_iff.1 follows).1 (hnever _ hmode)
  | adopted brings awaits => exact absurd (awaits_iff.1 awaits).1 (hnever _ hmode)
  | vacated remote => exact absurd remote (hnever _ hmode)
  | @drawn address status =>
    intro hconnected
    have hnot := congrArg Tenancy.isConfirmed (Status.tenancy_draw status address)
    exact absurd (hnot.symm.trans hconnected) Bool.false_ne_true
  | confirmed own pos onProbation replies =>
    intro hconnected
    obtain ⟨haddress, -, -⟩ := replies.ofStreams hstreams
    rw [replies.link, haddress]
    simp [Driver.linkAfter, hstreams]
  | @lost status =>
    intro hconnected
    have hnot := congrArg Tenancy.isConfirmed (Status.tenancy_release status)
    exact absurd (hnot.symm.trans hconnected) Bool.false_ne_true
  | @evicted status _ _ _ own pos connected replies =>
    intro hconnected
    have hnot := congrArg Tenancy.isConfirmed (Status.tenancy_release status)
    obtain ⟨-, hsame, -⟩ := replies.ofStreams hstreams
    exact absurd (hnot.symm.trans (hsame.symm.trans hconnected)) Bool.false_ne_true
  | worked works =>
    intro hconnected
    exact works.sameLink.link.trans (h hconnected)

/-! ## Remote drivers -/

/-- The link of a driver is where its device was last spoken to, and its status shows where the
device was last seen. -/
structure Trails (k : Handle) (kept : Kept) (story : List Action) : Prop where
  met : kept.2.driver.link?.isSome = true
  link : kept.2.driver.link? = (placesOf Callback.contact? k story).getLast?
  seen : (placesOf Callback.sighting? k story).getLast? = some kept.1.address

/-- Where nothing about the device happened, nothing changes. -/
theorem Trails.still (h : Trails k before past)
    (hlink : after.2.driver.link? = before.2.driver.link?)
    (haddress : after.1.address = before.1.address)
    (hcontacts : placesOf Callback.contact? k story = [])
    (hsightings : placesOf Callback.sighting? k story = []) : Trails k after (past ++ story) where
  met := hlink ▸ h.met
  link := by rw [hlink, placesOf_append, hcontacts, List.append_nil, h.link]
  seen := by rw [haddress, placesOf_append, hsightings, List.append_nil, h.seen]

/-- A remote driver hears data from its device only. -/
theorem hears_of_virtual {status : Status} {registration : Registration} {address : UInt8}
    {classes : List DeviceClass} (hmode : DeviceFlags.mode status.flags = Role.virtual.flags)
    (hfair : registration.driver.Fair status)
    (h : hears address classes status registration = true) :
    status.isConnected = true ∧ status.address = address ∧
      registration.driver.standing = .unpaired := by
  have hremote : status.isLocal = false := isLocal_of_mode hmode
  have hnarrow : status.isBroadcast = false :=
    (DeviceFlags.contains_mode status.flags (by decide)).symm.trans (by rw [hmode]; decide)
  have hunpaired := hfair.remote hremote
  have hnobody : registration.driver.partner? = none := by
    rw [Driver.partner?_eq_peer hfair.ordinary, hunpaired]
    rfl
  have hdirect : status.isConnected = true ∧ status.address = address := by
    simpa [hears, hnarrow, hnobody] using h
  exact ⟨hdirect.1, hdirect.2, hunpaired⟩

/-- A remote driver is told of data from its device and of the loss of a partner, and of nothing
else that does not follow from what becomes of the device. -/
theorem Trails.told {callback : Callback} {talk : List EventKind}
    (hstreams : before.2.driver.streams = true)
    (hmode : DeviceFlags.mode before.1.flags = Role.virtual.flags)
    (hfair : ∃ stance, start.Keeps k stance) (heard : IsHeard x start k before callback)
    (replies : Replies k callback before talk after)
    (h : before.1.isConnected = true → Trails k before past)
    (hconnected : after.1.isConnected = true) :
    Trails k after (past ++ sequel k [] callback talk) := by
  obtain ⟨haddress, hsame, -⟩ := replies.ofStreams hstreams
  have hbefore := h (hsame.symm.trans hconnected)
  cases callback with
  | control cp =>
    -- its own announces come with a move; any other is shown to own and wide drivers only
    have hremote : before.1.isLocal = false := isLocal_of_mode hmode
    have hnarrow : before.1.isBroadcast = false :=
      (DeviceFlags.contains_mode before.1.flags (by decide)).symm.trans (by rw [hmode]; decide)
    rcases heard with hlocal | hbroadcast
    · exact absurd (hremote.symm.trans hlocal) Bool.false_ne_true
    · exact absurd (hnarrow.symm.trans hbroadcast) Bool.false_ne_true
  | data packet =>
    obtain ⟨-, hkept, hhears⟩ := heard
    obtain ⟨stance, status, registration, hheld, hfair, -⟩ := hfair
    rw [hkept] at hheld
    cases hheld
    obtain ⟨-, hfrom, hunpaired⟩ := hears_of_virtual hmode hfair hhears
    have hcontacts : placesOf Callback.contact? k (sequel k [] (.data packet) talk) =
        if packet.isCommand then [packet.address] else [] := by
      rw [placesOf_sequel [] _ replies.peer]
      cases hcommand : packet.isCommand <;> simp [Callback.contact?, hcommand]
    have hlink : after.2.driver.link? =
        if packet.isCommand then some status.address else registration.driver.link? := by
      rw [replies.link]
      simp only [Driver.linkAfter, Driver.obeys_of_unpaired hstreams hunpaired]
    cases hcommand : packet.isCommand with
    | true =>
      rw [hcommand, if_pos rfl] at hcontacts hlink
      refine ⟨by rw [hlink]; rfl, ?_, ?_⟩
      · rw [hlink, placesOf_append, hcontacts, List.getLast?_concat, hfrom]
      · rw [placesOf_append, placesOf_sequel [] _ replies.peer, haddress]
        simpa [Callback.sighting?] using hbefore.seen
    | false =>
      rw [hcommand, if_neg Bool.false_ne_true] at hcontacts hlink
      exact hbefore.still hlink haddress hcontacts (placesOf_sequel [] _ replies.peer)
  | partnerLost =>
    exact hbefore.still replies.link haddress (placesOf_sequel [] _ replies.peer)
      (placesOf_sequel [] _ replies.peer)
  | connected => exact heard.elim
  | removed => exact heard.elim

/-- The link of a remote driver trails behind its device. -/
theorem Trails.episode (hstreams : before.2.driver.streams = true)
    (hmode : DeviceFlags.mode before.1.flags = Role.virtual.flags)
    (hfair : ∃ stance, start.Keeps k stance)
    (h : before.1.isConnected = true → Trails k before past)
    (hepisode : Episode x start k before story after) (hconnected : after.1.isConnected = true) :
    Trails k after (past ++ story) := by
  have hremote : before.1.isLocal = false := isLocal_of_mode hmode
  have hnever : before.1.isLocal ≠ true := fun hlocal =>
    Bool.false_ne_true (hremote.symm.trans hlocal)
  cases hepisode with
  | booked driver => exact (h hconnected).still (congrArg _ driver) rfl rfl rfl
  | noticed tenancy =>
    have hsame := congrArg Tenancy.isConfirmed tenancy
    exact (h (hsame.symm.trans hconnected)).still rfl (congrArg Tenancy.address tenancy) rfl rfl
  | told heard replies => exact Trails.told hstreams hmode hfair heard replies h hconnected
  | @moved cp status registration _ talk brings follows replies =>
    obtain ⟨haddress, -, -⟩ := replies.ofStreams hstreams
    have hbefore := h (follows_iff.1 follows).2.1
    have hlink : after.2.driver.link? = registration.driver.link? := by
      rw [replies.link]
      simp [Driver.linkAfter, Driver.isLogger_of_streams hstreams]
    refine ⟨hlink ▸ hbefore.met, ?_, ?_⟩
    · rw [hlink, placesOf_append, placesOf_sequel [] _ replies.peer]
      simpa [Callback.contact?] using hbefore.link
    · rw [haddress, placesOf_append, placesOf_sequel [] _ replies.peer]
      simp [Callback.sighting?, Status.followed]
  | @adopted cp status registration mid _ talk more brings awaits connected replies =>
    obtain ⟨hmid, -, hstreams'⟩ := connected.ofStreams hstreams
    obtain ⟨haddress, -, -⟩ := replies.ofStreams hstreams'
    have hlink : after.2.driver.link? = some cp.address := by
      rw [replies.link]
      simp only [Driver.linkAfter, Driver.isLogger_of_streams hstreams', Bool.false_eq_true,
        if_false]
      rw [connected.link]
      simp [Driver.linkAfter, hstreams, Status.found]
    refine ⟨by rw [hlink]; rfl, ?_, ?_⟩
    · rw [hlink, placesOf_append, placesOf_append, placesOf_sequel _ _ connected.peer,
        placesOf_sequel [] _ replies.peer]
      simp [Callback.contact?, place?]
    · rw [haddress, hmid, placesOf_append, placesOf_append,
        placesOf_sequel _ _ connected.peer, placesOf_sequel [] _ replies.peer]
      simp [Callback.sighting?, Status.found]
  | vacated remote connected replies =>
    obtain ⟨-, hsame, -⟩ := replies.ofStreams hstreams
    have hnot := hsame.trans (Status.isConnected_vacated _ _)
    exact absurd (hnot.symm.trans hconnected) Bool.false_ne_true
  | drawn own => exact absurd own hnever
  | confirmed own => exact absurd own hnever
  | lost own => exact absurd own hnever
  | evicted own => exact absurd own hnever
  | worked works => exact (h hconnected).still works.sameLink.link rfl rfl rfl

/-! ## Both -/

/-- What holds of a streaming driver that was registered with a role, and of its story. -/
structure Following (role : Role) (k : Handle) (kept : Kept) (story : List Action) : Prop where
  streams : kept.2.driver.streams = true
  mode : DeviceFlags.mode kept.1.flags = role.flags
  own : role.isLocal = true → IsLinked kept
  remote : role = .virtual → kept.1.isConnected = true → Trails k kept story

/-- **Every episode keeps to this.** -/
theorem Following.episode (h : Following role k before past)
    (hfair : ∃ stance, start.Keeps k stance) (hepisode : Episode x start k before story after) :
    Following role k after (past ++ story) where
  streams := hepisode.streams.trans h.streams
  mode := (hepisode.advances (Driver.isDiscreet_of_streams h.streams) h.mode).2.mode_eq.trans h.mode
  own hlocal := (h.own hlocal).episode h.streams h.mode hlocal hepisode
  remote := by
    rintro rfl
    exact Trails.episode h.streams h.mode hfair (h.remote rfl) hepisode

/-- The link of a streaming driver. -/
structure LinkOf (role : Role) (k : Handle) (trace : List Action) (status : Status)
    (driver : Driver) : Prop where
  /-- A connected driver has a link. -/
  linked : status.isConnected = true → driver.link?.isSome = true
  /-- The link of an own driver is its address. -/
  own : role.isLocal = true → status.isConnected = true → driver.link? = some status.address
  /-- The link of a remote driver is the address that its device was last spoken to at; its status
  has the one that the device was last seen at. -/
  remote : role = .virtual → status.isConnected = true →
    driver.link? = (placesOf Callback.contact? k trace).getLast? ∧
      some status.address = (placesOf Callback.sighting? k trace).getLast?
  /-- States and requests go out under the link, and only under a link. -/
  sends : ∀ frames after, driver.Sends frames after → AreUnder driver.link? frames

/-- **The link of every streaming driver that is no sniffer**, whatever happens to its node after
its registration: an own driver sends under its address, a remote one under the address that it was
last spoken to at. -/
theorem linkOf_course {settings : NodeSettings} {draws : Draws} {ys xs : List Happening}
    {node joined last : Node} {profile : DriverProfile} {driver : Driver} {handle : Handle}
    {trace : List Action} (hbefore : Comes settings draws (fun _ => True) ys node)
    (hregister : node.register profile driver = .ok (handle, joined))
    (hrole : profile.role ≠ .sniffer) (hstreams : driver.streams = true)
    (hunbonded : driver.IsUnbonded)
    (hcourse : Course (fun _ => True) (fun _ => True) joined xs trace last)
    (hstays : ∀ env, .unregister env handle ∉ xs) :
    ∃ status registration, last.enrolled? handle = some (status, registration) ∧
      LinkOf profile.role handle trace status registration.driver := by
  have hjoins := joins_register hregister
  have wf := hjoins.wellFormed hbefore.wellFormed
  have hordinary : driver.IsOrdinary := by
    cases driver with
    | pairable p => trivial
    | _ => cases hstreams
  have hunconnected : (newcomer node.settings profile driver).1.isConnected = false :=
    congrArg Tenancy.isConfirmed (tenancy_startStatus node.settings hrole)
  have hstart : Following profile.role handle (newcomer node.settings profile driver) [] := by
    refine ⟨hstreams, mode_startStatus node.settings profile, fun _ hconnected => ?_,
      fun _ hconnected => ?_⟩
    · exact absurd (hunconnected.symm.trans hconnected) Bool.false_ne_true
    · exact absurd (hunconnected.symm.trans hconnected) Bool.false_ne_true
  obtain ⟨⟨status, registration⟩, hkept, hfollowing⟩ :=
    (hcourse.keeps wf (hjoins.keeps hordinary hunbonded) hstays).preserves wf hjoins.newcomer
      hstays hstart fun hstay hpast hepisode => hpast.episode hstay.2.2 hepisode
  have hremote : profile.role = .virtual → status.isConnected = true →
      Trails handle (status, registration) (storyOf handle trace) := hfollowing.remote
  refine ⟨status, registration, hkept, ?_, hfollowing.own, fun hvirtual hconnected => ?_,
    fun frames after hsends => hsends.spec.2⟩
  · intro hconnected
    by_cases hlocal : profile.role.isLocal = true
    · have hlink : registration.driver.link? = some status.address :=
        hfollowing.own hlocal hconnected
      rw [hlink]
      rfl
    · have hvirtual : profile.role = .virtual := by
        revert hrole hlocal
        cases profile.role <;> decide
      exact (hremote hvirtual hconnected).met
  · obtain ⟨-, hlink, hseen⟩ := hremote hvirtual hconnected
    rw [placesOf_storyOf] at hlink
    rw [placesOf_storyOf] at hseen
    exact ⟨hlink, hseen.symm⟩

/-- A remote driver whose host moved: it is connected, its status shows the new address, and it asks
the host to stop under the old one. -/
theorem stale_of_movedHost :
    let stream : Streamer := .create {} 0 [] false false
    let joined := withDriver ⟨.virtual, 7, none, none⟩ (.pairable (.ofGated (.streamer stream)))
    let happened : List Happening :=
      [.receive .taking (ControlPacket.hello 20 7 2).frame,
        .receive .taking (ControlPacket.hello 30 7 2).frame]
    ∃ trace last, Course (fun _ => True) (fun _ => True) joined happened trace last ∧
      (last.enrolled? ⟨0, 0⟩).map (fun kept =>
        (kept.1.isConnected, kept.1.address, kept.2.driver.link?,
          framesOf (kept.2.driver.serve .taking ⟨0, 0⟩ .askStop).actions)) =
      some (true, 30, some 20, [(⟨0, 20, [2]⟩ : Packet).toBytes]) := by
  intro stream joined happened
  have hstart : Course (fun _ => True) (fun _ => True) joined [] [] joined := .here trivial
  obtain ⟨met, hmet⟩ := hstart.receive .taking (ControlPacket.hello 20 7 2).frame trivial
  obtain ⟨trace, hmoved⟩ := hmet.receive .taking (ControlPacket.hello 30 7 2).frame trivial
  exact ⟨trace, _, hmoved, by decide +kernel⟩

/-- A remote driver whose host moved and then sent a state. -/
theorem linkOf_spokenTo :
    let stream : Streamer := .create {} 0 [] false false
    let driver : Driver := .pairable (.ofGated (.streamer stream))
    let joined := withDriver ⟨.virtual, 7, none, none⟩ driver
    let happened : List Happening :=
      [.receive .taking (ControlPacket.hello 20 7 2).frame,
        .receive .taking (ControlPacket.hello 30 7 2).frame,
        .receive .taking (⟨0, 30, [3, 0, 0, 0, 0, 1]⟩ : Packet).toBytes]
    ∃ trace last, Course (fun _ => True) (fun _ => True) joined happened trace last ∧
      placesOf Callback.contact? ⟨0, 0⟩ trace = [20, 30] ∧
      placesOf Callback.sighting? ⟨0, 0⟩ trace = [20, 20, 30] ∧
      ∃ status registration, last.enrolled? ⟨0, 0⟩ = some (status, registration) ∧
        LinkOf .virtual ⟨0, 0⟩ trace status registration.driver := by
  intro stream driver joined happened
  have hstart : Course (fun _ => True) (fun _ => True) joined [] [] joined := .here trivial
  obtain ⟨met, hmet⟩ := hstart.receive .taking (ControlPacket.hello 20 7 2).frame trivial
  obtain ⟨moved, hmoved⟩ := hmet.receive .taking (ControlPacket.hello 30 7 2).frame trivial
  obtain ⟨trace, hcourse⟩ := hmoved.receive .taking
    (⟨0, 30, [3, 0, 0, 0, 0, 1]⟩ : Packet).toBytes trivial
  have hlog : _ = trace := hcourse.log_eq (by simp)
  have hregister : (withDraws {} ⟨fun _ => 0, 0⟩).register ⟨.virtual, 7, none, none⟩ driver =
      .ok (⟨0, 0⟩, joined) := rfl
  have hrole : Role.virtual ≠ .sniffer := by decide
  have hstays : ∀ env, .unregister env ⟨0, 0⟩ ∉ happened := by simp [happened]
  refine ⟨trace, _, hcourse, ?_, ?_,
    linkOf_course Comes.start hregister hrole rfl rfl hcourse hstays⟩
  · rw [← hlog]
    decide +kernel
  · rw [← hlog]
    decide +kernel

end Node

end DeviceBus
