import DeviceBus.Proofs.Node.Collision
import DeviceBus.Proofs.Node.Remotes

/-!
# The story of a driver

What a log tells about one driver, in the order in which it happened, is the driver's story: what
was reported about it and what it was told. A story is made of episodes. An `Episode` is one thing
that can happen to a driver, with what the node kept of the driver before and afterwards, and the
actions about the driver that go with it.

`Chronicle` says what a part of a step makes of a driver; it `Tells` a story if its chronicle is
made of episodes.

## Main results

* `Driver.talk_respond`: all that a driver reports by itself is about its peer.
* `chronicle_call`, `tells_call`: what a call makes of the driver that is called.
-/

namespace DeviceBus

open ControlPacket EventKind

/-! ## What a log tells about a driver -/

namespace Action

/-- A report about a driver. -/
abbrev report (k : Handle) (kind : EventKind) : Action := .event ⟨k, kind⟩

/-- Whether an action is a report about a driver or a call of it. -/
def isAbout (k : Handle) : Action → Bool
  | .event e => e.handle == k
  | .called handle _ => handle == k
  | _ => false

end Action

/-- What a log tells about a driver, oldest first. -/
def storyOf (k : Handle) (log : List Action) : List Action := log.filter (Action.isAbout k)

/-- Something is reported about a driver, then the driver is told something, and then it reports
something itself. -/
def sequel (k : Handle) (reports : List EventKind) (callback : Callback) (talk : List EventKind) :
    List Action :=
  reports.map (.report k) ++ .called k callback :: talk.map (.report k)

variable {k : Handle}

@[simp] theorem storyOf_append (k : Handle) (a b : List Action) :
    storyOf k (a ++ b) = storyOf k a ++ storyOf k b :=
  List.filter_append ..

@[simp] theorem storyOf_report (k : Handle) (kind : EventKind) :
    storyOf k [.report k kind] = [.report k kind] := by
  simp [storyOf, Action.isAbout]

@[simp] theorem storyOf_called (k : Handle) (callback : Callback) (log : List Action) :
    storyOf k (.called k callback :: log) = .called k callback :: storyOf k log := by
  simp [storyOf, Action.isAbout]

theorem reportsOf_storyOf (k : Handle) (log : List Action) :
    reportsOf k (storyOf k log) = reportsOf k log := by
  unfold reportsOf storyOf
  rw [List.filterMap_filter]
  refine List.filterMap_congr fun action _ => ?_
  cases action with
  | event e => simp [Action.isAbout, Action.report?]
  | _ => simp [Action.report?]

theorem callsOf_storyOf (k : Handle) (log : List Action) :
    callsOf k (storyOf k log) = callsOf k log := by
  unfold callsOf storyOf
  rw [List.filterMap_filter]
  refine List.filterMap_congr fun action _ => ?_
  cases action with
  | called handle callback => simp [Action.isAbout, Action.call?]
  | _ => simp [Action.call?]

/-- Who is neither reported about nor called has no story. -/
theorem storyOf_eq_nil {log : List Action} (hreports : reportsOf k log = [])
    (hcalls : callsOf k log = []) : storyOf k log = [] := by
  rw [reportsOf, List.filterMap_eq_nil_iff] at hreports
  rw [callsOf, List.filterMap_eq_nil_iff] at hcalls
  refine List.filter_eq_nil_iff.2 fun action haction => ?_
  have hreport := hreports action haction
  have hcall := hcalls action haction
  cases action with
  | event e => simpa [Action.isAbout, Action.report?] using hreport
  | called handle callback => simpa [Action.isAbout, Action.call?] using hcall
  | _ => simp [Action.isAbout]

/-- What a driver adds by itself is its own reports. -/
theorem storyOf_of_isOwn {added : List Action} (h : ∀ action ∈ added, action.IsOwn k) :
    storyOf k added = (reportsOf k added).map (.report k) := by
  induction added with
  | nil => rfl
  | cons action rest ih =>
    have hrest := ih fun other hother => h other (List.mem_cons_of_mem _ hother)
    have hown := h action List.mem_cons_self
    cases action with
    | event e =>
      obtain ⟨handle, kind⟩ := e
      obtain ⟨rfl, -⟩ : handle = k ∧ _ := hown
      show storyOf handle ([.report handle kind] ++ rest) =
        (reportsOf handle ([.report handle kind] ++ rest)).map _
      rw [storyOf_append, reportsOf_append, storyOf_report, reportsOf_event_self, List.map_append,
        hrest]
      rfl
    | called handle callback => exact hown.elim
    | _ => exact hrest

namespace Status

/-- That a sighting is over is no matter of the tenancy. -/
theorem tenancy_unmark_seen (status : Status) :
    status.unseen.tenancy = status.tenancy := by
  have hmode : DeviceFlags.mode (status.unmark DeviceFlags.seen).flags =
      DeviceFlags.mode status.flags := DeviceFlags.mode_remove status.flags (by decide)
  have hconfirmed : (status.unmark DeviceFlags.seen).isConfirmed = status.isConfirmed :=
    Flags.contains_remove_of_disjoint status.flags (by decide)
  have hunconfirmed : (status.unmark DeviceFlags.seen).isUnconfirmed = status.isUnconfirmed :=
    Flags.contains_remove_of_disjoint status.flags (by decide)
  show Tenancy.mk _ _ (DeviceFlags.mode (status.unmark DeviceFlags.seen).flags)
    (status.unmark DeviceFlags.seen).isConfirmed (status.unmark DeviceFlags.seen).isUnconfirmed = _
  rw [hmode, hconfirmed, hunconfirmed]
  rfl

end Status

/-! ## Replies -/

/-- The trace grew by actions that are no events. -/
def Context.IsMute (before after : Context) : Prop :=
  ∃ added, before.Extends after added ∧ eventsOf added = []

namespace Context

theorem IsMute.refl (ctx : Context) : ctx.IsMute ctx := ⟨[], .refl ctx, rfl⟩

theorem IsMute.trans {a b c : Context} (hab : a.IsMute b) (hbc : b.IsMute c) : a.IsMute c := by
  obtain ⟨x, hx, hnone⟩ := hab
  obtain ⟨y, hy, hnone'⟩ := hbc
  exact ⟨x ++ y, hx.trans hy, by rw [eventsOf_append, hnone, hnone']; rfl⟩

theorem isMute_note (ctx : Context) (note : Note) : ctx.IsMute (ctx.note note) :=
  ⟨[.noted note], extends_trace ctx _, rfl⟩

theorem isMute_conclude (ctx : Context) (result : Except BusError Bytes) :
    ctx.IsMute (ctx.conclude result).2 := by
  cases result with
  | ok frame => exact ⟨[.sent frame], extends_trace ctx _, rfl⟩
  | error e => exact .refl ctx

theorem isMute_send (ctx : Context) (data : Bytes) : ctx.IsMute (ctx.send data).2 := by
  unfold send
  split
  · exact .refl ctx
  · exact ctx.isMute_conclude _

theorem isMute_askToPair (ctx : Context) (target : Identity) :
    ctx.IsMute (ctx.askToPair target).2 := by
  unfold askToPair
  split
  · exact ctx.isMute_conclude _
  · exact .refl ctx

end Context

/-- A probe reports nothing. -/
theorem Probe.isMute_respond (probe : Probe) (callback : Callback) (ctx : Context) :
    ctx.IsMute (probe.respond callback ctx).2 := by
  cases callback with
  | control cp =>
    exact (ctx.isMute_note (.control ctx.handle cp)).trans
      ⟨[], ⟨rfl, rfl, (List.append_nil _).symm⟩, rfl⟩
  | data packet =>
    refine (ctx.isMute_note (.data ctx.handle packet)).trans ?_
    show (ctx.note (.data ctx.handle packet)).IsMute (probe.answer _)
    unfold answer
    split
    · exact .refl _
    · exact (Context.isMute_send _ _).trans (Context.isMute_note _ _)
  | connected =>
    refine (ctx.isMute_note (.connected ctx.handle ctx.status)).trans ?_
    show (ctx.note (.connected ctx.handle ctx.status)).IsMute (probe.ask _)
    unfold ask
    split
    · exact .refl _
    · exact (Context.isMute_askToPair _ _).trans (Context.isMute_note _ _)
  | removed => exact ctx.isMute_note _
  | partnerLost => exact ctx.isMute_note _

/-- Whatever a driver is told, all that it reports is about its peer. -/
theorem Driver.talk_respond (driver : Driver) (callback : Callback) (ctx : Context) :
    ∃ (added : List Action) (talk : List EventKind),
      ctx.Extends (driver.respond callback ctx).context added ∧
      storyOf ctx.handle added = talk.map (.report ctx.handle) ∧
      ∀ kind ∈ talk, kind.concernsPeer = true := by
  obtain ⟨added, hadded, hown⟩ := driver.respond_adds callback ctx
  refine ⟨added, reportsOf ctx.handle added, hadded, storyOf_of_isOwn hown, fun kind hkind => ?_⟩
  have hsame : ∀ {other : List Action}, ctx.Extends (driver.respond callback ctx).context other →
      other = added :=
    fun hother => List.append_cancel_left (hother.log.symm.trans hadded.log)
  have hevent : ⟨ctx.handle, kind⟩ ∈ eventsOf added := by
    rw [reportsOf_eq_filterMap, List.mem_filterMap] at hkind
    obtain ⟨event, hmem, hkind⟩ := hkind
    split at hkind
    · rename_i hhandle
      cases hkind
      rw [← hhandle]
      exact hmem
    · cases hkind
  by_cases hordinary : driver.IsOrdinary
  · obtain ⟨other, hother, hpeer⟩ := Driver.events_respond hordinary callback ctx
    rw [hsame hother] at hpeer
    exact hpeer _ hevent
  · cases driver with
    | probe p =>
      obtain ⟨other, hother, hnone⟩ := p.isMute_respond callback ctx
      rw [hsame hother] at hnone
      rw [hnone] at hevent
      cases hevent
    | _ => exact absurd trivial hordinary

/-- What a node keeps of a driver. -/
abbrev Kept := Status × Registration

namespace Node

/-- What a driver makes of something it is told: its status, what it is afterwards, and what it
reports, which is all about its peer. -/
structure Replies (k : Handle) (callback : Callback) (before : Kept) (talk : List EventKind)
    (after : Kept) : Prop where
  place : ∃ ctx : Context, ctx.handle = k ∧ ctx.status = before.1 ∧
    after = ((before.2.driver.respond callback ctx).context.status,
      { before.2 with driver := (before.2.driver.respond callback ctx).driver })
  peer : ∀ kind ∈ talk, kind.concernsPeer = true

/-! ## Episodes -/

end Node

namespace Happening

/-- An announce arrives. -/
def Brings (cp : ControlPacket) (x : Happening) : Prop :=
  ∃ env frame, x = .receive env frame ∧ helloOf? frame = some cp

/-- A data packet arrives. -/
def Carries (packet : Packet) (x : Happening) : Prop :=
  ∃ env frame, x = .receive env frame ∧ Packet.decode frame = .ok packet ∧
    packet.isControl = false

end Happening

namespace Node

/-- When a driver is told something that does not follow from what becomes of its device: a control
packet only if it owns an address or hears its class, data only if it hears it when it arrives. -/
def IsHeard (x : Happening) (start : Node) (k : Handle) (kept : Kept) : Callback → Prop
  | .control _ => kept.1.isLocal = true ∨ kept.1.isBroadcast = true
  | .data packet => x.Carries packet ∧ start.enrolled? k = some kept ∧
      hears packet.address (start.classesAt packet.address) kept.1 kept.2 = true
  | .partnerLost => True
  | .connected | .removed => False

/-- What can happen to a driver when something happens to its node: what the node keeps of the
driver before, the actions about the driver, and what the node keeps of it afterwards. -/
inductive Episode (x : Happening) (start : Node) (k : Handle) :
    Kept → List Action → Kept → Prop where
  /-- Something is booked beside the driver. -/
  | booked {status : Status} {before after : Registration} (driver : after.driver = before.driver)
      (serial : after.requiredSerial = before.requiredSerial) :
      Episode x start k (status, before) [] (status, after)
  /-- The driver is seen, or a tick is counted. -/
  | noticed {before after : Status} {registration : Registration}
      (tenancy : after.tenancy = before.tenancy) :
      Episode x start k (before, registration) [] (after, registration)
  /-- The driver is told something that is no matter of its device. -/
  | told {callback : Callback} {before after : Kept} {talk : List EventKind}
      (heard : IsHeard x start k before callback) (replies : Replies k callback before talk after) :
      Episode x start k before (sequel k [] callback talk) after
  /-- The device of a remote driver announced itself, maybe at another address. -/
  | moved {cp : ControlPacket} {status : Status} {registration : Registration} {after : Kept}
      {talk : List EventKind} (brings : x.Brings cp) (follows : follows cp status = true)
      (replies : Replies k (.control cp)
        (status.followed cp, registration) talk after) :
      Episode x start k (status, registration) (sequel k [] (.control cp) talk) after
  /-- A remote driver is connected to an announced device. -/
  | adopted {cp : ControlPacket} {status : Status} {registration : Registration}
      {mid after : Kept} {talk more : List EventKind} (brings : x.Brings cp)
      (awaits : awaits cp status = true)
      (connected : Replies k .connected (status.found cp, registration) talk mid)
      (replies : Replies k (.control cp) mid more after) :
      Episode x start k (status, registration)
        (sequel k [.connected cp.address] .connected talk ++ sequel k [] (.control cp) more) after
  /-- An own driver gets an address. -/
  | drawn {address : UInt8} {status : Status} {registration : Registration}
      (own : status.isLocal = true) (without : status.address = 0) (pos : address ≠ 0)
      (le : address.toNat ≤ 254) :
      Episode x start k (status, registration) [.report k (.addressDrawn address)]
        (status.drew address, registration)
  /-- The address of an own driver is confirmed. -/
  | confirmed {status : Status} {registration : Registration} {after : Kept}
      {talk : List EventKind} (own : status.isLocal = true) (pos : status.address ≠ 0)
      (onProbation : status.isUnconfirmed = true)
      (replies : Replies k .connected
        (status.settled, registration) talk after) :
      Episode x start k (status, registration)
        (sequel k [.connected status.address] .connected talk) after
  /-- An own driver loses an address that was not confirmed. -/
  | lost {status : Status} {registration : Registration} (own : status.isLocal = true)
      (pos : status.address ≠ 0) (unconnected : status.isConnected = false) :
      Episode x start k (status, registration) [.report k (.addressLost status.address)]
        (status.released, registration)
  /-- An own driver loses its confirmed address. -/
  | evicted {status : Status} {registration : Registration} {after : Kept}
      {talk : List EventKind} (own : status.isLocal = true) (pos : status.address ≠ 0)
      (connected : status.isConnected = true)
      (replies : Replies k .removed (status.released, registration) talk after) :
      Episode x start k (status, registration)
        (sequel k [.addressLost status.address, .removed] .removed talk) after
  /-- The device of a remote driver is gone. -/
  | vacated {status : Status} {registration : Registration} {after : Kept}
      {talk : List EventKind} (remote : status.isVirtual = true)
      (connected : status.isConnected = true)
      (replies : Replies k .removed (status.vacated registration.requiredSerial, registration)
        talk after) :
      Episode x start k (status, registration) (sequel k [.removed] .removed talk) after
  /-- The driver works without its node. -/
  | worked {status : Status} {registration : Registration} {driver : Driver}
      (works : registration.driver.Works driver) :
      Episode x start k (status, registration) [] (status, { registration with driver })

/-- Episodes, one after the other. -/
inductive Story (x : Happening) (start : Node) (k : Handle) (first : Kept) :
    List Action → Kept → Prop where
  | still : Story x start k first [] first
  | more {story added : List Action} {mid last : Kept} (before : Story x start k first story mid)
      (episode : Episode x start k mid added last) : Story x start k first (story ++ added) last

section

variable {x : Happening} {start : Node} {first mid last : Kept} {story added : List Action}

theorem Episode.toStory (h : Episode x start k first story last) :
    Story x start k first story last :=
  .more .still h

theorem Story.trans (h : Story x start k first story mid) (h' : Story x start k mid added last) :
    Story x start k first (story ++ added) last := by
  induction h' with
  | still => rwa [List.append_nil]
  | more _ episode ih =>
    rw [← List.append_assoc]
    exact .more ih episode

end

/-! ## What a part of a step makes of a driver -/

/-- What a part of a step makes of a driver: what the node keeps of it afterwards, and what the log
then tells about it. -/
structure Chronicle (k : Handle) (before after : Node) (later : Kept) (story : List Action) :
    Prop where
  later : after.enrolled? k = some later
  trace : ∃ added, after.log = before.log ++ added ∧ storyOf k added = story

variable {node : Node} {kept later : Kept} {status : Status} {registration : Registration}

theorem Chronicle.refl (h : node.enrolled? k = some kept) : Chronicle k node node kept [] :=
  ⟨h, [], (List.append_nil _).symm, rfl⟩

theorem Chronicle.trans {first second third : Node} {mid : Kept} {story more : List Action}
    (h : Chronicle k first second mid story) (h' : Chronicle k second third later more) :
    Chronicle k first third later (story ++ more) := by
  obtain ⟨xs, hxs, hstory⟩ := h.trace
  obtain ⟨ys, hys, hmore⟩ := h'.trace
  refine ⟨h'.later, xs ++ ys, by rw [hys, hxs, List.append_assoc], ?_⟩
  rw [storyOf_append, hstory, hmore]

/-- Whom a part of a step does not concern stays as it is. -/
theorem chronicle_of_spares {who : Handle → Prop} {after : Node} (h : node.enrolled? k = some kept)
    (hspares : Spares who node after) (hk : who k) : Chronicle k node after kept [] := by
  obtain ⟨added, hlog, hnone⟩ := hspares.trace
  obtain ⟨hreports, hcalls⟩ := hnone k hk
  exact ⟨(hspares.enrolled? k hk).trans h, added, hlog, storyOf_eq_nil hreports hcalls⟩

theorem chronicle_modifyStatus (h : node.enrolled? k = some (status, registration))
    (change : Status → Status) :
    Chronicle k node (node.modifyStatus k change) (change status, registration) [] :=
  ⟨enrolled?_modifyStatus h change, [], (List.append_nil _).symm, rfl⟩

theorem chronicle_modifyRegistration (h : node.enrolled? k = some (status, registration))
    (change : Registration → Registration) :
    Chronicle k node (node.modifyRegistration k change) (status, change registration) [] :=
  ⟨enrolled?_modifyRegistration h change, [], (List.append_nil _).symm, rfl⟩

theorem chronicle_queueEvent (h : node.enrolled? k = some kept) (kind : EventKind) :
    Chronicle k node (node.queueEvent k kind) kept [.report k kind] :=
  ⟨h, [.report k kind], rfl, storyOf_report k kind⟩

/-- What a call makes of the driver that is called. -/
theorem chronicle_call (h : node.enrolled? k = some kept) (env : Env) (callback : Callback) :
    ∃ talk later, Replies k callback kept talk later ∧
      Chronicle k node (node.call env k callback).2 later (sequel k [] callback talk) := by
  obtain ⟨status, registration⟩ := kept
  obtain ⟨added, talk, hadded, hstory, hpeer⟩ :=
    registration.driver.talk_respond callback (node.placeOf env k callback status)
  refine ⟨talk, _, ⟨⟨node.placeOf env k callback status, rfl, rfl, rfl⟩, hpeer⟩,
    enrolled?_call h env callback, .called k callback :: added, ?_, ?_⟩
  · rw [log_call env callback (enrolled?_eq_some_iff.1 h)]
    refine hadded.log.trans ?_
    show node.log ++ [.called k callback] ++ added = _
    rw [List.append_assoc]
    rfl
  · rw [storyOf_called]
    exact congrArg _ hstory

/-- The driver is told that its device is gone. -/
theorem chronicle_tellRemoved (h : node.enrolled? k = some kept) (env : Env) :
    ∃ talk later, Replies k .removed kept talk later ∧
      Chronicle k node (node.tellRemoved env k) later (sequel k [.removed] .removed talk) := by
  have hqueue := chronicle_queueEvent h .removed
  obtain ⟨talk, later, hreplies, hcall⟩ := chronicle_call hqueue.later env .removed
  exact ⟨talk, later, hreplies, hqueue.trans hcall⟩

/-- A part of a step tells a story of a driver. -/
def Tells (x : Happening) (start : Node) (k : Handle) (kept : Kept) (before after : Node) : Prop :=
  ∃ later story, Chronicle k before after later story ∧ Story x start k kept story later

variable {x : Happening} {start : Node}

theorem Tells.refl (h : node.enrolled? k = some kept) : Tells x start k kept node node :=
  ⟨kept, [], .refl h, .still⟩

theorem Chronicle.tells {after : Node} {story : List Action}
    (h : Chronicle k node after later story) (hepisode : Episode x start k kept story later) :
    Tells x start k kept node after :=
  ⟨later, story, h, hepisode.toStory⟩

/-- What does not concern the driver before a step makes no difference. -/
theorem Tells.after {first second third : Node} (h : Chronicle k first second kept [])
    (h' : Tells x start k kept second third) : Tells x start k kept first third := by
  obtain ⟨later, story, hchronicle, hstory⟩ := h'
  exact ⟨later, story, h.trans hchronicle, hstory⟩

/-- A part of a step follows on another one. -/
theorem Tells.then {first second third : Node} (h : Tells x start k kept first second)
    (h' : ∀ mid, second.enrolled? k = some mid → Tells x start k mid second third) :
    Tells x start k kept first third := by
  obtain ⟨mid, story, hchronicle, hstory⟩ := h
  obtain ⟨later, more, hchronicle', hmore⟩ := h' mid hchronicle.later
  exact ⟨later, story ++ more, hchronicle.trans hchronicle', hstory.trans hmore⟩

/-- What does not concern the driver after a step makes no difference. -/
theorem Tells.thenSpares {who : Handle → Prop} {first second third : Node}
    (h : Tells x start k kept first second) (hspares : Spares who second third) (hk : who k) :
    Tells x start k kept first third :=
  h.then fun mid hmid => ⟨mid, [], chronicle_of_spares hmid hspares hk, .still⟩

theorem tells_of_spares {who : Handle → Prop} {after : Node} (h : node.enrolled? k = some kept)
    (hspares : Spares who node after) (hk : who k) : Tells x start k kept node after :=
  (Tells.refl h).thenSpares hspares hk

theorem tells_modifyRegistration (h : node.enrolled? k = some (status, registration))
    {change : Registration → Registration}
    (hdriver : (change registration).driver = registration.driver)
    (hserial : (change registration).requiredSerial = registration.requiredSerial) :
    Tells x start k (status, registration) node (node.modifyRegistration k change) :=
  (chronicle_modifyRegistration h change).tells (.booked hdriver hserial)

/-- The driver is told something that is no matter of its device. -/
theorem tells_call (h : node.enrolled? k = some kept) (env : Env) (callback : Callback)
    (heard : IsHeard x start k kept callback) :
    Tells x start k kept node (node.call env k callback).2 := by
  obtain ⟨talk, later, hreplies, hchronicle⟩ := chronicle_call h env callback
  exact hchronicle.tells (.told heard hreplies)

end Node

end DeviceBus
