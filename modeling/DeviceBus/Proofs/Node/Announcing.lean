import DeviceBus.Proofs.Node.Ageing
import DeviceBus.Proofs.Node.Discovery
import DeviceBus.Proofs.Node.Utterances

/-!
# What a tick announces

In a tick every own driver with an address announces itself, once and in the order of the
registrations, and nothing else is sent. An announce is written in the driver's turn, after the
step of its address and before a look at its partner. So it shows the address and its certainty as
they are after the tick, and the bond as it was before: the look at the partner may end the bond,
and only the next tick says so.

A driver may add a payload to its announces that fits in a frame, and the bus takes what is sent.

## Main results

* `Driver.frames_respond`: an ordinary driver answers nothing but control packets.
* `sends_tickEntry`: what the turn of one entry sends.
* `announces_of_comes`: what a tick of any node sends.
-/

namespace DeviceBus

open ControlPacket

/-! ## What drivers add to announces -/

/-- A control packet with another payload, if there is one. -/
def ControlPacket.carrying (payload? : Option Bytes) (cp : ControlPacket) : ControlPacket :=
  { cp with payload := payload?.getD cp.payload }

namespace Driver

/-- An ordinary driver whose announces fit in a frame. -/
structure IsBrief (driver : Driver) : Prop where
  ordinary : driver.IsOrdinary
  payload : ∀ payload ∈ driver.payload?, payload.length ≤ controlPayloadLimit

/-- An ordinary driver that adds nothing to an announce. -/
structure IsTerse (driver : Driver) : Prop where
  ordinary : driver.IsOrdinary
  payload : driver.payload? = none

theorem IsTerse.isBrief {driver : Driver} (h : driver.IsTerse) : driver.IsBrief where
  ordinary := h.ordinary
  payload payload hpayload := by
    rw [h.payload] at hpayload
    cases hpayload

/-- An ordinary driver adds its payload to an announce, and nothing else. -/
theorem fill_of_isOrdinary {driver : Driver} (hordinary : driver.IsOrdinary) (status : Status)
    (cp : ControlPacket) : driver.fill status cp = (cp.carrying driver.payload?, []) := by
  cases hpayload : driver.payload? with
  | none => exact fill_eq_of_payload? hordinary hpayload status cp
  | some payload =>
    cases driver with
    | probe p => exact hordinary.elim
    | pairable p =>
      obtain ⟨state, gated⟩ := p
      cases gated with
      | application app =>
        have happ : app.payload = some payload := hpayload
        simp only [fill, Gated.fill, happ]
        rfl
      | _ => cases hpayload
    | _ => cases hpayload

/-- With a driver's payload an announce still fits in a frame. -/
theorem IsBrief.length_carrying {driver : Driver} (h : driver.IsBrief) {cp : ControlPacket}
    (hcp : cp.payload = []) :
    (cp.carrying driver.payload?).payload.length ≤ controlPayloadLimit := by
  unfold carrying
  cases hpayload : driver.payload? with
  | none =>
    rw [hcp]
    exact Nat.zero_le _
  | some payload => exact h.payload payload hpayload

/-- An ordinary driver answers nothing but control packets. -/
theorem frames_respond {driver : Driver} (hordinary : driver.IsOrdinary) {callback : Callback}
    (h : ∀ cp, callback ≠ .control cp) (ctx : Context) :
    ∃ added, ctx.Extends (driver.respond callback ctx).context added ∧ framesOf added = [] := by
  have hsilent : ∀ {after : Context}, ctx.IsSilent after →
      ∃ added, ctx.Extends after added ∧ framesOf added = [] := by
    rintro after ⟨-, added, hadded, hframes, -⟩
    exact ⟨added, hadded, hframes⟩
  cases driver with
  | probe p => exact hordinary.elim
  | console c => cases callback <;> exact hsilent (.refl ctx)
  | pairable p =>
    obtain ⟨-, -, added, hadded, hframes, -⟩ := p.letGo_spec ctx
    cases callback with
    | control cp => exact absurd rfl (h cp)
    | data packet => exact hsilent (p.onData_spec packet ctx).2
    | connected => exact hsilent (p.gated.isSilent_connected ctx)
    | removed =>
      obtain ⟨-, more, hmore, hnone, -⟩ := (p.letGo ctx).1.gated.isSilent_removed (p.letGo ctx).2
      exact ⟨added ++ more, hadded.trans hmore, by rw [framesOf_append, hframes, hnone]; rfl⟩
    | partnerLost => exact ⟨added, hadded, hframes⟩
  | _ => exact hsilent (.refl ctx)

end Driver

/-- No driver of a kind leaves it, whatever it is told and however it works. -/
structure Driver.Persists (kind : Driver → Prop) : Prop where
  respond : ∀ {driver : Driver} (callback : Callback) (ctx : Context), kind driver →
    kind (driver.respond callback ctx).driver
  works : ∀ {before after : Driver}, kind before → before.Works after → kind after

theorem Driver.persists_isTerse : Driver.Persists Driver.IsTerse where
  respond callback ctx h :=
    have htame := Driver.respond_spec h.ordinary callback ctx
    ⟨htame.ordinary, htame.payload.trans h.payload⟩
  works h works := ⟨works.steady.ordinary h.ordinary, works.steady.payload.trans h.payload⟩

theorem Driver.persists_isBrief : Driver.Persists Driver.IsBrief where
  respond callback ctx h :=
    have htame := Driver.respond_spec h.ordinary callback ctx
    ⟨htame.ordinary, htame.payload ▸ h.payload⟩
  works h works := ⟨works.steady.ordinary h.ordinary, works.steady.payload ▸ h.payload⟩

/-- The driver of an entry is one of a kind, if there is one. -/
def Entry.Drives (kind : Driver → Prop) (_ : Handle) (entry : Entry) : Prop :=
  ∀ registration, entry.kind = .driver registration → kind registration.driver

variable {kind : Driver → Prop}

theorem Entry.isInvariant_drives (hkind : Driver.Persists kind) :
    Entry.IsInvariant (fun _ _ => True) (Entry.Drives kind) where
  record _ _ _ _ hnone := nomatch hnone
  restate _ _ h := h
  rebook hdriver _ h _ hheld := by
    cases hheld
    rw [hdriver]
    exact h _ rfl
  tell {callback ctx _} _ h _ hheld := by
    cases hheld
    exact hkind.respond callback ctx (h _ rfl)

/-- The announces of the driver of an entry fit in a frame, if there is a driver. -/
abbrev Entry.IsBrief : Handle → Entry → Prop := Entry.Drives Driver.IsBrief

theorem Entry.isInvariant_isBrief : Entry.IsInvariant (fun _ _ => True) Entry.IsBrief :=
  Entry.isInvariant_drives Driver.persists_isBrief

namespace Node

variable {node mid after : Node} {k : Handle}

/-- Where only drivers of a kind are registered, all drivers are of it. -/
theorem Comes.drives (hkind : Driver.Persists kind) {settings : NodeSettings} {draws : Draws}
    {xs : List Happening} (h : Comes settings draws kind xs node) :
    node.Each (Entry.Drives kind) := by
  obtain ⟨trace, hcourse⟩ := h
  induction hcourse with
  | here => exact each_withDraws _ settings draws
  | next before admitted becomes _ ih =>
    refine each_of_becomes (Entry.isInvariant_drives hkind) (fun works hold held hheld => ?_)
      becomes (fun handle profile driver hx _ held hheld => ?_)
      (before.wellFormed (Registry.WellFormed.empty _)) ih
    · cases hheld
      exact hkind.works (hold _ rfl) works
    · subst hx
      cases hheld
      exact admitted

/-- What the entries of a node say of its drivers. -/
theorem Each.drives (h : node.Each (Entry.Drives kind)) {kept : Kept}
    (hkept : node.enrolled? k = some kept) : kind kept.2.driver :=
  h k _ (enrolled?_eq_some_iff.1 hkept) _ rfl

/-! ## What is sent -/

/-- Between two nodes some frames were sent. -/
def Sends (before after : Node) (frames : List Bytes) : Prop :=
  ∃ added, after.log = before.log ++ added ∧ framesOf added = frames

theorem Sends.trans {frames more : List Bytes} (h : Sends node mid frames)
    (h' : Sends mid after more) : Sends node after (frames ++ more) := by
  obtain ⟨xs, hxs, hframes⟩ := h
  obtain ⟨ys, hys, hmore⟩ := h'
  exact ⟨xs ++ ys, by rw [hys, hxs, List.append_assoc], by rw [framesOf_append, hframes, hmore]⟩

/-- A part of a step after which nothing more is sent. -/
theorem Sends.thenNone {frames : List Bytes} (h : Sends node mid frames) (h' : Sends mid after []) :
    Sends node after frames :=
  List.append_nil frames ▸ h.trans h'

theorem sends_of_log_eq (hlog : after.log = node.log) : Sends node after [] :=
  ⟨[], hlog.trans (List.append_nil _).symm, rfl⟩

theorem sends_queueEvent (handle : Handle) (kind : EventKind) (node : Node) :
    Sends node (node.queueEvent handle kind) [] := ⟨[.event ⟨handle, kind⟩], rfl, rfl⟩

theorem sends_call (h : node.Each Entry.IsBrief) (env : Env) (handle : Handle)
    {callback : Callback} (hcallback : ∀ cp, callback ≠ .control cp) :
    Sends node (node.call env handle callback).2 [] := by
  rcases node.exists_driver_or_call_eq env handle callback with
    ⟨status, registration, hentry⟩ | heq
  · have hordinary := (h handle _ hentry registration rfl).ordinary
    obtain ⟨added, hadded, hframes⟩ :=
      Driver.frames_respond hordinary hcallback (node.placeOf env handle callback status)
    refine ⟨.called handle callback :: added, ?_, hframes⟩
    rw [log_call env callback hentry]
    refine hadded.log.trans ?_
    show node.log ++ [.called handle callback] ++ added = _
    rw [List.append_assoc]
    rfl
  · rw [heq]
    exact sends_of_log_eq rfl

/-- A chore sends nothing. -/
theorem Chore.sends {env : Env} {handle : Handle} (hchore : Chore env handle node after)
    (h : node.Each Entry.IsBrief) : Sends node after [] := by
  induction hchore with
  | start => exact sends_of_log_eq rfl
  | restate _ change _ ih => exact ih.thenNone (sends_of_log_eq rfl)
  | rebook _ change _ ih => exact ih.thenNone (sends_of_log_eq rfl)
  | draw _ draws ih => exact ih.thenNone (sends_of_log_eq rfl)
  | report _ kind ih => exact ih.thenNone (sends_queueEvent handle kind _)
  | tell before callback other ih =>
    exact ih.thenNone (sends_call (h.chore Entry.isInvariant_isBrief before) env handle other)
  | drop _ _ ih => exact ih.thenNone (sends_of_log_eq rfl)

/-- A driver that has an address announces itself, if the bus takes what is sent. -/
theorem sends_announce (h : node.Each Entry.IsBrief) {env : Env} (hopen : env.refusal = none)
    {status : Status} {registration : Registration}
    (hkept : node.enrolled? k = some (status, registration)) :
    Sends node (node.announce env k)
      (if status.address = 0 then []
        else [((announcement status).carrying registration.driver.payload?).frame]) := by
  have hbrief : registration.driver.IsBrief := h.drives hkept
  have hempty : (announcement status).payload = [] := rfl
  have hframe := Env.controlFrame_eq_ok_iff.2 ⟨hopen, hbrief.length_carrying hempty, rfl⟩
  unfold announce
  rw [enrolled?_eq_some_iff.1 hkept]
  dsimp only
  split
  · exact sends_of_log_eq rfl
  · rw [Driver.fill_of_isOrdinary hbrief.ordinary]
    unfold post
    rw [hframe]
    exact ⟨[.sent ((announcement status).carrying registration.driver.payload?).frame],
      by simp [trace], rfl⟩

end Node

/-! ## What a tick says of one driver -/

/-- What an own driver announces in a tick, from its status before and after the tick: its device
and the certainty of its address as they are, the bond as it was. -/
def Status.announced (was is : Status) : ControlPacket :=
  { ControlPacket.hello is.address is.deviceClass is.serial with
    flags :=
      Flags.insertIf is.isUnconfirmed ControlFlags.uncertain <|
      Flags.insertIf is.isPairable ControlFlags.pairable <|
      Flags.insertIf was.isPaired ControlFlags.paired <|
      Flags.insertIf was.isPairing ControlFlags.pairingMode Flags.none }

namespace Node

variable {node : Node} {k : Handle}

/-- The announce of a driver in a tick, if it is an own one and has an address then. -/
def announced? (before after : Node) (handle : Handle) : Option ControlPacket :=
  match before.enrolled? handle, after.enrolled? handle with
  | some (was, registration), some (is, _) =>
    if is.isLocal && is.address != 0 then
      some ((was.announced is).carrying registration.driver.payload?)
    else none
  | _, _ => none

/-- The step of its address changes no flag of an own driver but those of the address. -/
theorem DeviceTick.contains_eq {settings : NodeSettings} {before after : Kept}
    {story : List Action} (h : DeviceTick settings k before story after)
    (hlocal : before.1.isLocal = true) {asked : DeviceFlags}
    (hconfirmed : asked.IsDisjoint DeviceFlags.confirmed)
    (hunconfirmed : asked.IsDisjoint DeviceFlags.unconfirmed) :
    after.1.flags.contains asked = before.1.flags.contains asked := by
  cases h with
  | drawn =>
    exact (Flags.contains_insert_of_disjoint _ hunconfirmed).trans
      (Flags.contains_remove_of_disjoint _ hconfirmed)
  | confirmed _ _ _ _ replies =>
    rw [replies.status_connected]
    exact (Flags.contains_insert_of_disjoint _ hconfirmed).trans
      (Flags.contains_remove_of_disjoint _ hunconfirmed)
  | present remote | missed remote | vacated remote =>
    rw [remote] at hlocal
    cases hlocal
  | _ => rfl

/-- What an ordinary driver adds to announces is not changed by anything that it is told. -/
theorem Replies.payload?_eq {callback : Callback} {before after : Kept} {talk : List EventKind}
    (h : Replies k callback before talk after) (hordinary : before.2.driver.IsOrdinary) :
    after.2.driver.payload? = before.2.driver.payload? := by
  obtain ⟨ctx, -, -, rfl⟩ := h.place
  exact (Driver.respond_spec hordinary callback ctx).payload

theorem DeviceTick.payload?_eq {settings : NodeSettings} {before after : Kept}
    {story : List Action} (h : DeviceTick settings k before story after)
    (hordinary : before.2.driver.IsOrdinary) :
    after.2.driver.payload? = before.2.driver.payload? := by
  cases h with
  | confirmed _ _ _ _ replies => exact replies.payload?_eq hordinary
  | vacated _ _ _ _ _ replies => exact replies.payload?_eq hordinary
  | _ => rfl

/-- An announce that is written between the two halves of a turn can be told from the status before
and after the turn. -/
theorem announcement_eq {settings : NodeSettings} {before mid after : Kept}
    {story more : List Action} (device : DeviceTick settings k before story mid)
    (partner : PartnerTick k mid more after) (hlocal : before.1.isLocal = true) :
    announcement mid.1 = before.1.announced after.1 := by
  have hsame := partner.unbonded
  have hpaired : mid.1.isPaired = before.1.isPaired :=
    device.contains_eq hlocal (by decide) (by decide)
  have hpairing : mid.1.isPairing = before.1.isPairing :=
    device.contains_eq hlocal (by decide) (by decide)
  have hpairable : after.1.isPairable = mid.1.isPairable :=
    Status.contains_of_unbonded_eq hsame (by decide)
  have hunconfirmed : after.1.isUnconfirmed = mid.1.isUnconfirmed :=
    Status.contains_of_unbonded_eq hsame (by decide)
  have hdevice := Status.identity_of_unbonded_eq hsame
  have haddress : after.1.address = mid.1.address := congrArg Identity.address hdevice
  have hserial : after.1.serial = mid.1.serial := congrArg Identity.serial hdevice
  have hclass : after.1.deviceClass = mid.1.deviceClass := congrArg Identity.deviceClass hdevice
  unfold announcement Status.announced
  rw [hpaired, hpairing, hpairable, hunconfirmed, haddress, hserial, hclass]

/-- What a handle says from one node to another, if an own driver keeps it an own one. -/
theorem announced?_of_enrolled? {before after : Node} {was is : Kept}
    (hwas : before.enrolled? k = some was) (his : after.enrolled? k = some is) :
    before.announced? after k =
      if is.1.isLocal && is.1.address != 0 then
        some ((was.1.announced is.1).carrying was.2.driver.payload?)
      else none := by
  unfold announced?
  rw [hwas, his]

/-- The turn of an own driver sends its announce, if it has an address by then. -/
theorem sends_own (h : node.Each Entry.IsBrief) {env : Env} (hopen : env.refusal = none)
    {status : Status} {registration : Registration}
    (hkept : node.enrolled? k = some (status, registration)) (hlocal : status.isLocal = true) :
    Sends node ((node.tickDevice env k status).agePartner env k)
      ((node.announced? ((node.tickDevice env k status).agePartner env k) k).toList.map
        ControlPacket.frame) := by
  obtain ⟨mid, story, hdevice, hmid⟩ := ages_enumerate hkept env hlocal
  have hchore := chore_enumerate env k status node
  have hbrief := h.chore Entry.isInvariant_isBrief hchore
  have hannounced := chronicle_of_spares hmid.later (spares_announce env k _) trivial
  obtain ⟨later, more, hpartner, hlater⟩ := ages_agePartner hannounced.later env
  have hown : later.1.isLocal = true :=
    hpartner.isLocal_eq.trans (hdevice.isLocal_eq.trans hlocal)
  have haddress : later.1.address = mid.1.address :=
    congrArg Identity.address (Status.identity_of_unbonded_eq hpartner.unbonded)
  have hsends := ((hchore.sends h).trans (sends_announce hbrief hopen hmid.later)).thenNone
    ((chore_agePartner env k _).sends (hbrief.announce env k))
  rw [tickDevice_of_own env hlocal, announced?_of_enrolled? hkept hlater.later, hown, haddress,
    ← announcement_eq hdevice hpartner hlocal,
    ← hdevice.payload?_eq (h.drives hkept).ordinary]
  by_cases hzero : mid.1.address = 0
  · simpa [hzero] using hsends
  · simpa [hzero] using hsends

/-- The turn of any other driver sends nothing. -/
theorem sends_remote (h : node.Each Entry.IsBrief) (env : Env) {status : Status}
    {registration : Registration} (hkept : node.enrolled? k = some (status, registration))
    (hremote : status.isLocal = false) :
    Sends node ((node.tickDevice env k status).agePartner env k) [] ∧
      node.announced? ((node.tickDevice env k status).agePartner env k) k = none := by
  obtain ⟨mid, story, hdevice, hmid⟩ := ages_tickDevice hkept env
  obtain ⟨later, more, hpartner, hlater⟩ := ages_agePartner hmid.later env
  have hfar : later.1.isLocal = false :=
    hpartner.isLocal_eq.trans (hdevice.isLocal_eq.trans hremote)
  refine ⟨?_, ?_⟩
  · have hchore := chore_tickDevice_of_remote env k hremote node
    exact (hchore.sends h).thenNone
      ((chore_agePartner env k _).sends (h.chore Entry.isInvariant_isBrief hchore))
  · rw [announced?_of_enrolled? hkept hlater.later, hfar]
    rfl

/-- **The turn of one entry** sends the announce of its driver, if there is one, and nothing
else. -/
theorem sends_tickEntry (h : node.Each Entry.IsBrief) {env : Env} (hopen : env.refusal = none)
    (k : Handle) : Sends node (tickEntry env node k)
      ((node.announced? (tickEntry env node k) k).toList.map ControlPacket.frame) := by
  cases hentry : node.registry.get? k with
  | none =>
    have hnone : node.announced? (tickEntry env node k) k = none := by
      unfold announced? enrolled?
      rw [hentry]
    rw [hnone, tickEntry_of_none env hentry]
    exact sends_of_log_eq rfl
  | some entry =>
    obtain ⟨status, kind⟩ := entry
    cases kind with
    | record =>
      have hnone : node.announced? (tickEntry env node k) k = none := by
        unfold announced?
        rw [enrolled?_of_get? hentry rfl]
      rw [hnone, tickEntry_of_record env hentry]
      exact (chore_ageDevice env k node).sends h
    | driver registration =>
      have hkept := enrolled?_eq_some_iff.2 hentry
      rw [tickEntry_of_driver env hentry]
      cases hlocal : status.isLocal with
      | true => exact sends_own h hopen hkept hlocal
      | false =>
        obtain ⟨hsends, hnone⟩ := sends_remote h env hkept hlocal
        rw [hnone]
        exact hsends

/-! ## What a tick says -/

/-- All that matters for the announce of a driver is what the nodes keep of it. -/
theorem announced?_congr {before after before' after' : Node}
    (hbefore : before'.enrolled? k = before.enrolled? k)
    (hafter : after'.enrolled? k = after.enrolled? k) :
    before'.announced? after' k = before.announced? after k := by
  unfold announced?
  rw [hbefore, hafter]

/-- In a row of turns every driver says what it would say by itself. -/
theorem sends_tickEntries {env : Env} (hopen : env.refusal = none) {handles : List Handle}
    (hnodup : handles.Nodup) {node : Node} (h : node.Each Entry.IsBrief) :
    Sends node (handles.foldl (tickEntry env) node)
      ((handles.filterMap (node.announced? (handles.foldl (tickEntry env) node))).map
        ControlPacket.frame) := by
  induction handles generalizing node with
  | nil => exact sends_of_log_eq rfl
  | cons k rest ih =>
    obtain ⟨hfresh, hrest⟩ := List.nodup_cons.1 hnodup
    rw [List.foldl_cons]
    have hfirst := sends_tickEntry h hopen k
    have hlater := ih hrest (h.tickEntry Entry.isInvariant_isBrief env k)
    have hturn := spares_tickEntry env node k
    have hturns := spares_foldl (spares_tickEntry env) rest (tickEntry env node k)
    generalize tickEntry env node k = mid at hfirst hlater hturn hturns ⊢
    generalize rest.foldl (tickEntry env) mid = last at hlater hturns ⊢
    have hself : node.announced? last k = node.announced? mid k :=
      announced?_congr rfl (hturns.enrolled? k hfresh)
    have hothers : rest.filterMap (node.announced? last) = rest.filterMap (mid.announced? last) :=
      List.filterMap_congr fun j hj =>
        announced?_congr (hturn.enrolled? j fun hjk => hfresh (hjk ▸ hj)).symm rfl
    have hall := hfirst.trans hlater
    rw [List.filterMap_cons, hself, hothers]
    cases hsaid : node.announced? mid k <;> simpa [hsaid] using hall

/-- A tick sends the announces of its drivers in their order. -/
theorem sends_tick (h : node.Each Entry.IsBrief) (wf : node.registry.WellFormed) {env : Env}
    (hopen : env.refusal = none) :
    Sends node (node.tick env)
      ((node.drivers.filterMap (node.announced? (node.tick env))).map ControlPacket.frame) := by
  have hall := sends_tickEntries hopen wf.nodup_handles h
  have hdrivers : node.registry.handles.filterMap (node.announced? (node.tick env)) =
      node.drivers.filterMap (node.announced? (node.tick env)) := by
    unfold drivers
    rw [List.filterMap_filter]
    refine List.filterMap_congr fun k _ => ?_
    unfold announced?
    cases node.enrolled? k <;> rfl
  rw [← hdrivers]
  exact hall

/-! ## What a tick says in any run -/

section Runs

variable {settings : NodeSettings} {draws : Draws} {xs : List Happening} {profile : DriverProfile}

/-- What a registered driver says in a tick: an own one announces its device, if it has an address
then, and any other says nothing. -/
theorem Comes.announced (h : Comes settings draws Driver.IsTerse xs node)
    (hk : (k, profile) ∈ rosterOf xs) (env : Env) : ∃ was is,
      node.status? k = some was ∧ (node.tick env).status? k = some is ∧
      is.isPairable = profile.role.flags.contains DeviceFlags.pairable ∧
      node.announced? (node.tick env) k =
        if profile.role.isLocal && is.address != 0 then some (was.announced is) else none := by
  have hmild : Comes settings draws Driver.IsMild xs node :=
    h.mono fun _ hterse => hterse.ordinary.isMild
  have hlater := hmild.tick env
  have hmember : (k, profile) ∈ rosterOf (xs ++ [.tick env]) := by
    rw [rosterOf_append_singleton]
    exact hk
  obtain ⟨was, hwas⟩ := hmild.serves hk
  obtain ⟨is, his⟩ := hlater.serves hmember
  obtain ⟨before, hbefore, -⟩ := hwas.has
  obtain ⟨after, hafter, -⟩ := his.has
  refine ⟨was, is, hwas.has.status?, his.has.status?, ?_, ?_⟩
  · exact (DeviceFlags.contains_mode is.flags (by decide)).symm.trans
      (congrArg (Flags.contains · DeviceFlags.pairable) his.mode)
  · have hpayload : before.driver.payload? = none :=
      ((h.drives Driver.persists_isTerse).drives hbefore).payload
    rw [announced?_of_enrolled? hbefore hafter]
    dsimp only
    rw [hpayload, Status.isLocal_eq_mode, his.mode]
    rfl

/-- **A tick announces every own driver once.** In any run of drivers that leave announces as they
are, a tick on an open bus sends one announce for each own driver that has an address after it, in
the order of the registrations, and nothing else. -/
theorem announces_of_comes (h : Comes settings draws Driver.IsTerse xs node) {env : Env}
    (hopen : env.refusal = none) {added : List Action}
    (hlog : (node.tick env).log = node.log ++ added) :
    framesOf added = ((rosterOf xs).filterMap fun member =>
        node.announced? (node.tick env) member.1).map ControlPacket.frame ∧
      ∀ k profile, (k, profile) ∈ rosterOf xs → ∃ was is,
        node.status? k = some was ∧ (node.tick env).status? k = some is ∧
        is.isPairable = profile.role.flags.contains DeviceFlags.pairable ∧
        node.announced? (node.tick env) k =
          if profile.role.isLocal && is.address != 0 then some (was.announced is) else none := by
  refine ⟨?_, fun k profile hk => h.announced hk env⟩
  have hbrief := (h.mono fun _ => Driver.IsTerse.isBrief).drives Driver.persists_isBrief
  obtain ⟨more, hmore, hframes⟩ := sends_tick hbrief h.wellFormed hopen
  have hadded : added = more := List.append_cancel_left (hlog.symm.trans hmore)
  rw [hadded, hframes, h.drivers, List.filterMap_map]
  rfl

/-- A host that draws its address in a tick announces it at once, as uncertain. -/
theorem announces_of_drawingHost :
    let profile : DriverProfile := ⟨.pairableHost, 5, some 9, some 1⟩
    let driver := Driver.pairable (.ofGated .idle)
    let node := withDriver profile driver
    Comes {} ⟨fun _ => 0, 0⟩ Driver.IsTerse [.register ⟨0, 0⟩ profile driver] node ∧
      Env.taking.refusal = none ∧ (node.tick .taking).log = node.log ++ (node.tick .taking).log ∧
      framesOf (node.tick .taking).log = [{ ControlPacket.hello 1 5 9 with
        flags := ControlFlags.uncertain ∪ ControlFlags.pairable }.frame] := by
  have hcomes := comes_withDriver Driver.IsTerse ⟨.pairableHost, 5, some 9, some 1⟩
    (.pairable (.ofGated .idle)) ⟨trivial, rfl⟩
  have hlog : ((withDriver ⟨.pairableHost, 5, some 9, some 1⟩
      (.pairable (.ofGated .idle))).tick .taking).log =
      (withDriver ⟨.pairableHost, 5, some 9, some 1⟩ (.pairable (.ofGated .idle))).log ++
        ((withDriver ⟨.pairableHost, 5, some 9, some 1⟩
          (.pairable (.ofGated .idle))).tick .taking).log := rfl
  have hsaid := (announces_of_comes hcomes (rfl : Env.taking.refusal = none) hlog).1
  exact ⟨hcomes, rfl, hlog, hsaid.trans (by decide +kernel)⟩

end Runs

end Node

end DeviceBus
