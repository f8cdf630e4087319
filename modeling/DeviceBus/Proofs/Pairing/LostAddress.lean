import DeviceBus.Proofs.Node.Collision

/-!
# Lost addresses

An own driver loses its address in one way only: it gives way at the announce of another device. A
driver that was connected is then told that its device is gone, lets its bond go and ends its
stream. A driver on probation is told nothing. Since requests and data reach a driver by its address
alone, connected or not, it may have made a bond and started a stream before: they outlive the
address.

## Main results

* `noLoss_or_giveWay`: what a received frame can do to the addresses of a node.
* `bare_of_lost`: a lost address takes the bond and the stream of a connected driver with it, and
  leaves those of any other driver alone.
* `streams_of_lost`: a host on probation that goes on streaming under the address it lost.
-/

namespace DeviceBus

open ControlPacket

/-! ## What is left of a driver whose device is gone -/

/-- Nothing streams: there is no address to stream under, and no loop sends anything. -/
structure Streamer.IsOver (streamer : Streamer) : Prop where
  address : streamer.address = none
  state : streamer.state ≠ .streaming
  mute : ∀ env number, (streamer.runLoop env number).2.1 = none

theorem Streamer.InStep.isOver_disconnect {streamer : Streamer} (h : streamer.InStep) :
    streamer.disconnect.IsOver := by
  have haddress : streamer.disconnect.address = none := (sameTerms_cancel _).address
  have hidle : ({ streamer with address := none } : Streamer).InStep := h.of_eq rfl rfl
  exact ⟨haddress, hidle.state_cancel, runLoop_of_not_isRunning (not_isRunning_cancel _)⟩

/-- Nothing is left of a bond or a stream. -/
structure Pairable.IsBare (status : Status) (driver : Pairable) : Prop where
  state : driver.state = .unpaired
  partner? : (Driver.pairable driver).partner? = none
  isPaired : status.isPaired = false
  isPairing : status.isPairing = false
  stream : ∀ s, (Driver.pairable driver).streamer? = some s → s.IsOver

namespace Pairable

/-- Giving up clears the flags of the bond. -/
theorem status_letGo (ctx : Context) (driver : Pairable) :
    (driver.letGo ctx).2.status.isPaired = false ∧
      (driver.letGo ctx).2.status.isPairing = false := by
  have hcleared : ((ctx.status.unmark (DeviceFlags.paired ∪ DeviceFlags.pairing)).mark
      Flags.none).isPaired = false ∧
      ((ctx.status.unmark (DeviceFlags.paired ∪ DeviceFlags.pairing)).mark
        Flags.none).isPairing = false := by
    have hflag : ∀ {asked : DeviceFlags}, asked.IsDisjoint Flags.none →
        ¬ asked.IsDisjoint (DeviceFlags.paired ∪ DeviceFlags.pairing) →
        ((ctx.status.flags.remove (DeviceFlags.paired ∪ DeviceFlags.pairing)).insert
          Flags.none).contains asked = false := by
      intro asked hnone hbond
      rw [Flags.contains_insert_of_disjoint _ hnone]
      exact Flags.contains_remove_of_not_disjoint _ hbond
    exact ⟨hflag (by decide : DeviceFlags.paired.IsDisjoint _) (by decide),
      hflag (by decide : DeviceFlags.pairing.IsDisjoint _) (by decide)⟩
  unfold letGo
  cases driver.state with
  | unpaired => exact hcleared
  | pairing target => exact hcleared
  | paired partner =>
    have hsilent := (driver.enter .unpaired ctx).1.gated.isSilent_unpaired
      ((driver.enter .unpaired ctx).2.queueEvent .unpaired)
    dsimp only
    rw [hsilent.1]
    exact hcleared

/-- A driver that pairs is bare once it was told that its device is gone. -/
theorem isBare_removed {driver : Pairable} (h : driver.gated.StreamerIs Streamer.InStep)
    (ctx : Context) :
    (driver.respond .removed ctx).driver.IsBare (driver.respond .removed ctx).context.status := by
  obtain ⟨hpaired, hpairing⟩ := driver.status_letGo ctx
  have hsilent := ((driver.letGo ctx).1.gated.isSilent_removed (driver.letGo ctx).2).1
  have hstate : (driver.respond .removed ctx).driver.state = .unpaired := driver.state_letGo ctx
  have hinStep := h.letGo Streamer.survives_inStep ctx
  refine ⟨hstate, ?_, ?_, ?_, ?_⟩
  · show (driver.respond .removed ctx).driver.state.peer = none
    rw [hstate]
    rfl
  · exact (congrArg Status.isPaired hsilent).trans hpaired
  · exact (congrArg Status.isPairing hsilent).trans hpairing
  · intro s hs
    unfold respond at hs
    dsimp only at hs
    cases hgated : (driver.letGo ctx).1.gated with
    | idle =>
      rw [hgated] at hs
      cases hs
    | application app =>
      rw [hgated] at hs
      cases hs
    | streamer before =>
      rw [hgated] at hs hinStep
      cases hs
      exact Streamer.InStep.isOver_disconnect hinStep

end Pairable

namespace Node

variable {node : Node}

/-! ## Who loses an address -/

theorem noLoss_routeTo (hsound : node.Sound) (env : Env) (packet : Packet)
    (classes : List DeviceClass) (handle : Handle) :
    ∃ added, (routeTo env packet classes node handle).log = node.log ++ added ∧ NoLoss added := by
  rcases routeTo_eq_or env packet classes node handle with heq | ⟨_, _, -, -, heq⟩
  · rw [heq]
    exact ⟨[], (List.append_nil _).symm, noLoss_of_eventsOf_eq_nil rfl⟩
  · rw [heq]
    exact noLoss_call hsound env handle (.data packet)

/-- Data takes nobody's address away. -/
theorem noLoss_receiveData (hsound : node.Sound) (env : Env) (packet : Packet) :
    ∃ added, (node.receiveData env packet).log = node.log ++ added ∧ NoLoss added := by
  refine (List.foldlRecOn (motive := fun after => Quiet node after ∧
    ∃ added, after.log = node.log ++ added ∧ NoLoss added) _ _
    ⟨.refl hsound, [], (List.append_nil _).symm, noLoss_of_eventsOf_eq_nil rfl⟩
    fun mid ⟨hquiet, first, hlog, hnone⟩ handle _ => ?_).2
  have hroute := quiet_routeTo hquiet.sound env packet (node.classesAt packet.address) handle
  obtain ⟨more, hmore, hmoreNone⟩ := noLoss_routeTo hquiet.sound env packet _ handle
  refine ⟨hquiet.trans hroute, first ++ more, ?_, hnone.append hmoreNone⟩
  rw [hmore, hlog, List.append_assoc]

/-- A pairing packet takes nobody's address away. -/
theorem noLoss_receivePairing (hsound : node.Sound) (env : Env) (cp : ControlPacket) :
    ∃ added, (node.receivePairing env cp).log = node.log ++ added ∧ NoLoss added := by
  rcases receivePairing_eq_or env cp node with heq | ⟨handle, -, heq⟩
  · rw [heq]
    exact ⟨[], (List.append_nil _).symm, noLoss_of_eventsOf_eq_nil rfl⟩
  · rw [heq]
    exact noLoss_call hsound env handle (.control cp)

/-- An announce at an address that no own driver has takes nobody's address away. -/
theorem noLoss_receiveAnnounce (hsound : node.Sound) (env : Env) {cp : ControlPacket}
    (hello : cp.type = .hello) (hothers : ∀ k t, node.tenancy? k = some t → ¬ t.Owns cp.address) :
    ∃ added, (node.receiveAnnounce env cp).log = node.log ++ added ∧ NoLoss added := by
  have hheard := quiet_heard hsound cp
  let start : Scan := ⟨node.heard cp, false, false⟩
  obtain ⟨last, hlast, hround⟩ : ∃ last, node.round env cp = .proceed last ∧
      Round cp start.node.registry.handles start.node last.node := by
    refine round_visitAll env hello start.node.registry.handles hheard.sound fun k _ t ht => ?_
    exact hothers k t ((tenancy?_of_quiet hheard k).symm.trans ht)
  obtain ⟨added, hadded, hevents, -⟩ := hround.trace
  have hlog : last.node.log = node.log ++ added :=
    hadded.trans (congrArg (· ++ added) (log_heard cp node))
  have hnone := noLoss_of_eventsOf_eq_nil hevents
  rcases receiveAnnounce_cases env cp node with heq | ⟨scan, hscan, -, -, heq⟩
  · rw [heq, hlast]
    exact ⟨added, hlog, hnone⟩
  · cases hlast.symm.trans hscan
    obtain ⟨-, more, hmore, -, hmoreNone⟩ := sparesOwn_settle env hello hround.quiet.sound
    refine ⟨added ++ more, ?_, hnone.append hmoreNone⟩
    rw [heq, hmore, hlog, List.append_assoc]

/-- The announce of an own address takes no address away, or its owner gives way. -/
theorem noLoss_or_giveWay_of_owner (h : node.Orderly) (env : Env) {frame : Bytes}
    {cp : ControlPacket} (hframe : helloOf? frame = some cp) {owner : Handle} {status : Status}
    (hstatus : node.status? owner = some status) (hlocal : status.isLocal = true)
    (hpos : status.address ≠ 0) (haddress : status.address = cp.address) :
    (∃ added, (node.receiveFrame env frame).log = node.log ++ added ∧ NoLoss added) ∨
    ∃ mid registration, Approaches cp owner node mid ∧
      mid.registry.get? owner = some ⟨status, .driver registration⟩ ∧
      node.receiveFrame env frame = mid.giveWay env owner := by
  obtain ⟨next, later, registration, hlater, hcomes, hthere, heq⟩ :=
    receiveFrame_eq_visitOwner h env hframe hstatus hlocal hpos haddress
  have hello := (helloOf?_eq_some_iff.1 hframe).2
  have howns : ownsAddress cp status = true := ownsAddress_iff.2 ⟨hlocal, hpos, haddress⟩
  rw [heq]
  cases showing_of_owner env owner next howns with
  | yields _ _ hfound =>
    rw [hfound]
    exact .inr ⟨next.node, registration, hcomes, hthere, rfl⟩
  | rebukes _ _ _ _ hfound =>
    obtain ⟨before, hbefore, hevents, -⟩ := hcomes.silent
    left
    rw [hfound]
    show ∃ added, (next.node.post env cp.flagged).log = _ ∧ _
    unfold post
    split
    · rename_i sent _
      refine ⟨before ++ [.sent sent], ?_, noLoss_of_eventsOf_eq_nil ?_⟩
      · show next.node.log ++ _ = _
        rw [hbefore, List.append_assoc]
      · rw [eventsOf_append, hevents]
        rfl
    · exact ⟨before, hbefore, noLoss_of_eventsOf_eq_nil hevents⟩
  | agrees _ calm same =>
    obtain ⟨-, added, -, hlog, hnone⟩ := agree_spec h hstatus hlocal hcomes hthere env hello
      haddress hlater calm same
    exact .inl ⟨added, hlog, hnone⟩
  | moves foreign | records foreign | hears foreign | pairs foreign | passes foreign =>
    cases howns.symm.trans foreign

/-- A frame takes nobody's address away, or the owner of the announced address gives way. -/
theorem noLoss_or_giveWay (h : node.Orderly) (env : Env) (frame : Bytes) :
    (∃ added, (node.receiveFrame env frame).log = node.log ++ added ∧ NoLoss added) ∨
    ∃ cp owner mid status registration, Approaches cp owner node mid ∧
      mid.registry.get? owner = some ⟨status, .driver registration⟩ ∧
      node.receiveFrame env frame = mid.giveWay env owner := by
  cases node.arrival env frame with
  | nothing _ heq =>
    rw [heq]
    exact .inl ⟨[], (List.append_nil _).symm, noLoss_of_eventsOf_eq_nil rfl⟩
  | data _ _ _ heq =>
    rw [heq]
    exact .inl (noLoss_receiveData h.sound env _)
  | pairing _ _ _ heq =>
    rw [heq]
    exact .inl (noLoss_receivePairing h.sound env _)
  | @announce cp hello heq =>
    by_cases howner : ∃ k t, node.tenancy? k = some t ∧ t.Owns cp.address
    · obtain ⟨owner, t, ht, hpos, haddress⟩ := howner
      obtain ⟨entry, hentry, hlocal, rfl⟩ := tenancy?_eq_some_iff.1 ht
      have hstatus : node.status? owner = some entry.status := by
        rw [status?, hentry]
        rfl
      rcases noLoss_or_giveWay_of_owner h env hello hstatus hlocal hpos haddress with
        hnone | ⟨mid, registration, hgive⟩
      · exact .inl hnone
      · exact .inr ⟨cp, owner, mid, entry.status, registration, hgive⟩
    · push Not at howner
      rw [heq]
      exact .inl (noLoss_receiveAnnounce h.sound env (helloOf?_eq_some_iff.1 hello).2 howner)

/-- Who reports a lost address gave way. -/
theorem giveWay_of_lost (h : node.Orderly) {env : Env} {frame : Bytes} {added : List Action}
    (hlog : (node.receiveFrame env frame).log = node.log ++ added) {handle : Handle}
    {address : UInt8} (hlost : ⟨handle, .addressLost address⟩ ∈ eventsOf added) :
    ∃ cp mid, Approaches cp handle node mid ∧
      node.receiveFrame env frame = mid.giveWay env handle := by
  rcases noLoss_or_giveWay h env frame with
    ⟨none, hnone, hquiet⟩ | ⟨cp, owner, mid, status, registration, hcomes, hthere, heq⟩
  · have hsame : added = none := List.append_cancel_left (hlog.symm.trans hnone)
    rw [hsame] at hlost
    cases hquiet _ hlost
  · obtain ⟨-, given, hgiven, hloss, -⟩ := giveWay_spec hcomes.quiet.sound env hthere
    obtain ⟨before, hbefore, hevents, -⟩ := hcomes.silent
    have hsame : added = before ++ given := by
      refine List.append_cancel_left (hlog.symm.trans ?_)
      rw [heq, hgiven, hbefore, List.append_assoc]
    have hreported : ⟨handle, .addressLost address⟩ ∈
        (eventsOf given).filter (·.kind.isLoss) := by
      rw [hsame, eventsOf_append, hevents] at hlost
      exact List.mem_filter.2 ⟨hlost, rfl⟩
    rw [hloss, List.mem_singleton] at hreported
    cases hreported
    exact ⟨cp, mid, hcomes, heq⟩

/-! ## What a lost address takes with it -/

/-- **A lost address takes the bond and the stream of a connected driver with it.** Whatever became
of a node, if a frame makes a driver that pairs lose its address, then the driver is bare
afterwards if it was connected. If it was not, its bond and its stream are as they were. -/
theorem bare_of_lost {settings : NodeSettings} {draws : Draws}
    (h : History settings draws Driver.InStep (fun _ _ => True) node) {handle : Handle}
    {status : Status} {driver : Pairable} (hstatus : node.status? handle = some status)
    (hdriver : node.pairable? handle = some driver) {env : Env} {frame : Bytes}
    {added : List Action} (hlog : (node.receiveFrame env frame).log = node.log ++ added)
    {address : UInt8} (hlost : ⟨handle, .addressLost address⟩ ∈ eventsOf added) :
    ∃ lost left, (node.receiveFrame env frame).status? handle = some lost ∧
      (node.receiveFrame env frame).pairable? handle = some left ∧ lost.address = 0 ∧
      (status.isConnected = true → left.IsBare lost) ∧
      (status.isConnected = false → left = driver ∧ lost.isPaired = status.isPaired ∧
        lost.isPairing = status.isPairing) := by
  obtain ⟨registration, hentry, hpairs⟩ := get?_of_pairable? hstatus hdriver
  have hinStep : driver.gated.StreamerIs Streamer.InStep := by
    have hdriven := h.streamerIs Streamer.survives_inStep
      (registration?_eq_some_iff.2 ⟨_, hentry⟩)
    rw [hpairs] at hdriven
    exact hdriven
  obtain ⟨cp, mid, hcomes, heq⟩ := giveWay_of_lost h.orderly hlog hlost
  obtain ⟨now, hthere, hsame⟩ := hcomes.driver hentry
  have hnow : now.driver = .pairable driver := hsame.trans hpairs
  rw [heq]
  rcases giveWay_cases env hthere with
    ⟨hconnected, hget, -⟩ | ⟨hconnected, ctx, -, hcleared, -, hget, -⟩
  · refine ⟨status.released, driver, by rw [status?, hget]; rfl, pairable?_of_get? hget hnow, rfl,
      fun hwas => ?_, fun _ => ⟨rfl, ?_, ?_⟩⟩
    · rw [hconnected] at hwas
      cases hwas
    · exact Flags.contains_remove_of_disjoint status.flags (by decide)
    · exact Flags.contains_remove_of_disjoint status.flags (by decide)
  · have hordinary := (hcomes.quiet.sound.entries handle _ hthere).1
    have hunbonded := (Driver.respond_spec hordinary .removed ctx).unbonded
    rw [hnow] at hget hunbonded
    rw [hcleared] at hunbonded
    refine ⟨_, _, by rw [status?, hget]; rfl, pairable?_of_get? hget rfl,
      (Status.cleared_of_unbonded_eq hunbonded).1,
      fun _ => Pairable.isBare_removed hinStep ctx, fun hwas => ?_⟩
    rw [hconnected] at hwas
    cases hwas

/-- A driver that streams two bytes, just built. -/
def freshStreamer : Driver :=
  .pairable (.ofGated (.streamer (Streamer.create {} 0 [some [0xAA, 0xBB]] false false)))

/-- A pairable host with a streamer, some ticks after it was registered, that another device asked
to pair and told to stream. -/
def streamingHost (ticks : Nat) : Node :=
  let host := (withDriver ⟨.pairableHost, 7, some 1, some 10⟩ freshStreamer).afterTicks ticks
  (host.receiveFrame .taking (pairingMessage ⟨10, 1, 7⟩ askingFlags ⟨20, 2, 7⟩).frame).receiveFrame
    .taking (Packet.mk 0 20 (StreamCommand.start 20).toBytes).toBytes

theorem inStep_freshStreamer : freshStreamer.InStep := Streamer.inStep_create {} 0 _ false false

theorem history_streamingHost {admits : Driver → Prop} (hadmits : admits freshStreamer)
    (ticks : Nat) :
    History {} ⟨fun _ => 0, 0⟩ admits (fun _ _ => True) (streamingHost ticks) := by
  have hstart : History {} ⟨fun _ => 0, 0⟩ admits (fun _ _ => True)
      (withDriver ⟨.pairableHost, 7, some 1, some 10⟩ freshStreamer) :=
    history_withDriver _ trivial hadmits
  unfold streamingHost
  exact .receive .taking _ (.receive .taking _ (hstart.afterTicks ticks) trivial) trivial

/-- A connected host that streams loses its address, and nothing is left of bond and stream. -/
theorem bare_of_streamingHost :
    ∃ status driver added lost left,
      History {} ⟨fun _ => 0, 0⟩ Driver.InStep (fun _ _ => True) (streamingHost 4) ∧
      (streamingHost 4).status? ⟨0, 0⟩ = some status ∧ status.isConnected = true ∧
      (streamingHost 4).pairable? ⟨0, 0⟩ = some driver ∧ driver.state = .paired ⟨20, 2, 7⟩ ∧
      ((streamingHost 4).receiveFrame .taking (ControlPacket.hello 10 7 9).frame).log =
        (streamingHost 4).log ++ added ∧ ⟨⟨0, 0⟩, .addressLost 10⟩ ∈ eventsOf added ∧
      ((streamingHost 4).receiveFrame .taking (ControlPacket.hello 10 7 9).frame).status? ⟨0, 0⟩ =
        some lost ∧
      ((streamingHost 4).receiveFrame .taking (ControlPacket.hello 10 7 9).frame).pairable? ⟨0, 0⟩ =
        some left ∧ left.IsBare lost := by
  have hhistory := history_streamingHost inStep_freshStreamer 4
  have hstatus : (streamingHost 4).status? ⟨0, 0⟩ =
      some ⟨10, 0, DeviceFlags.own ∪ DeviceFlags.pairable ∪ DeviceFlags.paired ∪
        DeviceFlags.confirmed, 1, 7⟩ := by
    decide +kernel
  obtain ⟨driver, hdriver, hstate⟩ : ∃ driver, (streamingHost 4).pairable? ⟨0, 0⟩ = some driver ∧
      driver.state = .paired ⟨20, 2, 7⟩ :=
    Option.map_eq_some_iff.1 (by decide +kernel : ((streamingHost 4).pairable? ⟨0, 0⟩).map
      (fun driver => driver.state) = some (.paired ⟨20, 2, 7⟩))
  obtain ⟨_, _, hevolves, -⟩ := receiveFrame_evolves hhistory.orderly .taking
    (ControlPacket.hello 10 7 9).frame
  obtain ⟨added, hlog, -⟩ := hevolves.trace
  have hevents : eventsOf ((streamingHost 4).receiveFrame .taking
      (ControlPacket.hello 10 7 9).frame).log = eventsOf (streamingHost 4).log ++
        [⟨⟨0, 0⟩, .addressLost 10⟩, ⟨⟨0, 0⟩, .removed⟩, ⟨⟨0, 0⟩, .unpaired⟩] := by
    decide +kernel
  have hlost : ⟨⟨0, 0⟩, .addressLost 10⟩ ∈ eventsOf added := by
    rw [hlog, eventsOf_append] at hevents
    rw [List.append_cancel_left hevents]
    exact List.mem_cons_self
  obtain ⟨lost, left, hafter, hleft, -, hbare, -⟩ :=
    bare_of_lost hhistory hstatus hdriver hlog hlost
  exact ⟨_, driver, added, lost, left, hhistory, hstatus, by decide, hdriver, hstate, hlog, hlost,
    hafter, hleft, hbare (by decide)⟩

/-- A host on probation that streams loses its address, and everything else stays: the bond and its
flag, the address to stream under, and a loop that sends its state there. -/
theorem streams_of_lost :
    let before := streamingHost 1
    let after := before.receiveFrame .taking (ControlPacket.hello 10 7 9).frame
    History {} ⟨fun _ => 0, 0⟩ Driver.InStep (fun _ _ => True) before ∧
    eventsOf after.log = eventsOf before.log ++ [⟨⟨0, 0⟩, .addressLost 10⟩] ∧
    after.status? ⟨0, 0⟩ =
      some ⟨0, 0, DeviceFlags.own ∪ DeviceFlags.pairable ∪ DeviceFlags.paired, 1, 7⟩ ∧
    (after.pairable? ⟨0, 0⟩).map (fun p => p.state) = some (.paired ⟨20, 2, 7⟩) ∧
    ((after.pairable? ⟨0, 0⟩).bind fun p => (Driver.pairable p).streamer?).map
      (fun s => (s.address, s.state, (s.runLoop .taking 0).2.1)) =
        some (some 10, .streaming, some [0, 0, 10, 7, 3, 0, 0, 0, 0, 0xAA, 0xBB]) := by
  refine ⟨history_streamingHost inStep_freshStreamer 1, ?_, ?_, ?_, ?_⟩
  · decide +kernel
  · decide +kernel
  · decide +kernel
  · decide +kernel

end Node

end DeviceBus
