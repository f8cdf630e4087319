import DeviceBus.Proofs.Node.Discovery
import DeviceBus.Proofs.Node.Filtering
import DeviceBus.Proofs.Node.Hearing

/-!
# Announces of paired devices

The announce that puts a paired device on the filter stops there. From then on the device is on the
filter, and its next announce connects the oldest driver that waits for such a device. But where
there is no room on the filter the device does not get there, so its next announce stops as well,
and the driver goes on waiting for a device that is on the bus.

An announce can come to grief before it gets there. Here it is `IsLeftTo` the driver that waits: no
own driver has its address, no other driver follows its device, and nobody handles it.

## Main results

* `round_of_isLeftTo`: the round of an announce that is left to a driver.
* `IsLeftTo.again`: what is left to a driver is left to it when it comes again.
* `connectsPaired_of_comes`: what a paired device's announce does if it comes twice.
* `staysWaiting_of_crowdedNode`: a driver that a paired device is kept from.
-/

namespace DeviceBus

open ControlPacket

/-- A status of something that is connected to the announced device. -/
structure Status.Represents (cp : ControlPacket) (status : Status) : Prop where
  connected : status.isConnected = true
  address : status.address = cp.address
  serial : status.serial = cp.serial

/-- No driver lets go of a device by itself. -/
theorem Status.Represents.respond {cp : ControlPacket} {ctx : Context}
    (h : ctx.status.Represents cp) (driver : Driver) (callback : Callback) :
    (driver.respond callback ctx).context.status.Represents cp := by
  have hsame := driver.identity_respond callback ctx
  exact ⟨driver.contains_respond callback (by decide) h.connected,
    (congrArg Identity.address hsame).trans h.address,
    (congrArg Identity.serial hsame).trans h.serial⟩

namespace Node

variable {node after : Node} {env later : Env} {cp : ControlPacket} {handle j k : Handle}
  {scan : Scan} {status : Status} {registration : Registration}

/-! ## Who waits for a device -/

/-- The status of a driver that waits for the announced device. -/
def awaiting? (cp : ControlPacket) (k : Handle) (node : Node) : Option Status :=
  ((node.enrolled? k).map (·.1)).filter (awaits cp)

/-- The oldest driver that waits for the announced device. -/
def firstAwaiting? (cp : ControlPacket) (node : Node) : Option Handle :=
  node.drivers.find? fun k => (node.awaiting? cp k).isSome

theorem awaiting?_eq_some_iff : node.awaiting? cp k = some status ↔
    ∃ registration, node.enrolled? k = some (status, registration) ∧ awaits cp status = true := by
  unfold awaiting?
  rw [Option.filter_eq_some_iff, Option.map_eq_some_iff]
  constructor
  · rintro ⟨⟨⟨shown, registration⟩, hkept, rfl⟩, hawaits⟩
    exact ⟨registration, hkept, hawaits⟩
  · rintro ⟨registration, hkept, hawaits⟩
    exact ⟨⟨_, hkept, rfl⟩, hawaits⟩

theorem isSome_awaiting?_iff : (node.awaiting? cp k).isSome = true ↔
    ∃ status registration, node.enrolled? k = some (status, registration) ∧
      awaits cp status = true := by
  rw [Option.isSome_iff_exists]
  exact exists_congr fun _ => awaiting?_eq_some_iff

theorem awaiting?_eq_of_map_eq
    (h : (after.enrolled? k).map (·.1) = (node.enrolled? k).map (·.1)) :
    after.awaiting? cp k = node.awaiting? cp k := by
  unfold awaiting?
  rw [h]

/-- Who listens or is connected does not wait. -/
theorem awaiting?_eq_none (h : node.enrolled? k = some (status, registration))
    (hears : status.isBroadcast = true ∨ status.isConnected = true) :
    node.awaiting? cp k = none := by
  rw [Option.eq_none_iff_forall_ne_some]
  intro other hother
  obtain ⟨registration', hkept, hawaits⟩ := awaiting?_eq_some_iff.1 hother
  cases h.symm.trans hkept
  obtain ⟨hvirtual, hoff, -⟩ := awaits_iff.1 hawaits
  rcases hears with hbroadcast | hon
  · cases (Status.isVirtual_eq_false_of_isBroadcast hbroadcast).symm.trans hvirtual
  · cases hoff.symm.trans hon

/-- Nor does it wait when it was told something. -/
theorem awaiting?_call (h : node.enrolled? k = some (status, registration))
    (hears : status.isBroadcast = true ∨ status.isConnected = true) (env : Env)
    (callback : Callback) : (node.call env k callback).2.awaiting? cp k = none :=
  awaiting?_eq_none (enrolled?_call h env callback)
    (hears.imp (registration.driver.contains_respond callback (by decide))
      (registration.driver.contains_respond callback (by decide)))

/-- The node finds the oldest driver that waits: records wait for nothing. -/
theorem findStatus?_awaits (wf : node.registry.WellFormed) (hplain : node.Each Entry.IsPlain) :
    node.registry.findStatus? (awaits cp) = node.firstAwaiting? cp := by
  unfold firstAwaiting? drivers
  rw [List.find?_filter]
  cases hfind : node.registry.findStatus? (awaits cp) with
  | none =>
    symm
    rw [List.find?_eq_none]
    intro k _ hwaits
    obtain ⟨status, registration, hkept, hawaits⟩ :=
      isSome_awaiting?_iff.1 (of_decide_eq_true hwaits).2
    have hnone := wf.find?_eq_none_iff.1 hfind k _ (enrolled?_eq_some_iff.1 hkept)
    cases hnone.symm.trans hawaits
  | some handle =>
    symm
    obtain ⟨⟨status, kind⟩, hentry, hawaits⟩ := wf.get?_of_find?_eq_some hfind
    obtain ⟨earlier, rest, hhandles, hnone⟩ := wf.handles_of_find?_eq_some hfind
    cases kind with
    | record =>
      exact absurd ((hplain _ _ hentry rfl).symm.trans (awaits_iff.1 hawaits).1)
        Bool.false_ne_true
    | driver registration =>
      have hkept := enrolled?_eq_some_iff.2 hentry
      have hwaits := isSome_awaiting?_iff.2 ⟨status, registration, hkept, hawaits⟩
      rw [List.find?_eq_some_iff_append]
      refine ⟨decide_eq_true ⟨by rw [hkept]; rfl, hwaits⟩, earlier, rest, hhandles,
        fun j hj => ?_⟩
      rw [Bool.not_eq_true', decide_eq_false_iff_not]
      rintro ⟨-, hsome⟩
      obtain ⟨shown, other, hother, hwaits'⟩ := isSome_awaiting?_iff.1 hsome
      cases (hnone j hj _ (enrolled?_eq_some_iff.1 hother)).symm.trans hwaits'

/-- If the same drivers wait, the oldest of them is the same. -/
theorem firstAwaiting?_eq {who : Handle → Prop} (hspares : Spares who node after)
    (wf : node.registry.WellFormed) (h : ∀ j, after.awaiting? cp j = node.awaiting? cp j) :
    after.firstAwaiting? cp = node.firstAwaiting? cp := by
  unfold firstAwaiting?
  rw [hspares.drivers wf]
  exact congrArg (List.find? · node.drivers) (funext fun j => congrArg Option.isSome (h j))

theorem isSome_awaiting?_of_firstAwaiting? (h : node.firstAwaiting? cp = some k) :
    (node.awaiting? cp k).isSome = true :=
  List.find?_some (p := fun k => (node.awaiting? cp k).isSome) h

theorem status?_of_awaiting? (h : node.awaiting? cp k = some status) :
    node.status? k = some status := by
  obtain ⟨registration, hkept, -⟩ := awaiting?_eq_some_iff.1 h
  exact status?_of_enrolled? hkept

/-! ## An announce that is left to a driver -/

/-- The driver does not own the announced address and does not follow the announced device. -/
def Disregards (cp : ControlPacket) (k : Handle) (node : Node) : Prop :=
  ∀ kept, node.enrolled? k = some kept → ownsAddress cp kept.1 = false ∧ follows cp kept.1 = false

/-- Such a driver lets an announce go on, and whether it waits for the device does not change. -/
theorem visit_of_disregards (h : Disregards cp handle scan.node) (env : Env) :
    ∃ next, visit env cp handle scan = .proceed next ∧ next.isClaimed = scan.isClaimed ∧
      next.node.awaiting? cp handle = scan.node.awaiting? cp handle := by
  rcases exists_driver_or_visit_eq env cp handle scan with ⟨status, registration, held⟩ | heq
  · have hkept := enrolled?_eq_some_iff.2 held
    obtain ⟨howns, hfollows⟩ := h _ hkept
    have hshown : ∀ mid : Node, mid.enrolled? handle = some (status, registration) →
        (status.isBroadcast = true ∨ status.isConnected = true) →
        (mid.call env handle (.control cp)).2.awaiting? cp handle =
          scan.node.awaiting? cp handle := fun mid hmid hears =>
      (awaiting?_call hmid hears env _).trans (awaiting?_eq_none hkept hears).symm
    cases showing env cp held with
    | yields owns | rebukes owns | agrees owns => cases howns.symm.trans owns
    | moves _ follows => cases hfollows.symm.trans follows
    | records _ _ broadcast _ _ _ heq =>
      have hsame := (spares_recordDevice cp scan.node).enrolled? handle trivial
      exact ⟨_, heq, rfl, hshown _ (hsame.trans hkept) (.inl broadcast)⟩
    | hears _ _ broadcast _ _ heq => exact ⟨_, heq, rfl, hshown _ hkept (.inl broadcast)⟩
    | pairs _ _ _ _ _ connected _ _ heq => exact ⟨_, heq, rfl, hshown _ hkept (.inr connected)⟩
    | passes _ _ _ _ heq => exact ⟨scan, heq, rfl, rfl⟩
  · exact ⟨scan, heq, rfl, rfl⟩

theorem visitAll_of_disregards {handles : List Handle} (hnodup : handles.Nodup) (scan : Scan)
    (h : ∀ k ∈ handles, Disregards cp k scan.node) (env : Env) :
    ∃ next, visitAll env cp handles scan = .proceed next ∧ next.isClaimed = scan.isClaimed ∧
      ∀ j, next.node.awaiting? cp j = scan.node.awaiting? cp j := by
  induction handles generalizing scan with
  | nil => exact ⟨scan, rfl, rfl, fun _ => rfl⟩
  | cons handle rest ih =>
    obtain ⟨hnot, hrest⟩ := List.nodup_cons.1 hnodup
    have hspares := spares_visit env cp handle scan
    obtain ⟨mid, hvisit, hclaimed, hwaits⟩ :=
      visit_of_disregards (h handle List.mem_cons_self) env
    rw [hvisit] at hspares
    have hsame : ∀ j, j ≠ handle → mid.node.enrolled? j = scan.node.enrolled? j := hspares.enrolled?
    obtain ⟨next, hround, hclaimed', hwaits'⟩ := ih hrest mid fun k hk kept hkept =>
      h k (List.mem_cons_of_mem _ hk) kept
        ((hsame k fun heq => hnot (heq ▸ hk)).symm.trans hkept)
    unfold visitAll
    rw [hvisit]
    refine ⟨next, hround, hclaimed'.trans hclaimed, fun j => (hwaits' j).trans ?_⟩
    by_cases hj : j = handle
    · rw [hj]
      exact hwaits
    · exact awaiting?_eq_of_map_eq (congrArg (Option.map (·.1)) (hsame j hj))

/-- That partners were heard of is no matter of a status. -/
theorem map_enrolled?_heard (cp : ControlPacket) (node : Node) (k : Handle) :
    ((node.heard cp).enrolled? k).map (·.1) = (node.enrolled? k).map (·.1) := by
  cases hkept : node.enrolled? k with
  | some kept =>
    obtain ⟨silence, hheard⟩ := enrolled?_heard cp hkept
    exact congrArg (Option.map (·.1)) hheard
  | none =>
    cases hheard : (node.heard cp).enrolled? k with
    | none => rfl
    | some later =>
      obtain ⟨booked, hwas, -⟩ := exists_enrolled?_of_heard cp hheard
      cases hkept.symm.trans hwas

/-- Whether a round found a driver that handles the announce. -/
def Finding.isHandled : Finding → Bool
  | .collision _ => false
  | .proceed scan => scan.handled

/-- An announce is left to a driver: no own driver has its address, no other driver follows its
device, and while the driver waits for the device nobody handles the announce. -/
structure IsLeftTo (env : Env) (cp : ControlPacket) (k : Handle) (node : Node) : Prop where
  foreign : ∀ pair ∈ node.statuses, pair.2.isLocal = true → pair.2.address ≠ cp.address
  unfollowed : ∀ pair ∈ node.statuses, pair.1 ≠ k → follows cp pair.2 = false
  unhandled : (node.awaiting? cp k).isSome = true → (node.round env cp).isHandled = false

theorem IsLeftTo.ownsAddress_eq_false (h : node.IsLeftTo env cp k)
    (wf : node.registry.WellFormed) (hkept : node.enrolled? j = some (status, registration)) :
    ownsAddress cp status = false := by
  rw [← Bool.not_eq_true]
  intro howns
  obtain ⟨hlocal, -, haddress⟩ := ownsAddress_iff.1 howns
  exact h.foreign (j, status) ((mem_statuses_iff wf).2 (status?_of_enrolled? hkept)) hlocal haddress

theorem IsLeftTo.follows_eq_false (h : node.IsLeftTo env cp k)
    (hwaits : (node.awaiting? cp k).isSome = true) (wf : node.registry.WellFormed)
    (hkept : node.enrolled? j = some (status, registration)) : follows cp status = false := by
  by_cases hj : j = k
  · subst hj
    obtain ⟨shown, other, hother, hawaits⟩ := isSome_awaiting?_iff.1 hwaits
    cases hkept.symm.trans hother
    rw [← Bool.not_eq_true]
    intro hfollows
    cases (awaits_iff.1 hawaits).2.1.symm.trans (follows_iff.1 hfollows).2.1
  · exact h.unfollowed (j, status) ((mem_statuses_iff wf).2 (status?_of_enrolled? hkept)) hj

/-- **The round of an announce that is left to a driver that waits** leaves everybody waiting who
waits, and the announce goes on. -/
theorem round_of_isLeftTo (h : node.IsLeftTo env cp k) (wf : node.registry.WellFormed)
    (hwaits : (node.awaiting? cp k).isSome = true) :
    ∃ scan, node.round env cp = .proceed scan ∧ scan.handled = false ∧ scan.isClaimed = false ∧
      ∀ j, scan.node.awaiting? cp j = node.awaiting? cp j := by
  have hwf := (spares_heard cp node).wellFormed wf
  have hdisregards : ∀ j ∈ (node.heard cp).registry.handles, Disregards cp j (node.heard cp) := by
    rintro j - ⟨status, registration⟩ hkept
    obtain ⟨booked, hwas, -⟩ := exists_enrolled?_of_heard cp hkept
    exact ⟨h.ownsAddress_eq_false wf hwas, h.follows_eq_false hwaits wf hwas⟩
  obtain ⟨scan, hround, hclaimed, hsame⟩ := visitAll_of_disregards
    hwf.nodup_handles ⟨node.heard cp, false, false⟩ hdisregards env
  have hround' : node.round env cp = .proceed scan := hround
  have hhandled := h.unhandled hwaits
  rw [hround'] at hhandled
  exact ⟨scan, hround', hhandled, hclaimed, fun j =>
    (hsame j).trans (awaiting?_eq_of_map_eq (map_enrolled?_heard cp node j))⟩

/-! ## Connected drivers -/

/-- A driver is connected to the announced device. -/
def Represents (cp : ControlPacket) (k : Handle) (node : Node) : Prop :=
  ∃ status registration, node.enrolled? k = some (status, registration) ∧ status.Represents cp

theorem Represents.call (h : node.Represents cp k) (env : Env) (callback : Callback) :
    (node.call env k callback).2.Represents cp k := by
  obtain ⟨status, registration, hkept, hstatus⟩ := h
  exact ⟨_, _, enrolled?_call hkept env callback, hstatus.respond registration.driver callback⟩

theorem Represents.of_spares {who : Handle → Prop} (h : node.Represents cp k)
    (hspares : Spares who node after) (hk : who k) : after.Represents cp k := by
  obtain ⟨status, registration, hkept, hstatus⟩ := h
  exact ⟨status, registration, (hspares.enrolled? k hk).trans hkept, hstatus⟩

/-- Who is connected to the device stays so when the address is found to be as announced. -/
theorem Represents.sight (h : node.Represents cp k) :
    (node.modifyStatus k (·.followed cp)).Represents cp k := by
  obtain ⟨status, registration, hkept, hstatus⟩ := h
  exact ⟨_, registration, enrolled?_modifyStatus hkept _,
    (status.isConnected_mark_seen).trans hstatus.connected, rfl, hstatus.serial⟩

/-- A driver that is connected to a device represents it. -/
theorem represents_adopt (h : node.enrolled? k = some (status, registration)) (env : Env)
    (cp : ControlPacket) : (node.adopt env k cp).Represents cp k := by
  have hfound : ((node.modifyStatus k (Status.found cp)).queueEvent k
      (.connected cp.address)).Represents cp k :=
    ⟨_, registration, enrolled?_modifyStatus h (Status.found cp),
      Flags.contains_insert_of_subset status.flags (by decide), rfl, rfl⟩
  exact (hfound.call env .connected).call env (.control cp)

/-- An announce of the device takes it from no driver, but maybe from the owner of its address. -/
theorem Represents.visit (h : scan.node.Represents cp k)
    (hkept : scan.node.enrolled? k = some (status, registration))
    (howns : ownsAddress cp status = false) (env : Env) :
    (visit env cp k scan).node.Represents cp k := by
  cases showing env cp (enrolled?_eq_some_iff.1 hkept) with
  | yields owns | rebukes owns | agrees owns => cases howns.symm.trans owns
  | moves _ _ heq =>
    rw [heq]
    exact h.sight.call env (.control cp)
  | records _ _ _ _ _ _ heq =>
    rw [heq]
    exact (h.of_spares (spares_recordDevice cp scan.node) trivial).call env (.control cp)
  | hears _ _ _ _ _ heq | pairs _ _ _ _ _ _ _ _ heq =>
    rw [heq]
    exact h.call env (.control cp)
  | passes _ _ _ _ heq =>
    rw [heq]
    exact h

theorem Represents.round (h : node.Represents cp k) (hleft : node.IsLeftTo env cp k)
    (wf : node.registry.WellFormed) : (node.round env cp).node.Represents cp k := by
  obtain ⟨status, registration, hkept, hstatus⟩ := h
  have howns := hleft.ownsAddress_eq_false wf hkept
  obtain ⟨silence, hheard⟩ := enrolled?_heard cp hkept
  have hheard' : (node.heard cp).Represents cp k := ⟨status, _, hheard, hstatus⟩
  rcases exists_turn_of_round hheard wf env with ⟨found, heq, hspares⟩ | ⟨scan, hbefore, hafter⟩
  · rw [heq]
    exact hheard'.of_spares hspares rfl
  · have hscan := (hbefore.enrolled? k rfl).trans hheard
    exact ((hheard'.of_spares hbefore rfl).visit hscan howns env).of_spares hafter rfl

theorem Represents.receiveAnnounce (h : node.Represents cp k) (hleft : node.IsLeftTo env cp k)
    (wf : node.registry.WellFormed) : (node.receiveAnnounce env cp).Represents cp k := by
  have hround := h.round hleft wf
  rcases receiveAnnounce_or_adopt wf env cp k with hspares | ⟨mid, hbefore, hawaits, -⟩
  · exact hround.of_spares hspares rfl
  · -- who is connected waits for nothing
    obtain ⟨status, registration, hkept, hstatus⟩ := hround.of_spares hbefore rfl
    cases (awaits_iff.1 (hawaits _ hkept)).2.1.symm.trans hstatus.connected

/-! ## One announce -/

/-- **What the announce of a paired device does** if it is left to the oldest driver that waits for
the device. From an address that is on the filter it connects the driver; otherwise whoever waits
goes on waiting. -/
theorem receiveAnnounce_of_isLeftTo (h : node.IsLeftTo env cp k) (wf : node.registry.WellFormed)
    (hplain : node.Each Entry.IsPlain) (safe : cp.flags.isSafe = true)
    (paired : cp.flags.contains ControlFlags.paired = true) (positive : cp.address ≠ 0)
    (oldest : node.firstAwaiting? cp = some k) :
    (cp.address ∈ node.filter.addresses → (node.receiveAnnounce env cp).Represents cp k) ∧
      (cp.address ∉ node.filter.addresses →
        ∀ j, (node.receiveAnnounce env cp).awaiting? cp j = node.awaiting? cp j) := by
  have hwaits := isSome_awaiting?_of_firstAwaiting? oldest
  obtain ⟨scan, hround, hunhandled, hunclaimed, hsame⟩ := round_of_isLeftTo h wf hwaits
  have hfilter := filter_round env cp node
  have hspares := spares_round env cp node
  have hplain' : (node.round env cp).node.Each Entry.IsPlain :=
    hplain.round Entry.isInvariant_isPlain env fun _ => trivial
  rw [hround] at hfilter hspares hplain'
  have hfilter' : scan.node.filter = node.filter := hfilter
  have hcontains : scan.node.filter.contains cp.address =
      decide (cp.address ∈ node.filter.addresses) := by
    rw [hfilter', AddressFilter.contains, decide_eq_true (UInt8.pos_iff_ne_zero.2 positive),
      Bool.true_and]
  rw [receiveAnnounce_eq, hround]
  dsimp only
  rw [hunhandled, safe, Bool.not_true, Bool.or_self, if_neg Bool.false_ne_true]
  unfold settle
  dsimp only
  rw [paired, hcontains]
  constructor
  · intro hmem
    rw [decide_eq_true hmem]
    have hfirst : scan.node.registry.findStatus? (awaits cp) = some k :=
      ((findStatus?_awaits (hspares.wellFormed wf) hplain').trans
        (firstAwaiting?_eq hspares wf hsame)).trans oldest
    have hdiscover : scan.node.discover env cp = scan.node.adopt env k cp := by
      unfold discover
      rw [hfirst]
    obtain ⟨status, registration, hkept, -⟩ := isSome_awaiting?_iff.1 ((hsame k).symm ▸ hwaits)
    rw [hunclaimed]
    show (scan.node.discover env cp).Represents cp k
    rw [hdiscover]
    exact represents_adopt hkept env cp
  · intro hout
    rw [decide_eq_false hout]
    exact hsame

/-! ## Drivers that leave their role alone -/

/-- Who follows a device after an announce came to it did so before. -/
theorem follows_of_minds {before after : Status} (h : before.Minds after)
    (hfollows : follows cp after = true) : follows cp before = true := by
  obtain ⟨hvirtual, hon, hserial, hclass⟩ := follows_iff.1 hfollows
  have hbefore := (Status.isVirtual_of_mode_eq h.mode).symm.trans hvirtual
  obtain ⟨hon', hserial', hclass'⟩ := (h.tracks hbefore).connected hon
  exact follows_iff.2 ⟨hbefore, hon', hserial'.symm.trans hserial, hclass'.symm.trans hclass⟩

theorem Adopts.firstAwaiting? (h : Adopts cp k node after) (hmild : node.IsMild) :
    node.firstAwaiting? cp = some k := by
  obtain ⟨pinned, status, -, ⟨registration, hkept, -⟩, hawaits, -⟩ := h.connects
  obtain ⟨earlier, rest, hdrivers, hnone⟩ := h.oldest
  unfold Node.firstAwaiting?
  rw [List.find?_eq_some_iff_append]
  refine ⟨isSome_awaiting?_iff.2 ⟨status, registration, hkept, hawaits⟩, earlier, rest, hdrivers,
    fun j hj => ?_⟩
  rw [Bool.not_eq_true', ← Bool.not_eq_true]
  intro hwaits
  obtain ⟨shown, other, hother, hawaits'⟩ := isSome_awaiting?_iff.1 hwaits
  obtain ⟨pinned', status', hhas⟩ := hmild j (by rw [hother]; rfl)
  have hstatus := hhas.status_eq (status?_of_enrolled? hother)
  cases (hnone j hj pinned' status' hhas).symm.trans (hstatus ▸ hawaits')

/-- **An announce that was left to a driver is left to it again**, where drivers leave alone what is
the affair of their node. Only whether somebody handles it is up to them. -/
theorem IsLeftTo.again {settings : NodeSettings} {draws : Draws} {xs : List Happening}
    {frame : Bytes} (left : node.IsLeftTo env cp k)
    (h : Comes settings draws Driver.IsMild xs node) (hello : helloOf? frame = some cp)
    (oldest : node.firstAwaiting? cp = some k)
    (unhandled : ((node.receiveFrame env frame).awaiting? cp k).isSome = true →
      ((node.receiveFrame env frame).round later cp).isHandled = false) :
    (node.receiveFrame env frame).IsLeftTo later cp k := by
  have hunowned : node.IsUnowned cp.address := fun j entry hentry =>
    left.foreign (j, entry.status) ((mem_statuses_iff h.wellFormed).2
      (congrArg (Option.map Entry.status) hentry))
  have hattends := (attends_receiveAnnounce h.isOrderly hunowned h.wellFormed env (k := k)).1
  have hspares := spares_receiveAnnounce env cp node
  have hothers : ∀ j pinned status, j ≠ k → node.Has j pinned status →
      Listens j pinned status node (node.receiveAnnounce env cp) := by
    rcases listens_or_adopts h.isMild h.wellFormed env cp with hlistens | ⟨adopted, hadopts⟩
    · exact fun j pinned status _ => hlistens j pinned status
    · -- only the oldest driver that waits is connected
      cases (hadopts.firstAwaiting? h.isMild).symm.trans oldest
      exact hadopts.others
  have hmid := h.receive env frame
  rw [← receiveFrame_of_hello node env hello] at hattends hspares hothers
  refine ⟨?foreign, ?unfollowed, unhandled⟩
  case foreign =>
    rintro ⟨j, status⟩ hmem
    obtain ⟨entry, hentry, rfl⟩ :=
      Option.map_eq_some_iff.1 ((mem_statuses_iff hmid.wellFormed).1 hmem)
    exact hattends.isUnowned hunowned j entry hentry
  case unfollowed =>
    rintro ⟨j, shown⟩ hmem hj
    rw [← Bool.not_eq_true]
    intro hfollows
    obtain ⟨⟨_, kind⟩, hentry, rfl⟩ :=
      Option.map_eq_some_iff.1 ((mem_statuses_iff hmid.wellFormed).1 hmem)
    cases kind with
    | record =>
      cases (hmid.isPlain _ _ hentry rfl).symm.trans (follows_iff.1 hfollows).1
    | driver registration =>
      have hafter := enrolled?_eq_some_iff.2 hentry
      have hdriver : j ∈ node.drivers := by
        rw [← hspares.drivers h.wellFormed, mem_drivers_iff hmid.wellFormed, hafter]
        rfl
      obtain ⟨pinned, status, hhas⟩ := h.isMild j ((mem_drivers_iff h.wellFormed).1 hdriver)
      obtain ⟨shown, hleads, hminds⟩ := hothers j pinned status hj hhas
      have hshown := hleads.has.status_eq (status?_of_enrolled? hafter)
      have hbefore := follows_of_minds hminds (hshown ▸ hfollows)
      have hunfollowed := left.unfollowed (j, status)
        ((mem_statuses_iff h.wellFormed).2 hhas.status?) hj
      cases hunfollowed.symm.trans hbefore

/-! ## The announce comes twice -/

/-- What the announce of a paired device does, if it comes first and then again. -/
structure ConnectsPaired (settings : NodeSettings) (cp : ControlPacket) (k : Handle)
    (node first second : Node) : Prop where
  /-- From an address that is not on the filter the first announce connects nobody. -/
  swallowed : cp.address ∉ node.filter.addresses → first.status? k = node.status? k
  /-- If the address is on the filter, or there is room for it, the driver is connected to the
  device after the second one. -/
  connected : cp.address ∈ node.filter.addresses ∨
    node.filter.addresses.length < settings.filterCapacity → second.Represents cp k
  /-- If the filter is full without the address, the driver waits as before. -/
  waiting : cp.address ∉ node.filter.addresses →
    settings.filterCapacity ≤ node.filter.addresses.length →
    second.status? k = node.status? k ∧ second.firstAwaiting? cp = some k

/-- **Only the first announce of a paired device is swallowed, as long as the filter has room for
its address.** Each of the two announces is left to the driver. Where drivers leave alone what is
the affair of their node, the second one is if nobody handles it. -/
theorem connectsPaired_of_comes {settings : NodeSettings} {draws : Draws} {xs : List Happening}
    {frame : Bytes} (h : Comes settings draws (fun _ => True) xs node)
    (hello : helloOf? frame = some cp) (safe : cp.flags.isSafe = true)
    (paired : cp.flags.contains ControlFlags.paired = true) (positive : cp.address ≠ 0)
    (oldest : node.firstAwaiting? cp = some k) (first : node.IsLeftTo env cp k)
    (again : (node.receiveFrame env frame).IsLeftTo later cp k ∨
      (∃ ys, Comes settings draws Driver.IsMild ys node) ∧
        (((node.receiveFrame env frame).awaiting? cp k).isSome = true →
          ((node.receiveFrame env frame).round later cp).isHandled = false)) :
    ConnectsPaired settings cp k node (node.receiveFrame env frame)
      ((node.receiveFrame env frame).receiveFrame later frame) := by
  replace again : (node.receiveFrame env frame).IsLeftTo later cp k := by
    rcases again with hleft | ⟨⟨ys, hmild⟩, hunhandled⟩
    · exact hleft
    · exact first.again hmild hello oldest hunhandled
  have hmid := h.receive env frame
  rw [receiveFrame_of_hello (node.receiveFrame env frame) later hello]
  have heq := receiveFrame_of_hello node env hello
  have hone := receiveAnnounce_of_isLeftTo first h.wellFormed h.isPlain safe paired positive oldest
  rw [← heq] at hone
  generalize node.receiveFrame env frame = mid at hmid heq hone again ⊢
  by_cases hmem : cp.address ∈ node.filter.addresses
  · have hthere := hone.1 hmem
    refine ⟨fun hout => absurd hmem hout, fun _ => ?_, fun hout => absurd hmem hout⟩
    exact hthere.receiveAnnounce again hmid.wellFormed
  · have hsame := hone.2 hmem
    have hspares : Spares (fun _ => False) node mid := heq ▸ spares_receiveAnnounce env cp node
    have holdest : mid.firstAwaiting? cp = some k :=
      (firstAwaiting?_eq hspares h.wellFormed hsame).trans oldest
    have htwo := receiveAnnounce_of_isLeftTo again hmid.wellFormed hmid.isPlain safe paired positive
      holdest
    have hsettles : node.Settles env cp := by
      obtain ⟨scan, hround, hunhandled, -⟩ :=
        round_of_isLeftTo first h.wellFormed (isSome_awaiting?_of_firstAwaiting? oldest)
      exact ⟨safe, scan, hround, hunhandled⟩
    have hfilter : cp.address ∈ mid.filter.addresses ↔
        node.filter.addresses.length < settings.filterCapacity := by
      rw [heq, filter_of_settles h.isSound hsettles, AddressFilter.learn, if_pos paired,
        AddressFilter.mem_add, h.isSound.capacity]
      simp [hmem, positive]
    have hstatus : ∀ {after : Node}, (∀ j, after.awaiting? cp j = node.awaiting? cp j) →
        after.status? k = node.status? k := by
      intro after hafter
      obtain ⟨status, hwaits⟩ :=
        Option.isSome_iff_exists.1 (isSome_awaiting?_of_firstAwaiting? oldest)
      rw [status?_of_awaiting? hwaits, status?_of_awaiting? ((hafter k).trans hwaits)]
    refine ⟨fun _ => hstatus hsame, fun hroom => ?_, fun _ hfull => ?_⟩
    · exact htwo.1 (hfilter.2 (hroom.resolve_left hmem))
    · have hsame' := htwo.2 fun hin => absurd (hfilter.1 hin) (Nat.not_lt.2 hfull)
      refine ⟨hstatus fun j => (hsame' j).trans (hsame j), ?_⟩
      exact (firstAwaiting?_eq (spares_receiveAnnounce later cp mid) hmid.wellFormed
        hsame').trans holdest

/-! ## A full filter -/

/-- A virtual driver that waits for a device of class 7 on a node in its usual settings. -/
def waitingNode : Node := withDriver ⟨.virtual, 7, none, none⟩ .quiet

/-- The first announce of the device is swallowed, and the second one connects the driver. -/
theorem connectsPaired_of_waitingNode :
    waitingNode.filter.addresses.length < 20 ∧
      ConnectsPaired {} (deviceHello ControlFlags.paired) ⟨0, 0⟩ waitingNode
        (waitingNode.receiveFrame .taking (deviceHello ControlFlags.paired).frame)
        ((waitingNode.receiveFrame .taking (deviceHello ControlFlags.paired).frame).receiveFrame
          .taking (deviceHello ControlFlags.paired).frame) :=
  ⟨by decide, connectsPaired_of_comes
    (comes_withDriver (fun _ => True) ⟨.virtual, 7, none, none⟩ .quiet trivial)
    (by decide +kernel) (by decide) (by decide) (by decide) (by decide +kernel)
    { foreign := by decide +kernel
      unfollowed := by decide +kernel
      unhandled := by decide +kernel }
    (.inr ⟨⟨_, comes_withDriver Driver.IsMild ⟨.virtual, 7, none, none⟩ .quiet trivial⟩,
      by decide +kernel⟩)⟩

/-- Twenty paired devices of another class, at addresses of their own. -/
def pairedDevices : List ControlPacket :=
  (List.range 20).map fun i =>
    { ControlPacket.hello (UInt8.ofNat (i + 30)) 9 (UInt32.ofNat i) with
      flags := ControlFlags.paired }

/-- The node heard of them all, so its filter is full. -/
def crowdedNode : Node :=
  pairedDevices.foldl (fun node cp => node.receiveFrame .taking cp.frame) waitingNode

theorem Comes.receiveAll {settings : NodeSettings} {draws : Draws} {admits : Driver → Prop}
    {xs : List Happening} (h : Comes settings draws admits xs node) (cps : List ControlPacket) :
    ∃ ys, Comes settings draws admits ys
      (cps.foldl (fun node cp => node.receiveFrame .taking cp.frame) node) := by
  induction cps generalizing node xs with
  | nil => exact ⟨xs, h⟩
  | cons cp rest ih => exact ih (h.receive .taking cp.frame)

/-- The announce of a paired device is left to the oldest driver that waits for it, both times that
it comes, and the driver goes on waiting. -/
structure StaysWaiting (cp : ControlPacket) (k : Handle) (node : Node) : Prop where
  hello : helloOf? cp.frame = some cp
  safe : cp.flags.isSafe = true
  paired : cp.flags.contains ControlFlags.paired = true
  positive : cp.address ≠ 0
  oldest : node.firstAwaiting? cp = some k
  first : node.IsLeftTo .taking cp k
  again : (node.receiveFrame .taking cp.frame).IsLeftTo .taking cp k
  waits : (((node.receiveFrame .taking cp.frame).receiveFrame .taking cp.frame).status? k).map
    (·.isConnected) = some false

/-- Where twenty others are paired, a waiting driver is kept from a paired device. -/
theorem staysWaiting_of_crowdedNode :
    (∃ xs, Comes {} ⟨fun _ => 0, 0⟩ (fun _ => True) xs crowdedNode) ∧
      crowdedNode.StaysWaiting (deviceHello ControlFlags.paired) ⟨0, 0⟩ :=
  ⟨(comes_withDriver (fun _ => True) ⟨.virtual, 7, none, none⟩ .quiet trivial).receiveAll
      pairedDevices,
    { hello := by decide +kernel
      safe := by decide
      paired := by decide
      positive := by decide
      oldest := by decide +kernel
      first :=
        { foreign := by decide +kernel
          unfollowed := by decide +kernel
          unhandled := by decide +kernel }
      again :=
        { foreign := by decide +kernel
          unfollowed := by decide +kernel
          unhandled := by decide +kernel }
      waits := by decide +kernel }⟩

end Node

end DeviceBus
