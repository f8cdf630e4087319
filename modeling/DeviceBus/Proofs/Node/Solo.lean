import DeviceBus.Proofs.Node.Ticking

/-!
# Nodes with one driver

A node whose only driver is a pairable one does with a control packet what its driver does with it:
an announce of another device and a pairing packet for the driver end in a move of the driver, and
the frames that the node sends are what the move sends. A tick sends the driver's announce and
leaves the driver alone, unless its partner is given up.

## Main results

* `Solo.receiveAnnounce`, `Solo.receivePairing`: a control packet makes a move.
* `Solo.tick`: a tick announces the driver.
-/

namespace DeviceBus

open ControlPacket

namespace Node

/-- The only driver of the node is a pairable one. -/
structure Solo (handle : Handle) (status : Status) (driver : Pairable) (node : Node) : Prop where
  sound : node.Sound
  own : ∃ registration, node.registry.get? handle = some ⟨status, .driver registration⟩ ∧
    registration.driver = .pairable driver
  others : ∀ k entry, k ≠ handle → node.registry.get? k = some entry → entry.isRecord = true

/-- A node's only driver made a move with a control packet, and the frames that the node sent are
those of the move. -/
def Moves (cp : ControlPacket) (handle : Handle) (status : Status) (driver : Pairable)
    (before after : Node) : Prop :=
  ∃ status' driver' sent events added, Solo handle status' driver' after ∧
    status'.unbonded = status.unbonded ∧
    Pairable.Move status cp driver.state driver'.state sent events ∧
    after.log = before.log ++ added ∧ framesOf added = (sent.map ControlPacket.frame).toList

variable {handle : Handle} {status : Status} {driver : Pairable} {node : Node}

theorem Moves.stay {after : Node} (cp : ControlPacket) (h : Solo handle status driver after)
    (hlog : after.log = node.log) : Moves cp handle status driver node after :=
  ⟨status, driver, none, [], [], h, rfl, .stay _, by rw [hlog, List.append_nil], rfl⟩

/-- What comes before a move without a trace makes no difference. -/
theorem Moves.of_log_eq {cp : ControlPacket} {mid after : Node} (hlog : mid.log = node.log)
    (h : Moves cp handle status driver mid after) : Moves cp handle status driver node after := by
  obtain ⟨status', driver', sent, events, added, hsolo, hunbonded, hmove, hadded, hframes⟩ := h
  exact ⟨status', driver', sent, events, added, hsolo, hunbonded, hmove, by rw [hadded, hlog],
    hframes⟩

/-- A change of a registration reaches a driver, and no record. -/
theorem get?_modifyRegistration (node : Node) (k : Handle) (change : Registration → Registration) :
    ∃ f : Entry → Entry,
      (∀ j, (node.modifyRegistration k change).registry.get? j =
        if j = k then (node.registry.get? k).map f else node.registry.get? j) ∧
      (∀ status registration,
        f ⟨status, .driver registration⟩ = ⟨status, .driver (change registration)⟩) ∧
      ∀ status, f ⟨status, .record⟩ = ⟨status, .record⟩ :=
  ⟨_, node.registry.get?_modify k _, fun _ _ => rfl, fun _ => rfl⟩

namespace Solo

/-- What is not the driver is a record, so it neither has an address of its own nor follows one. -/
theorem flags_of_ne (h : Solo handle status driver node) {k : Handle} {entry : Entry}
    (hk : k ≠ handle) (hentry : node.registry.get? k = some entry) :
    entry.status.isLocal = false ∧ entry.status.isVirtual = false :=
  (h.sound.entries k entry hentry).record_flags (h.others k entry hk hentry)

theorem hasRole (h : Solo handle status driver node) : status.HasRole := by
  obtain ⟨registration, hget, -⟩ := h.own
  exact (h.sound.entries handle _ hget).2

theorem mem_handles (h : Solo handle status driver node) : handle ∈ node.registry.handles := by
  obtain ⟨registration, hget, -⟩ := h.own
  exact h.sound.wellFormed.mem_handles_iff.2 ⟨_, hget⟩

/-- What a registration says besides its driver makes no difference. -/
theorem modifyRegistration (h : Solo handle status driver node) (k : Handle)
    {change : Registration → Registration}
    (hdriver : ∀ registration, (change registration).driver = registration.driver) :
    Solo handle status driver (node.modifyRegistration k change) := by
  obtain ⟨registration, hget, hown⟩ := h.own
  obtain ⟨f, hafter, hchange, hrecord⟩ := get?_modifyRegistration node k change
  refine ⟨(quiet_modifyRegistration h.sound k hdriver).sound, ?_, ?_⟩
  · rw [hafter]
    by_cases hk : handle = k
    · subst hk
      refine ⟨change registration, ?_, (hdriver registration).trans hown⟩
      rw [if_pos rfl, hget, Option.map_some, hchange]
    · rw [if_neg hk]
      exact ⟨registration, hget, hown⟩
  · intro j entry hj hentry
    rw [hafter] at hentry
    by_cases hk : j = k
    · subst hk
      rw [if_pos rfl] at hentry
      obtain ⟨⟨old, kind⟩, hold, rfl⟩ := Option.map_eq_some_iff.1 hentry
      have hkind := h.others j _ hj hold
      cases kind with
      | record =>
        rw [hrecord]
        rfl
      | driver _ => cases hkind
    · rw [if_neg hk] at hentry
      exact h.others j entry hj hentry

theorem heard (h : Solo handle status driver node) (cp : ControlPacket) :
    Solo handle status driver (node.heard cp) := by
  refine List.foldlRecOn (motive := Solo handle status driver) _ _ h fun mid hmid k _ => ?_
  obtain ⟨change, hsame, heq⟩ := refreshPartner_eq cp mid k
  rw [heq]
  exact hmid.modifyRegistration k fun registration => (hsame registration).1

theorem withFilter (h : Solo handle status driver node) (filter : AddressFilter) :
    Solo handle status driver { node with filter } :=
  ⟨⟨h.sound.wellFormed, h.sound.entries⟩, h.own, h.others⟩

/-- Records come and go beside the driver. -/
theorem recordDevice (h : Solo handle status driver node) (cp : ControlPacket) :
    Solo handle status driver (node.recordDevice cp) ∧
      (node.recordDevice cp).log = node.log := by
  obtain ⟨registration, hget, hown⟩ := h.own
  refine ⟨⟨(quiet_recordDevice h.sound cp).sound, ⟨registration, ?_, hown⟩,
    fun j entry hj hentry => ?_⟩, log_recordDevice cp⟩
  · exact get?_recordDevice cp hget rfl
  · cases noting cp node j with
    | same eq => exact h.others j entry hj (eq.symm.trans hentry)
    | seen _ _ eq | noted _ _ _ eq =>
      cases eq.symm.trans hentry
      rfl

/-! ## A control packet that reaches the driver -/

/-- Whatever the driver makes of a control packet is a move. -/
theorem call_control (h : Solo handle status driver node) (env : Env) (cp : ControlPacket) :
    Moves cp handle status driver node (node.call env handle (.control cp)).2 := by
  obtain ⟨registration, hget, hown⟩ := h.own
  have hsound := (quiet_call h.sound env handle (.control cp)).sound
  let ctx : Context := ⟨env, handle, status, node.log ++ [.called handle (.control cp)]⟩
  have hcall : (node.call env handle (.control cp)).2 =
      { node with
        registry :=
          node.registry.set handle
            ⟨(driver.onControl cp ctx).context.status,
              .driver { registration with driver := .pairable (driver.onControl cp ctx).driver }⟩
        log := (driver.onControl cp ctx).context.log } := by
    unfold Node.call
    rw [hget]
    dsimp only
    rw [hown]
    rfl
  obtain ⟨standing, sent, events, hmove, hshows⟩ := driver.onControl_move cp ctx
  obtain ⟨added, hadded, hframes, -⟩ := hshows.trace
  have hafter := node.registry.get?_set handle
    ⟨(driver.onControl cp ctx).context.status,
      .driver { registration with driver := .pairable (driver.onControl cp ctx).driver }⟩
  rw [hcall] at hsound ⊢
  refine ⟨(driver.onControl cp ctx).context.status, (driver.onControl cp ctx).driver, sent, events,
    .called handle (.control cp) :: added,
    ⟨hsound, ⟨{ registration with driver := .pairable (driver.onControl cp ctx).driver }, ?_, rfl⟩,
      ?_⟩, hshows.unbonded, ?_, ?_, ?_⟩
  · rw [hafter, if_pos rfl, hget]
    rfl
  · intro k entry hk hentry
    rw [hafter, if_neg hk] at hentry
    exact h.others k entry hk hentry
  · rw [hshows.state]
    exact hmove
  · show (driver.onControl cp ctx).context.log = _
    rw [hadded.log]
    simp [ctx]
  · exact hframes

theorem deliver (env : Env) (cp : ControlPacket) {scan : Scan}
    (h : Solo handle status driver scan.node) :
    Moves cp handle status driver scan.node (scan.deliver env handle cp).node :=
  h.call_control env cp

/-- An announce of another device at the driver. -/
theorem visit_own (env : Env) {cp : ControlPacket} {scan : Scan}
    (h : Solo handle status driver scan.node) (hlocal : status.isLocal = true)
    (hforeign : cp.address ≠ status.address) :
    ∃ next, visit env cp handle scan = .proceed next ∧
      Moves cp handle status driver scan.node next.node := by
  obtain ⟨registration, hget, hown⟩ := h.own
  cases showing env cp hget with
  | yields owns | rebukes owns | agrees owns =>
    exact absurd (ownsAddress_iff.1 owns).2.2.symm hforeign
  | moves _ hfollows =>
    have hremote := h.hasRole.not_isLocal_of_isVirtual (follows_iff.1 hfollows).1
    cases hremote.symm.trans hlocal
  | records _ _ _ _ _ _ heq =>
    obtain ⟨hrecorded, hlog⟩ := h.recordDevice cp
    exact ⟨_, heq, Moves.of_log_eq hlog (hrecorded.call_control env cp)⟩
  | hears _ _ _ _ _ heq | pairs _ _ _ _ _ _ _ _ heq => exact ⟨_, heq, h.deliver env cp⟩
  | passes _ _ _ _ heq => exact ⟨scan, heq, .stay cp h rfl⟩

/-- An announce passes records. -/
theorem visit_of_ne (env : Env) (cp : ControlPacket) {scan : Scan}
    (h : Solo handle status driver scan.node) {k : Handle} (hk : k ≠ handle) :
    visit env cp k scan = .proceed scan := by
  unfold visit
  cases hentry : scan.node.registry.get? k with
  | none => rfl
  | some entry =>
    dsimp only
    rw [if_pos (h.others k entry hk hentry)]

theorem visitAll_of_notMem (env : Env) (cp : ControlPacket) {handles : List Handle} {scan : Scan}
    (h : Solo handle status driver scan.node) (hnot : handle ∉ handles) :
    visitAll env cp handles scan = .proceed scan := by
  induction handles with
  | nil => rfl
  | cons k rest ih =>
    rw [List.mem_cons, not_or] at hnot
    unfold visitAll
    rw [h.visit_of_ne env cp (Ne.symm hnot.1)]
    exact ih hnot.2

theorem visitAll (env : Env) {cp : ControlPacket} {handles : List Handle} {scan : Scan}
    (h : Solo handle status driver scan.node) (hlocal : status.isLocal = true)
    (hforeign : cp.address ≠ status.address) (hnodup : handles.Nodup) (hmem : handle ∈ handles) :
    ∃ next, Node.visitAll env cp handles scan = .proceed next ∧
      Moves cp handle status driver scan.node next.node := by
  induction handles with
  | nil => cases hmem
  | cons k rest ih =>
    obtain ⟨hfresh, hrest⟩ := List.nodup_cons.1 hnodup
    by_cases hk : k = handle
    · subst hk
      obtain ⟨next, hnext, hmoves⟩ := h.visit_own env hlocal hforeign
      refine ⟨next, ?_, hmoves⟩
      obtain ⟨_, _, _, _, _, hsolo, -⟩ := hmoves
      unfold Node.visitAll
      rw [hnext]
      exact hsolo.visitAll_of_notMem env cp hfresh
    · obtain ⟨next, hnext, hmoves⟩ := ih hrest ((List.mem_cons.1 hmem).resolve_left (Ne.symm hk))
      refine ⟨next, ?_, hmoves⟩
      unfold Node.visitAll
      rw [h.visit_of_ne env cp hk]
      exact hnext

/-- Nobody waits to be connected. -/
theorem findStatus?_awaits (h : Solo handle status driver node) (cp : ControlPacket)
    (hlocal : status.isLocal = true) : node.registry.findStatus? (awaits cp) = none := by
  refine h.sound.wellFormed.find?_eq_none_iff.2 fun k entry hentry => ?_
  by_cases hk : k = handle
  · subst hk
    obtain ⟨registration, hget, -⟩ := h.own
    cases hget.symm.trans hentry
    have hvirtual : status.isVirtual = false := by
      by_contra hvirtual
      rw [Bool.not_eq_false] at hvirtual
      cases (h.hasRole.not_isLocal_of_isVirtual hvirtual).symm.trans hlocal
    simp [awaits, hvirtual]
  · simp [awaits, (h.flags_of_ne hk hentry).2]

theorem settle (env : Env) (cp : ControlPacket) {scan : Scan}
    (h : Solo handle status driver scan.node) (hlocal : status.isLocal = true) :
    Solo handle status driver (Node.settle env cp scan) ∧
      (Node.settle env cp scan).log = scan.node.log := by
  obtain ⟨filter, heq | ⟨-, k, hfind, -⟩⟩ := settle_cases env cp scan
  · rw [heq]
    exact ⟨h.withFilter filter, rfl⟩
  · cases (h.findStatus?_awaits cp hlocal).symm.trans hfind

/-- **An announce of another device makes a move.** -/
theorem receiveAnnounce (h : Solo handle status driver node) (env : Env) {cp : ControlPacket}
    (hlocal : status.isLocal = true) (hforeign : cp.address ≠ status.address) :
    Moves cp handle status driver node (node.receiveAnnounce env cp) := by
  have hheard := h.heard cp
  have hlog := log_heard cp node
  have hstart : Solo handle status driver (⟨node.heard cp, false, false⟩ : Scan).node := hheard
  obtain ⟨next, hnext, hmoves⟩ : ∃ next, node.round env cp = .proceed next ∧
      Moves cp handle status driver (node.heard cp) next.node :=
    hstart.visitAll env hlocal hforeign hheard.sound.wellFormed.nodup_handles hheard.mem_handles
  rcases receiveAnnounce_cases env cp node with heq | ⟨scan, hscan, -, -, heq⟩
  · rw [heq, hnext]
    exact Moves.of_log_eq hlog hmoves
  · cases hnext.symm.trans hscan
    obtain ⟨status', driver', sent, events, added, hsolo, hunbonded, hmove, hadded, hframes⟩ :=
      hmoves
    have hlocal' : status'.isLocal = true := by
      rw [Status.isLocal_eq_of_tenancy_eq (Status.tenancy_eq_of_unbonded_eq hunbonded)]
      exact hlocal
    obtain ⟨hsettled, hsame⟩ := hsolo.settle env cp hlocal'
    rw [heq]
    refine Moves.of_log_eq hlog
      ⟨status', driver', sent, events, added, hsettled, hunbonded, hmove, ?_, hframes⟩
    rw [hsame, hadded]

/-- **A pairing packet for the driver makes a move, any other one makes nothing.** -/
theorem receivePairing (h : Solo handle status driver node) (env : Env) (cp : ControlPacket) :
    Moves cp handle status driver node (node.receivePairing env cp) ∧
      (isTarget cp status = false → node.receivePairing env cp = node) := by
  have hfound : ∀ k, node.registry.findStatus? (isTarget cp) = some k →
      k = handle ∧ isTarget cp status = true := by
    intro k hk
    obtain ⟨entry, hentry, htarget⟩ := h.sound.wellFormed.get?_of_find?_eq_some hk
    by_cases hhandle : k = handle
    · subst hhandle
      obtain ⟨registration, hget, -⟩ := h.own
      cases hget.symm.trans hentry
      exact ⟨rfl, htarget⟩
    · have hremote := (h.flags_of_ne hhandle hentry).1
      simp [isTarget, hremote] at htarget
  rcases receivePairing_eq_or env cp node with heq | ⟨k, hfind, heq⟩
  · rw [heq]
    exact ⟨.stay cp h rfl, fun _ => rfl⟩
  · obtain ⟨rfl, htarget⟩ := hfound k hfind
    rw [heq]
    exact ⟨h.call_control env cp, fun hother => by cases htarget.symm.trans hother⟩

/-! ## A tick -/

/-- The status of a record changes beside the driver. -/
theorem modifyStatus_of_ne (h : Solo handle status driver node) {k : Handle} (hk : k ≠ handle)
    {change : Status → Status}
    (hchange : ∀ s, DeviceFlags.mode (change s).flags = DeviceFlags.mode s.flags) :
    Solo handle status driver (node.modifyStatus k change) := by
  obtain ⟨registration, hget, hown⟩ := h.own
  have hremote : ∀ old, node.registry.get? k = some old → old.status.isLocal = false :=
    fun old hold => (h.flags_of_ne hk hold).1
  have hafter := node.registry.get?_modify k (·.modifyStatus change)
  refine ⟨(quiet_modifyStatus_of_not_isLocal h.sound k hchange hremote).sound,
    ⟨registration, ?_, hown⟩, ?_⟩
  · refine (hafter handle).trans ?_
    rw [if_neg (Ne.symm hk)]
    exact hget
  · intro j other hj hother
    have hother' := (hafter j).symm.trans hother
    split at hother'
    · obtain ⟨old, hold, rfl⟩ := Option.map_eq_some_iff.1 hother'
      rename_i hjk
      subst hjk
      exact h.others j old hj hold
    · exact h.others j other hj hother'

/-- A record goes beside the driver. -/
theorem remove_of_ne (h : Solo handle status driver node) {k : Handle} (hk : k ≠ handle)
    {gone : Entry} {registry : Registry Entry}
    (hremove : node.registry.remove k = some (gone, registry)) :
    Solo handle status driver { node with registry } := by
  obtain ⟨registration, hget, hown⟩ := h.own
  obtain ⟨hgone, hafter⟩ := Registry.get?_of_remove hremove
  have hremote := (h.flags_of_ne hk hgone).1
  refine ⟨(quiet_remove h.sound hremove hremote).sound, ⟨registration, ?_, hown⟩, ?_⟩
  · rw [hafter, if_neg (Ne.symm hk)]
    exact hget
  · intro j old hj hold
    rw [hafter] at hold
    split at hold
    · cases hold
    · exact h.others j old hj hold

/-- Records age beside the driver. -/
theorem ageDevice_of_ne (h : Solo handle status driver node) (env : Env) {k : Handle}
    (hk : k ≠ handle) :
    Solo handle status driver (node.ageDevice env k) ∧
      (node.ageDevice env k).log = node.log := by
  unfold Node.ageDevice
  cases hentry : node.registry.get? k with
  | none => exact ⟨h, rfl⟩
  | some entry =>
    have hrecord := h.others k entry hk hentry
    have hcount : Solo handle status driver
        (node.modifyStatus k (·.counted)) :=
      h.modifyStatus_of_ne hk fun _ => rfl
    obtain ⟨old, kind⟩ := entry
    cases kind with
    | driver _ => cases hrecord
    | record =>
      dsimp only at hcount ⊢
      split
      · exact ⟨h.modifyStatus_of_ne hk fun s => DeviceFlags.mode_remove s.flags (by decide), rfl⟩
      · split
        · exact ⟨hcount, rfl⟩
        · split
          · rename_i hremove
            exact ⟨hcount.remove_of_ne hk hremove, rfl⟩
          · exact ⟨hcount, rfl⟩

/-- The driver of the node is as it was, and the node sent nothing but announces of it. -/
structure Announcing (handle : Handle) (status : Status) (driver : Pairable)
    (before after : Node) : Prop where
  solo : Solo handle status driver after
  trace : ∃ added, after.log = before.log ++ added ∧ ∀ frame ∈ framesOf added,
    ∃ cp, ofFrame? frame = some cp ∧ cp.type = .hello ∧ cp.announced = status.identity

theorem announcing_of_log_eq {after : Node} (h : Solo handle status driver after)
    (hlog : after.log = node.log) : Announcing handle status driver node after where
  solo := h
  trace := ⟨[], by rw [hlog, List.append_nil], fun frame hframe => by cases hframe⟩

theorem Announcing.trans {first second third : Node}
    (h : Announcing handle status driver first second)
    (h' : Announcing handle status driver second third) :
    Announcing handle status driver first third where
  solo := h'.solo
  trace := by
    obtain ⟨x, hx, hxs⟩ := h.trace
    obtain ⟨y, hy, hys⟩ := h'.trace
    refine ⟨x ++ y, by rw [hy, hx, List.append_assoc], fun frame hframe => ?_⟩
    rw [framesOf_append, List.mem_append] at hframe
    exact hframe.elim (hxs frame) (hys frame)

/-- Announcing leaves the driver alone. -/
theorem announce (h : Solo handle status driver node) (env : Env) :
    Announcing handle status driver node (node.announce env handle) := by
  obtain ⟨registration, hget, hown⟩ := h.own
  unfold Node.announce
  rw [hget]
  dsimp only
  split
  · exact announcing_of_log_eq h rfl
  · rw [hown]
    obtain ⟨htype, hannounced⟩ := announced_fill driver.gated (announcement status)
    show Announcing handle status driver node
      (({ node with log := node.log ++ ([] : List Note).map Action.noted } : Node).post env
        (driver.gated.fill (announcement status)))
    rw [List.map_nil, List.append_nil]
    unfold post
    cases hframe : env.controlFrame (driver.gated.fill (announcement status)) with
    | error e => exact announcing_of_log_eq h rfl
    | ok frame =>
      obtain ⟨-, hfit, rfl⟩ := Env.controlFrame_eq_ok_iff.1 hframe
      refine ⟨⟨⟨h.sound.wellFormed, h.sound.entries⟩, h.own, h.others⟩, [.sent _], rfl, ?_⟩
      intro frame hmem
      rw [framesOf_sent, List.mem_singleton] at hmem
      rw [hmem]
      exact ⟨_, ofFrame?_frame (isCanonical_of_hello htype) hfit, htype, hannounced⟩

/-- A call is on the trace. -/
theorem called_mem_log (h : Solo handle status driver node) (env : Env) :
    .called handle .partnerLost ∈ (node.call env handle .partnerLost).2.log := by
  obtain ⟨registration, hget, hown⟩ := h.own
  let ctx : Context := ⟨env, handle, status, node.log ++ [.called handle .partnerLost]⟩
  have hcall : (node.call env handle .partnerLost).2.log = (driver.letGo ctx).2.log := by
    unfold Node.call
    rw [hget]
    dsimp only
    rw [hown]
    rfl
  obtain ⟨-, -, added, hadded, -⟩ := driver.letGo_spec ctx
  rw [hcall, hadded.log]
  simp [ctx]

/-- Counting a silent partner leaves the driver alone, unless the partner is given up. -/
theorem agePartner (h : Solo handle status driver node) (env : Env)
    (hkept : .called handle .partnerLost ∉ (node.agePartner env handle).log) :
    Announcing handle status driver node (node.agePartner env handle) := by
  have hset : ∀ missed : UInt8, Solo handle status driver
      (node.modifyRegistration handle fun r => { r with partnerSilence := missed }) :=
    fun missed => h.modifyRegistration handle fun _ => rfl
  revert hkept
  unfold Node.agePartner
  split
  · exact fun _ => announcing_of_log_eq h rfl
  · dsimp only
    split
    · exact fun _ => announcing_of_log_eq (hset 0) rfl
    · split
      · exact fun _ => announcing_of_log_eq (hset _) rfl
      · exact fun hkept => absurd ((hset 0).called_mem_log env) hkept

/-- The turn of the driver or of a record. -/
theorem tickEntry (h : Solo handle status driver node) (env : Env)
    (hlocal : status.isLocal = true) (hpos : status.address ≠ 0)
    (hcertain : status.isUnconfirmed = false) (k : Handle)
    (hkept : .called handle .partnerLost ∉ (Node.tickEntry env node k).log) :
    Announcing handle status driver node (Node.tickEntry env node k) := by
  obtain ⟨registration, hget, hown⟩ := h.own
  by_cases hk : k = handle
  · subst hk
    have hdevice : node.tickDevice env k status = node.announce env k := by
      rw [tickDevice_of_own env hlocal]
      unfold enumerate
      rw [if_neg hpos, hcertain]
      rfl
    have hannounce := h.announce env
    rw [tickEntry_of_driver env hget, hdevice] at hkept ⊢
    exact hannounce.trans (hannounce.solo.agePartner env hkept)
  · cases hentry : node.registry.get? k with
    | none =>
      rw [tickEntry_of_none env hentry]
      exact announcing_of_log_eq h rfl
    | some entry =>
      obtain ⟨hsolo, hlog⟩ := h.ageDevice_of_ne env hk
      obtain ⟨other, kind⟩ := entry
      cases kind with
      | driver registration => cases h.others k _ hk hentry
      | record =>
        rw [tickEntry_of_record env hentry]
        exact announcing_of_log_eq hsolo hlog

/-- **A tick announces the driver**, unless its partner is given up. -/
theorem tick (h : Solo handle status driver node) (env : Env)
    (hlocal : status.isLocal = true) (hpos : status.address ≠ 0)
    (hcertain : status.isUnconfirmed = false)
    (hkept : .called handle .partnerLost ∉ (node.tick env).log) :
    Announcing handle status driver node (node.tick env) := by
  revert hkept
  unfold Node.tick
  have hnodup := h.sound.wellFormed.nodup_handles
  generalize node.registry.handles = handles at hnodup
  induction handles generalizing node with
  | nil => exact fun _ => announcing_of_log_eq h rfl
  | cons k rest ih =>
    intro hkept
    obtain ⟨hfresh, hrest⟩ := List.nodup_cons.1 hnodup
    -- The trace only grows, so what is not on it in the end was never on it.
    obtain ⟨_, _, hfirst, -⟩ := tickEntry_spec h.sound env k
    obtain ⟨_, _, hlater, -⟩ := tickEntries_spec hfirst.sound env rest hrest
    obtain ⟨added, hadded, -⟩ := hlater.trace
    have hbefore : .called handle .partnerLost ∉ (Node.tickEntry env node k).log := by
      intro hmem
      refine hkept ?_
      rw [List.foldl_cons, hadded]
      exact List.mem_append_left _ hmem
    have hturn := h.tickEntry env hlocal hpos hcertain k hbefore
    exact hturn.trans (ih hturn.solo hrest hkept)

end Solo

end Node

end DeviceBus
