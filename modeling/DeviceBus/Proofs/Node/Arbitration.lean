import DeviceBus.Proofs.Node.Arrivals
import DeviceBus.Proofs.Node.Evolution

/-!
# Arbitration of addresses

What a received frame does to the addresses of a node's own drivers. Only an announce can do
anything, and only through the driver that owns the announced address: it agrees with the announce,
it gives way, or it stays and sends the announce back. Which of the three is a matter of the
driver's tenancy and the announce alone; the other entries and their order have no say.

## Main results

* `receiveFrame_cases`: the three outcomes of a frame.
* `receiveFrame_spec`: what a frame changes and says, owner by owner.
-/

namespace DeviceBus

open ControlPacket

/-- What the owner of an announced address does. -/
inductive Verdict where
  /-- The owner gives way. -/
  | yield
  /-- The owner stays and flags the conflict. -/
  | rebuke
  /-- The announce is the owner's own. -/
  | agree
  deriving DecidableEq, Repr

namespace Tenancy

/-- Owns an address. -/
def Owns (tenancy : Tenancy) (address : UInt8) : Prop :=
  tenancy.address ≠ 0 ∧ tenancy.address = address

/-- What the owner of an announced address does about the announce. -/
def verdict (cp : ControlPacket) (tenancy : Tenancy) : Verdict :=
  if cp.flags.contains ControlFlags.conflict then .yield
  else if tenancy.serial != cp.serial then
    if tenancy.isConfirmed && cp.flags.contains ControlFlags.uncertain then .rebuke else .yield
  else .agree

theorem verdict_of_conflict {cp : ControlPacket} (tenancy : Tenancy)
    (h : cp.flags.contains ControlFlags.conflict = true) : tenancy.verdict cp = .yield := by
  unfold verdict
  rw [if_pos h]

theorem verdict_eq_agree_iff {cp : ControlPacket} {tenancy : Tenancy} :
    tenancy.verdict cp = .agree ↔
      cp.flags.contains ControlFlags.conflict = false ∧ tenancy.serial = cp.serial := by
  unfold verdict
  cases cp.flags.contains ControlFlags.conflict <;> by_cases h : tenancy.serial = cp.serial <;>
    cases tenancy.isConfirmed && cp.flags.contains ControlFlags.uncertain <;> simp [h]

theorem verdict_eq_yield_iff {cp : ControlPacket} {tenancy : Tenancy} :
    tenancy.verdict cp = .yield ↔
      cp.flags.contains ControlFlags.conflict = true ∨ tenancy.serial ≠ cp.serial ∧
        (tenancy.isConfirmed && cp.flags.contains ControlFlags.uncertain) = false := by
  unfold verdict
  cases cp.flags.contains ControlFlags.conflict <;> by_cases h : tenancy.serial = cp.serial <;>
    cases tenancy.isConfirmed && cp.flags.contains ControlFlags.uncertain <;> simp [h]

theorem verdict_eq_rebuke_iff {cp : ControlPacket} {tenancy : Tenancy} :
    tenancy.verdict cp = .rebuke ↔
      cp.flags.contains ControlFlags.conflict = false ∧ tenancy.serial ≠ cp.serial ∧
        tenancy.isConfirmed = true ∧ cp.flags.contains ControlFlags.uncertain = true := by
  unfold verdict
  cases cp.flags.contains ControlFlags.conflict <;> by_cases h : tenancy.serial = cp.serial <;>
    cases tenancy.isConfirmed <;> cases cp.flags.contains ControlFlags.uncertain <;> simp [h]

end Tenancy

namespace Node

/-- No two own drivers have the same address. -/
def IsDistinct (node : Node) : Prop :=
  ∀ h k t u, node.tenancy? h = some t → node.tenancy? k = some u → t.address ≠ 0 →
    t.address = u.address → h = k

variable {node : Node} (hsound : node.Sound)

theorem tenancy?_eq_some_iff {node : Node} {handle : Handle} {tenancy : Tenancy} :
    node.tenancy? handle = some tenancy ↔
      ∃ entry, node.registry.get? handle = some entry ∧ entry.status.isLocal = true ∧
        entry.status.tenancy = tenancy := by
  unfold tenancy?
  rw [Option.bind_eq_some_iff]
  simp only [Entry.tenancy?_eq_some_iff]

/-! ## Quiet parts -/

include hsound in
theorem quiet_refreshPartner (cp : ControlPacket) (handle : Handle) :
    Quiet node (node.refreshPartner cp handle) := by
  obtain ⟨change, hsame, heq⟩ := refreshPartner_eq cp node handle
  rw [heq]
  exact quiet_modifyRegistration hsound handle fun registration => (hsame registration).1

include hsound in
theorem quiet_heard (cp : ControlPacket) : Quiet node (node.heard cp) :=
  List.foldlRecOn (motive := Quiet node) _ _ (.refl hsound) fun _ hmid handle _ =>
    hmid.trans (quiet_refreshPartner hmid.sound cp handle)

include hsound in
theorem quiet_withFilter (filter : AddressFilter) : Quiet node { node with filter } where
  settings := rfl
  wellFormed := hsound.wellFormed
  entries := hsound.entries
  silent := id
  tenancy k := by
    rw [map_still]
    rfl
  trace := ⟨[], (List.append_nil _).symm, rfl⟩

include hsound in
/-- Connecting a remote driver is no matter of own addresses. -/
theorem quiet_adopt (env : Env) {handle : Handle} (cp : ControlPacket)
    (hlocal : ∀ entry, node.registry.get? handle = some entry → entry.status.isLocal = false) :
    Quiet node (node.adopt env handle cp) := by
  have hmodify : Quiet node (node.modifyStatus handle (·.found cp)) :=
    quiet_modifyStatus_of_not_isLocal hsound handle
      (fun status => DeviceFlags.mode_insert status.flags (by decide)) hlocal
  have hqueue := quiet_queueEvent hmodify.sound handle (.connected cp.address)
  have hconnected := quiet_call hqueue.sound env handle .connected
  have hcontrol := quiet_call hconnected.sound env handle (.control cp)
  exact ((hmodify.trans hqueue).trans hconnected).trans hcontrol

include hsound in
/-- What is discovered is a remote driver. -/
theorem exists_remote_of_awaits {cp : ControlPacket} {handle : Handle}
    (hfind : node.registry.findStatus? (awaits cp) = some handle) :
    ∃ entry, node.registry.get? handle = some entry ∧ entry.status.isLocal = false := by
  obtain ⟨entry, hentry, hawaits⟩ := hsound.wellFormed.get?_of_find?_eq_some hfind
  exact ⟨entry, hentry,
    (hsound.entries handle entry hentry).not_isLocal_of_isVirtual (awaits_iff.1 hawaits).1⟩

theorem quiet_settle (env : Env) (cp : ControlPacket) {scan : Scan} (hscan : scan.node.Sound) :
    Quiet scan.node (settle env cp scan) := by
  obtain ⟨filter, heq | ⟨-, handle, hfind, heq⟩⟩ := settle_cases env cp scan
  · rw [heq]
    exact quiet_withFilter hscan filter
  · obtain ⟨entry, hentry, hremote⟩ := exists_remote_of_awaits hscan hfind
    have hfiltered := quiet_withFilter hscan filter
    rw [heq]
    refine hfiltered.trans (quiet_adopt hfiltered.sound env cp fun other hother => ?_)
    cases hentry.symm.trans hother
    exact hremote

/-! ## One entry -/

theorem quiet_deliver (env : Env) (handle : Handle) (cp : ControlPacket) {first : Node}
    {scan : Scan} (h : Quiet first scan.node) :
    Quiet first (scan.deliver env handle cp).node :=
  h.trans (quiet_call h.sound env handle (.control cp))

/-- An announce passes an entry that does not own the announced address. -/
theorem visit_of_not_owner (env : Env) {cp : ControlPacket} {handle : Handle} {scan : Scan}
    (hscan : scan.node.Sound)
    (hother : ∀ t, scan.node.tenancy? handle = some t → ¬ t.Owns cp.address) :
    ∃ next, visit env cp handle scan = .proceed next ∧ Quiet scan.node next.node := by
  rcases exists_driver_or_visit_eq env cp handle scan with ⟨status, registration, held⟩ | heq
  · cases showing env cp held with
    | yields owns | rebukes owns | agrees owns =>
      obtain ⟨hlocal, hpos, haddress⟩ := ownsAddress_iff.1 owns
      exact absurd ⟨hpos, haddress⟩
        (hother status.tenancy (tenancy?_eq_some_iff.2 ⟨_, held, hlocal, rfl⟩))
    | moves _ hfollows heq =>
      have hremote := (hscan.entries handle _ held).not_isLocal_of_isVirtual
        (follows_iff.1 hfollows).1
      have hmodify : Quiet scan.node (scan.node.modifyStatus handle (·.followed cp)) := by
        refine quiet_modifyStatus_of_not_isLocal hscan handle
          (fun status => DeviceFlags.mode_insert status.flags (by decide)) fun entry hentry => ?_
        cases held.symm.trans hentry
        exact hremote
      exact ⟨_, heq, quiet_deliver env handle cp hmodify⟩
    | records _ _ _ _ _ _ heq =>
      exact ⟨_, heq, quiet_deliver env handle cp (quiet_recordDevice hscan cp)⟩
    | hears _ _ _ _ _ heq | pairs _ _ _ _ _ _ _ _ heq =>
      exact ⟨_, heq, quiet_deliver env handle cp (.refl hscan)⟩
    | passes _ _ _ _ heq => exact ⟨scan, heq, .refl hscan⟩
  · exact ⟨scan, heq, .refl hscan⟩

/-- At the owner of the announced address, the announce meets the owner's verdict. -/
theorem visit_of_owner (env : Env) {cp : ControlPacket} {handle : Handle} {scan : Scan}
    {tenancy : Tenancy} (hscan : scan.node.Sound)
    (htenancy : scan.node.tenancy? handle = some tenancy) (howns : tenancy.Owns cp.address) :
    match tenancy.verdict cp with
    | .yield => visit env cp handle scan = .collision (scan.node.giveWay env handle)
    | .rebuke => visit env cp handle scan = .collision (scan.node.post env cp.flagged)
    | .agree => ∃ next, visit env cp handle scan = .proceed next ∧ Quiet scan.node next.node := by
  obtain ⟨⟨status, kind⟩, hentry, hlocal, rfl⟩ := tenancy?_eq_some_iff.1 htenancy
  cases kind with
  | record =>
    have hremote := ((hscan.entries handle _ hentry).record_flags rfl).1
    cases hlocal.symm.trans hremote
  | driver registration =>
    have howns' : ownsAddress cp status = true := ownsAddress_iff.2 ⟨hlocal, howns⟩
    cases showing env cp hentry with
    | yields _ loses heq =>
      have hverdict : status.tenancy.verdict cp = .yield := Tenancy.verdict_eq_yield_iff.2 loses
      rw [hverdict]
      exact heq
    | rebukes _ calm other stays heq =>
      have hverdict : status.tenancy.verdict cp = .rebuke :=
        Tenancy.verdict_eq_rebuke_iff.2 ⟨calm, other, Bool.and_eq_true_iff.1 stays⟩
      rw [hverdict]
      exact heq
    | agrees _ calm same heq =>
      have hverdict : status.tenancy.verdict cp = .agree :=
        Tenancy.verdict_eq_agree_iff.2 ⟨calm, same⟩
      have hseen : Quiet scan.node (scan.node.modifyStatus handle (·.mark DeviceFlags.seen)) :=
        quiet_modifyStatus hscan handle fun status =>
          ⟨congrArg Tenancy.mode status.tenancy_mark_seen, status.tenancy_mark_seen⟩
      rw [hverdict]
      exact ⟨_, heq, quiet_deliver env handle cp hseen⟩
    | moves foreign | records foreign | hears foreign | pairs foreign | passes foreign =>
      cases howns'.symm.trans foreign

/-! ## All entries -/

/-- An announce that every owner agrees with goes round. -/
theorem visitAll_of_agree (env : Env) {cp : ControlPacket} (handles : List Handle) {scan : Scan}
    (hscan : scan.node.Sound)
    (hagree : ∀ handle t, scan.node.tenancy? handle = some t → t.Owns cp.address →
      t.verdict cp = .agree) :
    ∃ next, visitAll env cp handles scan = .proceed next ∧ Quiet scan.node next.node := by
  induction handles generalizing scan with
  | nil => exact ⟨scan, rfl, .refl hscan⟩
  | cons handle rest ih =>
    have hfirst : ∃ next, visit env cp handle scan = .proceed next ∧
        Quiet scan.node next.node := by
      by_cases howner : ∃ t, scan.node.tenancy? handle = some t ∧ t.Owns cp.address
      · obtain ⟨t, ht, howns⟩ := howner
        have hvisit := visit_of_owner env hscan ht howns
        rw [hagree handle t ht howns] at hvisit
        exact hvisit
      · exact visit_of_not_owner env hscan fun t ht howns => howner ⟨t, ht, howns⟩
    obtain ⟨next, hnext, hquiet⟩ := hfirst
    obtain ⟨last, hlast, hquiet'⟩ := ih hquiet.sound fun k t ht howns =>
      hagree k t (by rwa [tenancy?_of_quiet hquiet] at ht) howns
    refine ⟨last, ?_, hquiet.trans hquiet'⟩
    unfold visitAll
    rw [hnext]
    exact hlast

/-- An announce that goes round meets the owner of its address, whoever stands before it, and finds
its tenancy as it was. -/
theorem visitAll_of_owner (env : Env) {cp : ControlPacket} {handles : List Handle} {scan : Scan}
    {handle : Handle} {tenancy : Tenancy} (hscan : scan.node.Sound)
    (hdistinct : scan.node.IsDistinct) (hmem : handle ∈ handles)
    (htenancy : scan.node.tenancy? handle = some tenancy) (howns : tenancy.Owns cp.address)
    (hverdict : tenancy.verdict cp ≠ .agree) :
    ∃ next : Scan, Quiet scan.node next.node ∧
      visitAll env cp handles scan = visit env cp handle next := by
  induction handles generalizing scan with
  | nil => cases hmem
  | cons k rest ih =>
    by_cases hk : k = handle
    · refine ⟨scan, .refl hscan, ?_⟩
      subst hk
      have hvisit := visit_of_owner env hscan htenancy howns
      unfold visitAll
      cases hcase : tenancy.verdict cp with
      | agree => exact absurd hcase hverdict
      | yield => rw [hcase] at hvisit; rw [hvisit]
      | rebuke => rw [hcase] at hvisit; rw [hvisit]
    · have hother : ∀ t, scan.node.tenancy? k = some t → ¬ t.Owns cp.address := by
        intro t ht ⟨hpos, haddress⟩
        exact hk (hdistinct k handle t tenancy ht htenancy hpos (haddress.trans howns.2.symm))
      obtain ⟨next, hnext, hquiet⟩ := visit_of_not_owner env hscan hother
      have hrest : handle ∈ rest := by
        rcases List.mem_cons.1 hmem with h | h
        · exact absurd h.symm hk
        · exact h
      have hsame := tenancy?_of_quiet hquiet
      have hdistinct' : next.node.IsDistinct := by
        intro a b t u ha hb
        rw [hsame] at ha hb
        exact hdistinct a b t u ha hb
      obtain ⟨last, hquiet', hlast⟩ :=
        ih hquiet.sound hdistinct' hrest (by rw [hsame]; exact htenancy)
      refine ⟨last, hquiet.trans hquiet', ?_⟩
      unfold visitAll
      rw [hnext]
      exact hlast

/-! ## Giving way -/

include hsound in
/-- A driver that gives way loses its address, and nothing else happens to any address. -/
theorem evolves_giveWay (env : Env) {handle : Handle} {tenancy : Tenancy}
    (htenancy : node.tenancy? handle = some tenancy) :
    Evolves (only handle Tenancy.released) [] node (node.giveWay env handle) := by
  obtain ⟨entry, hentry, -⟩ := tenancy?_eq_some_iff.1 htenancy
  unfold giveWay
  rw [show node.status? handle = some entry.status by simp [status?, hentry]]
  dsimp only
  have hmodify : Evolves (only handle Tenancy.released) [] node
      (node.modifyStatus handle (·.released)) :=
    evolves_modifyStatus hsound handle fun status =>
      ⟨congrArg Tenancy.mode status.tenancy_release, status.tenancy_release⟩
  have hlost := hmodify.thenQuiet
    (quiet_queueEvent hmodify.sound handle (.addressLost entry.status.address))
  split
  · unfold tellRemoved
    have hremoved := quiet_queueEvent hlost.sound handle .removed
    exact hlost.thenQuiet (hremoved.trans (quiet_call hremoved.sound env handle .removed))
  · exact hlost

/-! ## A received frame -/

include hsound in
theorem quiet_routeTo (env : Env) (packet : Packet) (classes : List DeviceClass)
    (handle : Handle) : Quiet node (routeTo env packet classes node handle) := by
  rcases routeTo_eq_or env packet classes node handle with heq | ⟨_, _, -, -, heq⟩
  · rw [heq]
    exact .refl hsound
  · rw [heq]
    exact quiet_call hsound env handle (.data packet)

include hsound in
theorem quiet_receiveData (env : Env) (packet : Packet) :
    Quiet node (node.receiveData env packet) :=
  List.foldlRecOn (motive := Quiet node) _ _ (.refl hsound) fun _ hmid handle _ =>
    hmid.trans (quiet_routeTo hmid.sound env packet _ handle)

include hsound in
theorem quiet_receivePairing (env : Env) (cp : ControlPacket) :
    Quiet node (node.receivePairing env cp) := by
  rcases receivePairing_eq_or env cp node with heq | ⟨handle, -, heq⟩
  · rw [heq]
    exact .refl hsound
  · rw [heq]
    exact quiet_call hsound env handle (.control cp)

include hsound in
/-- An announce that every owner agrees with is quiet. -/
theorem quiet_receiveAnnounce (env : Env) {cp : ControlPacket}
    (hagree : ∀ handle t, node.tenancy? handle = some t → t.Owns cp.address →
      t.verdict cp = .agree) : Quiet node (node.receiveAnnounce env cp) := by
  have hheard := quiet_heard hsound cp
  obtain ⟨next, hnext, hround⟩ : ∃ next, node.round env cp = .proceed next ∧
      Quiet (node.heard cp) next.node :=
    visitAll_of_agree env (node.heard cp).registry.handles hheard.sound fun handle t ht => by
      have ht' : (node.heard cp).tenancy? handle = some t := ht
      rw [tenancy?_of_quiet hheard] at ht'
      exact hagree handle t ht'
  have hquiet := hheard.trans hround
  rcases receiveAnnounce_cases env cp node with heq | ⟨scan, hscan, -, -, heq⟩
  · rw [heq, hnext]
    exact hquiet
  · cases hnext.symm.trans hscan
    rw [heq]
    exact hquiet.trans (quiet_settle env cp hquiet.sound)

include hsound in
/-- An announce at the address of a driver that does not agree ends at that driver. -/
theorem receiveAnnounce_of_owner (env : Env) {cp : ControlPacket} {handle : Handle}
    {tenancy : Tenancy} (hdistinct : node.IsDistinct)
    (htenancy : node.tenancy? handle = some tenancy) (howns : tenancy.Owns cp.address)
    (hverdict : tenancy.verdict cp ≠ .agree) :
    ∃ mid, Quiet node mid ∧ node.receiveAnnounce env cp =
      if tenancy.verdict cp = .yield then mid.giveWay env handle else mid.post env cp.flagged := by
  have hheard := quiet_heard hsound cp
  have hsame := tenancy?_of_quiet hheard
  have hthere : (node.heard cp).tenancy? handle = some tenancy := (hsame handle).trans htenancy
  have hdistinct' : (node.heard cp).IsDistinct := by
    intro a b t u ha hb
    rw [hsame] at ha hb
    exact hdistinct a b t u ha hb
  have hmem : handle ∈ (node.heard cp).registry.handles := by
    obtain ⟨entry, hentry, -⟩ := tenancy?_eq_some_iff.1 hthere
    exact hheard.wellFormed.mem_handles_iff.2 ⟨entry, hentry⟩
  have hstart : (⟨node.heard cp, false, false⟩ : Scan).node.Sound := hheard.sound
  obtain ⟨next, hquiet, hround⟩ : ∃ next : Scan, Quiet (node.heard cp) next.node ∧
      node.round env cp = visit env cp handle next :=
    visitAll_of_owner env hstart hdistinct' hmem hthere howns hverdict
  have hvisit := visit_of_owner env hquiet.sound
    ((tenancy?_of_quiet hquiet handle).trans hthere) howns
  refine ⟨next.node, hheard.trans hquiet, ?_⟩
  rw [receiveAnnounce_eq, hround]
  cases hcase : tenancy.verdict cp with
  | agree => exact absurd hcase hverdict
  | yield =>
    rw [hcase] at hvisit
    rw [hvisit]
    rfl
  | rebuke =>
    rw [hcase] at hvisit
    rw [hvisit]
    rfl

include hsound in
/-- **The three outcomes of a frame.** Either it is an announce at the address of an own driver
that gives way, or one at the address of an own driver that stays and sends it back, or no address
is touched, and then every own driver agrees. -/
theorem receiveFrame_cases (hdistinct : node.IsDistinct) (env : Env) (frame : Bytes) :
    (∃ cp handle tenancy, helloOf? frame = some cp ∧ node.tenancy? handle = some tenancy ∧
      tenancy.Owns cp.address ∧ tenancy.verdict cp = .yield ∧
      Evolves (only handle Tenancy.released) [] node (node.receiveFrame env frame)) ∨
    (∃ cp handle tenancy, helloOf? frame = some cp ∧ node.tenancy? handle = some tenancy ∧
      tenancy.Owns cp.address ∧ tenancy.verdict cp = .rebuke ∧
      ∃ mid, Quiet node mid ∧ node.receiveFrame env frame = mid.post env cp.flagged) ∨
    (Quiet node (node.receiveFrame env frame) ∧ ∀ cp handle tenancy, helloOf? frame = some cp →
      node.tenancy? handle = some tenancy → tenancy.Owns cp.address →
      tenancy.verdict cp = .agree) := by
  -- who hears no announce agrees with all of them
  have hnobody : helloOf? frame = none → ∀ cp handle tenancy, helloOf? frame = some cp →
      node.tenancy? handle = some tenancy → tenancy.Owns cp.address →
      tenancy.verdict cp = .agree :=
    fun hsilent cp _ _ hello => by cases hsilent.symm.trans hello
  cases node.arrival env frame with
  | nothing silent heq =>
    rw [heq]
    exact .inr (.inr ⟨.refl hsound, hnobody silent⟩)
  | data silent _ _ heq =>
    rw [heq]
    exact .inr (.inr ⟨quiet_receiveData hsound env _, hnobody silent⟩)
  | pairing silent _ _ heq =>
    rw [heq]
    exact .inr (.inr ⟨quiet_receivePairing hsound env _, hnobody silent⟩)
  | @announce cp hello heq =>
    rw [heq]
    by_cases hagree : ∀ handle t, node.tenancy? handle = some t → t.Owns cp.address →
        t.verdict cp = .agree
    · refine .inr (.inr ⟨quiet_receiveAnnounce hsound env hagree, fun other handle t hother => ?_⟩)
      cases hello.symm.trans hother
      exact hagree handle t
    · push Not at hagree
      obtain ⟨handle, t, ht, howns, hverdict⟩ := hagree
      obtain ⟨mid, hmid, hends⟩ := receiveAnnounce_of_owner hsound env hdistinct ht howns hverdict
      rw [hends]
      cases hcase : t.verdict cp with
      | agree => exact absurd hcase hverdict
      | yield =>
        have hthere : mid.tenancy? handle = some t := (tenancy?_of_quiet hmid handle).trans ht
        exact .inl ⟨cp, handle, t, hello, ht, howns, hcase,
          hmid.then (evolves_giveWay hmid.sound env hthere)⟩
      | rebuke => exact .inr (.inl ⟨cp, handle, t, hello, ht, howns, hcase, mid, hmid, rfl⟩)

/-- What a frame changes and says: only an owner that gives way is released, and only an owner that
stays says anything. -/
structure Hears (frame : Bytes) (node : Node) (change : Handle → Tenancy → Tenancy)
    (said : List ControlPacket) : Prop where
  release : ∀ k t, node.tenancy? k = some t → change k t = t ∨
    change k t = t.released ∧ ∃ cp, helloOf? frame = some cp ∧ t.Owns cp.address ∧
      t.verdict cp = .yield
  yielded : ∀ cp k t, helloOf? frame = some cp → node.tenancy? k = some t → t.Owns cp.address →
    t.verdict cp = .yield → change k t = t.released
  rebuked : ∀ cp k t, helloOf? frame = some cp → node.tenancy? k = some t → t.Owns cp.address →
    t.verdict cp = .rebuke → cp.flagged ∈ said
  said : ∀ answer ∈ said, ∃ cp k t, helloOf? frame = some cp ∧ answer = cp.flagged ∧
    node.tenancy? k = some t ∧ t.Owns cp.address ∧ t.verdict cp = .rebuke

include hsound in
/-- **A frame, on a bus that takes every send.** -/
theorem receiveFrame_spec (hdistinct : node.IsDistinct) {env : Env} (henv : env.refusal = none)
    (frame : Bytes) :
    ∃ change said, Evolves change said node (node.receiveFrame env frame) ∧
      Hears frame node change said := by
  -- The owner of an address is unique, so what holds of one owner holds of any.
  have howner : ∀ {address : UInt8} {h k : Handle} {t u : Tenancy}, node.tenancy? h = some t →
      node.tenancy? k = some u → t.Owns address → u.Owns address → h = k ∧ t = u := by
    intro address h k t u ht hu howns howns'
    have heq := hdistinct h k t u ht hu howns.1 (howns.2.trans howns'.2.symm)
    subst heq
    rw [ht] at hu
    exact ⟨rfl, Option.some.inj hu⟩
  rcases receiveFrame_cases hsound hdistinct env frame with
    ⟨cp, handle, t, hcp, ht, howns, hverdict, hevolves⟩ |
    ⟨cp, handle, t, hcp, ht, howns, hverdict, mid, hmid, heq⟩ | ⟨hquiet, hagree⟩
  · refine ⟨_, _, hevolves, ?_, ?_, ?_, ?_⟩
    · intro k u hu
      by_cases hk : k = handle
      · subst hk
        rw [ht] at hu
        cases hu
        exact .inr ⟨by simp [only], cp, hcp, howns, hverdict⟩
      · exact .inl (by simp [only, hk])
    · intro cp' k u hcp' hu howns' _
      rw [hcp] at hcp'
      cases hcp'
      obtain ⟨rfl, rfl⟩ := howner ht hu howns howns'
      simp [only]
    · intro cp' k u hcp' hu howns' hverdict'
      rw [hcp] at hcp'
      cases hcp'
      obtain ⟨rfl, rfl⟩ := howner ht hu howns howns'
      rw [hverdict] at hverdict'
      cases hverdict'
    · intro answer hanswer
      cases hanswer
  · obtain ⟨hframe, htype⟩ := helloOf?_eq_some_iff.1 hcp
    have hposted := evolves_post hmid.sound henv (show cp.flagged.type = .hello from htype)
      (fits_of_ofFrame? hframe).1
    rw [heq]
    refine ⟨still, [cp.flagged], hmid.then hposted, fun _ _ _ => .inl rfl, ?_, ?_, ?_⟩
    · intro cp' k u hcp' hu howns' hverdict'
      rw [hcp] at hcp'
      cases hcp'
      obtain ⟨rfl, rfl⟩ := howner ht hu howns howns'
      rw [hverdict] at hverdict'
      cases hverdict'
    · intro cp' k u hcp' _ _ _
      rw [hcp] at hcp'
      cases hcp'
      exact List.mem_singleton_self _
    · intro answer hanswer
      rw [List.mem_singleton] at hanswer
      exact ⟨cp, handle, t, hcp, hanswer, ht, howns, hverdict⟩
  · refine ⟨still, [], hquiet, fun _ _ _ => .inl rfl, ?_, ?_, ?_⟩
    · intro cp k t hcp ht howns hverdict
      rw [hagree cp k t hcp ht howns] at hverdict
      cases hverdict
    · intro cp k t hcp ht howns hverdict
      rw [hagree cp k t hcp ht howns] at hverdict
      cases hverdict
    · intro answer hanswer
      cases hanswer

end Node

end DeviceBus
