import DeviceBus.Proofs.Node.Solo
import DeviceBus.Proofs.Pairing.Agreements
import DeviceBus.Proofs.Simulation.Addresses

/-!
# Bonds among any number of nodes

Nodes with one pairable driver each, all connected, meet on a lossless bus. They tick and handle
frames in any order, and no partner is given up. Whoever gets paired then has a partner that asks it
or is paired with it, unless that partner handled a refusal that came late: one that answers an
earlier request, while a later one waited or was accepted.

Such refusals occur. Answers are told from each other by their sender only, so a driver takes any
refusal of the device it asks for the answer to its last request.

## Main results

* `Gathering.handle`, `Gathering.tick`: what a step does to standings and queues.
* `bonds_of_meets`: there is no half-open bond without a late refusal.
* `halfOpen_of_crossingHosts`: three hosts end in a half-open bond.
-/

namespace DeviceBus

open ControlPacket

/-- A connected driver of a pairable role, by its status. -/
structure Status.IsSettled (own : Identity) (status : Status) : Prop where
  identity : status.identity = own
  isLocal : status.isLocal = true
  mayPair : status.mayPair = true
  isConnected : status.isConnected = true
  certain : status.isUnconfirmed = false
  addressed : status.address ≠ 0

theorem Status.IsSettled.of_unbonded_eq {own : Identity} {before after : Status}
    (h : before.IsSettled own) (hsame : after.unbonded = before.unbonded) : after.IsSettled own where
  identity := (identity_of_unbonded_eq hsame).trans h.identity
  isLocal := (isLocal_eq_of_tenancy_eq (tenancy_eq_of_unbonded_eq hsame)).trans h.isLocal
  mayPair := (mayPair_of_unbonded_eq hsame).trans h.mayPair
  isConnected := (isConnected_of_unbonded_eq hsame).trans h.isConnected
  certain := (@contains_of_unbonded_eq _ _ hsame DeviceFlags.unconfirmed (by decide)).trans h.certain
  addressed := by
    have haddress : after.address = before.address :=
      congrArg Identity.address (identity_of_unbonded_eq hsame)
    rw [haddress]
    exact h.addressed

/-- The standing of a pairable driver. -/
def Driver.standing? : Driver → Option Standing
  | .pairable driver => some driver.state
  | _ => none

/-- A partner is given up. -/
def Action.givesUp : Action → Bool
  | .called _ .partnerLost => true
  | _ => false

namespace Node

/-- The standing of a pairable driver under a handle. -/
def standing? (handle : Handle) (node : Node) : Option Standing :=
  (node.registration? handle).bind fun registration => registration.driver.standing?

/-- The only driver of the node is connected and stands somewhere in pairing. -/
def Seats (handle : Handle) (own : Identity) (standing : Standing) (node : Node) : Prop :=
  ∃ status driver, Solo handle status driver node ∧ status.IsSettled own ∧ driver.state = standing

variable {handle : Handle} {own other : Identity} {standing : Standing} {node : Node}

theorem Seats.withoutLog (h : node.Seats handle own standing) :
    ({ node with log := [] } : Node).Seats handle own standing := by
  obtain ⟨status, driver, hsolo, hsettled, hstate⟩ := h
  exact ⟨status, driver, ⟨⟨hsolo.sound.wellFormed, hsolo.sound.entries⟩, hsolo.own, hsolo.others⟩,
    hsettled, hstate⟩

theorem Seats.standing?_eq (h : node.Seats handle own standing) :
    node.standing? handle = some standing := by
  obtain ⟨status, driver, hsolo, -, rfl⟩ := h
  obtain ⟨registration, hget, hown⟩ := hsolo.own
  unfold Node.standing? registration?
  rw [hget]
  show registration.driver.standing? = some driver.state
  rw [hown]
  rfl

/-- What a node makes of a frame that concerns its driver is a response of the driver. -/
theorem Seats.receiveFrame (h : node.Seats handle own standing) (env : Env) {frame : Bytes}
    {cp : ControlPacket} (hcp : ofFrame? frame = some cp) (hconcerns : Concerns own other frame cp)
    (hforeign : other.address ≠ own.address)
    (hknown : ∀ peer, standing.peer = some peer → peer.isSameDevice other = true → peer = other) :
    ∃ after sent added, (node.receiveFrame env frame).Seats handle own after ∧
      Responds own other frame standing after sent ∧
      (node.receiveFrame env frame).log = node.log ++ added ∧ framesOf added = sent := by
  obtain ⟨status, driver, hsolo, hsettled, rfl⟩ := h
  have hmoves : Moves cp handle status driver node (node.receiveFrame env frame) := by
    rw [receiveFrame_of_control node hcp]
    unfold receiveControl
    cases htype : cp.type with
    | hello =>
      refine hsolo.receiveAnnounce env hsettled.isLocal ?_
      have haddress : status.address = own.address := congrArg Identity.address hsettled.identity
      rw [haddress]
      cases hconcerns with
      | hello _ announced =>
        rw [show cp.address = other.address from congrArg Identity.address announced]
        exact hforeign
      | pairing _ packet _ =>
        rw [packet] at htype
        cases htype
    | pairing => exact (hsolo.receivePairing env cp).1
    | unknown byte => exact .stay cp hsolo rfl
  obtain ⟨status', driver', sent, events, added, hafter, hunbonded, hmove, hadded, hframes⟩ := hmoves
  exact ⟨driver'.state, _, added, ⟨status', driver', hafter, hsettled.of_unbonded_eq hunbonded, rfl⟩,
    responds_of_move hsettled.identity hknown hconcerns hmove, hadded, hframes⟩

/-- A pairing packet for somebody else is dropped. -/
theorem Seats.receiveFrame_of_bystander (h : node.Seats handle own standing) (env : Env)
    {flags : ControlFlags} {sender target : Identity} (hother : target.address ≠ own.address) :
    node.receiveFrame env (pairingFrame flags sender target) = node := by
  obtain ⟨status, driver, hsolo, hsettled, -⟩ := h
  rw [receiveFrame_of_control node (ofFrame?_pairingFrame flags sender target)]
  refine (hsolo.receivePairing env (pairingMessage target flags sender)).2 ?_
  have haddress : status.address = own.address := congrArg Identity.address hsettled.identity
  have hne : ¬ status.address = target.address := fun heq => hother (heq.symm.trans haddress)
  show (status.isLocal && status.address != 0 && status.address == target.address &&
    status.serial == target.serial) = false
  simp [hne]

/-- A tick announces the driver. -/
theorem Seats.tick (h : node.Seats handle own standing) (env : Env)
    (hkept : ∀ action ∈ (node.tick env).log, action.givesUp = false) :
    (node.tick env).Seats handle own standing ∧
      ∃ added, (node.tick env).log = node.log ++ added ∧ ∀ frame ∈ framesOf added,
        ∃ cp, ofFrame? frame = some cp ∧ cp.type = .hello ∧ cp.announced = own := by
  obtain ⟨status, driver, hsolo, hsettled, hstate⟩ := h
  have hcalled : .called handle .partnerLost ∉ (node.tick env).log := by
    intro hmem
    cases hkept _ hmem
  have hafter := hsolo.tick env hsettled.isLocal hsettled.addressed hsettled.certain hcalled
  obtain ⟨added, hadded, hframes⟩ := hafter.trace
  rw [hsettled.identity] at hframes
  exact ⟨⟨status, driver, hafter.solo, hsettled, hstate⟩, added, hadded, hframes⟩

end Node

namespace World

/-- The standing of a pairable driver of a site. -/
def standing? (i : Nat) (handle : Handle) (world : World) : Option Standing :=
  (world.node? i).bind (·.standing? handle)

/-- Connected drivers of pairable roles, one at each site, that are not paired yet. They can be told
apart by address and by serial number, and nothing but announces is under way. -/
structure Ready (handles : Nat → Handle) (ids : Nat → Identity) (world : World) : Prop where
  lossless : world.Lossless
  seats : ∀ i node, world.node? i = some node → node.Seats (handles i) (ids i) .unpaired
  address : ∀ i j, i < world.sites.length → j < world.sites.length → i ≠ j →
    (ids i).address ≠ (ids j).address
  serial : ∀ i j, i < world.sites.length → j < world.sites.length → i ≠ j →
    (ids i).serial ≠ (ids j).serial
  announces : ∀ i, ∀ frame ∈ world.queueOf i, ∃ k < world.sites.length, k ≠ i ∧
    ∃ cp, ofFrame? frame = some cp ∧ cp.type = .hello ∧ cp.announced = ids k

/-- A move in which no partner is given up and nobody comes or goes. -/
def KeepsPartners (move : Move) (world : World) : Prop :=
  match move with
  | .tick i => ∀ node, world.node? i = some node →
      ∀ action ∈ (node.tick world.quietEnv).log, action.givesUp = false
  | .handle _ => True
  | .wait _ => True
  | .register _ _ _ => False
  | .unregister _ _ => False

/-- A run of such moves. -/
inductive Meets (first : World) : List Move → World → Prop where
  | start : Meets first [] first
  | move {moves : List Move} {world : World} (earlier : Meets first moves world) (move : Move)
      (kept : world.KeepsPartners move) : Meets first (moves ++ [move]) (world.apply move)

/-- The oldest frame that waits for site `b` is a refusal of site `a` that comes late. -/
def RefusesLate (handles : Nat → Handle) (ids : Nat → Identity) (a b : Nat) (world : World) : Prop :=
  ∃ atA atB frame rest, world.standing? a (handles a) = some atA ∧
    world.standing? b (handles b) = some atB ∧ world.queueOf b = frame :: rest ∧
    ComesLate (ids a) (ids b) atA atB (world.queueOf a) frame

/-! ## What holds in between -/

/-- A frame that a site sends: an announce, or a pairing packet for a site. -/
inductive Speaks (count : Nat) (ids : Nat → Identity) (k : Nat) (frame : Bytes) : Prop where
  | hello {cp : ControlPacket} (heard : ofFrame? frame = some cp) (type : cp.type = .hello)
      (announced : cp.announced = ids k)
  | pairing {flags : ControlFlags} {target : Nat} (known : IsPairingFlags flags)
      (there : target < count) (said : frame = pairingFrame flags (ids k) (ids target))

/-- The drivers stand as given, each with nobody but the others, and what waits was sent by
others. -/
structure Gathering (handles : Nat → Handle) (ids : Nat → Identity) (standing : Nat → Standing)
    (world : World) : Prop where
  lossless : world.Lossless
  seats : ∀ i node, world.node? i = some node → node.Seats (handles i) (ids i) (standing i)
  address : ∀ i j, i < world.sites.length → j < world.sites.length → i ≠ j →
    (ids i).address ≠ (ids j).address
  serial : ∀ i j, i < world.sites.length → j < world.sites.length → i ≠ j →
    (ids i).serial ≠ (ids j).serial
  known : ∀ i < world.sites.length, ∀ peer, (standing i).peer = some peer →
    ∃ k < world.sites.length, k ≠ i ∧ peer = ids k
  spoken : ∀ i, ∀ frame ∈ world.queueOf i,
    ∃ k < world.sites.length, k ≠ i ∧ Speaks world.sites.length ids k frame

variable {handles : Nat → Handle} {ids : Nat → Identity} {standing : Nat → Standing} {world : World}

theorem gathering_of_ready (h : world.Ready handles ids) :
    Gathering handles ids (fun _ => .unpaired) world where
  lossless := h.lossless
  seats := h.seats
  address := h.address
  serial := h.serial
  known i _ peer hpeer := by cases hpeer
  spoken i frame hframe := by
    obtain ⟨k, hk, hki, cp, hcp, htype, hannounced⟩ := h.announces i frame hframe
    exact ⟨k, hk, hki, .hello hcp htype hannounced⟩

/-- Sites with the same identity are the same. -/
theorem Gathering.eq_of_id_eq (h : Gathering handles ids standing world) {i j : Nat}
    (hi : i < world.sites.length) (hj : j < world.sites.length) (hids : ids i = ids j) : i = j := by
  by_contra hne
  exact h.address i j hi hj hne (congrArg Identity.address hids)

theorem Gathering.standing?_eq (h : Gathering handles ids standing world) {i : Nat}
    (hi : i < world.sites.length) : world.standing? i (handles i) = some (standing i) := by
  obtain ⟨node, hnode⟩ := exists_node? hi
  unfold standing?
  rw [hnode]
  exact (h.seats i node hnode).standing?_eq

/-- A driver stands with no other device of the class and serial number of a site. -/
theorem Gathering.eq_of_isSameDevice (h : Gathering handles ids standing world) {i k : Nat}
    (hi : i < world.sites.length) (hk : k < world.sites.length) {peer : Identity}
    (hpeer : (standing i).peer = some peer) (hsame : peer.isSameDevice (ids k) = true) :
    peer = ids k := by
  obtain ⟨j, hj, -, rfl⟩ := h.known i hi peer hpeer
  by_cases hjk : j = k
  · rw [hjk]
  · exact absurd (Identity.isSameDevice_iff.1 hsame).1 (h.serial j k hj hk hjk)

/-- A step of a site after which its driver stands with nobody but the others, and which sent what
a site sends. -/
theorem Gathering.steps (h : Gathering handles ids standing world) {i : Nat} {node : Node}
    {after : World} (hi : i < world.sites.length) (hsteps : Steps i node world after)
    {stand : Standing} (hseats : node.Seats (handles i) (ids i) stand)
    (hknown : ∀ peer, stand.peer = some peer → ∃ k < world.sites.length, k ≠ i ∧ peer = ids k)
    (hspoken : ∀ frame ∈ framesOf node.log, Speaks world.sites.length ids i frame) :
    Gathering handles ids (Function.update standing i stand) after where
  lossless := hsteps.lossless
  seats j other hother := by
    rw [hsteps.nodes] at hother
    by_cases hji : j = i
    · subst hji
      rw [if_pos rfl] at hother
      cases hother
      rw [Function.update_self]
      exact hseats.withoutLog
    · rw [if_neg hji] at hother
      rw [Function.update_of_ne hji]
      exact h.seats j other hother
  address := by
    rw [hsteps.length]
    exact h.address
  serial := by
    rw [hsteps.length]
    exact h.serial
  known := by
    rw [hsteps.length]
    intro j hj peer hpeer
    by_cases hji : j = i
    · subst hji
      rw [Function.update_self] at hpeer
      exact hknown peer hpeer
    · rw [Function.update_of_ne hji] at hpeer
      exact h.known j hj peer hpeer
  spoken := by
    intro j frame hframe
    rw [hsteps.length]
    by_cases hj : j < world.sites.length
    · rw [hsteps.queue j hj] at hframe
      by_cases hji : j = i
      · rw [if_pos hji] at hframe
        exact h.spoken j frame hframe
      · rw [if_neg hji, List.mem_append] at hframe
        rcases hframe with hold | hnew
        · exact h.spoken j frame hold
        · exact ⟨i, hi, Ne.symm hji, hspoken frame hnew⟩
    · rw [queueOf_eq_nil_of_le hsteps.lossless (by rw [hsteps.length]; omega)] at hframe
      cases hframe

/-- Taking a frame from a queue leaves all else. -/
theorem Gathering.taken (h : Gathering handles ids standing world) {after : World}
    (hlossless : after.Lossless) (hsites : after.sites = world.sites)
    (hqueue : ∀ j, ∀ frame ∈ after.queueOf j, frame ∈ world.queueOf j) :
    Gathering handles ids standing after where
  lossless := hlossless
  seats i node hnode := by
    refine h.seats i node ?_
    unfold node? at hnode ⊢
    rw [← hsites]
    exact hnode
  address := by
    rw [hsites]
    exact h.address
  serial := by
    rw [hsites]
    exact h.serial
  known := by
    rw [hsites]
    exact h.known
  spoken i frame hframe := by
    rw [hsites]
    exact h.spoken i frame (hqueue i frame hframe)

/-! ## Steps -/

/-- **A tick.** The site announces its driver, and that is all. -/
theorem Gathering.tick (h : Gathering handles ids standing world) {i : Nat}
    (hi : i < world.sites.length) (hkept : world.KeepsPartners (.tick i)) :
    Gathering handles ids standing (world.apply (.tick i)) ∧
      (world.apply (.tick i)).sites.length = world.sites.length ∧
      ∃ sent : List Bytes, (∀ frame ∈ sent, ∃ cp, ofFrame? frame = some cp ∧ cp.type = .hello) ∧
        ∀ j < world.sites.length, (world.apply (.tick i)).queueOf j =
          if j = i then world.queueOf j else world.queueOf j ++ sent := by
  obtain ⟨node, hnode⟩ := exists_node? hi
  have hsteps : Steps i (node.tick world.quietEnv) world (world.apply (.tick i)) :=
    run_spec h.lossless hnode Node.tick
  obtain ⟨hseats, added, hadded, hframes⟩ :=
    (h.seats i node hnode).tick world.quietEnv (hkept node hnode)
  rw [log_of_node? h.lossless hnode, List.nil_append] at hadded
  have hgathering := h.steps hi hsteps hseats (h.known i hi) (by
    intro frame hframe
    rw [hadded] at hframe
    obtain ⟨cp, hcp, htype, hannounced⟩ := hframes frame hframe
    exact .hello hcp htype hannounced)
  rw [Function.update_eq_self] at hgathering
  refine ⟨hgathering, hsteps.length, framesOf added, fun frame hframe => ?_, ?_⟩
  · obtain ⟨cp, hcp, htype, -⟩ := hframes frame hframe
    exact ⟨cp, hcp, htype⟩
  · rw [← hadded]
    exact hsteps.queue

/-- **Handling a frame.** The driver responds to a frame of another site. -/
theorem Gathering.handle (h : Gathering handles ids standing world) {i : Nat}
    (hi : i < world.sites.length) {frame : Bytes} {rest : List Bytes}
    (hqueue : world.queueOf i = frame :: rest) :
    ∃ k after sent, k < world.sites.length ∧ k ≠ i ∧
      Responds (ids i) (ids k) frame (standing i) after sent ∧
      Gathering handles ids (Function.update standing i after) (world.apply (.handle i)) ∧
      (world.apply (.handle i)).sites.length = world.sites.length ∧
      ∀ j < world.sites.length, (world.apply (.handle i)).queueOf j =
        if j = i then rest else world.queueOf j ++ sent := by
  obtain ⟨node, hnode⟩ := exists_node? hi
  obtain ⟨taken, hlossless, hsteps, hsites, htaken⟩ := handleOldest_spec h.lossless hnode hqueue
  have hmid : Gathering handles ids standing taken := by
    refine h.taken hlossless hsites fun j said hsaid => ?_
    rw [htaken] at hsaid
    split at hsaid
    · rename_i hji
      rw [hji, hqueue]
      exact List.mem_cons_of_mem _ hsaid
    · exact hsaid
  have hseats := h.seats i node hnode
  have hlog := log_of_node? h.lossless hnode
  obtain ⟨k, hk, hki, hspeaks⟩ := h.spoken i frame (by rw [hqueue]; exact List.mem_cons_self)
  have hforeign : (ids k).address ≠ (ids i).address := h.address k i hk hi hki
  have hsame : ∀ peer, (standing i).peer = some peer → peer.isSameDevice (ids k) = true →
      peer = ids k := fun peer => h.eq_of_isSameDevice hi hk
  -- Either the frame is for somebody else, or the driver responds.
  have hresponds : ∃ after sent,
      (node.receiveFrame world.quietEnv frame).Seats (handles i) (ids i) after ∧
      Responds (ids i) (ids k) frame (standing i) after sent ∧
      framesOf (node.receiveFrame world.quietEnv frame).log = sent := by
    have hheard : ∀ {cp}, ofFrame? frame = some cp → Concerns (ids i) (ids k) frame cp →
        ∃ after sent, (node.receiveFrame world.quietEnv frame).Seats (handles i) (ids i) after ∧
          Responds (ids i) (ids k) frame (standing i) after sent ∧
          framesOf (node.receiveFrame world.quietEnv frame).log = sent := by
      intro cp hcp hconcerns
      obtain ⟨after, sent, added, hafter, hresponse, hadded, hframes⟩ :=
        hseats.receiveFrame world.quietEnv hcp hconcerns hforeign hsame
      rw [hlog, List.nil_append] at hadded
      exact ⟨after, sent, hafter, hresponse, by rw [hadded, hframes]⟩
    cases hspeaks with
    | hello heard type announced => exact hheard heard (.hello type announced)
    | @pairing flags target known there said =>
      by_cases htarget : target = i
      · subst htarget
        refine hheard ?_ (.pairing known rfl said)
        rw [said]
        exact ofFrame?_pairingFrame flags (ids k) (ids target)
      · have hdropped : node.receiveFrame world.quietEnv
            (pairingFrame flags (ids k) (ids target)) = node :=
          hseats.receiveFrame_of_bystander world.quietEnv (h.address target i there hi htarget)
        rw [said, hdropped]
        exact ⟨standing i, [], hseats, .stay _, by rw [hlog]; rfl⟩
  obtain ⟨after, sent, hafter, hresponse, hframes⟩ := hresponds
  have hlength : taken.sites.length = world.sites.length := congrArg List.length hsites
  refine ⟨k, after, sent, hk, hki, hresponse, ?_, hsteps.length.trans hlength, ?_⟩
  · refine hmid.steps (by rw [hlength]; exact hi) hsteps hafter ?_ ?_
    · rw [hlength]
      intro peer hpeer
      rcases hresponse.peer hpeer with rfl | hold
      · exact ⟨k, hk, hki, rfl⟩
      · exact h.known i hi peer hold
    · rw [hlength, hframes]
      intro said hsaid
      obtain ⟨flags, hflags, rfl⟩ := hresponse.sent said hsaid
      exact .pairing hflags hk rfl
  · intro j hj
    have hafterQueue : (world.handleOldest i).queueOf j =
        if j = i then taken.queueOf j else taken.queueOf j ++ framesOf
          (node.receiveFrame world.quietEnv frame).log := hsteps.queue j (by rw [hlength]; exact hj)
    show (world.handleOldest i).queueOf j = _
    rw [hafterQueue, htaken, hframes]
    split
    · rfl
    · rfl

/-! ## Agreement -/

/-- The agreement of two sites, if a frame under way between them can tell. -/
def Agreed (ids : Nat → Identity) (standing : Nat → Standing) (a b : Nat) (world : World) : Prop :=
  Agrees (ids a) (ids b) (standing a) (standing b) (world.queueOf a)

theorem agreed_of_ready (h : world.Ready handles ids) (a b : Nat) :
    Agreed ids (fun _ => .unpaired) a b world := by
  have hnone : ∀ flags, pairingFrame flags (ids b) (ids a) ∉ world.queueOf a := by
    intro flags hmem
    obtain ⟨k, -, -, cp, hcp, htype, -⟩ := h.announces a _ hmem
    exact ne_pairingFrame_of_hello hcp htype flags (ids b) (ids a) rfl
  refine ⟨fun hcounts => ?_, fun hmem => absurd hmem (hnone _)⟩
  rcases hcounts with hpaired | hmem
  · cases hpaired
  · exact absurd hmem (hnone _)

/-- What a move leaves: the drivers stand with nobody but the others, and sites that agreed still
do, unless one of them handled a late refusal of the other. -/
def Leaves (handles : Nat → Handle) (ids : Nat → Identity) (standing : Nat → Standing)
    (move : Move) (before after : World) : Prop :=
  ∃ stands, Gathering handles ids stands after ∧ after.sites.length = before.sites.length ∧
    ∀ a b, a < before.sites.length → b < before.sites.length → b ≠ a →
      Agreed ids standing a b before →
      (move = .handle b → ¬ before.RefusesLate handles ids a b) → Agreed ids stands a b after

/-- A tick leaves two sites agreed. -/
theorem Gathering.leaves_tick (h : Gathering handles ids standing world) {i : Nat}
    (hkept : world.KeepsPartners (.tick i)) :
    Leaves handles ids standing (.tick i) world (world.apply (.tick i)) := by
  by_cases hi : i < world.sites.length
  · obtain ⟨hgathering, hlength, sent, hsent, hqueues⟩ := h.tick hi hkept
    refine ⟨standing, hgathering, hlength, fun a b ha _ _ hagreed _ => ?_⟩
    unfold Agreed at hagreed ⊢
    rw [hqueues a ha]
    split
    · exact hagreed
    · refine hagreed.bystander fun said hsaid flags => ?_
      obtain ⟨cp, hcp, htype⟩ := hsent said hsaid
      exact ne_pairingFrame_of_hello hcp htype flags (ids b) (ids a)
  · have hsame : world.apply (.tick i) = world :=
      run_of_node?_eq_none (node?_eq_none_of_le (Nat.le_of_not_lt hi)) Node.tick
    rw [hsame]
    exact ⟨standing, h, rfl, fun _ _ _ _ _ hagreed _ => hagreed⟩

/-- Handling a frame leaves two sites agreed, unless it is a late refusal. -/
theorem Gathering.leaves_handle (h : Gathering handles ids standing world) (i : Nat) :
    Leaves handles ids standing (.handle i) world (world.apply (.handle i)) := by
  cases hqueue : world.queueOf i with
  | nil =>
    have hsame : world.apply (.handle i) = world := handleOldest_of_queueOf_eq_nil hqueue
    rw [hsame]
    exact ⟨standing, h, rfl, fun _ _ _ _ _ hagreed _ => hagreed⟩
  | cons frame rest =>
    have hi := lt_length_of_queueOf_eq_cons h.lossless hqueue
    obtain ⟨k, after, sent, hk, hki, hresponds, hgathering, hlength, hqueues⟩ := h.handle hi hqueue
    refine ⟨_, hgathering, hlength, fun a b ha hb hba hagreed hintime => ?_⟩
    unfold Agreed at hagreed ⊢
    rw [hqueues a ha]
    -- The one that counts on the other, the other one, or a bystander.
    by_cases hia : i = a
    · subst hia
      rw [if_pos rfl, Function.update_self, Function.update_of_ne hba]
      rw [hqueue] at hagreed
      exact hagreed.hear hresponds
    · rw [if_neg (Ne.symm hia), Function.update_of_ne (Ne.symm hia)]
      by_cases hib : i = b
      · subst hib
        rw [Function.update_self]
        refine hagreed.respond hresponds fun hlate => hintime rfl ?_
        exact ⟨_, _, frame, rest, h.standing?_eq ha, h.standing?_eq hi, hqueue, hlate⟩
      · rw [Function.update_of_ne (Ne.symm hib)]
        refine hagreed.bystander fun said hsaid flags heq => ?_
        obtain ⟨flags', -, hsaid'⟩ := hresponds.sent said hsaid
        obtain ⟨-, hsender, -⟩ := pairingFrame_inj (hsaid'.symm.trans heq)
        exact hib (h.eq_of_id_eq hi hb hsender)

theorem Gathering.leaves (h : Gathering handles ids standing world) {move : Move}
    (hkept : world.KeepsPartners move) :
    Leaves handles ids standing move world (world.apply move) := by
  cases move with
  | tick i => exact h.leaves_tick hkept
  | handle i => exact h.leaves_handle i
  | wait milliseconds =>
    exact ⟨standing, ⟨⟨h.lossless.ports, h.lossless.isOpen, h.lossless.receiving,
      h.lossless.wiring⟩, h.seats, h.address, h.serial, h.known, h.spoken⟩, rfl,
      fun _ _ _ _ _ hagreed _ => hagreed⟩
  | register i profile driver => exact hkept.elim
  | unregister i handle => exact hkept.elim

/-- Earlier in a run, site `b` handled a refusal of site `a` that came late. -/
def HandledLate (handles : Nat → Handle) (ids : Nat → Identity) (a b : Nat) (start : World)
    (moves : List Move) : Prop :=
  ∃ earlier later mid, moves = earlier ++ .handle b :: later ∧ Meets start earlier mid ∧
    mid.RefusesLate handles ids a b

/-- In a run two sites stay agreed up to the first late refusal. -/
theorem gathering_of_meets {start : World} (hready : start.Ready handles ids) {moves : List Move}
    {world : World} (hmeets : Meets start moves world) :
    ∃ standing, Gathering handles ids standing world ∧
      world.sites.length = start.sites.length ∧
      ∀ a b, a < start.sites.length → b < start.sites.length → b ≠ a →
        Agreed ids standing a b world ∨ HandledLate handles ids a b start moves := by
  induction hmeets with
  | start =>
    exact ⟨_, gathering_of_ready hready, rfl,
      fun a b _ _ _ => .inl (agreed_of_ready hready a b)⟩
  | @move moves world earlier move kept ih =>
    obtain ⟨standing, hgathering, hlength, hagreed⟩ := ih
    obtain ⟨after, hafter, hlength', hstill⟩ := hgathering.leaves kept
    refine ⟨after, hafter, hlength'.trans hlength, fun a b ha hb hba => ?_⟩
    rcases hagreed a b ha hb hba with hnow | ⟨before, later, mid, rfl, hmid, hlate⟩
    · by_cases hlate : move = .handle b ∧ world.RefusesLate handles ids a b
      · obtain ⟨rfl, hlate⟩ := hlate
        exact .inr ⟨moves, [], world, rfl, earlier, hlate⟩
      · refine .inl (hstill a b ?_ ?_ hba hnow fun hmove hrefusal => hlate ⟨hmove, hrefusal⟩)
        · rw [hlength]
          exact ha
        · rw [hlength]
          exact hb
    · exact .inr ⟨before, later ++ [move], mid, by simp, hmid, hlate⟩

/-- **Bonds among any number of nodes.** Whoever is paired is paired with another one, which asks it
or is paired with it, unless that one handled a late refusal of it earlier. -/
theorem bonds_of_meets {start : World} (hready : start.Ready handles ids) {moves : List Move}
    {world : World} (hmeets : Meets start moves world) {a : Nat} {partner : Identity}
    (hpaired : world.standing? a (handles a) = some (.paired partner)) :
    ∃ b < start.sites.length, b ≠ a ∧ partner = ids b ∧
      (world.standing? b (handles b) = some (.pairing (ids a)) ∨
        world.standing? b (handles b) = some (.paired (ids a)) ∨
        HandledLate handles ids a b start moves) := by
  obtain ⟨standing, hgathering, hlength, hagreed⟩ := gathering_of_meets hready hmeets
  have ha : a < world.sites.length := by
    obtain ⟨node, hnode, -⟩ := Option.bind_eq_some_iff.1 hpaired
    exact lt_length_of_node? hnode
  rw [hgathering.standing?_eq ha] at hpaired
  have hstands : standing a = .paired partner := Option.some.inj hpaired
  obtain ⟨b, hb, hba, rfl⟩ := hgathering.known a ha partner (by rw [hstands]; rfl)
  rw [hlength] at ha hb
  refine ⟨b, hb, hba, rfl, ?_⟩
  rw [hgathering.standing?_eq (by rw [hlength]; exact hb)]
  rcases hagreed a b ha hb hba with hagrees | hlate
  · rcases hagrees.asked (.inl hstands) with hasks | hbonded
    · exact .inl (congrArg some hasks)
    · exact .inr (.inl (congrArg some hbonded))
  · exact .inr (.inr hlate)

/-! Three hosts that hear each other in a circle: each asks the next one and refuses the one before.
The second host asks once more before it reads its refusal, so it reads a late one. -/

theorem lossless_apply (h : world.Lossless) (move : Move) : (world.apply move).Lossless := by
  cases move with
  | tick i =>
    cases hnode : world.node? i with
    | none =>
      have hsame : world.apply (.tick i) = world := run_of_node?_eq_none hnode Node.tick
      rw [hsame]
      exact h
    | some node => exact (run_spec h hnode Node.tick).lossless
  | handle i =>
    cases hqueue : world.queueOf i with
    | nil =>
      have hsame : world.apply (.handle i) = world := handleOldest_of_queueOf_eq_nil hqueue
      rw [hsame]
      exact h
    | cons frame rest =>
      obtain ⟨node, hnode⟩ := exists_node? (lt_length_of_queueOf_eq_cons h hqueue)
      obtain ⟨taken, -, hsteps, -⟩ := handleOldest_spec h hnode hqueue
      exact hsteps.lossless
  | register i profile driver =>
    cases hnode : world.node? i with
    | none =>
      have hsame : (world.register i profile driver).2 = world :=
        congrArg Prod.snd (attempt_of_node?_eq_none hnode _)
      show (world.register i profile driver).2.Lossless
      rw [hsame]
      exact h
    | some node =>
      rcases register_cases h hnode profile driver with ⟨_, _, -, hsteps⟩ | hsteps
      · exact hsteps.lossless
      · exact hsteps.lossless
  | unregister i handle =>
    cases hnode : world.node? i with
    | none =>
      have hsame : (world.unregister i handle).2 = world := by
        unfold unregister
        rw [attempt_of_node?_eq_none hnode]
      show (world.unregister i handle).2.Lossless
      rw [hsame]
      exact h
    | some node =>
      rcases unregister_cases h hnode handle with ⟨_, _, -, hsteps⟩ | hsteps
      · exact hsteps.lossless
      · exact hsteps.lossless
  | wait milliseconds => exact ⟨h.ports, h.isOpen, h.receiving, h.wiring⟩

/-- The world after some moves. -/
def applyAll (moves : List Move) (world : World) : World :=
  moves.foldl (fun world move => world.apply move) world

theorem lossless_applyAll (h : world.Lossless) (moves : List Move) :
    (world.applyAll moves).Lossless := by
  induction moves generalizing world with
  | nil => exact h
  | cons move rest ih => exact ih (lossless_apply h move)

instance (move : Move) (world : World) : Decidable (world.KeepsPartners move) :=
  match move with
  | .tick i =>
    decidable_of_iff ((world.node? i).all fun node =>
      (node.tick world.quietEnv).log.all fun action => !action.givesUp) (by
        simp [KeepsPartners, Option.all_eq_true])
  | .handle _ => isTrue trivial
  | .wait _ => isTrue trivial
  | .register _ _ _ => isFalse id
  | .unregister _ _ => isFalse id

/-- No partner is given up in any of some moves. -/
def AllKeepPartners : List Move → World → Prop
  | [], _ => True
  | move :: rest, world => world.KeepsPartners move ∧ AllKeepPartners rest (world.apply move)

instance decidableAllKeepPartners :
    (moves : List Move) → (world : World) → Decidable (AllKeepPartners moves world)
  | [], _ => isTrue trivial
  | move :: rest, world =>
    @instDecidableAnd _ _ inferInstance (decidableAllKeepPartners rest (world.apply move))

theorem Meets.applyAll {first : World} {earlier moves : List Move}
    (h : Meets first earlier world) (hkept : AllKeepPartners moves world) :
    Meets first (earlier ++ moves) (world.applyAll moves) := by
  induction moves generalizing earlier world with
  | nil =>
    rw [List.append_nil]
    exact h
  | cons move rest ih =>
    have hnext := ih (h.move move hkept.1) hkept.2
    rw [List.append_assoc] at hnext
    exact hnext

/-- The hosts. -/
def hostIdentity (i : Nat) : Identity := ⟨UInt8.ofNat (i + 1), UInt32.ofNat (i + 1), 7⟩

/-- Registers a host with its serial number, and its address as the preferred one. -/
def enters (i : Nat) : Move :=
  .register i ⟨.pairableHost, 7, some (hostIdentity i).serial, some (hostIdentity i).address⟩
    (.pairable (.ofGated .idle))

/-- The hosts are connected; the last announces of all of them still wait, but the first one was too
early for the second host. -/
def meetingHosts : World :=
  (ofNodes (List.replicate 3 ({ probationTime := 0 }, ⟨fun _ => 0, 0⟩))).applyAll
    [enters 0, enters 1, enters 2, .tick 0, .handle 1, .handle 2, .tick 1, .handle 0, .handle 2,
      .tick 2, .handle 0, .handle 1, .tick 0, .handle 1, .tick 1, .tick 2]

/-- The second host asks the third one, which asks the first one, which asks the second one. -/
def crossingMoves : List Move :=
  [.handle 1, .tick 2] ++ List.replicate 3 (.handle 2) ++ List.replicate 6 (.handle 0) ++
    List.replicate 5 (.handle 1) ++ List.replicate 4 (.handle 2)

def crossingHosts : World := meetingHosts.applyAll crossingMoves

/-- A connected host without a peer, as the only entry of its node. -/
def isFreshSeat (own : Identity) (node : Node) : Bool :=
  match node.registry.order, node.registry.slots with
  | [0], [⟨0, some ⟨status, .driver registration⟩⟩] =>
    decide (status.identity = own) &&
      decide (status.flags = DeviceFlags.own ∪ DeviceFlags.pairable ∪ DeviceFlags.confirmed) &&
      status.address != 0 && decide (registration.driver.standing? = some .unpaired)
  | _, _ => false

theorem seats_of_isFreshSeat {own : Identity} {node : Node} (h : isFreshSeat own node = true) :
    node.Seats ⟨0, 0⟩ own .unpaired := by
  unfold isFreshSeat at h
  split at h
  · rename_i status registration horder hslots
    simp only [Bool.and_eq_true, decide_eq_true_eq, bne_iff_ne, ne_eq] at h
    obtain ⟨⟨⟨hidentity, hflags⟩, haddress⟩, hstanding⟩ := h
    have hget : ∀ k entry, node.registry.get? k = some entry →
        k = ⟨0, 0⟩ ∧ entry = ⟨status, .driver registration⟩ := by
      rintro ⟨slot, generation⟩ entry hentry
      rw [Registry.get?_eq_some_iff, hslots] at hentry
      cases slot with
      | zero =>
        simp only [List.getElem?_cons_zero, Option.some.injEq, Slot.mk.injEq] at hentry
        obtain ⟨rfl, rfl⟩ := hentry
        exact ⟨rfl, rfl⟩
      | succ slot => simp at hentry
    have hown : node.registry.get? ⟨0, 0⟩ = some ⟨status, .driver registration⟩ := by
      rw [Registry.get?_eq_some_iff, hslots]
      rfl
    obtain ⟨driver, hdriver, hstate⟩ : ∃ driver, registration.driver = .pairable driver ∧
        driver.state = .unpaired := by
      cases hcase : registration.driver with
      | pairable driver =>
        rw [hcase] at hstanding
        exact ⟨driver, rfl, Option.some.inj hstanding⟩
      | quiet => rw [hcase] at hstanding; cases hstanding
      | probe _ => rw [hcase] at hstanding; cases hstanding
      | console _ => rw [hcase] at hstanding; cases hstanding
      | logger _ => rw [hcase] at hstanding; cases hstanding
    have hrole : status.HasRole := by
      refine ⟨.pairableHost, ?_⟩
      rw [hflags]
      decide
    refine ⟨status, driver, ⟨⟨⟨?_, ?_⟩, ?_⟩, ⟨registration, hown, hdriver⟩, ?_⟩, ?_, hstate⟩
    · rw [horder]
      decide
    · intro slot
      rw [horder, hslots]
      cases slot with
      | zero => simp
      | succ slot => simp
    · intro k entry hentry
      obtain ⟨-, rfl⟩ := hget k entry hentry
      show registration.driver.IsOrdinary ∧ status.HasRole
      rw [hdriver]
      exact ⟨trivial, hrole⟩
    · intro k entry hk hentry
      exact absurd (hget k entry hentry).1 hk
    · refine ⟨hidentity, ?_, ?_, ?_, ?_, haddress⟩
      · unfold Status.isLocal
        rw [hflags]
        decide
      · unfold Status.mayPair Status.isPairableHost Status.isLocal Status.isPairable
          Status.isPairClient Status.isBroadcast
        rw [hflags]
        decide
      · unfold Status.isConnected Status.isConfirmed
        rw [hflags]
        decide
      · unfold Status.isUnconfirmed
        rw [hflags]
        decide
  · cases h

theorem ready_meetingHosts : meetingHosts.Ready (fun _ => ⟨0, 0⟩) hostIdentity := by
  have hlossless : meetingHosts.Lossless :=
    lossless_applyAll (arbitrated_ofNodes _).lossless _
  have hlength : meetingHosts.sites.length = 3 := by decide +kernel
  have haddress : ∀ i < 3, ∀ j < 3, i ≠ j →
      (hostIdentity i).address ≠ (hostIdentity j).address := by decide
  have hserial : ∀ i < 3, ∀ j < 3, i ≠ j →
      (hostIdentity i).serial ≠ (hostIdentity j).serial := by decide
  have hseats : ∀ i < 3, (meetingHosts.node? i).all (isFreshSeat (hostIdentity i)) = true := by
    decide +kernel
  have hqueues : ∀ i < 3, ∀ frame ∈ meetingHosts.queueOf i, ∃ k < 3, k ≠ i ∧
      (ofFrame? frame).any (fun cp =>
        decide (cp.type = .hello) && decide (cp.announced = hostIdentity k)) = true := by
    decide +kernel
  refine ⟨hlossless, ?_, ?_, ?_, ?_⟩
  · intro i node hnode
    have hi := lt_length_of_node? hnode
    rw [hlength] at hi
    have hseat := hseats i hi
    rw [hnode] at hseat
    exact seats_of_isFreshSeat hseat
  · rw [hlength]
    exact fun i j hi hj => haddress i hi j hj
  · rw [hlength]
    exact fun i j hi hj => hserial i hi j hj
  · rw [hlength]
    intro i frame hframe
    have hi : i < 3 := by
      by_contra hi
      rw [queueOf_eq_nil_of_le hlossless (by omega)] at hframe
      cases hframe
    obtain ⟨k, hk, hki, hany⟩ := hqueues i hi frame hframe
    obtain ⟨cp, hcp, hannounce⟩ := (Option.any_eq_true _ _).1 hany
    rw [Bool.and_eq_true, decide_eq_true_eq, decide_eq_true_eq] at hannounce
    exact ⟨k, hk, hki, cp, hcp, hannounce.1, hannounce.2⟩

theorem meets_crossingHosts : Meets meetingHosts crossingMoves crossingHosts := by
  have hkept : AllKeepPartners crossingMoves meetingHosts := by decide +kernel
  have hstart : Meets meetingHosts [] meetingHosts := .start
  exact hstart.applyAll hkept

/-- The third host is paired with the second one, which is paired with the first one. -/
theorem halfOpen_of_crossingHosts :
    meetingHosts.Ready (fun _ => ⟨0, 0⟩) hostIdentity ∧
      Meets meetingHosts crossingMoves crossingHosts ∧
      crossingHosts.standing? 2 ⟨0, 0⟩ = some (.paired (hostIdentity 1)) ∧
      ¬ (crossingHosts.standing? 1 ⟨0, 0⟩ = some (.pairing (hostIdentity 2)) ∨
        crossingHosts.standing? 1 ⟨0, 0⟩ = some (.paired (hostIdentity 2))) :=
  ⟨ready_meetingHosts, meets_crossingHosts, by decide +kernel, by decide +kernel⟩

/-- The second host is paired with the first one, which asks it. -/
theorem bonds_of_crossingHosts :
    crossingHosts.standing? 1 ⟨0, 0⟩ = some (.paired (hostIdentity 0)) ∧
      ∃ b < meetingHosts.sites.length, b ≠ 1 ∧ hostIdentity 0 = hostIdentity b ∧
        (crossingHosts.standing? b ⟨0, 0⟩ = some (.pairing (hostIdentity 1)) ∨
          crossingHosts.standing? b ⟨0, 0⟩ = some (.paired (hostIdentity 1)) ∨
          HandledLate (fun _ => ⟨0, 0⟩) hostIdentity 1 b meetingHosts crossingMoves) := by
  have hpaired : crossingHosts.standing? 1 ⟨0, 0⟩ = some (.paired (hostIdentity 0)) := by
    decide +kernel
  exact ⟨hpaired, bonds_of_meets ready_meetingHosts meets_crossingHosts hpaired⟩

end World

end DeviceBus
