import DeviceBus.Proofs.Trace
import DeviceBus.Simulation.World

/-!
# Lossless worlds

A world where every site has a port of one open bus and frames and ticks are given by hand. There a
step of a site changes its node, and every other site finds the frames that were sent at the end of
its queue. Nothing is lost and nothing is added, so such a world is its nodes and its queues.

## Main results

* `act_spec`: a step of a site.
* `handleOldest_spec`: a site handles the oldest frame of its queue.
* `lossless_addSite`: sites that are put on the bus make a lossless world.
-/

namespace DeviceBus

namespace World

/-- The node of a site. -/
def node? (i : Nat) (world : World) : Option Node := world.sites[i]?.map (·.node)

/-- The frames waiting for a site, oldest first. -/
def queueOf (i : Nat) (world : World) : List Bytes := world.medium.bus.queue i

/-- Every site sends to and receives from its own port of an open bus and is stepped by hand. -/
structure Lossless (world : World) : Prop where
  ports : world.medium.bus.ports.length = world.sites.length
  isOpen : world.medium.bus.isShutDown = false
  receiving : ∀ port ∈ world.medium.bus.ports, port.isAttached = true ∧ port.isListening = true
  wiring : ∀ (i : Nat) (site : Site), world.sites[i]? = some site →
    site.sink = .port i ∧ site.inlet = some i ∧ site.phase = .manual ∧ site.node.log = []

/-- The trace of a step is carried out at once. -/
theorem log_of_node? {world : World} (h : world.Lossless) {i : Nat} {node : Node}
    (hnode : world.node? i = some node) : node.log = [] := by
  obtain ⟨site, hsite, rfl⟩ := Option.map_eq_some_iff.1 hnode
  exact (h.wiring i site hsite).2.2.2

theorem exists_node? {world : World} {i : Nat} (hi : i < world.sites.length) :
    ∃ node, world.node? i = some node := by
  unfold node?
  rw [List.getElem?_eq_getElem hi]
  exact ⟨_, rfl⟩

theorem lt_length_of_node? {world : World} {i : Nat} {node : Node}
    (h : world.node? i = some node) : i < world.sites.length := by
  obtain ⟨site, hsite, -⟩ := Option.map_eq_some_iff.1 h
  exact (List.getElem?_eq_some_iff.1 hsite).1

theorem node?_eq_none_of_le {world : World} {i : Nat} (hi : world.sites.length ≤ i) :
    world.node? i = none := by
  unfold node?
  rw [List.getElem?_eq_none_iff.2 hi]
  rfl

/-! ## The bus -/

theorem isAttached_of_receiving {bus : SharedBus} {i : Nat} (h : i < bus.ports.length)
    (hports : ∀ port ∈ bus.ports, port.isAttached = true ∧ port.isListening = true) :
    bus.isAttached i = true := by
  unfold SharedBus.isAttached
  rw [List.getElem?_eq_getElem h]
  exact (hports _ (List.getElem_mem h)).1

theorem refusal_of_receiving {bus : SharedBus} {i : Nat} (h : i < bus.ports.length)
    (hopen : bus.isShutDown = false)
    (hports : ∀ port ∈ bus.ports, port.isAttached = true ∧ port.isListening = true) :
    bus.refusal i = none := by
  unfold SharedBus.refusal
  rw [hopen, isAttached_of_receiving h hports]
  rfl

/-- A frame on an open bus is queued for every port but the sender's. -/
theorem send_of_receiving {bus : SharedBus} {i : Nat} (h : i < bus.ports.length)
    (hopen : bus.isShutDown = false)
    (hports : ∀ port ∈ bus.ports, port.isAttached = true ∧ port.isListening = true)
    (frame : Bytes) :
    ∃ after, bus.send i frame = .ok after ∧ after.ports.length = bus.ports.length ∧
      after.isShutDown = false ∧
      (∀ port ∈ after.ports, port.isAttached = true ∧ port.isListening = true) ∧
      ∀ j, j < bus.ports.length →
        after.queue j = if j = i then bus.queue j else bus.queue j ++ [frame] := by
  have hdeliver : ∀ port ∈ bus.ports,
      port.deliver frame = { port with queue := port.queue ++ [frame] } := by
    intro port hport
    unfold Port.deliver
    rw [(hports port hport).1, (hports port hport).2]
    rfl
  unfold SharedBus.send
  rw [refusal_of_receiving h hopen hports]
  refine ⟨_, rfl, List.length_mapIdx, hopen, ?_, ?_⟩
  · intro port hport
    obtain ⟨k, hk, rfl⟩ := List.mem_mapIdx.1 hport
    have hmem := List.getElem_mem hk
    split
    · exact hports _ hmem
    · rw [hdeliver _ hmem]
      exact ⟨(hports _ hmem).1, (hports _ hmem).2⟩
  · intro j hj
    unfold SharedBus.queue
    rw [List.getElem?_mapIdx, List.getElem?_eq_getElem hj]
    simp only [Option.map_some, Option.getD_some]
    split
    · rfl
    · rw [hdeliver _ (List.getElem_mem hj)]

/-! ## What a step leaves to be carried out -/

theorem foldl_ready {f : World → Nat → World}
    (h : ∀ world i, ∃ ready, f world i = { world with ready }) (indices : List Nat)
    (world : World) : ∃ ready, indices.foldl f world = { world with ready } := by
  induction indices generalizing world with
  | nil => exact ⟨world.ready, rfl⟩
  | cons i rest ih =>
    obtain ⟨ready, hfirst⟩ := h world i
    obtain ⟨ready', hrest⟩ := ih { world with ready }
    refine ⟨ready', ?_⟩
    rw [List.foldl_cons, hfirst]
    exact hrest

theorem wakeReceivers_eq (world : World) :
    ∃ ready, world.wakeReceivers = { world with ready } := by
  unfold wakeReceivers
  refine foldl_ready (fun world i => ?_) _ world
  split
  · split
    · unfold wake
      split
      · exact ⟨world.ready, rfl⟩
      · exact ⟨_, rfl⟩
    · exact ⟨world.ready, rfl⟩
  · exact ⟨world.ready, rfl⟩

/-- What a site did has reached the others. -/
structure Carried (i : Nat) (actions : List Action) (before after : World) : Prop where
  lossless : after.Lossless
  sites : after.sites = before.sites
  now : after.now = before.now
  queue : ∀ j, j < before.sites.length → after.queueOf j =
    if j = i then before.queueOf j else before.queueOf j ++ framesOf actions

theorem Carried.refl {world : World} (h : world.Lossless) (i : Nat) : Carried i [] world world where
  lossless := h
  sites := rfl
  now := rfl
  queue j _ := by
    rw [framesOf_nil, List.append_nil]
    split <;> rfl

theorem Carried.trans {i : Nat} {x y : List Action} {first second third : World}
    (h : Carried i x first second) (h' : Carried i y second third) :
    Carried i (x ++ y) first third where
  lossless := h'.lossless
  sites := h'.sites.trans h.sites
  now := h'.now.trans h.now
  queue j hj := by
    rw [h'.queue j (by rw [h.sites]; exact hj), h.queue j hj]
    by_cases hji : j = i
    · rw [if_pos hji, if_pos hji, if_pos hji]
    · rw [if_neg hji, if_neg hji, if_neg hji, framesOf_append, List.append_assoc]

/-- Whatever keeps sites, bus and clock carries nothing. -/
theorem carried_of_same {world after : World} (h : world.Lossless) {i : Nat} {action : Action}
    (hframe : framesOf [action] = []) (hsites : after.sites = world.sites)
    (hmedium : after.medium = world.medium) (hnow : after.now = world.now) :
    Carried i [action] world after where
  lossless :=
    { ports := by rw [hmedium, hsites]; exact h.ports
      isOpen := by rw [hmedium]; exact h.isOpen
      receiving := by rw [hmedium]; exact h.receiving
      wiring := by rw [hsites]; exact h.wiring }
  sites := hsites
  now := hnow
  queue j _ := by
    unfold queueOf
    rw [hmedium, hframe, List.append_nil]
    split <;> rfl

theorem carried_perform {world : World} (h : world.Lossless) {i : Nat}
    (hi : i < world.sites.length) (action : Action) :
    Carried i [action] world (perform i (.port i) world action) := by
  cases action with
  | sent frame =>
    have hport : i < world.medium.bus.ports.length := by
      rw [h.ports]
      exact hi
    obtain ⟨bus, hsend, hlength, hopen, hreceiving, hqueue⟩ :=
      send_of_receiving hport h.isOpen h.receiving frame
    have htransmit : ∃ ready, world.transmit (.port i) frame =
        .ok { world with medium := { world.medium with bus }, ready } := by
      obtain ⟨ready, hready⟩ := wakeReceivers_eq { world with medium := { world.medium with bus } }
      have hsink : (Sink.port i).send frame world.medium = .ok { world.medium with bus } :=
        congrArg (Except.map fun bus => (⟨bus, world.medium.channels⟩ : Medium)) hsend
      refine ⟨ready, ?_⟩
      unfold transmit
      rw [hsink]
      exact congrArg Except.ok hready
    obtain ⟨ready, htransmit⟩ := htransmit
    have hperform : perform i (.port i) world (.sent frame) =
        { world with medium := { world.medium with bus }, ready } := by
      simp only [perform, htransmit]
    rw [hperform]
    exact
      { lossless := ⟨hlength.trans h.ports, hopen, hreceiving, h.wiring⟩
        sites := rfl
        now := rfl
        queue := fun j hj => hqueue j (by rw [h.ports]; exact hj) }
  | event event => exact carried_of_same h rfl rfl rfl rfl
  | called handle callback => exact carried_of_same h rfl rfl rfl rfl
  | noted note => exact carried_of_same h rfl rfl rfl rfl
  | streamStarted handle number =>
    refine carried_of_same h rfl ?_ ?_ ?_ <;>
      · show _ = _
        unfold perform wake
        dsimp only
        split <;> rfl

theorem carried_performAll {world : World} (h : world.Lossless) {i : Nat} {site : Site}
    (hsite : world.sites[i]? = some site) (actions : List Action) :
    Carried i actions world (world.performAll i actions) := by
  unfold performAll
  rw [hsite]
  dsimp only
  rw [(h.wiring i site hsite).1]
  have hi : i < world.sites.length := (List.getElem?_eq_some_iff.1 hsite).1
  clear hsite site
  induction actions generalizing world with
  | nil => exact .refl h i
  | cons action rest ih =>
    have hfirst := carried_perform h hi action
    exact hfirst.trans (ih hfirst.lossless (by rw [hfirst.sites]; exact hi))

/-! ## Steps of a site -/

/-- A site's node became another one, which left a trace, and every other site has the frames of it
at the end of its queue. -/
structure Steps (i : Nat) (node : Node) (before after : World) : Prop where
  lossless : after.Lossless
  length : after.sites.length = before.sites.length
  now : after.now = before.now
  nodes : ∀ j, after.node? j = if j = i then some { node with log := [] } else before.node? j
  queue : ∀ j, j < before.sites.length → after.queueOf j =
    if j = i then before.queueOf j else before.queueOf j ++ framesOf node.log

/-- What a site of a lossless world finds for a step: sends succeed. -/
def quietEnv (world : World) : Env := { refusal := none, now := world.now }

theorem envOf_eq {world : World} (h : world.Lossless) {i : Nat} {site : Site}
    (hsite : world.sites[i]? = some site) : world.envOf site = world.quietEnv := by
  have hi : i < world.medium.bus.ports.length := by
    rw [h.ports]
    exact (List.getElem?_eq_some_iff.1 hsite).1
  unfold envOf quietEnv
  rw [(h.wiring i site hsite).1]
  show ({ refusal := world.medium.bus.refusal i, now := world.now } : Env) = _
  rw [refusal_of_receiving hi h.isOpen h.receiving]

theorem getElem?_modifySite (world : World) (i : Nat) (change : Site → Site) (j : Nat) :
    (world.modifySite i change).sites[j]? =
      if i = j then world.sites[j]?.map change else world.sites[j]? := by
  unfold modifySite
  rw [List.getElem?_modify]
  split <;> simp

theorem lossless_modifySite {world : World} (h : world.Lossless) (i : Nat) {change : Site → Site}
    (hchange : ∀ site, world.sites[i]? = some site → (change site).sink = site.sink ∧
      (change site).inlet = site.inlet ∧ (change site).phase = site.phase ∧
      (change site).node.log = []) :
    (world.modifySite i change).Lossless where
  ports := by
    show world.medium.bus.ports.length = (world.sites.modify i change).length
    rw [List.length_modify]
    exact h.ports
  isOpen := h.isOpen
  receiving := h.receiving
  wiring j site hsite := by
    rw [getElem?_modifySite] at hsite
    split at hsite
    · rename_i hij
      subst hij
      obtain ⟨old, hold, rfl⟩ := Option.map_eq_some_iff.1 hsite
      obtain ⟨hsink, hinlet, hphase, hlog⟩ := hchange old hold
      obtain ⟨hsink', hinlet', hphase', -⟩ := h.wiring i old hold
      exact ⟨hsink.trans hsink', hinlet.trans hinlet', hphase.trans hphase', hlog⟩
    · exact h.wiring j site hsite

/-- A site that keeps its place is changed, and what was done goes out. -/
theorem steps_modifySite {world : World} (h : world.Lossless) {i : Nat} {site : Site}
    (hsite : world.sites[i]? = some site) (change : Site → Site)
    (hchange : (change site).sink = site.sink ∧ (change site).inlet = site.inlet ∧
      (change site).phase = site.phase ∧ (change site).node.log = []) (actions : List Action) :
    Steps i { (change site).node with log := actions } world
      ((world.modifySite i change).performAll i actions) := by
  have hmodified : (world.modifySite i change).Lossless := by
    refine lossless_modifySite h i fun other hother => ?_
    cases hsite.symm.trans hother
    exact hchange
  have hthere : (world.modifySite i change).sites[i]? = some (change site) := by
    rw [getElem?_modifySite, if_pos rfl, hsite]
    rfl
  have hcarried := carried_performAll hmodified hthere actions
  have hlength : (world.modifySite i change).sites.length = world.sites.length :=
    List.length_modify ..
  refine ⟨hcarried.lossless, ?_, hcarried.now, ?_, ?_⟩
  · rw [hcarried.sites]
    exact hlength
  · intro j
    unfold node?
    rw [hcarried.sites, getElem?_modifySite]
    by_cases hj : j = i
    · subst hj
      rw [if_pos rfl, if_pos rfl, hsite, ← hchange.2.2.2]
      rfl
    · rw [if_neg (Ne.symm hj), if_neg hj]
  · intro j hj
    exact hcarried.queue j (by rw [hlength]; exact hj)

/-- **A step of a site.** -/
theorem act_spec {α : Type} {world : World} (h : world.Lossless) {i : Nat} {node : Node}
    (hnode : world.node? i = some node) (step : Env → Node → α × Node) :
    (world.act i step).1 = some (step world.quietEnv node).1 ∧
      Steps i (step world.quietEnv node).2 world (world.act i step).2 := by
  obtain ⟨site, hsite, rfl⟩ := Option.map_eq_some_iff.1 hnode
  unfold act
  rw [hsite]
  dsimp only [Node.takeLog]
  rw [envOf_eq h hsite]
  generalize step world.quietEnv site.node = result
  obtain ⟨value, node⟩ := result
  let change (s : Site) : Site := { s with node := { node with log := [] } }
  exact ⟨rfl, steps_modifySite h hsite change ⟨rfl, rfl, rfl, rfl⟩ node.log⟩

theorem act_of_eq {α : Type} {world after : World} (h : world.Lossless) {i : Nat} {node : Node}
    (hnode : world.node? i = some node) {step : Env → Node → α × Node} {result : Option α}
    (hact : world.act i step = (result, after)) :
    result = some (step world.quietEnv node).1 ∧
      Steps i (step world.quietEnv node).2 world after := by
  have hspec := act_spec h hnode step
  rw [hact] at hspec
  exact hspec

theorem run_spec {world : World} (h : world.Lossless) {i : Nat} {node : Node}
    (hnode : world.node? i = some node) (step : Env → Node → Node) :
    Steps i (step world.quietEnv node) world (world.run i step) :=
  (act_spec h hnode fun env node => ((), step env node)).2

/-- A step of a site that is not there does nothing. -/
theorem run_of_node?_eq_none {world : World} {i : Nat} (hnode : world.node? i = none)
    (step : Env → Node → Node) : world.run i step = world := by
  have hsite : world.sites[i]? = none := Option.map_eq_none_iff.1 hnode
  unfold run act
  rw [hsite]

/-! ## Coming and going -/

theorem hasEnded_eq_false {world : World} (h : world.Lossless) {i : Nat} {node : Node}
    (hnode : world.node? i = some node) : world.hasEnded i = false := by
  obtain ⟨site, hsite, -⟩ := Option.map_eq_some_iff.1 hnode
  unfold hasEnded
  rw [hsite]
  show (site.phase == .stopped) = false
  rw [(h.wiring i site hsite).2.2.1]
  rfl

/-- What an attempt comes to, by the outcome of the step. -/
theorem attempt_eq {α : Type} {world : World} (h : world.Lossless) {i : Nat} {node : Node}
    (hnode : world.node? i = some node) (step : Env → Node → Except BusError (α × Node)) :
    ∃ result after, world.attempt i step = (result, after) ∧
      (∀ value next, step world.quietEnv node = .ok (value, next) →
        result = .ok value ∧ Steps i next world after) ∧
      ∀ e, step world.quietEnv node = .error e → result = .error e ∧ Steps i node world after := by
  unfold attempt
  rw [hasEnded_eq_false h hnode, if_neg Bool.false_ne_true]
  split
  rename_i outcome after hact
  obtain ⟨hresult, hsteps⟩ := act_of_eq h hnode hact
  refine ⟨_, _, rfl, fun value next hok => ?_, fun e herror => ?_⟩
  · simp only [hok] at hresult hsteps
    rw [hresult]
    exact ⟨rfl, hsteps⟩
  · simp only [herror] at hresult hsteps
    rw [hresult]
    exact ⟨rfl, hsteps⟩

/-- A step that can fail leaves the site as it is if it does. -/
theorem attempt_spec {α : Type} {world : World} (h : world.Lossless) {i : Nat} {node : Node}
    (hnode : world.node? i = some node) (step : Env → Node → Except BusError (α × Node)) :
    (∃ value after, step world.quietEnv node = .ok (value, after) ∧
      (world.attempt i step).1 = .ok value ∧ Steps i after world (world.attempt i step).2) ∨
    (∃ e, step world.quietEnv node = .error e ∧
      (world.attempt i step).1 = .error e ∧ Steps i node world (world.attempt i step).2) := by
  obtain ⟨result, after, hattempt, hok, herror⟩ := attempt_eq h hnode step
  rw [hattempt]
  cases hstep : step world.quietEnv node with
  | ok pair =>
    obtain ⟨value, next⟩ := pair
    exact .inl ⟨value, next, rfl, hok value next hstep⟩
  | error e => exact .inr ⟨e, rfl, herror e hstep⟩

theorem attempt_of_node?_eq_none {α : Type} {world : World} {i : Nat}
    (hnode : world.node? i = none) (step : Env → Node → Except BusError (α × Node)) :
    world.attempt i step = (.error .nodeStopped, world) := by
  have hsite : world.sites[i]? = none := Option.map_eq_none_iff.1 hnode
  unfold attempt hasEnded
  rw [hsite]
  rfl

theorem register_cases {world : World} (h : world.Lossless) {i : Nat} {node : Node}
    (hnode : world.node? i = some node) (profile : DriverProfile) (driver : Driver) :
    (∃ handle after, node.register profile driver = .ok (handle, after) ∧
      Steps i after world (world.register i profile driver).2) ∨
    Steps i node world (world.register i profile driver).2 := by
  rcases attempt_spec h hnode fun _ node => node.register profile driver with
    ⟨handle, after, hok, -, hsteps⟩ | ⟨e, -, -, hsteps⟩
  · exact .inl ⟨handle, after, hok, hsteps⟩
  · exact .inr hsteps

/-- Drivers that left are no matter of nodes and queues. -/
theorem Steps.departed {i : Nat} {node : Node} {before after : World} (h : Steps i node before after)
    (gone : List (Handle × Driver)) :
    Steps i node before (after.modifySite i fun s => { s with departed := s.departed ++ gone }) where
  lossless := by
    refine lossless_modifySite h.lossless i fun site hsite => ⟨rfl, rfl, rfl, ?_⟩
    exact (h.lossless.wiring i site hsite).2.2.2
  length := (List.length_modify ..).trans h.length
  now := h.now
  nodes j := by
    rw [← h.nodes j]
    unfold node?
    rw [getElem?_modifySite]
    split
    · rw [Option.map_map]
      rfl
    · rfl
  queue := h.queue

theorem unregister_cases {world : World} (h : world.Lossless) {i : Nat} {node : Node}
    (hnode : world.node? i = some node) (handle : Handle) :
    (∃ driver? after, node.unregister world.quietEnv handle = .ok (driver?, after) ∧
      Steps i after world (world.unregister i handle).2) ∨
    Steps i node world (world.unregister i handle).2 := by
  have hattempt := attempt_spec h hnode fun env node => node.unregister env handle
  unfold unregister
  rcases hattempt with ⟨driver?, after, hok, hvalue, hsteps⟩ | ⟨e, -, hvalue, hsteps⟩
  · refine .inl ⟨driver?, after, hok, ?_⟩
    generalize world.attempt i (fun env node => node.unregister env handle) = result
      at hvalue hsteps ⊢
    obtain ⟨value, next⟩ := result
    dsimp only at hvalue hsteps
    subst hvalue
    cases driver? with
    | none => exact hsteps
    | some driver => exact hsteps.departed [(handle, driver)]
  · right
    generalize world.attempt i (fun env node => node.unregister env handle) = result
      at hvalue hsteps ⊢
    obtain ⟨value, next⟩ := result
    dsimp only at hvalue hsteps
    subst hvalue
    exact hsteps

/-! ## Handling a frame -/

/-- Let a site handle the oldest frame of its queue, if there is one. -/
def handleOldest (i : Nat) (world : World) : World :=
  match world.medium.bus.receive i with
  | some (frame, bus) =>
    { world with medium := { world.medium with bus } }.run i fun env node =>
      node.receiveFrame env frame
  | none => world

theorem queueOf_eq_nil_of_le {world : World} (h : world.Lossless) {i : Nat}
    (hi : world.sites.length ≤ i) : world.queueOf i = [] := by
  unfold queueOf SharedBus.queue
  rw [List.getElem?_eq_none_iff.2 (by rw [h.ports]; exact hi)]
  rfl

/-- Whose queue holds a frame, is there. -/
theorem lt_length_of_queueOf_eq_cons {world : World} (h : world.Lossless) {i : Nat} {frame : Bytes}
    {rest : List Bytes} (hqueue : world.queueOf i = frame :: rest) : i < world.sites.length := by
  refine Nat.lt_of_not_le fun hi => ?_
  rw [queueOf_eq_nil_of_le h hi] at hqueue
  cases hqueue

/-- **A site handles the oldest frame of its queue.** -/
theorem handleOldest_spec {world : World} (h : world.Lossless) {i : Nat} {node : Node}
    (hnode : world.node? i = some node) {frame : Bytes} {rest : List Bytes}
    (hqueue : world.queueOf i = frame :: rest) :
    ∃ taken : World, taken.Lossless ∧
      Steps i (node.receiveFrame world.quietEnv frame) taken (world.handleOldest i) ∧
      taken.sites = world.sites ∧
      ∀ j, taken.queueOf j = if j = i then rest else world.queueOf j := by
  have hi : i < world.medium.bus.ports.length := by
    rw [h.ports]
    obtain ⟨site, hsite, -⟩ := Option.map_eq_some_iff.1 hnode
    exact (List.getElem?_eq_some_iff.1 hsite).1
  have hreceive : world.medium.bus.receive i =
      some (frame, world.medium.bus.modifyPort i fun p => { p with queue := rest }) := by
    unfold SharedBus.receive
    rw [show world.medium.bus.queue i = frame :: rest from hqueue]
  let bus := world.medium.bus.modifyPort i fun p => { p with queue := rest }
  let taken : World := { world with medium := { world.medium with bus } }
  have htaken : taken.Lossless := by
    refine ⟨?_, h.isOpen, ?_, h.wiring⟩
    · show (world.medium.bus.ports.modify i _).length = world.sites.length
      rw [List.length_modify]
      exact h.ports
    · intro port hport
      obtain ⟨k, hk⟩ := List.mem_iff_getElem?.1 hport
      rw [show taken.medium.bus.ports = world.medium.bus.ports.modify i
        (fun p => { p with queue := rest }) from rfl, List.getElem?_modify] at hk
      obtain ⟨old, hold, hsame⟩ := Option.map_eq_some_iff.1 hk
      have hreceiving := h.receiving old (List.mem_of_getElem? hold)
      rw [← hsame]
      split
      · exact hreceiving
      · exact hreceiving
  have hrun : world.handleOldest i =
      taken.run i fun env node => node.receiveFrame env frame := by
    unfold handleOldest
    rw [hreceive]
  refine ⟨taken, htaken, ?_, rfl, ?_⟩
  · rw [hrun]
    exact run_spec htaken hnode fun env node => node.receiveFrame env frame
  · intro j
    unfold queueOf SharedBus.queue
    show ((world.medium.bus.ports.modify i _)[j]?.map _).getD [] = _
    rw [List.getElem?_modify]
    by_cases hj : j = i
    · subst hj
      rw [List.getElem?_eq_getElem hi]
      simp
    · rw [if_neg hj]
      simp [Ne.symm hj]

/-! ## Making a lossless world -/

theorem lossless_empty : World.empty.Lossless where
  ports := rfl
  isOpen := rfl
  receiving port hport := by cases hport
  wiring i site hsite := by simp [World.empty] at hsite

/-- A site that is put on the bus of a lossless world gets the next number and an empty queue. -/
theorem lossless_addSite {world : World} (h : world.Lossless) {node : Node} (hlog : node.log = []) :
    (world.addSite node .bus true).Lossless ∧
      (∀ j, (world.addSite node .bus true).node? j =
        if j = world.sites.length then some node else world.node? j) ∧
      ∀ j, (world.addSite node .bus true).queueOf j = world.queueOf j := by
  have hports := h.ports
  have hadd : world.addSite node .bus true =
      { world with
        medium := { world.medium with bus := world.medium.bus.attach.2 }
        sites := world.sites ++
          [.create node (.port world.medium.bus.ports.length)
            (some world.medium.bus.ports.length)] } := rfl
  rw [hadd]
  refine ⟨⟨?_, h.isOpen, ?_, ?_⟩, ?_, ?_⟩
  · show (world.medium.bus.ports ++ [_]).length = (world.sites ++ [_]).length
    rw [List.length_append, List.length_append, hports]
    rfl
  · intro port hport
    rcases List.mem_append.1 hport with hold | hnew
    · exact h.receiving port hold
    · rw [List.mem_singleton] at hnew
      rw [hnew]
      exact ⟨rfl, rfl⟩
  · intro j site hsite
    rw [List.getElem?_append] at hsite
    split at hsite
    · exact h.wiring j site hsite
    · rename_i hj
      obtain ⟨hlt, rfl⟩ := List.getElem?_eq_some_iff.1 hsite
      simp only [List.length_singleton] at hlt
      have hlast : j = world.medium.bus.ports.length := by omega
      have hzero : j - world.sites.length = 0 := by omega
      simp only [hzero, List.getElem_cons_zero]
      rw [hlast]
      exact ⟨rfl, rfl, rfl, hlog⟩
  · intro j
    unfold node?
    show ((world.sites ++ [_])[j]?).map _ = _
    rw [List.getElem?_append]
    by_cases hj : j < world.sites.length
    · rw [if_pos hj, if_neg (Nat.ne_of_lt hj)]
    · rw [if_neg hj]
      by_cases hlast : j = world.sites.length
      · rw [if_pos hlast, hlast, Nat.sub_self]
        rfl
      · rw [if_neg hlast, List.getElem?_eq_none_iff.2 (by simp; omega),
          List.getElem?_eq_none_iff.2 (by omega)]
  · intro j
    unfold queueOf SharedBus.queue
    show ((world.medium.bus.ports ++ [_])[j]?.map _).getD [] = _
    rw [List.getElem?_append]
    by_cases hj : j < world.medium.bus.ports.length
    · rw [if_pos hj]
    · have hold : world.medium.bus.ports[j]? = none := List.getElem?_eq_none_iff.2 (by omega)
      rw [if_neg hj, hold]
      cases j - world.medium.bus.ports.length <;> rfl

end World

end DeviceBus
