import DeviceBus.Proofs.Node.Courses
import DeviceBus.Proofs.Simulation.Addresses

/-!
# Lives of worlds

Whatever is done to a world of nodes on one bus, in whatever order, happens to the nodes one after
the other: each of them is what comes of a fresh node. Only the site that handles a frame takes one
off its queue; everything else leaves what waits where it is and can only add to it.

## Main results

* `ask_spec`: what a request to a driver comes to.
* `follows_does`: what a deed makes of a world.
* `Lives.sane`: what is true of every world that was lived in.
-/

namespace DeviceBus

open Node

namespace World

/-! ## Requests -/

section

variable {world : World} {i : Nat} {node : Node} {k : Handle}

/-- An application puts a changed driver back into its node, and what it did goes out. -/
theorem steps_setDriver (h : world.Lossless) (hnode : world.node? i = some node)
    {registration : Registration} (hheld : node.registration? k = some registration)
    (driver : Driver) (actions : List Action) :
    Steps i { node.modifyRegistration k fun r => { r with driver } with log := actions } world
      ((world.modifySite i (·.setDriver k driver)).performAll i actions) := by
  obtain ⟨site, hsite, rfl⟩ := Option.map_eq_some_iff.1 hnode
  have hset : site.setDriver k driver =
      { site with node := site.node.modifyRegistration k fun r => { r with driver } } := by
    unfold Site.setDriver
    rw [hheld]
  have hsteps := steps_modifySite h hsite (·.setDriver k driver)
    (by rw [hset]; exact ⟨rfl, rfl, rfl, (h.wiring i site hsite).2.2.2⟩) actions
  rwa [hset] at hsteps

/-- A driver that left its node is no matter of the node. -/
theorem steps_setDriver_departed (h : world.Lossless) (hnode : world.node? i = some node)
    (hheld : node.registration? k = none) (driver : Driver) (actions : List Action) :
    Steps i { node with log := actions } world
      ((world.modifySite i (·.setDriver k driver)).performAll i actions) := by
  obtain ⟨site, hsite, rfl⟩ := Option.map_eq_some_iff.1 hnode
  have hset : (site.setDriver k driver).node = site.node ∧
      (site.setDriver k driver).sink = site.sink ∧ (site.setDriver k driver).inlet = site.inlet ∧
      (site.setDriver k driver).phase = site.phase := by
    unfold Site.setDriver
    rw [hheld]
    exact ⟨rfl, rfl, rfl, rfl⟩
  have hsteps := steps_modifySite h hsite (·.setDriver k driver)
    ⟨hset.2.1, hset.2.2.1, hset.2.2.2, by rw [hset.1]; exact (h.wiring i site hsite).2.2.2⟩ actions
  rwa [hset.1] at hsteps

/-- **A request to a driver**: it answers, and what it sends goes out. -/
theorem ask_spec (h : world.Lossless) (hnode : world.node? i = some node)
    {registration : Registration} (hheld : node.registration? k = some registration)
    (request : Request) :
    (world.ask i k request).1 =
        (registration.driver.serve world.quietEnv k request).answer ∧
      Steps i
        { node.modifyRegistration k (fun r =>
            { r with driver := (registration.driver.serve world.quietEnv k request).driver }) with
          log := (registration.driver.serve world.quietEnv k request).actions }
        world (world.ask i k request).2 := by
  obtain ⟨site, hsite, rfl⟩ := Option.map_eq_some_iff.1 hnode
  have hdriver : site.driver? k = some registration.driver := by
    unfold Site.driver?
    rw [hheld]
  unfold ask
  rw [hsite]
  dsimp only
  rw [hdriver]
  dsimp only
  rw [envOf_eq h hsite]
  exact ⟨rfl, steps_setDriver h hnode hheld _ _⟩

end

/-! ## Deeds -/

/-- What is done to a world: moves on the bus, requests to drivers and turns of their streams. -/
inductive Deed where
  | move (move : Move)
  | ask (site : Nat) (handle : Handle) (request : Request)
  | stream (site : Nat) (handle : Handle) (number : Nat)

/-- The drivers that are registered are all admitted. -/
def Deed.IsAdmitted (admits : Driver → Prop) : Deed → Prop
  | .move (.register _ _ driver) => admits driver
  | _ => True

/-- The world after a deed. -/
def does (deed : Deed) (world : World) : World :=
  match deed with
  | .move move => world.apply move
  | .ask i handle request => (world.ask i handle request).2
  | .stream i handle number => world.runTask (.stream i handle number)

/-- Lossless, and every node is what comes of a fresh one. -/
structure Sane (admits : Driver → Prop) (world : World) : Prop where
  lossless : world.Lossless
  comes : ∀ i node, world.node? i = some node →
    ∃ settings draws xs, Comes settings draws admits xs node

/-- A sane world became a sane one, and at a site only what waited was added to. -/
structure Follows (admits : Driver → Prop) (before after : World) (j : Nat) : Prop where
  sane : after.Sane admits
  queue : ∃ added, after.queueOf j = before.queueOf j ++ added

section

variable {admits : Driver → Prop} {world after : World} {i j : Nat} {node next : Node}

theorem Follows.refl (h : world.Sane admits) (j : Nat) : Follows admits world world j :=
  ⟨h, [], (List.append_nil _).symm⟩

theorem Follows.trans {first second third : World} (h : Follows admits first second j)
    (h' : Follows admits second third j) : Follows admits first third j := by
  obtain ⟨-, added, hadded⟩ := h
  obtain ⟨hsane, more, hmore⟩ := h'
  exact ⟨hsane, added ++ more, by rw [hmore, hadded, List.append_assoc]⟩

/-- A step of a site adds to all queues but its own. -/
theorem Steps.queue_append (h : Steps i next world after) (hlossless : world.Lossless) (j : Nat) :
    ∃ added, after.queueOf j = world.queueOf j ++ added := by
  by_cases hj : j < world.sites.length
  · rw [h.queue j hj]
    split
    · exact ⟨[], (List.append_nil _).symm⟩
    · exact ⟨_, rfl⟩
  · refine ⟨[], ?_⟩
    rw [queueOf_eq_nil_of_le hlossless (Nat.le_of_not_lt hj),
      queueOf_eq_nil_of_le h.lossless (by rw [h.length]; exact Nat.le_of_not_lt hj)]
    rfl

/-- A step of a site, if its node came to it. -/
theorem Sane.steps (h : world.Sane admits) (hsteps : Steps i next world after)
    {settings : NodeSettings} {draws : Draws} {xs : List Happening}
    (hcomes : Comes settings draws admits xs { next with log := [] }) : after.Sane admits where
  lossless := hsteps.lossless
  comes j other hother := by
    rw [hsteps.nodes] at hother
    split at hother
    · cases hother
      exact ⟨settings, draws, xs, hcomes⟩
    · exact h.comes j other hother

/-- The trace of a step is taken at once. -/
theorem comes_withoutLog {settings : NodeSettings} {draws : Draws} {xs : List Happening}
    (h : Comes settings draws admits xs node) :
    Comes settings draws admits (xs ++ [.takeLog]) { node with log := [] } :=
  h.next trivial .takeLog

theorem Sane.follows (h : world.Sane admits) (hsteps : Steps i next world after)
    {settings : NodeSettings} {draws : Draws} {xs : List Happening}
    (hcomes : Comes settings draws admits xs next) (j : Nat) : Follows admits world after j :=
  ⟨h.steps hsteps (comes_withoutLog hcomes), hsteps.queue_append h.lossless j⟩

/-! ## One deed -/

theorem Sane.tick (h : world.Sane admits) (i j : Nat) :
    Follows admits world (world.run i Node.tick) j := by
  cases hnode : world.node? i with
  | none =>
    rw [run_of_node?_eq_none hnode]
    exact .refl h j
  | some node =>
    obtain ⟨settings, draws, xs, hcomes⟩ := h.comes i node hnode
    exact h.follows (run_spec h.lossless hnode Node.tick) (hcomes.tick _) j

theorem Sane.register (h : world.Sane admits) (i : Nat) (profile : DriverProfile) {driver : Driver}
    (admitted : admits driver) (j : Nat) :
    Follows admits world (world.register i profile driver).2 j := by
  cases hnode : world.node? i with
  | none =>
    unfold World.register
    rw [attempt_of_node?_eq_none hnode]
    exact .refl h j
  | some node =>
    obtain ⟨settings, draws, xs, hcomes⟩ := h.comes i node hnode
    rcases register_cases h.lossless hnode profile driver with
      ⟨handle, after, hok, hsteps⟩ | hsteps
    · exact h.follows hsteps
        (hcomes.next (x := .register handle profile driver) admitted (.register hok)) j
    · exact h.follows hsteps hcomes j

/-- Taking a driver out adds to the trace. -/
theorem exists_trace_unregister {env : Env} {handle : Handle} {left : Option Driver} {gone : Node}
    (ok : node.unregister env handle = .ok (left, gone)) :
    ∃ added, gone.log = node.log ++ added := by
  obtain ⟨told, hdeparts, -, htold⟩ := Node.unregister_cases ok
  rw [hdeparts.log]
  rcases htold with ⟨rfl, -⟩ | ⟨rfl, -⟩
  · exact ⟨[], (List.append_nil _).symm⟩
  · obtain ⟨added, hlog, -⟩ := (spares_tellRemoved env handle node).trace
    exact ⟨added, hlog⟩

theorem Sane.unregister (h : world.Sane admits) (i : Nat) (handle : Handle) (j : Nat) :
    Follows admits world (world.unregister i handle).2 j := by
  cases hnode : world.node? i with
  | none =>
    unfold World.unregister
    rw [attempt_of_node?_eq_none hnode]
    exact .refl h j
  | some node =>
    obtain ⟨settings, draws, xs, hcomes⟩ := h.comes i node hnode
    rcases unregister_cases h.lossless hnode handle with ⟨driver?, after, hok, hsteps⟩ | hsteps
    · obtain ⟨added, hlog⟩ := exists_trace_unregister hok
      have hnext := hcomes.next (x := .unregister _ handle) trivial (.unregister hok hlog)
      exact h.follows hsteps hnext j
    · exact h.follows hsteps hcomes j

/-- Time is no matter of nodes and queues. -/
theorem Sane.wait (h : world.Sane admits) (now : Nat) : Sane admits { world with now } :=
  ⟨⟨h.lossless.ports, h.lossless.isOpen, h.lossless.receiving, h.lossless.wiring⟩, h.comes⟩

/-- The site that handles a frame takes the oldest one off its queue. -/
theorem Sane.takes (h : world.Sane admits) (hnode : world.node? i = some node) {frame : Bytes}
    {rest : List Bytes} (hqueue : world.queueOf i = frame :: rest) :
    (world.handleOldest i).Sane admits ∧ (world.handleOldest i).queueOf i = rest ∧
      (world.handleOldest i).node? i =
        some { node.receiveFrame world.quietEnv frame with log := [] } ∧
      ∀ j, j ≠ i → Follows admits world (world.handleOldest i) j := by
  obtain ⟨taken, hlossless, hsteps, hsites, htaken⟩ := handleOldest_spec h.lossless hnode hqueue
  have hthere : taken.Sane admits := by
    refine ⟨hlossless, fun j other hother => h.comes j other ?_⟩
    unfold node? at hother ⊢
    rwa [hsites] at hother
  obtain ⟨settings, draws, xs, hcomes⟩ := h.comes i node hnode
  have hfollows := hthere.follows hsteps (hcomes.receive world.quietEnv frame)
  have hi : i < taken.sites.length := by
    rw [hsites]
    exact lt_length_of_node? hnode
  refine ⟨(hfollows i).sane, ?_, ?_, fun j hj => ⟨(hfollows j).sane, ?_⟩⟩
  · rw [hsteps.queue i hi, if_pos rfl, htaken, if_pos rfl]
  · rw [hsteps.nodes, if_pos rfl]
  · obtain ⟨added, hadded⟩ := (hfollows j).queue
    rw [htaken, if_neg hj] at hadded
    exact ⟨added, hadded⟩

theorem Sane.handle (h : world.Sane admits) (i : Nat) :
    (world.handleOldest i).Sane admits ∧
      ∀ j, j ≠ i → Follows admits world (world.handleOldest i) j := by
  cases hqueue : world.queueOf i with
  | nil =>
    rw [handleOldest_of_queueOf_eq_nil hqueue]
    exact ⟨h, fun j _ => .refl h j⟩
  | cons frame rest =>
    obtain ⟨node, hnode⟩ := exists_node? (lt_length_of_queueOf_eq_cons h.lossless hqueue)
    obtain ⟨hsane, -, -, hothers⟩ := h.takes hnode hqueue
    exact ⟨hsane, hothers⟩

/-- A driver works, for its node or after it left it, and what it did goes out. -/
theorem Sane.works (h : world.Sane admits) {site : Site} (hsite : world.sites[i]? = some site)
    {k : Handle} {driver worked : Driver} (hdriver : site.driver? k = some driver)
    (works : driver.Works worked) (actions : List Action) (j : Nat) :
    Follows admits world ((world.modifySite i (·.setDriver k worked)).performAll i actions) j := by
  have hnode : world.node? i = some site.node := Option.map_eq_some_iff.2 ⟨site, hsite, rfl⟩
  obtain ⟨settings, draws, xs, hcomes⟩ := h.comes i site.node hnode
  cases hheld : site.node.registration? k with
  | none =>
    have hsteps := steps_setDriver_departed h.lossless hnode hheld worked actions
    have hquiet := comes_withoutLog hcomes
    exact ⟨h.steps hsteps hquiet, hsteps.queue_append h.lossless j⟩
  | some registration =>
    have hsame : registration.driver = driver := by
      unfold Site.driver? at hdriver
      rw [hheld] at hdriver
      exact Option.some.inj hdriver
    have hsteps := steps_setDriver h.lossless hnode hheld worked actions
    have hworked := hcomes.next (x := .work k worked) trivial (.work hheld (hsame ▸ works))
    have hquiet := comes_withoutLog hworked
    exact ⟨h.steps hsteps hquiet, hsteps.queue_append h.lossless j⟩

theorem Sane.ask (h : world.Sane admits) (i : Nat) (k : Handle) (request : Request) (j : Nat) :
    Follows admits world (world.ask i k request).2 j := by
  unfold World.ask
  split
  · exact .refl h j
  · rename_i site hsite
    split
    · exact .refl h j
    · rename_i driver hdriver
      exact h.works hsite hdriver (.serve _ k request driver) _ j

theorem modifyStreamer_of_streamer? {driver : Driver} {streamer : Streamer}
    (h : driver.streamer? = some streamer) (change : Streamer → Streamer) :
    driver.modifyStreamer (fun _ => change streamer) = driver.modifyStreamer change := by
  cases driver with
  | pairable p =>
    obtain ⟨state, gated⟩ := p
    cases gated with
    | streamer s =>
      cases h
      rfl
    | _ => cases h
  | _ => cases h

theorem Sane.stream (h : world.Sane admits) (i : Nat) (k : Handle) (number fuel j : Nat) :
    Follows admits world (runStreaming i k number fuel world) j := by
  induction fuel generalizing world with
  | zero => exact .refl h j
  | succ fuel ih =>
    unfold runStreaming
    split
    · exact .refl h j
    · rename_i site hsite
      split
      · exact .refl h j
      · rename_i driver streamer hfound
        obtain ⟨held, hdriver, hstreams⟩ := Option.bind_eq_some_iff.1 hfound
        obtain ⟨same, hstreamer, heq⟩ := Option.map_eq_some_iff.1 hstreams
        cases heq
        have hworks : driver.Works
            (driver.modifyStreamer fun _ => (streamer.runLoop (world.envOf site) number).2.2) := by
          rw [modifyStreamer_of_streamer? hstreamer fun s =>
            (s.runLoop (world.envOf site) number).2.2]
          exact .run _ number driver
        have hturn := h.works hsite hdriver hworks
          ((streamer.runLoop (world.envOf site) number).2.1.toList.map .sent) j
        dsimp only
        split
        · exact hturn.trans (ih hturn.sane)
        · exact hturn

/-- **A deed leaves a world sane**, and at a site that handles no frame it only adds to what
waits. -/
theorem follows_does (h : world.Sane admits) {deed : Deed} (admitted : deed.IsAdmitted admits) :
    (world.does deed).Sane admits ∧
      ∀ j, deed ≠ .move (.handle j) → Follows admits world (world.does deed) j := by
  have hall : ∀ {after : World}, (∀ j, Follows admits world after j) → after.Sane admits ∧
      ∀ j, deed ≠ .move (.handle j) → Follows admits world after j :=
    fun hfollows => ⟨(hfollows 0).sane, fun j _ => hfollows j⟩
  cases deed with
  | move move =>
    cases move with
    | tick i => exact hall (h.tick i)
    | handle i =>
      obtain ⟨hsane, hothers⟩ := h.handle i
      refine ⟨hsane, fun j hj => hothers j ?_⟩
      rintro rfl
      exact hj rfl
    | register i profile driver => exact hall (h.register i profile admitted)
    | unregister i handle => exact hall (h.unregister i handle)
    | wait milliseconds =>
      exact hall fun j => ⟨h.wait _, [], (List.append_nil _).symm⟩
  | ask i handle request => exact hall (h.ask i handle request)
  | stream i handle number => exact hall (h.stream i handle number stepLimit)

end

/-! ## A whole life -/

/-- What becomes of nodes on one bus when admitted deeds are done. -/
inductive Lives (admits : Driver → Prop) (starts : List (NodeSettings × Draws)) : World → Prop where
  | start : Lives admits starts (ofNodes starts)
  | next {world : World} (before : Lives admits starts world) (deed : Deed)
      (admitted : deed.IsAdmitted admits) : Lives admits starts (world.does deed)

/-- A site with a fresh node may be added. -/
theorem Sane.addSite {admits : Driver → Prop} {world : World} (h : world.Sane admits)
    (settings : NodeSettings) (draws : Draws) :
    (world.addSite (Node.withDraws settings draws) .bus true).Sane admits := by
  obtain ⟨hlossless, hnodes, -⟩ :=
    lossless_addSite h.lossless (show (Node.withDraws settings draws).log = [] from rfl)
  refine ⟨hlossless, fun i node hnode => ?_⟩
  rw [hnodes] at hnode
  split at hnode
  · cases hnode
    exact ⟨settings, draws, [], .start⟩
  · exact h.comes i node hnode

theorem sane_ofNodes (admits : Driver → Prop) (starts : List (NodeSettings × Draws)) :
    (ofNodes starts).Sane admits :=
  List.foldlRecOn starts _ ⟨lossless_empty, fun i node hnode => by cases hnode⟩
    fun _ hsane start _ => hsane.addSite start.1 start.2

/-- **A world that was lived in is sane.** -/
theorem Lives.sane {admits : Driver → Prop} {starts : List (NodeSettings × Draws)} {world : World}
    (h : Lives admits starts world) : world.Sane admits := by
  induction h with
  | start => exact sane_ofNodes admits starts
  | next _ deed admitted ih => exact (follows_does ih admitted).1

end World

end DeviceBus
