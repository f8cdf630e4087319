import DeviceBus.Proofs.Console.Links
import DeviceBus.Proofs.Simulation.Lives

/-!
# From a line to a console

A log client that is connected sends a line under the address in its status, and every other site of
the bus finds the frames in its queue, in order and in one piece. Whatever else happens meanwhile,
the site that hosts a console at that address handles them one after the other, and the console
keeps the pieces of the line, which join to the line.

## Main results

* `Listens.lines_eq`: what a console adds to its lines for the pieces that wait.
* `listens_of_hosts`: a host that handles its queue hears every piece.
* `pipeline_of_comes`: when a line is sent, where to, and what comes of it.
-/

namespace DeviceBus

open Node

/-! ## The lines of a text -/

/-- What a console makes of a text that comes in pieces: nothing if the text is below the threshold,
and else its pieces, in order. -/
structure Renders (threshold : LogPriority) (address : UInt8) (priority : LogPriority)
    (text : List Char) (frames : Nat) (lines : List LogLine) : Prop where
  hidden : priority.isBelow threshold = true → lines = []
  count : priority.isBelow threshold = false → lines.length = frames
  each : ∀ line ∈ lines, line.priority = priority ∧ line.address = address ∧
    1 ≤ (Text.utf8 line.text).length ∧ (Text.utf8 line.text).length ≤ 31
  whole : priority.isBelow threshold = false → (lines.map (·.text)).flatten = text

theorem flatMap_keptOf (threshold : LogPriority) (address : UInt8) (priority : LogPriority)
    (pieces : List (List Char)) : pieces.flatMap (keptOf threshold address priority) =
      if priority.isBelow threshold then [] else pieces.map fun piece => ⟨address, priority, piece⟩ := by
  unfold keptOf
  split
  · exact List.flatMap_eq_nil_iff.2 fun _ _ => rfl
  · exact List.flatMap_pure_eq_map _ _

theorem renders_linePieces (threshold : LogPriority) (address : UInt8) (priority : LogPriority)
    (text : List Char) :
    Renders threshold address priority text (lineFrames address priority text).length
      ((linePieces text).flatMap (keptOf threshold address priority)) := by
  rw [flatMap_keptOf, length_lineFrames]
  refine ⟨fun hbelow => if_pos hbelow, fun hshown => ?_, fun line hline => ?_, fun hshown => ?_⟩
  · rw [hshown]
    exact List.length_map _
  · split at hline
    · cases hline
    · obtain ⟨piece, hpiece, rfl⟩ := List.mem_map.1 hline
      exact ⟨rfl, rfl, length_utf8_piece hpiece⟩
  · have htexts : ((linePieces text).map fun piece => (⟨address, priority, piece⟩ : LogLine)).map
        (·.text) = linePieces text := by
      rw [List.map_map]
      exact List.map_id _
    rw [hshown, if_neg Bool.false_ne_true, htexts, linePieces_flatten]

namespace World

variable {admits : Driver → Prop} {world : World} {i j : Nat} {node : Node} {handle : Handle}
  {address : UInt8} {threshold : LogPriority}

/-! ## The side of the console -/

/-- The lines that wait in a console of a site. -/
def linesAt (j : Nat) (handle : Handle) (world : World) : List LogLine :=
  ((world.node? j).map (·.linesAt handle)).getD []

/-- A site hosts a console at an address. -/
def HostsAt (j : Nat) (handle : Handle) (address : UInt8) (threshold : LogPriority)
    (world : World) : Prop :=
  ∃ node, world.node? j = some node ∧ node.Hosts handle address threshold

/-- From a world on, a site handles some older frames and then some of a line. Anything else happens
meanwhile, but the site hosts the console whenever it handles a frame of the line. The lines are
those that the console adds then. -/
inductive Listens (admits : Driver → Prop) (j : Nat) (handle : Handle) (address : UInt8)
    (threshold : LogPriority) : World → Nat → Nat → List LogLine → Prop where
  | done (world : World) : Listens admits j handle address threshold world 0 0 []
  | meanwhile {world : World} {older frames : Nat} {lines : List LogLine} (deed : Deed)
      (admitted : deed.IsAdmitted admits) (other : deed ≠ .move (.handle j))
      (later : Listens admits j handle address threshold (world.does deed) older frames lines) :
      Listens admits j handle address threshold world older frames lines
  | older {world : World} {older frames : Nat} {lines : List LogLine}
      (later : Listens admits j handle address threshold (world.handleOldest j) older frames
        lines) :
      Listens admits j handle address threshold world (older + 1) frames lines
  | hears {world : World} {frames : Nat} {lines : List LogLine}
      (hosts : world.HostsAt j handle address threshold)
      (later : Listens admits j handle address threshold (world.handleOldest j) 0 frames lines) :
      Listens admits j handle address threshold world 0 (frames + 1)
        (((world.handleOldest j).linesAt j handle).drop (world.linesAt j handle).length ++ lines)

/-- A host stays one when it handles a piece, and its console keeps it. -/
theorem HostsAt.hears (h : world.HostsAt j handle address threshold) (hsane : world.Sane admits)
    (hpos : address ≠ 0) (priority : LogPriority) {piece : List Char}
    (hfits : (Text.utf8 piece).length ≤ 31) {rest : List Bytes}
    (hqueue : world.queueOf j = (piecePacket address priority piece).toBytes :: rest) :
    (world.handleOldest j).HostsAt j handle address threshold ∧
      (world.handleOldest j).linesAt j handle =
        world.linesAt j handle ++ keptOf threshold address priority piece := by
  obtain ⟨node, hnode, hhosts⟩ := h
  obtain ⟨settings, draws, xs, hcomes⟩ := hsane.comes j node hnode
  obtain ⟨-, -, hafter, -⟩ := hsane.takes hnode hqueue
  obtain ⟨hstill, hlines⟩ :=
    hhosts.receiveFrame hcomes.wellFormed world.quietEnv hpos priority hfits
  refine ⟨⟨_, hafter, hstill⟩, ?_⟩
  unfold linesAt
  rw [hafter, hnode]
  exact hlines

/-- **What a console adds to its lines** for the pieces that wait at its host is what it keeps of
them, whatever else happens. -/
theorem Listens.lines_eq {older frames : Nat} {lines : List LogLine}
    (h : Listens admits j handle address threshold world older frames lines)
    (hsane : world.Sane admits) (hpos : address ≠ 0) (priority : LogPriority)
    {front back : List Bytes} {pieces : List (List Char)}
    (hfits : ∀ piece ∈ pieces, (Text.utf8 piece).length ≤ 31)
    (hqueue : world.queueOf j = front ++
      (pieces.map fun piece => (piecePacket address priority piece).toBytes) ++ back)
    (holder : front.length = older) (hframes : pieces.length = frames) :
    lines = pieces.flatMap (keptOf threshold address priority) := by
  induction h generalizing front back pieces with
  | done =>
    rw [List.eq_nil_of_length_eq_zero hframes]
    rfl
  | meanwhile deed admitted other _ ih =>
    obtain ⟨hnext, hothers⟩ := follows_does hsane admitted
    obtain ⟨added, hadded⟩ := (hothers j other).queue
    exact ih hnext hfits (hadded.trans (by rw [hqueue, List.append_assoc _ back])) holder hframes
  | @older world _ _ _ _ ih =>
    obtain ⟨frame, front, rfl⟩ := List.exists_cons_of_length_eq_add_one holder
    rw [List.cons_append, List.cons_append] at hqueue
    obtain ⟨node, hnode⟩ := exists_node? (lt_length_of_queueOf_eq_cons hsane.lossless hqueue)
    obtain ⟨hnext, hrest, -, -⟩ := hsane.takes hnode hqueue
    exact ih hnext hfits hrest (Nat.succ.inj holder) hframes
  | @hears world _ _ hosts _ ih =>
    obtain rfl := List.eq_nil_of_length_eq_zero holder
    obtain ⟨piece, pieces, rfl⟩ := List.exists_cons_of_length_eq_add_one hframes
    rw [List.nil_append, List.map_cons, List.cons_append] at hqueue
    have hkept := (hosts.hears hsane hpos priority (hfits piece List.mem_cons_self) hqueue).2
    obtain ⟨node, hnode, -⟩ := hosts
    obtain ⟨hnext, hrest, -, -⟩ := hsane.takes hnode hqueue
    have hlater := @ih hnext [] back pieces
      (fun other hother => hfits other (List.mem_cons_of_mem _ hother)) hrest rfl
      (Nat.succ.inj hframes)
    rw [hkept, List.drop_left, hlater, List.flatMap_cons]

/-- **A host that handles its queue hears every piece**, if nothing older waits. -/
theorem listens_of_hosts (h : world.HostsAt j handle address threshold) (hsane : world.Sane admits)
    (hpos : address ≠ 0) (priority : LogPriority) {back : List Bytes} {pieces : List (List Char)}
    (hfits : ∀ piece ∈ pieces, (Text.utf8 piece).length ≤ 31)
    (hqueue : world.queueOf j =
      (pieces.map fun piece => (piecePacket address priority piece).toBytes) ++ back) :
    ∃ lines, Listens admits j handle address threshold world 0 pieces.length lines := by
  induction pieces generalizing world with
  | nil => exact ⟨[], .done world⟩
  | cons piece pieces ih =>
    rw [List.map_cons, List.cons_append] at hqueue
    obtain ⟨hstill, -⟩ := h.hears hsane hpos priority (hfits piece List.mem_cons_self) hqueue
    obtain ⟨node, hnode, -⟩ := id h
    obtain ⟨hnext, hrest, -, -⟩ := hsane.takes hnode hqueue
    obtain ⟨lines, hlater⟩ :=
      ih hstill hnext (fun other hother => hfits other (List.mem_cons_of_mem _ hother)) hrest
    exact ⟨_, .hears h hlater⟩

/-! ## The side of the client -/

/-- A log client of a remote host sends lines while its driver is connected, to where its host is. -/
structure FollowsHost (k : Handle) (node : Node) (status : Status) (driver : Driver)
    (priority : LogPriority) (text : List Char) : Prop where
  /-- The line fails as not connected exactly when the driver is not connected. -/
  refused : ∀ env, (driver.serve env k (.log priority text)).answer =
    some (.failed .notConnected) ↔ status.isConnected = false
  /-- What is sent for it goes out under the address in the status. -/
  under : ∀ env, ∀ frame ∈ framesOf (driver.serve env k (.log priority text)).actions,
    ∃ packet, Packet.decode frame = .ok packet ∧ packet.toBytes = frame ∧
      packet.address = status.address
  /-- A driver that leaves its node is not connected any more. -/
  left : ∀ away gone after, node.unregister away k = .ok (some gone, after) →
    ∀ env, (gone.serve env k (.log priority text)).answer = some (.failed .notConnected)

/-- Where a line comes to that a driver of a site sends while it is connected. -/
structure Reaches (admits : Driver → Prop) (i : Nat) (k : Handle) (address : UInt8)
    (priority : LogPriority) (text : List Char) (world : World) : Prop where
  /-- The driver answers with the number of frames. -/
  answer : (world.ask i k (.log priority text)).1 =
    some (.number (lineFrames address priority text).length)
  /-- Every other site finds these frames behind what waits there already. -/
  queues : ∀ j, j ≠ i → j < world.sites.length →
    (world.ask i k (.log priority text)).2.queueOf j =
      world.queueOf j ++ lineFrames address priority text
  /-- What the console of a host makes of them is the text, unless it is below the threshold. -/
  shown : address ≠ 0 → ∀ j handle threshold lines, j ≠ i → j < world.sites.length →
    Listens admits j handle address threshold (world.ask i k (.log priority text)).2
      (world.queueOf j).length (lineFrames address priority text).length lines →
    Renders threshold address priority text (lineFrames address priority text).length lines
  /-- A host where nothing else waits hears all of them. -/
  heard : address ≠ 0 → ∀ j handle threshold, j ≠ i → world.queueOf j = [] →
    (world.ask i k (.log priority text)).2.HostsAt j handle address threshold →
    ∃ lines, Listens admits j handle address threshold
      (world.ask i k (.log priority text)).2 0 (lineFrames address priority text).length lines

end World

namespace Node

variable {node : Node} {k : Handle} {status : Status} {registration : Registration}
  {client : LogClient}

/-- A log client that leaves its node has no host. -/
theorem host_of_unregister (hkept : node.enrolled? k = some (status, registration))
    (hlogger : registration.driver = .logger client)
    (hlink : LinkIsCurrent (status, registration)) {env : Env} {gone : Driver} {after : Node}
    (ok : node.unregister env k = .ok (some gone, after)) : gone = .logger ⟨none⟩ := by
  have hbare : ∀ {driver : Driver}, driver.isLogger = true → driver.link? = none →
      driver = .logger ⟨none⟩ := by
    intro driver hdriver hnone
    cases driver with
    | logger client =>
      cases client
      cases hnone
      rfl
    | _ => cases hdriver
  obtain ⟨told, -, hleft, htold⟩ := unregister_cases ok
  obtain ⟨held, hheld, rfl⟩ := Option.map_eq_some_iff.1 hleft.symm
  obtain ⟨later, hentry⟩ := registration?_eq_some_iff.1 hheld
  have hthere := enrolled?_eq_some_iff.2 hentry
  rcases htold with ⟨rfl, hnever⟩ | ⟨rfl, -⟩
  · rw [hkept] at hthere
    cases hthere
    refine hbare (by rw [hlogger]; rfl) ?_
    unfold LinkIsCurrent at hlink
    rw [hlink, hnever status registration hkept]
    rfl
  · obtain ⟨talk, last, hreplies, hchronicle⟩ := chronicle_tellRemoved hkept env
    rw [hchronicle.later] at hthere
    cases hthere
    obtain ⟨-, hstill, hnone⟩ := hreplies.ofLogger (by rw [hlogger]; rfl)
    exact hbare hstill hnone

/-- The host of a remote log client is at the address in its status while it is connected. -/
theorem host_of_linkIsCurrent (hlogger : registration.driver = .logger client)
    (hlink : LinkIsCurrent (status, registration)) :
    client.host = if status.isConnected then some status.address else none := by
  unfold LinkIsCurrent at hlink
  rw [hlogger] at hlink
  exact hlink

/-- A client whose link is current sends a line to where its host is, while it is connected and
nothing is refused. -/
theorem log_of_linkIsCurrent (hlogger : registration.driver = .logger client)
    (hlink : LinkIsCurrent (status, registration)) (hconnected : status.isConnected = true)
    {env : Env} (hopen : env.refusal = none) (priority : LogPriority) (text : List Char) :
    client.log env priority text =
      (.ok (lineFrames status.address priority text).length,
        lineFrames status.address priority text) := by
  have hhost := host_of_linkIsCurrent hlogger hlink
  rw [hconnected, if_pos rfl] at hhost
  obtain ⟨host⟩ := client
  cases hhost
  exact LogClient.log_of_host hopen _ _ _

theorem linkIsCurrent_of_comes {settings : NodeSettings} {draws : Draws} {xs : List Happening}
    (hcomes : Comes settings draws Driver.IsUnlinked xs node)
    (hkept : node.enrolled? k = some (status, registration))
    (hlogger : registration.driver = .logger client)
    (hremote : DeviceFlags.mode status.flags = Role.virtual.flags) :
    LinkIsCurrent (status, registration) := by
  obtain ⟨role, hmode, hcurrent⟩ :=
    hcomes.linked k (status, registration) hkept (by rw [hlogger]; rfl)
  exact hcurrent (Role.flags_injective (hmode.symm.trans hremote))

end Node

namespace World

section

variable {admits : Driver → Prop} {world : World} {i : Nat} {node : Node} {k : Handle}
  {status : Status} {registration : Registration} {client : LogClient}

/-- What a log client does for a line. -/
theorem actions_serve_log (client : LogClient) (env : Env) (k : Handle) (priority : LogPriority)
    (text : List Char) : framesOf ((Driver.logger client).serve env k (.log priority text)).actions =
      (client.log env priority text).2 :=
  framesOf_map_sent _

theorem followsHost_of_linkIsCurrent
    (hkept : node.enrolled? k = some (status, registration))
    (hlogger : registration.driver = .logger client)
    (hlink : LinkIsCurrent (status, registration)) (priority : LogPriority) (text : List Char) :
    FollowsHost k node status registration.driver priority text := by
  have hhost := host_of_linkIsCurrent hlogger hlink
  refine ⟨fun env => ?_, fun env frame hframe => ?_, fun away gone after ok env => ?_⟩
  · have hunlinked : client.host = none ↔ status.isConnected = false := by
      rw [hhost]
      cases status.isConnected <;> simp
    rw [hlogger, ← hunlinked, ← client.log_eq_notConnected_iff env priority text]
    unfold Driver.serve
    dsimp only
    cases (client.log env priority text).1 with
    | ok count => exact ⟨nofun, nofun⟩
    | error e => simp
  · rw [hlogger, actions_serve_log] at hframe
    obtain ⟨address, haddress, hunder⟩ := client.areUnder_log env priority text frame hframe
    rw [hhost] at haddress
    split at haddress
    · cases haddress
      exact hunder.decode
    · cases haddress
  · rw [host_of_unregister hkept hlogger hlink ok]
    rfl

/-- A line that is sent without a failure is answered with the number of its frames, and every other
site finds them behind what waits there already. -/
theorem ask_log (hlossless : world.Lossless) (hnode : world.node? i = some node)
    (hkept : node.enrolled? k = some (status, registration))
    (hlogger : registration.driver = .logger client) {priority : LogPriority} {text : List Char}
    {frames : List Bytes}
    (hsent : client.log world.quietEnv priority text = (.ok frames.length, frames)) :
    (world.ask i k (.log priority text)).1 = some (.number frames.length) ∧
      (world.ask i k (.log priority text)).2.sites.length = world.sites.length ∧
      ∀ j, j ≠ i → j < world.sites.length →
        (world.ask i k (.log priority text)).2.queueOf j = world.queueOf j ++ frames := by
  have hheld : node.registration? k = some registration :=
    registration?_eq_some_iff.2 ⟨status, enrolled?_eq_some_iff.1 hkept⟩
  obtain ⟨hanswer, hsteps⟩ := ask_spec hlossless hnode hheld (.log priority text)
  refine ⟨?_, hsteps.length, fun j hji hj => ?_⟩
  · rw [hanswer, hlogger]
    unfold Driver.serve
    dsimp only
    rw [hsent]
  · rw [hsteps.queue j hj, if_neg hji]
    dsimp only
    rw [hlogger, actions_serve_log, hsent]

theorem reaches_of_linkIsCurrent (hsane : world.Sane admits) (hnode : world.node? i = some node)
    (hkept : node.enrolled? k = some (status, registration))
    (hlogger : registration.driver = .logger client)
    (hlink : LinkIsCurrent (status, registration)) (hconnected : status.isConnected = true)
    (priority : LogPriority) (text : List Char) :
    Reaches admits i k status.address priority text world := by
  obtain ⟨hanswer, hlength, hqueues⟩ := ask_log hsane.lossless hnode hkept hlogger
    (log_of_linkIsCurrent hlogger hlink hconnected rfl priority text)
  have hasked := (hsane.ask i k (.log priority text) i).sane
  have hfits : ∀ piece ∈ linePieces text, (Text.utf8 piece).length ≤ 31 :=
    fun piece hpiece => (length_utf8_piece hpiece).2
  refine
    { answer := hanswer
      queues := hqueues
      shown := fun hpos j handle threshold lines hji hj hlistens => ?_
      heard := fun hpos j handle threshold hji hnothing hhosts => ?_ }
  · have hqueue : (world.ask i k (.log priority text)).2.queueOf j = world.queueOf j ++
        lineFrames status.address priority text ++ [] := by
      rw [hqueues j hji hj, List.append_nil]
    have hlines := hlistens.lines_eq hasked hpos priority hfits hqueue rfl
      (length_lineFrames _ _ _).symm
    rw [hlines]
    exact renders_linePieces threshold status.address priority text
  · obtain ⟨host, hthere, -⟩ := id hhosts
    have hj : j < world.sites.length := hlength ▸ lt_length_of_node? hthere
    have hqueue : (world.ask i k (.log priority text)).2.queueOf j =
        lineFrames status.address priority text ++ [] := by
      rw [hqueues j hji hj, hnothing, List.append_nil]
      rfl
    rw [length_lineFrames]
    exact listens_of_hosts hhosts hasked hpos priority hfits hqueue

end

/-- **The console pipeline.** Whatever happened to the node of a remote log client, its lines fail as
not connected exactly when its driver is not connected, and go out under the address in its status
otherwise. In a world that was lived in, a line of a driver that is connected comes to a console at
that address in one piece. -/
theorem pipeline_of_comes {settings : NodeSettings} {draws : Draws} {xs : List Happening}
    {node : Node} (hcomes : Comes settings draws Driver.IsUnlinked xs node) {k : Handle}
    {status : Status} {registration : Registration}
    (hkept : node.enrolled? k = some (status, registration)) {client : LogClient}
    (hlogger : registration.driver = .logger client)
    (hremote : DeviceFlags.mode status.flags = Role.virtual.flags) (priority : LogPriority)
    (text : List Char) :
    FollowsHost k node status registration.driver priority text ∧
      ∀ starts world i, Lives Driver.IsUnlinked starts world → world.node? i = some node →
        status.isConnected = true →
        Reaches Driver.IsUnlinked i k status.address priority text world := by
  have hlink := linkIsCurrent_of_comes hcomes hkept hlogger hremote
  refine ⟨followsHost_of_linkIsCurrent hkept hlogger hlink priority text, ?_⟩
  intro starts world i lives hnode hconnected
  exact reaches_of_linkIsCurrent lives.sane hnode hkept hlogger hlink hconnected priority text

/-! A client that found a host, and a line of two frames. -/

/-- A log client and a console, each on a node of its own, before anything was sent. -/
def clientAndConsole : World :=
  ((ofNodes [({ probationTime := 0 }, ⟨fun _ => 0, 0⟩), ({ probationTime := 0 }, ⟨fun _ => 0, 0⟩)]).does
    (.move (.register 0 ⟨.virtual, 7, none, none⟩ (.logger ⟨none⟩)))).does
      (.move (.register 1 ⟨.host, 7, none, none⟩ (.console (.create .log))))

/-- The client heard the console twice. -/
def metConsole : World :=
  (((clientAndConsole.does (.move (.tick 1))).does (.move (.handle 0))).does
    (.move (.tick 1))).does (.move (.handle 0))

theorem lives_metConsole : ∃ starts, Lives Driver.IsUnlinked starts metConsole := by
  have hstart : Lives Driver.IsUnlinked
      [({ probationTime := 0 }, ⟨fun _ => 0, 0⟩), ({ probationTime := 0 }, ⟨fun _ => 0, 0⟩)] _ :=
    .start
  have hboth := (hstart.next
    (.move (.register 0 ⟨.virtual, 7, none, none⟩ (.logger ⟨none⟩))) fun _ => rfl).next
    (.move (.register 1 ⟨.host, 7, none, none⟩ (.console (.create .log)))) nofun
  exact ⟨_, (((hboth.next (.move (.tick 1)) trivial).next (.move (.handle 0)) trivial).next
    (.move (.tick 1)) trivial).next (.move (.handle 0)) trivial⟩

/-- Sixteen letters of two bytes each. -/
def wideText : List Char := List.replicate 16 'é'

theorem pipeline_of_metConsole :
    ∃ node kept, metConsole.node? 0 = some node ∧ node.enrolled? ⟨0, 0⟩ = some kept ∧
      FollowsHost ⟨0, 0⟩ node kept.1 kept.2.driver .error wideText ∧
      Reaches Driver.IsUnlinked 0 ⟨0, 0⟩ kept.1.address .error wideText metConsole ∧
      (metConsole.ask 0 ⟨0, 0⟩ (.log .error wideText)).1 = some (.number 2) ∧
      kept.1.address = 1 ∧ (((metConsole.ask 0 ⟨0, 0⟩ (.log .error wideText)).2.handleOldest
        1).handleOldest 1).linesAt 1 ⟨0, 0⟩ =
          [⟨1, .error, List.replicate 15 'é'⟩, ⟨1, .error, ['é']⟩] := by
  obtain ⟨starts, lives⟩ := lives_metConsole
  have hsite : (metConsole.node? 0).any (fun node =>
      (node.enrolled? ⟨0, 0⟩).any fun kept =>
        kept.2.driver.isLogger && kept.1.isConnected && decide (kept.1.address = 1) &&
          decide (DeviceFlags.mode kept.1.flags = Role.virtual.flags)) = true := by
    decide +kernel
  obtain ⟨node, hnode, hany⟩ := (Option.any_eq_true _ _).1 hsite
  obtain ⟨⟨status, registration⟩, hkept, hall⟩ := (Option.any_eq_true _ _).1 hany
  simp only [Bool.and_eq_true, decide_eq_true_eq] at hall
  obtain ⟨⟨⟨hlogger, hconnected⟩, haddress⟩, hremote⟩ := hall
  obtain ⟨client, hclient⟩ : ∃ client, registration.driver = .logger client := by
    cases hdriver : registration.driver with
    | logger client => exact ⟨client, rfl⟩
    | _ =>
      rw [hdriver] at hlogger
      cases hlogger
  obtain ⟨settings, draws, xs, hcomes⟩ := lives.sane.comes 0 node hnode
  obtain ⟨hfollows, hreaches⟩ :=
    pipeline_of_comes hcomes hkept hclient hremote .error wideText
  exact ⟨node, _, hnode, hkept, hfollows, hreaches starts _ 0 lives hnode hconnected,
    by decide +kernel, haddress, by decide +kernel⟩

end World

end DeviceBus
