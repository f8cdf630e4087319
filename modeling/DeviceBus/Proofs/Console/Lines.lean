import DeviceBus.Proofs.Links
import DeviceBus.Proofs.Node.Routing
import DeviceBus.Proofs.Text.Utf8

/-!
# Lines of a console

A line is cut into pieces of at most 31 bytes, and every piece goes out in a frame of its own under
the address of the console's host. A host that is connected at that address hands the frame to its
console, and the console keeps the piece as it was, unless it is below the threshold.

## Main results

* `LogClient.log_of_host`: the frames of a line.
* `Console.onData_piece`: what a console makes of a piece.
* `Hosts.receiveFrame`: what the host of a console makes of a frame with a piece.
-/

namespace DeviceBus

/-! ## Pieces -/

/-- A piece takes at least one byte and at most 31. -/
theorem length_utf8_piece {text piece : List Char} (h : piece ∈ linePieces text) :
    1 ≤ (Text.utf8 piece).length ∧ (Text.utf8 piece).length ≤ 31 :=
  Text.length_utf8_of_mem_chunks (by decide) h

/-- The packet that carries a piece of a line. -/
def piecePacket (address : UInt8) (priority : LogPriority) (piece : List Char) : Packet :=
  ⟨0, address, priority.toByte :: Text.utf8 piece⟩

/-- The frames that carry a line. -/
def lineFrames (address : UInt8) (priority : LogPriority) (text : List Char) : List Bytes :=
  (linePieces text).map fun piece => (piecePacket address priority piece).toBytes

theorem length_lineFrames (address : UInt8) (priority : LogPriority) (text : List Char) :
    (lineFrames address priority text).length = (linePieces text).length :=
  List.length_map _

theorem dataFrame_piece {env : Env} (hopen : env.refusal = none) (address : UInt8)
    (priority : LogPriority) {piece : List Char} (hfits : (Text.utf8 piece).length ≤ 31) :
    env.dataFrame address (priority.toByte :: Text.utf8 piece) =
      .ok (piecePacket address priority piece).toBytes := by
  have hlength : ¬payloadLimit < (priority.toByte :: Text.utf8 piece).length := by
    simp only [payloadLimit, List.length_cons]
    omega
  unfold Env.dataFrame Packet.ofData Env.transmit
  rw [if_neg hlength, hopen]
  rfl

namespace LogClient

/-- Pieces that fit go out one after the other while nothing is refused. -/
theorem sendAll_of_fits {env : Env} (hopen : env.refusal = none) (address : UInt8)
    (priority : LogPriority) {pieces : List (List Char)}
    (hfits : ∀ piece ∈ pieces, (Text.utf8 piece).length ≤ 31) :
    log.sendAll env priority address pieces = (.ok pieces.length,
      pieces.map fun piece => (piecePacket address priority piece).toBytes) := by
  induction pieces with
  | nil => rfl
  | cons piece pieces ih =>
    have hlater := ih fun other hother => hfits other (List.mem_cons_of_mem _ hother)
    rw [log.sendAll, dataFrame_piece hopen address priority (hfits piece List.mem_cons_self)]
    dsimp only
    rw [hlater]
    rfl

/-- A client that has a host sends a line piece by piece and counts the frames. -/
theorem log_of_host {env : Env} (hopen : env.refusal = none) (address : UInt8)
    (priority : LogPriority) (text : List Char) :
    (LogClient.mk (some address)).log env priority text =
      (.ok (lineFrames address priority text).length, lineFrames address priority text) := by
  rw [length_lineFrames]
  exact sendAll_of_fits hopen address priority fun piece hpiece => (length_utf8_piece hpiece).2

/-- Whatever keeps a frame from going out, it is not that there is no host. -/
theorem dataFrame_ne_notConnected (env : Env) (address : UInt8) (data : Bytes) :
    env.dataFrame address data ≠ .error .notConnected := by
  unfold Env.dataFrame Env.transmit
  cases Packet.ofData address data with
  | error e => simp
  | ok packet => cases env.refusal <;> simp

theorem sendAll_ne_notConnected (env : Env) (address : UInt8) (priority : LogPriority)
    (pieces : List (List Char)) :
    (log.sendAll env priority address pieces).1 ≠ .error .notConnected := by
  induction pieces with
  | nil => simp [log.sendAll]
  | cons piece pieces ih =>
    have hpiece := dataFrame_ne_notConnected env address (priority.toByte :: Text.utf8 piece)
    unfold log.sendAll
    cases hframe : env.dataFrame address (priority.toByte :: Text.utf8 piece) with
    | error e => simpa [hframe] using hpiece
    | ok frame =>
      cases hlater : (log.sendAll env priority address pieces).1 with
      | error e => simpa [hlater, Except.map] using ih
      | ok count => simp [hlater, Except.map]

/-- A line fails as not connected when there is no host, and for no other reason. -/
theorem log_eq_notConnected_iff (client : LogClient) (env : Env) (priority : LogPriority)
    (text : List Char) :
    (client.log env priority text).1 = .error .notConnected ↔ client.host = none := by
  unfold log
  cases client.host with
  | none => simp
  | some address => simpa using sendAll_ne_notConnected env address priority (linePieces text)

end LogClient

theorem LogPriority.ofByte?_toByte (priority : LogPriority) :
    ofByte? priority.toByte = some priority := by
  cases priority <;> rfl

/-- What a console keeps of a piece. -/
def keptOf (threshold : LogPriority) (address : UInt8) (priority : LogPriority)
    (piece : List Char) : List LogLine :=
  if priority.isBelow threshold then [] else [⟨address, priority, piece⟩]

/-- A console reads every piece as it was written and keeps it, unless it is below the
threshold. -/
theorem Console.onData_piece {console : Console} (hlistening : console.isListening = true)
    (address : UInt8) (priority : LogPriority) (piece : List Char) :
    console.onData (piecePacket address priority piece) = (true, { console with
      lines := console.lines ++ keptOf console.threshold address priority piece }) := by
  unfold onData piecePacket keptOf
  dsimp only
  rw [LogPriority.ofByte?_toByte, Text.decodeLossy_utf8]
  dsimp only
  split
  · rw [List.append_nil]
  · unfold push
    rw [if_pos hlistening]

/-! ## The host of a console -/

namespace Node

/-- The console of a handle. -/
def console? (handle : Handle) (node : Node) : Option Console :=
  (node.enrolled? handle).bind fun kept =>
    match kept.2.driver with
    | .console console => some console
    | _ => none

/-- The lines that wait in the console of a handle. -/
def linesAt (handle : Handle) (node : Node) : List LogLine :=
  ((node.console? handle).map (·.lines)).getD []

/-- A console with a listener, connected at an address. -/
def Hosts (handle : Handle) (address : UInt8) (threshold : LogPriority) (node : Node) : Prop :=
  ∃ status registration console, node.enrolled? handle = some (status, registration) ∧
    registration.driver = .console console ∧ status.isConnected = true ∧
    status.address = address ∧ console.threshold = threshold ∧ console.isListening = true

variable {node : Node} {handle : Handle} {address : UInt8} {threshold : LogPriority}

/-- What becomes of a driver that hears data. -/
theorem enrolled?_receiveData {status : Status} {registration : Registration}
    (h : node.enrolled? handle = some (status, registration)) (wf : node.registry.WellFormed)
    (env : Env) {packet : Packet}
    (hhears : hears packet.address (node.classesAt packet.address) status registration = true) :
    ∃ ctx : Context, ctx.handle = handle ∧ ctx.status = status ∧
      (node.receiveData env packet).enrolled? handle =
        some ((registration.driver.respond (.data packet) ctx).context.status,
          { registration with driver := (registration.driver.respond (.data packet) ctx).driver }) := by
  unfold receiveData
  generalize node.classesAt packet.address = classes at hhears ⊢
  obtain ⟨mid, hbefore, hafter⟩ := exists_turn_of_foldl (spares_routeTo env packet classes)
    wf.nodup_handles (mem_handles_of_enrolled? wf h) node
  have hmid := (hbefore.enrolled? handle rfl).trans h
  have hturn : routeTo env packet classes mid handle = (mid.call env handle (.data packet)).2 := by
    unfold routeTo
    rw [enrolled?_eq_some_iff.1 hmid]
    exact if_pos hhears
  refine ⟨mid.placeOf env handle (.data packet) status, rfl, rfl, ?_⟩
  rw [hafter.enrolled? handle rfl, hturn]
  exact enrolled?_call hmid env (.data packet)

/-- **The host of a console stays its host** with a piece, and adds it to the lines that wait unless
it is below the threshold. -/
theorem Hosts.receiveFrame (h : node.Hosts handle address threshold)
    (wf : node.registry.WellFormed) (env : Env) (hpos : address ≠ 0) (priority : LogPriority)
    {piece : List Char} (hfits : (Text.utf8 piece).length ≤ 31) :
    (node.receiveFrame env (piecePacket address priority piece).toBytes).Hosts handle address
        threshold ∧
      (node.receiveFrame env (piecePacket address priority piece).toBytes).linesAt handle =
        node.linesAt handle ++ keptOf threshold address priority piece := by
  obtain ⟨status, registration, console, hkept, hconsole, hconnected, rfl, rfl, hlistening⟩ := h
  have hlength : (priority.toByte :: Text.utf8 piece).length ≤ payloadLimit := by
    simp only [payloadLimit, List.length_cons]
    omega
  have hdecodes : Packet.decode (piecePacket status.address priority piece).toBytes =
      .ok (piecePacket status.address priority piece) := by
    have hread := Packet.decode_toBytes_append (piecePacket status.address priority piece) [] hlength
    rwa [List.append_nil] at hread
  have hdata : (piecePacket status.address priority piece).isControl = false := by
    simpa [Packet.isControl, controlAddress, piecePacket] using hpos
  have hhears : hears (piecePacket status.address priority piece).address
      (node.classesAt (piecePacket status.address priority piece).address) status registration =
        true := hears_iff.2 (.inl ⟨hconnected, rfl⟩)
  obtain ⟨ctx, -, hstatus, hafter⟩ := enrolled?_receiveData hkept wf env hhears
  rw [node.receiveFrame_of_data env hdecodes hdata]
  generalize hkeeps : ({ console with
    lines := console.lines ++ keptOf console.threshold status.address priority piece } : Console) =
      keeping
  have hreply : registration.driver.respond (.data (piecePacket status.address priority piece)) ctx =
      ⟨true, .console keeping, ctx⟩ := by
    rw [hconsole]
    unfold Driver.respond
    dsimp only
    rw [Console.onData_piece hlistening, hkeeps]
  rw [hreply, hstatus] at hafter
  subst hkeeps
  refine ⟨⟨status, _, _, hafter, rfl, hconnected, rfl, rfl, hlistening⟩, ?_⟩
  have hbefore : node.linesAt handle = console.lines := by
    simp [linesAt, console?, hkept, hconsole]
  rw [hbefore]
  simp only [linesAt, console?, hafter, Option.bind_some, Option.map_some, Option.getD_some]

end Node

end DeviceBus
