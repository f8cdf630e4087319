import DeviceBus.Proofs.Node.Stories

/-!
# Links

Some drivers send without their node: a stream sends states and requests, a log client sends lines.
They send under an address of their own, the link, that they keep beside the status which the node
keeps of them. The link follows from what the driver is told. Work does not change it, and nothing
that a driver sends by itself goes out under another address.

## Main results

* `Driver.link?_respond`: how the link follows from what a driver is told.
* `Driver.Sends.spec`: what a driver sends by itself goes out under its link, and the link stays
  what it is.
-/

namespace DeviceBus

/-- The frame carries data under an address. -/
def GoesUnder (address : UInt8) (frame : Bytes) : Prop :=
  ∃ data packet, Packet.ofData address data = .ok packet ∧ frame = packet.toBytes

/-- What goes out under an address is read under it, to the last byte. -/
theorem GoesUnder.decode {address : UInt8} {frame : Bytes} (h : GoesUnder address frame) :
    ∃ packet, Packet.decode frame = .ok packet ∧ packet.toBytes = frame ∧
      packet.address = address := by
  obtain ⟨data, packet, hpacket, rfl⟩ := h
  unfold Packet.ofData at hpacket
  split at hpacket
  · cases hpacket
  · rename_i hfits
    cases hpacket
    have hread := Packet.decode_toBytes_append ⟨0, address, data⟩ [] (Nat.le_of_not_lt hfits)
    rw [List.append_nil] at hread
    exact ⟨_, hread, rfl, rfl⟩

theorem Env.goesUnder_of_dataFrame {env : Env} {address : UInt8} {data frame : Bytes}
    (h : env.dataFrame address data = .ok frame) : GoesUnder address frame := by
  unfold dataFrame at h
  split at h
  · cases h
  · rename_i packet hpacket
    unfold transmit at h
    split at h
    · cases h
    · cases h
      exact ⟨data, packet, hpacket, rfl⟩

/-- The frames go out under a link; without a link there are none. -/
def AreUnder (link : Option UInt8) (frames : List Bytes) : Prop :=
  ∀ frame ∈ frames, ∃ address, link = some address ∧ GoesUnder address frame

theorem areUnder_nil (link : Option UInt8) : AreUnder link [] := fun _ h => by cases h

/-! ## Streams -/

namespace Streamer

variable {streamer : Streamer}

/-- What a turn of a loop sends goes out under the link. -/
theorem areUnder_turn (env : Env) (loop : StreamLoop) :
    AreUnder streamer.address (streamer.turn env loop).frame.toList := by
  rcases turn_cases env loop streamer with h | h | ⟨state, address, sent, -, haddress, hsent, h⟩ <;>
    rw [h]
  · exact areUnder_nil _
  · exact areUnder_nil _
  · intro frame hframe
    rw [Option.toList_some, List.mem_singleton] at hframe
    rw [hframe]
    exact ⟨address, haddress, Env.goesUnder_of_dataFrame hsent⟩

/-- Letting a loop run leaves the address alone, and what it sends goes out under it. -/
theorem runLoop_spec (env : Env) (number : Nat) :
    (streamer.runLoop env number).2.2.address = streamer.address ∧
      AreUnder streamer.address (streamer.runLoop env number).2.1.toList := by
  refine ⟨(sameTerms_runLoop env number streamer).address, ?_⟩
  have hruns := runs env number streamer
  generalize streamer.runLoop env number = result at hruns ⊢
  cases hruns with
  | absent _ => exact areUnder_nil _
  | waits _ _ _ _ => exact areUnder_nil _
  | exits _ _ => exact areUnder_nil _
  | turns _ _ _ _ => exact areUnder_turn env _

theorem areUnder_sendResult (env : Env) (command : StreamCommand) :
    AreUnder streamer.address
      (framesOf (streamer.sendResult (streamer.commandFrame env command)).actions) := by
  unfold commandFrame
  cases haddress : streamer.address with
  | none => exact areUnder_nil _
  | some address =>
    dsimp only
    cases hsent : env.dataFrame address command.toBytes with
    | error e => exact areUnder_nil _
    | ok sent =>
      intro frame hframe
      rw [List.mem_singleton.1 hframe]
      exact ⟨address, rfl, Env.goesUnder_of_dataFrame hsent⟩

/-- A request leaves the address alone, and what is sent for it goes out under it. -/
theorem serve_spec (env : Env) (handle : Handle) (request : Request) :
    (streamer.serve env handle request).driver.address = streamer.address ∧
      AreUnder streamer.address (framesOf (streamer.serve env handle request).actions) := by
  refine ⟨(obeys_serve env handle request streamer).sameTerms.address, ?_⟩
  unfold serve
  split
  · split
    · exact areUnder_nil _
    · dsimp only
      split <;> exact areUnder_nil _
  · exact areUnder_nil _
  · exact areUnder_sendResult env _
  · exact areUnder_sendResult env _
  · exact areUnder_nil _
  · exact areUnder_nil _
  · exact areUnder_nil _

end Streamer

/-- A data packet that reads as a stream command. -/
def Packet.isCommand (packet : Packet) : Bool := (StreamCommand.decode packet.data).isOk

/-- A stream follows its driver with every command that comes in. -/
theorem Streamer.address_onData (streamer : Streamer) (packet : Packet) (ctx : Context) :
    (streamer.onData packet ctx).driver.address =
      if packet.isCommand then some ctx.status.address else streamer.address := by
  unfold Packet.isCommand
  cases hdecode : StreamCommand.decode packet.data with
  | error e =>
    rw [onData_of_error hdecode]
    rfl
  | ok command => exact (obeys_onData hdecode ctx streamer).sameTerms.address

/-! ## Behind the pairing gate -/

namespace Gated

/-- Whether a streamer is behind the gate. -/
def streams : Gated → Bool
  | streamer _ => true
  | _ => false

/-- The address that what is behind the gate sends under by itself. -/
def link? : Gated → Option UInt8
  | streamer s => s.address
  | _ => none

/-- A request leaves the link alone, and what is sent for it goes out under the link. -/
theorem serve_spec (gated : Gated) (env : Env) (handle : Handle) (request : Request) :
    (gated.serve env handle request).driver.streams = gated.streams ∧
      (gated.serve env handle request).driver.link? = gated.link? ∧
      AreUnder gated.link? (framesOf (gated.serve env handle request).actions) := by
  cases gated with
  | idle => exact ⟨rfl, rfl, areUnder_nil _⟩
  | application app =>
    unfold serve
    dsimp only
    split <;> exact ⟨rfl, rfl, areUnder_nil _⟩
  | streamer s => exact ⟨rfl, s.serve_spec env handle request⟩

theorem link?_connected (gated : Gated) (ctx : Context) :
    (gated.connected ctx).1.link? = if gated.streams then some ctx.status.address else none := by
  cases gated <;> rfl

theorem link?_removed (gated : Gated) (ctx : Context) : (gated.removed ctx).1.link? = none := by
  cases gated with
  | streamer s => exact (Streamer.sameTerms_cancel _).address
  | _ => rfl

theorem link?_onData (gated : Gated) (packet : Packet) (ctx : Context) :
    (gated.onData packet ctx).driver.link? =
      if gated.streams && packet.isCommand then some ctx.status.address else gated.link? := by
  cases gated with
  | streamer s => exact s.address_onData packet ctx
  | _ => rfl

/-- The end of a bond is no matter of the link. -/
theorem unpaired_spec (gated : Gated) (ctx : Context) :
    (gated.unpaired ctx).1.streams = gated.streams ∧
      (gated.unpaired ctx).1.link? = gated.link? := by
  cases gated with
  | streamer s => exact ⟨rfl, (Streamer.sameTerms_cancel s).address⟩
  | _ => exact ⟨rfl, rfl⟩

end Gated

namespace Pairable

/-- Whether a driver lets data through its gate: a bonded one only what comes from its partner. -/
def admits (packet : Packet) (driver : Pairable) : Bool :=
  match driver.state with
  | .paired partner => packet.address == partner.address
  | _ => true

theorem gated_onData (packet : Packet) (ctx : Context) (driver : Pairable) :
    (driver.onData packet ctx).driver.gated =
      if driver.admits packet then (driver.gated.onData packet ctx).driver else driver.gated := by
  unfold onData admits
  cases driver.state with
  | paired partner =>
    by_cases hfrom : packet.address = partner.address
    · simp [hfrom, passData]
    · simp [hfrom]
  | _ => rfl

theorem link_letGo (ctx : Context) (driver : Pairable) :
    (driver.letGo ctx).1.gated.streams = driver.gated.streams ∧
      (driver.letGo ctx).1.gated.link? = driver.gated.link? := by
  rcases driver.gated_letGo ctx with heq | ⟨place, heq⟩
  · rw [heq]
    exact ⟨rfl, rfl⟩
  · rw [heq]
    exact driver.gated.unpaired_spec place

theorem link_onControl (cp : ControlPacket) (ctx : Context) (driver : Pairable) :
    (driver.onControl cp ctx).driver.gated.streams = driver.gated.streams ∧
      (driver.onControl cp ctx).driver.gated.link? = driver.gated.link? := by
  rcases driver.gated_onControl cp ctx with heq | ⟨place, heq⟩
  · rw [heq]
    exact ⟨rfl, rfl⟩
  · rw [heq]
    exact driver.gated.unpaired_spec place

end Pairable

/-- The lines of a log client go out under the address of its host. -/
theorem LogClient.areUnder_log (client : LogClient) (env : Env) (priority : LogPriority)
    (text : List Char) : AreUnder client.host (client.log env priority text).2 := by
  unfold log
  split
  · exact areUnder_nil _
  · rename_i address haddress
    rw [haddress]
    generalize linePieces text = pieces
    induction pieces with
    | nil => exact areUnder_nil _
    | cons piece rest ih =>
      unfold log.sendAll
      split
      · exact areUnder_nil _
      · rename_i sent hsent
        intro frame hframe
        rcases List.mem_cons.1 hframe with rfl | hlater
        · exact ⟨address, rfl, Env.goesUnder_of_dataFrame hsent⟩
        · exact ih frame hlater

/-! ## Drivers -/

namespace Driver

/-- Whether a driver streams. -/
def streams : Driver → Bool
  | pairable p => p.gated.streams
  | _ => false

/-- Whether a driver sends lines. -/
def isLogger : Driver → Bool
  | logger _ => true
  | _ => false

/-- The address that a driver sends under by itself. -/
def link? : Driver → Option UInt8
  | pairable p => p.gated.link?
  | logger client => client.host
  | _ => none

/-- Whether data is a stream command to the driver. -/
def obeys (packet : Packet) : Driver → Bool
  | pairable p => p.admits packet && (p.gated.streams && packet.isCommand)
  | _ => false

/-- The link of a driver that was told something when it had an address. -/
def linkAfter (callback : Callback) (address : UInt8) (driver : Driver) : Option UInt8 :=
  match callback with
  | .connected => if driver.streams || driver.isLogger then some address else none
  | .removed => none
  | .control _ => if driver.isLogger then driver.link?.map fun _ => address else driver.link?
  | .data packet => if driver.obeys packet then some address else driver.link?
  | .partnerLost => driver.link?

theorem link?_respond (driver : Driver) (callback : Callback) (ctx : Context) :
    (driver.respond callback ctx).driver.link? =
      driver.linkAfter callback ctx.status.address := by
  cases driver with
  | quiet => cases callback <;> rfl
  | probe p => cases callback <;> rfl
  | console c => cases callback <;> rfl
  | logger client => cases callback <;> rfl
  | pairable p =>
    cases callback with
    | connected =>
      refine (p.gated.link?_connected ctx).trans ?_
      unfold linkAfter streams isLogger
      rw [Bool.or_false]
    | removed => exact Gated.link?_removed _ _
    | control cp => exact (p.link_onControl cp ctx).2
    | partnerLost => exact (p.link_letGo ctx).2
    | data packet =>
      show (p.onData packet ctx).driver.gated.link? =
        if p.admits packet && (p.gated.streams && packet.isCommand) then some ctx.status.address
        else p.gated.link?
      rw [p.gated_onData]
      cases p.admits packet with
      | true => exact p.gated.link?_onData packet ctx
      | false => rfl

/-- A driver stays what it is. -/
theorem kind_respond (driver : Driver) (callback : Callback) (ctx : Context) :
    (driver.respond callback ctx).driver.streams = driver.streams ∧
      (driver.respond callback ctx).driver.isLogger = driver.isLogger := by
  cases driver with
  | pairable p =>
    refine ⟨?_, rfl⟩
    cases callback with
    | connected =>
      show (p.gated.connected ctx).1.streams = p.gated.streams
      cases p.gated <;> rfl
    | removed =>
      obtain ⟨hstreams, -⟩ := p.link_letGo ctx
      refine Eq.trans ?_ hstreams
      show ((p.letGo ctx).1.gated.removed (p.letGo ctx).2).1.streams = _
      cases (p.letGo ctx).1.gated <;> rfl
    | control cp => exact (p.link_onControl cp ctx).1
    | partnerLost => exact (p.link_letGo ctx).1
    | data packet =>
      show (p.onData packet ctx).driver.gated.streams = p.gated.streams
      rw [p.gated_onData]
      split
      · cases p.gated <;> rfl
      · rfl
  | _ => cases callback <;> exact ⟨rfl, rfl⟩

/-- The frame that a loop of a driver's stream sends when it runs. -/
def loopFrame? (env : Env) (number : Nat) (driver : Driver) : Option Bytes :=
  driver.streamer?.bind fun s => (s.runLoop env number).2.1

/-- What becomes of a driver without its node, and what it sends. -/
inductive Sends : Driver → List Bytes → Driver → Prop where
  /-- Its application asks something of it. -/
  | serve (env : Env) (handle : Handle) (request : Request) (driver : Driver) :
      Sends driver (framesOf (driver.serve env handle request).actions)
        (driver.serve env handle request).driver
  /-- A loop of its stream runs. -/
  | run (env : Env) (number : Nat) (driver : Driver) :
      Sends driver (driver.loopFrame? env number).toList
        (driver.modifyStreamer fun s => (s.runLoop env number).2.2)
  /-- The loops that were cancelled exit. -/
  | reap (driver : Driver) : Sends driver [] (driver.modifyStreamer Streamer.reap)

variable {before after : Driver} {frames : List Bytes}

theorem Sends.works (h : Sends before frames after) : Works before after := by
  cases h with
  | serve env handle request => exact .serve env handle request _
  | run env number => exact .run env number _
  | reap => exact .reap _

theorem Works.exists_sends (h : Works before after) : ∃ frames, Sends before frames after := by
  cases h with
  | serve env handle request => exact ⟨_, .serve env handle request _⟩
  | run env number => exact ⟨_, .run env number _⟩
  | reap => exact ⟨_, .reap _⟩

/-- A driver is what it was, and has the link that it had. -/
structure SameLink (before after : Driver) : Prop where
  streams : after.streams = before.streams
  isLogger : after.isLogger = before.isLogger
  link : after.link? = before.link?

theorem SameLink.refl (driver : Driver) : SameLink driver driver := ⟨rfl, rfl, rfl⟩

theorem serve_spec (driver : Driver) (env : Env) (handle : Handle) (request : Request) :
    SameLink driver (driver.serve env handle request).driver ∧
      AreUnder driver.link? (framesOf (driver.serve env handle request).actions) := by
  cases driver with
  | pairable p =>
    obtain ⟨hstreams, hlink, hframes⟩ := p.gated.serve_spec env handle request
    cases request with
    | pairing => exact ⟨.refl _, areUnder_nil _⟩
    | _ => exact ⟨⟨hstreams, rfl, hlink⟩, hframes⟩
  | logger client =>
    cases request with
    | log priority text =>
      refine ⟨.refl _, ?_⟩
      show AreUnder client.host (framesOf ((client.log env priority text).2.map .sent))
      rw [framesOf_map_sent]
      exact client.areUnder_log env priority text
    | _ => exact ⟨.refl _, areUnder_nil _⟩
  | console c => cases request <;> exact ⟨⟨rfl, rfl, rfl⟩, areUnder_nil _⟩
  | quiet => cases request <;> exact ⟨.refl _, areUnder_nil _⟩
  | probe p => cases request <;> exact ⟨.refl _, areUnder_nil _⟩

theorem run_spec (driver : Driver) (env : Env) (number : Nat) :
    SameLink driver (driver.modifyStreamer fun s => (s.runLoop env number).2.2) ∧
      AreUnder driver.link? (driver.loopFrame? env number).toList := by
  cases driver with
  | pairable p =>
    obtain ⟨state, gated⟩ := p
    cases gated with
    | streamer s =>
      obtain ⟨haddress, hframes⟩ := s.runLoop_spec env number
      exact ⟨⟨rfl, rfl, haddress⟩, hframes⟩
    | _ => exact ⟨.refl _, areUnder_nil _⟩
  | _ => exact ⟨.refl _, areUnder_nil _⟩

theorem sameLink_reap (driver : Driver) :
    SameLink driver (driver.modifyStreamer Streamer.reap) := by
  unfold modifyStreamer
  split
  · exact ⟨rfl, rfl, (Streamer.sameTerms_reap _).address⟩
  · exact .refl _

/-- **What a driver sends by itself goes out under its link**, and the link stays what it is. -/
theorem Sends.spec (h : Sends before frames after) :
    SameLink before after ∧ AreUnder before.link? frames := by
  cases h with
  | serve env handle request => exact before.serve_spec env handle request
  | run env number => exact before.run_spec env number
  | reap => exact ⟨before.sameLink_reap, areUnder_nil _⟩

/-- Work leaves the link alone. -/
theorem Works.sameLink (h : Works before after) : SameLink before after := by
  obtain ⟨frames, hsends⟩ := h.exists_sends
  exact hsends.spec.1

theorem isLogger_of_streams {driver : Driver} (h : driver.streams = true) :
    driver.isLogger = false := by
  cases driver with
  | pairable p => rfl
  | _ => cases h

theorem streams_of_obeys {driver : Driver} {packet : Packet} (h : driver.obeys packet = true) :
    driver.streams = true := by
  cases driver with
  | pairable p =>
    simp only [obeys, Bool.and_eq_true] at h
    exact h.2.1
  | _ => cases h

end Driver

namespace Node

variable {k : Handle} {callback : Callback} {before after : Kept} {talk : List EventKind}

theorem Replies.link (h : Replies k callback before talk after) :
    after.2.driver.link? = before.2.driver.linkAfter callback before.1.address := by
  obtain ⟨ctx, -, hstatus, rfl⟩ := h.place
  rw [← hstatus]
  exact before.2.driver.link?_respond callback ctx

theorem Replies.kind (h : Replies k callback before talk after) :
    after.2.driver.streams = before.2.driver.streams ∧
      after.2.driver.isLogger = before.2.driver.isLogger := by
  obtain ⟨ctx, -, -, rfl⟩ := h.place
  exact before.2.driver.kind_respond callback ctx

end Node

end DeviceBus
