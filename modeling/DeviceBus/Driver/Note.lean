import DeviceBus.BusError
import DeviceBus.ControlPacket
import DeviceBus.Device.Status
import DeviceBus.Handle
import DeviceBus.StreamCommand
import DeviceBus.Text.Hex

/-!
# Notes

Drivers that are watched write down what happens to them. A note holds the facts; its text is one
line with the handle of the driver first, where the driver knows it.
-/

namespace DeviceBus

/-- Something that a watched driver saw or did. -/
inductive Note where
  /-- A control packet came in. -/
  | control (handle : Handle) (cp : ControlPacket)
  /-- A data packet came in. -/
  | data (handle : Handle) (packet : Packet)
  /-- An answer to a data packet was sent. -/
  | replied (handle : Handle) (result : Except BusError Unit)
  /-- An announce is about to be filled in. -/
  | filling (status : Status)
  /-- The driver's device is connected. -/
  | connected (handle : Handle) (status : Status)
  /-- A pairing request was sent. -/
  | requested (handle : Handle) (result : Except BusError Unit)
  /-- The driver's device is gone. -/
  | removed (handle : Handle) (status : Status)
  /-- The driver's partner went silent. -/
  | partnerLost (handle : Handle) (status : Status)
  /-- A data packet passed the pairing gate. -/
  | gatedData (handle : Handle) (packet : Packet)
  /-- The device behind the pairing gate is connected. -/
  | gatedConnected (handle : Handle) (status : Status)
  /-- The device behind the pairing gate is gone. -/
  | gatedRemoved (handle : Handle) (status : Status)
  /-- A bond was made. -/
  | paired (handle : Handle) (partner : Identity)
  /-- The bond ended. -/
  | unpaired (handle : Handle) (status : Status)
  /-- A state arrived at the client side of a stream. -/
  | sample (timestamp : UInt32) (state : Bytes)
  /-- A command that the host side of a stream leaves to the application. -/
  | atHost (handle : Handle) (command : StreamCommand)
  /-- A command that the client side of a stream leaves to the application. -/
  | atClient (handle : Handle) (command : StreamCommand)

namespace Note

/-- The outcome of a send as a word. -/
def resultText : Except BusError Unit → String
  | .ok () => "ok"
  | .error e => e.name

/-- A stream command as words. -/
def commandText : StreamCommand → String
  | .idle => "none"
  | .start interval => "start " ++ toString interval.toNat
  | .stop => "stop"
  | .state timestamp bytes => "state " ++ toString timestamp.toNat ++ " " ++ Hex.text bytes
  | .other command payload => "other " ++ toString command.toNat ++ " " ++ Hex.text payload

/-- A note as a line of text. -/
def text : Note → String
  | control handle cp =>
    handle.text ++ " control type=" ++ toString cp.type.toByte.toNat ++
      " addr=" ++ toString cp.address.toNat ++ " flags=" ++ toString cp.flags.bits.toNat ++
      " class=" ++ toString cp.deviceClass.toNat ++ " serial=" ++ toString cp.serial.toNat ++
      " payload=" ++ Hex.text cp.payload
  | data handle packet =>
    handle.text ++ " data addr=" ++ toString packet.address.toNat ++
      " crc=" ++ toString packet.crc.toNat ++ " bytes=" ++ Hex.text packet.data
  | replied handle result => handle.text ++ " send " ++ resultText result
  | filling status => "fill " ++ status.text
  | connected handle status => handle.text ++ " connected " ++ status.text
  | requested handle result => handle.text ++ " pair " ++ resultText result
  | removed handle status => handle.text ++ " removed " ++ status.text
  | partnerLost handle status => handle.text ++ " partner_lost " ++ status.text
  | gatedData handle packet =>
    handle.text ++ " app data addr=" ++ toString packet.address.toNat ++
      " bytes=" ++ Hex.text packet.data
  | gatedConnected handle status => handle.text ++ " app connected " ++ status.text
  | gatedRemoved handle status => handle.text ++ " app removed " ++ status.text
  | paired handle partner => handle.text ++ " app paired " ++ partner.text
  | unpaired handle status => handle.text ++ " app unpaired " ++ status.text
  | sample timestamp state =>
    "virtual state " ++ toString timestamp.toNat ++ " " ++ Hex.text state
  | atHost handle command => handle.text ++ " host command " ++ commandText command
  | atClient handle command => handle.text ++ " virtual command " ++ commandText command

end Note

end DeviceBus
