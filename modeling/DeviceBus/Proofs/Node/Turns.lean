import DeviceBus.Proofs.Node.Arbitration
import DeviceBus.Proofs.Node.Arrivals

/-!
# Turns

What a node does about one entry when an announce comes to it is a `Turn`: a few small things, one
after the other. The status of the entry changes, but neither its role nor its class; something is
reported about it; its driver is told something, if it has one; the announce goes back with the
conflict flag; the announced device is recorded. What each of these small things keeps, the turn
keeps.

## Main results

* `turn_visit`: showing an announce to an entry is a turn of this entry.
* `turn_adopt`: so is connecting a driver to the announced device.
* `visitAll_of_visit`: what all turns of a round keep, the round keeps.
-/

namespace DeviceBus

namespace Node

/-- What a node does about one entry when an announce comes to it. -/
inductive Turn (env : Env) (handle : Handle) (cp : ControlPacket) (first : Node) : Node → Prop where
  /-- Nothing yet. -/
  | start : Turn env handle cp first first
  /-- The status changes, but neither the role nor the class. -/
  | restate {mid : Node} (before : Turn env handle cp first mid) (change : Status → Status)
      (keeps : ∀ status, DeviceFlags.mode (change status).flags = DeviceFlags.mode status.flags ∧
        (change status).deviceClass = status.deviceClass) :
      Turn env handle cp first (mid.modifyStatus handle change)
  /-- Something is reported. -/
  | report {mid : Node} (before : Turn env handle cp first mid) (kind : EventKind) :
      Turn env handle cp first (mid.queueEvent handle kind)
  /-- The driver is told something, but of no other control packet. -/
  | tell {mid : Node} (before : Turn env handle cp first mid) (callback : Callback)
      (only : ∀ other, callback = .control other → other = cp) :
      Turn env handle cp first (mid.call env handle callback).2
  /-- The announce goes back with the conflict flag. -/
  | echo {mid : Node} (before : Turn env handle cp first mid) :
      Turn env handle cp first (mid.post env cp.flagged)
  /-- The announced device is recorded. -/
  | record {mid : Node} (before : Turn env handle cp first mid) :
      Turn env handle cp first (mid.recordDevice cp)

variable {env : Env} {handle : Handle} {cp : ControlPacket} {first mid : Node}

theorem Turn.seen (h : Turn env handle cp first mid) :
    Turn env handle cp first (mid.modifyStatus handle (·.mark DeviceFlags.seen)) :=
  h.restate _ fun status => ⟨DeviceFlags.mode_insert status.flags (by decide), rfl⟩

/-- A driver whose device is gone is told so. -/
theorem Turn.tellRemoved (h : Turn env handle cp first mid) :
    Turn env handle cp first (mid.tellRemoved env handle) :=
  (h.report .removed).tell .removed nofun

/-- Giving up an address. -/
theorem Turn.giveWay (h : Turn env handle cp first mid) :
    Turn env handle cp first (mid.giveWay env handle) := by
  unfold Node.giveWay
  split
  · exact h
  · rename_i status _
    have hreleased := (h.restate (·.released) fun s =>
      ⟨DeviceFlags.mode_remove s.flags (by decide), rfl⟩).report
      (.addressLost status.address)
    dsimp only
    split
    · exact hreleased.tellRemoved
    · exact hreleased

/-- Showing the announce to the driver. -/
theorem Turn.shown (h : Turn env handle cp first mid) :
    Turn env handle cp first (mid.call env handle (.control cp)).2 :=
  h.tell (.control cp) fun _ heq => (Callback.control.inj heq).symm

/-- Connecting a driver to the announced device. -/
theorem turn_adopt (env : Env) (handle : Handle) (cp : ControlPacket) (node : Node) :
    Turn env handle cp node (node.adopt env handle cp) := by
  have hstart : Turn env handle cp node node := .start
  have hfound := (hstart.restate (·.found cp) fun s =>
    ⟨DeviceFlags.mode_insert s.flags (by decide), rfl⟩).report
    (.connected cp.address)
  exact (hfound.tell .connected nofun).shown

/-- **Showing an announce to an entry is a turn of this entry.** -/
theorem turn_visit (env : Env) (cp : ControlPacket) (handle : Handle) (scan : Scan) :
    Turn env handle cp scan.node (visit env cp handle scan).node := by
  have hstart : Turn env handle cp scan.node scan.node := .start
  rcases exists_driver_or_visit_eq env cp handle scan with ⟨status, registration, held⟩ | heq
  · cases showing env cp held with
    | yields _ _ heq =>
      rw [heq]
      exact hstart.giveWay
    | rebukes _ _ _ _ heq =>
      rw [heq]
      exact hstart.echo
    | agrees _ _ _ heq =>
      rw [heq]
      exact hstart.seen.shown
    | moves _ _ heq =>
      rw [heq]
      exact (hstart.restate (·.followed cp) fun s =>
        ⟨DeviceFlags.mode_insert s.flags (by decide), rfl⟩).shown
    | records _ _ _ _ _ _ heq =>
      rw [heq]
      exact hstart.record.shown
    | hears _ _ _ _ _ heq | pairs _ _ _ _ _ _ _ _ heq =>
      rw [heq]
      exact hstart.shown
    | passes _ _ _ _ heq =>
      rw [heq]
      exact hstart
  · rw [heq]
    exact hstart

/-- What goes from one entry to the next goes through the round of an announce. -/
theorem visitAll_of_visit {R : Node → Node → Prop} (hrefl : ∀ node, R node node)
    (htrans : ∀ {a b c}, R a b → R b c → R a c) (env : Env) (cp : ControlPacket)
    {handles : List Handle}
    (hvisit : ∀ handle ∈ handles, ∀ scan, R scan.node (visit env cp handle scan).node)
    (scan : Scan) : R scan.node (visitAll env cp handles scan).node := by
  induction handles generalizing scan with
  | nil => exact hrefl scan.node
  | cons handle rest ih =>
    have hfirst := hvisit handle List.mem_cons_self scan
    unfold visitAll
    split
    · rename_i found heq
      rw [heq] at hfirst
      exact hfirst
    · rename_i next heq
      rw [heq] at hfirst
      exact htrans hfirst (ih (fun other hmem => hvisit other (List.mem_cons_of_mem _ hmem)) next)

end Node

end DeviceBus
