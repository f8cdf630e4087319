import DeviceBus.Proofs.Node.Bystanders
import DeviceBus.Proofs.Node.Stances

/-!
# Routing of data

Data is handed to whoever hears its sender. Whether a driver does is settled by what the node is
like when the data comes, not by what earlier receivers make of it: whom a call does not concern it
leaves as it was. So everybody who hears the data is called once, and nobody else is.

## Main results

* `hears_iff`: who hears data from an address.
* `callsOf_receiveData`: whoever hears data is told of it exactly once.
-/

namespace DeviceBus

namespace Node

variable {node : Node} {k : Handle} {status : Status} {registration : Registration}

theorem mem_statuses_iff (wf : node.registry.WellFormed) :
    (k, status) ∈ node.statuses ↔ node.status? k = some status := by
  unfold statuses status?
  rw [List.mem_map, Option.map_eq_some_iff]
  constructor
  · rintro ⟨⟨handle, entry⟩, hmem, heq⟩
    cases heq
    exact ⟨entry, wf.mem_toList_iff.1 hmem, rfl⟩
  · rintro ⟨entry, hentry, rfl⟩
    exact ⟨(k, entry), wf.mem_toList_iff.2 hentry, rfl⟩

/-- The classes at an address are those of the connected foreign devices there. -/
theorem mem_classesAt_iff {address : UInt8} {deviceClass : DeviceClass} :
    deviceClass ∈ node.classesAt address ↔ ∃ pair ∈ node.statuses, pair.2.address = address ∧
      pair.2.isConnected = true ∧ pair.2.isLocal = false ∧ pair.2.deviceClass = deviceClass := by
  unfold classesAt
  simp only [List.mem_map, List.mem_filter, Bool.and_eq_true, beq_iff_eq, Bool.not_eq_true',
    and_assoc]

/-- A driver hears data from its own address while it is connected, from its partner, and, if it
listens to its class, from the devices of its class. -/
theorem hears_iff {address : UInt8} {classes : List DeviceClass} :
    hears address classes status registration = true ↔
      (status.isConnected = true ∧ status.address = address) ∨
      (status.isPaired = true ∧ ∃ p ∈ registration.driver.partner?, p.address = address) ∨
      (status.isBroadcast = true ∧ status.isConnected = true ∧ status.deviceClass ∈ classes) := by
  unfold hears
  simp only [Bool.or_eq_true, Bool.and_eq_true, beq_iff_eq, List.contains_iff_mem,
    Option.any_eq_true, and_assoc, or_assoc, Option.mem_def]

/-- The turn of a driver when data comes. -/
theorem callsOf_routeTo (h : node.enrolled? k = some (status, registration)) (env : Env)
    (packet : Packet) (classes : List DeviceClass) :
    ∃ added, (routeTo env packet classes node k).log = node.log ++ added ∧
      callsOf k added =
        if hears packet.address classes status registration then [.data packet] else [] := by
  have hentry := enrolled?_eq_some_iff.1 h
  unfold routeTo
  rw [hentry]
  dsimp only
  split
  · obtain ⟨added, hadded, hown⟩ :=
      registration.driver.respond_adds (.data packet) (node.placeOf env k (.data packet) status)
    refine ⟨.called k (.data packet) :: added, ?_, ?_⟩
    · rw [log_call env (.data packet) hentry]
      refine hadded.log.trans ?_
      show node.log ++ [.called k (.data packet)] ++ added = _
      rw [List.append_assoc]
      rfl
    · rw [callsOf_called_self, callsOf_of_isOwn hown]
  · exact ⟨[], (List.append_nil _).symm, rfl⟩

/-- **Whoever hears data is told of it exactly once**, and of nothing else; who does not is told
nothing. -/
theorem callsOf_receiveData (h : node.enrolled? k = some (status, registration))
    (wf : node.registry.WellFormed) (env : Env) (packet : Packet) :
    ∃ added, (node.receiveData env packet).log = node.log ++ added ∧
      callsOf k added =
        if hears packet.address (node.classesAt packet.address) status registration then
          [.data packet] else [] := by
  unfold receiveData
  generalize node.classesAt packet.address = classes
  obtain ⟨mid, hbefore, hafter⟩ := exists_turn_of_foldl (spares_routeTo env packet classes)
    wf.nodup_handles (mem_handles_of_enrolled? wf h) node
  obtain ⟨early, hearly, hnone⟩ := hbefore.trace
  obtain ⟨late, hlate, hnone'⟩ := hafter.trace
  obtain ⟨added, hadded, hcalls⟩ :=
    callsOf_routeTo ((hbefore.enrolled? k rfl).trans h) env packet classes
  refine ⟨early ++ added ++ late, ?_, ?_⟩
  · rw [hlate, hadded, hearly, List.append_assoc, List.append_assoc, List.append_assoc]
  · rw [callsOf_append, callsOf_append, (hnone k rfl).2, (hnone' k rfl).2, hcalls, List.nil_append,
      List.append_nil]

/-- A frame of an address of a device is data. -/
theorem receiveFrame_of_data (node : Node) (env : Env) {frame : Bytes} {packet : Packet}
    (decodes : Packet.decode frame = .ok packet) (data : packet.isControl = false) :
    node.receiveFrame env frame = node.receiveData env packet := by
  unfold receiveFrame receivePacket
  rw [decodes]
  dsimp only
  rw [data]
  rfl

end Node

end DeviceBus
