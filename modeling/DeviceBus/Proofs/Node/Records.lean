import Mathlib.Logic.Relation
import DeviceBus.Proofs.Node.Confinement
import DeviceBus.Proofs.Node.Courses
import DeviceBus.Proofs.Node.Stories
import DeviceBus.Proofs.Registry.Listing

/-!
# Records of broadcast devices

A record comes with an announce and goes by silence, or because it is taken out. In between it is
seen again or a tick is counted, and that is all: nothing that a node does with its drivers touches
a record. So what a record showed when it came, the device and that the device is there, it shows
as long as it stays.

A `Jot` is one thing that can happen to the record of a handle.

## Main results

* `record?_tick`: what a tick makes of a record.
* `record?_visit`: what showing an announce to an entry makes of the records.
* `jots_of_becomes`: whatever happens to a node, all that happens to its records are jots.
* `Comes.keeps_records`: what fresh records have and every jot keeps, all records have.
* `Comes.isRecorded`: every record is connected, marked as a record, and has no role.
-/

namespace DeviceBus

open ControlPacket Relation

/-- What a tick leaves of the status of a record, if anything. -/
def Status.aged (limit : UInt8) (status : Status) : Option Status :=
  if status.isSeen then some status.unseen
  else if countUp status.counter < limit then some status.counted
  else none

namespace Node

variable {node before mid after : Node} {handle k : Handle} {x : Happening}

/-- The status of a record. -/
def record? (handle : Handle) (node : Node) : Option Status :=
  match node.registry.get? handle with
  | some ⟨status, .record⟩ => some status
  | _ => none

theorem record?_eq_some_iff {status : Status} :
    node.record? k = some status ↔ node.registry.get? k = some ⟨status, .record⟩ := by
  unfold record?
  constructor
  · intro h
    split at h
    · rename_i heq
      cases h
      exact heq
    · cases h
  · intro h
    rw [h]

theorem record?_of_get?_eq (h : after.registry.get? k = before.registry.get? k) :
    after.record? k = before.record? k := by
  unfold record?
  rw [h]

theorem record?_of_enrolled? {kept : Kept} (h : node.enrolled? k = some kept) :
    node.record? k = none := by
  unfold record?
  rw [enrolled?_eq_some_iff.1 h]

/-- One thing that can happen to the record of a handle. -/
inductive Jot (x : Happening) (k : Handle) : Option Status → Option Status → Prop where
  /-- A device is recorded that announced itself. -/
  | noted {cp : ControlPacket} (brings : x.Brings cp) : Jot x k none (some (.recorded cp))
  /-- The device announced itself again. -/
  | seen {cp : ControlPacket} {status : Status} (brings : x.Brings cp)
      (address : status.address = cp.address) (serial : status.serial = cp.serial) :
      Jot x k (some status) (some (status.mark DeviceFlags.seen))
  /-- In a tick the device was seen since the last one. -/
  | present {status : Status} {env : Env} (ticks : x = .tick env) (seen : status.isSeen = true) :
      Jot x k (some status) (some status.unseen)
  /-- In a tick it was not. -/
  | missed {status : Status} {env : Env} (ticks : x = .tick env)
      (unseen : status.isSeen = false) :
      Jot x k (some status) (some status.counted)
  /-- In a tick the record was silent for too long. -/
  | expired {status : Status} {env : Env} (ticks : x = .tick env) : Jot x k (some status) none
  /-- The record is taken out. -/
  | taken {status : Status} {env : Env} (leaves : x = .unregister env k) :
      Jot x k (some status) none

/-- All that happened to the record of a handle are jots. -/
def Jots (x : Happening) (k : Handle) (before after : Node) : Prop :=
  ReflTransGen (Jot x k) (before.record? k) (after.record? k)

theorem Jots.trans (h : Jots x k before mid) (h' : Jots x k mid after) : Jots x k before after :=
  ReflTransGen.trans h h'

theorem jots_of_eq (h : after.record? k = before.record? k) : Jots x k before after := by
  unfold Jots
  rw [h]

/-! ## What is done with drivers -/

/-- Where no record is, nothing touches a record. -/
def SparesRecords (handle : Handle) (before after : Node) : Prop :=
  before.record? handle = none → ∀ k, after.record? k = before.record? k

namespace SparesRecords

theorem of_registry_eq (h : after.registry = before.registry) : SparesRecords handle before after :=
  fun _ _ => record?_of_get?_eq (by rw [h])

theorem trans (h : SparesRecords handle before mid) (h' : SparesRecords handle mid after) :
    SparesRecords handle before after := by
  intro hnone k
  have hmid := h hnone
  exact (h' ((hmid handle).trans hnone) k).trans (hmid k)

theorem jots (h : SparesRecords handle before after) (hnone : before.record? handle = none)
    (x : Happening) (k : Handle) : Jots x k before after :=
  jots_of_eq (h hnone k)

end SparesRecords

variable (env : Env) (handle node)

/-- A call touches no record at all. -/
theorem record?_call (callback : Callback) (k : Handle) :
    (node.call env handle callback).2.record? k = node.record? k := by
  rcases node.exists_driver_or_call_eq env handle callback with
    ⟨status, registration, hentry⟩ | heq
  · by_cases hk : k = handle
    · subst hk
      rw [record?_of_enrolled? (enrolled?_eq_some_iff.2 hentry),
        record?_of_enrolled? (enrolled?_eq_some_iff.2 (get?_call env callback hentry))]
    · exact record?_of_get?_eq (get?_call_of_ne env callback hk)
  · rw [heq]

theorem record?_modifyRegistration (change : Registration → Registration) (k : Handle) :
    (node.modifyRegistration handle change).record? k = node.record? k := by
  unfold record? modifyRegistration
  rw [Registry.get?_modify]
  by_cases hk : k = handle
  · subst hk
    rw [if_pos rfl]
    cases node.registry.get? k with
    | none => rfl
    | some entry =>
      obtain ⟨status, kind⟩ := entry
      cases kind <;> rfl
  · rw [if_neg hk]

theorem record?_modifyStatus (change : Status → Status) (k : Handle) :
    (node.modifyStatus handle change).record? k =
      if k = handle then (node.record? k).map change else node.record? k := by
  unfold record? modifyStatus
  rw [Registry.get?_modify]
  by_cases hk : k = handle
  · subst hk
    rw [if_pos rfl, if_pos rfl]
    cases node.registry.get? k with
    | none => rfl
    | some entry =>
      obtain ⟨status, kind⟩ := entry
      cases kind <;> rfl
  · rw [if_neg hk, if_neg hk]

theorem sparesRecords_call (callback : Callback) :
    SparesRecords handle node (node.call env handle callback).2 :=
  fun _ => record?_call node handle env callback

theorem sparesRecords_modifyRegistration (change : Registration → Registration) :
    SparesRecords handle node (node.modifyRegistration handle change) :=
  fun _ => record?_modifyRegistration node handle change

theorem sparesRecords_modifyStatus (change : Status → Status) :
    SparesRecords handle node (node.modifyStatus handle change) := by
  intro hnone k
  rw [record?_modifyStatus]
  split
  · rename_i hk
    rw [hk, hnone]
    rfl
  · rfl

theorem sparesRecords_post (cp : ControlPacket) : SparesRecords handle node (node.post env cp) := by
  unfold post
  split <;> exact .of_registry_eq rfl

theorem sparesRecords_queueEvent (kind : EventKind) :
    SparesRecords handle node (node.queueEvent handle kind) :=
  .of_registry_eq rfl

theorem sparesRecords_tellRemoved : SparesRecords handle node (node.tellRemoved env handle) :=
  (sparesRecords_queueEvent node handle .removed).trans (sparesRecords_call _ handle env .removed)

/-! ## Ticks -/

variable {env handle node} in
/-- A chore touches no record but that of the entry it is about. -/
theorem Chore.sparesRecords (h : Chore env handle node after) :
    SparesRecords handle node after := by
  induction h with
  | start => exact .of_registry_eq rfl
  | restate _ change _ ih => exact ih.trans (sparesRecords_modifyStatus _ handle change)
  | rebook _ change _ ih => exact ih.trans (sparesRecords_modifyRegistration _ handle change)
  | draw _ draws ih => exact ih.trans (.of_registry_eq rfl)
  | report _ kind ih => exact ih.trans (sparesRecords_queueEvent _ handle kind)
  | tell _ callback _ ih => exact ih.trans (sparesRecords_call _ handle env callback)
  | drop _ removed ih =>
    refine fun hnone => absurd ((ih hnone handle).trans hnone) ?_
    rw [record?_eq_some_iff.2 (Registry.get?_of_remove removed).1]
    exact Option.some_ne_none _

theorem sparesRecords_announce : SparesRecords handle node (node.announce env handle) := by
  unfold announce
  split
  · exact .of_registry_eq rfl
  · split
    · exact .of_registry_eq rfl
    · dsimp only
      split
      · exact sparesRecords_post node handle env _
      · have hnoted : ∀ log, SparesRecords handle node { node with log } :=
          fun _ => .of_registry_eq rfl
        exact (hnoted _).trans (sparesRecords_post _ handle env _)

theorem sparesRecords_tickEntry : SparesRecords handle node (tickEntry env node handle) :=
  tickEntry_of_chore (R := SparesRecords handle) SparesRecords.trans Chore.sparesRecords
    (fun node => sparesRecords_announce node handle env) node

variable {handle node}

/-- A record is looked for in a tick. -/
theorem record?_ageDevice {status : Status} (h : node.record? handle = some status) (k : Handle) :
    (node.ageDevice env handle).record? k =
      if k = handle then status.aged node.settings.silenceTicks else node.record? k := by
  have hentry := record?_eq_some_iff.1 h
  have hchange : ∀ change : Status → Status, (node.modifyStatus handle change).record? k =
      if k = handle then some (change status) else node.record? k := by
    intro change
    rw [record?_modifyStatus]
    by_cases hk : k = handle
    · rw [if_pos hk, if_pos hk, hk, h]
      rfl
    · rw [if_neg hk, if_neg hk]
  unfold ageDevice Status.aged
  rw [hentry]
  dsimp only
  split
  · exact hchange (·.unseen)
  · have hcounted := hchange (·.counted)
    split
    · exact hcounted
    · split
      · rename_i gone registry hremove
        have hget := (Registry.get?_of_remove hremove).2 k
        by_cases hk : k = handle
        · rw [if_pos hk] at hget ⊢
          unfold record?
          dsimp only
          rw [hget]
        · rw [if_neg hk] at hget hcounted ⊢
          exact (record?_of_get?_eq hget).trans hcounted
      · rename_i hremove
        -- what is looked for is there, so it can be taken out
        have hcounted := get?_modifyStatus (·.counted) hentry
        rw [Registry.remove_eq_none_iff.1 hremove] at hcounted
        cases hcounted

theorem jots_ageDevice {status : Status} (h : node.record? handle = some status) (k : Handle) :
    Jots (.tick env) k node (node.ageDevice env handle) := by
  unfold Jots
  rw [record?_ageDevice env h]
  split
  · rename_i hk
    rw [hk, h]
    unfold Status.aged
    split
    · rename_i hseen
      exact .single (.present rfl hseen)
    · rename_i hunseen
      rw [Bool.not_eq_true] at hunseen
      split
      · exact .single (.missed rfl hunseen)
      · exact .single (.expired rfl)
  · exact .refl

theorem jots_tickEntry (k : Handle) : Jots (.tick env) k node (tickEntry env node handle) := by
  cases hrecord : node.record? handle with
  | none => exact (sparesRecords_tickEntry node handle env).jots hrecord _ k
  | some status =>
    rw [tickEntry_of_record env (record?_eq_some_iff.1 hrecord)]
    exact jots_ageDevice env hrecord k

/-- The turn of one entry in a tick is no matter of the record of another handle. -/
theorem record?_tickEntry_of_ne (node : Node) (h : k ≠ handle) :
    (tickEntry env node handle).record? k = node.record? k := by
  cases hrecord : node.record? handle with
  | none => exact sparesRecords_tickEntry node handle env hrecord k
  | some status =>
    rw [tickEntry_of_record env (record?_eq_some_iff.1 hrecord)]
    exact (record?_ageDevice env hrecord k).trans (if_neg h)

theorem record?_foldl_tickEntry {handles : List Handle} (h : k ∉ handles) (node : Node) :
    (handles.foldl (tickEntry env) node).record? k = node.record? k := by
  induction handles generalizing node with
  | nil => rfl
  | cons handle rest ih =>
    have hne : k ≠ handle := fun heq => h (heq ▸ List.mem_cons_self)
    have hrest : k ∉ rest := fun hmem => h (List.mem_cons_of_mem _ hmem)
    exact (ih hrest _).trans (record?_tickEntry_of_ne env node hne)

/-- **What a tick makes of a record** is what its one turn makes of it. -/
theorem record?_tick {status : Status} (h : node.record? k = some status)
    (wf : node.registry.WellFormed) :
    (node.tick env).record? k = status.aged node.settings.silenceTicks := by
  obtain ⟨earlier, later, hhandles, hearlier, hlater⟩ := split_of_nodup wf.nodup_handles
    (wf.mem_handles_iff.2 ⟨_, record?_eq_some_iff.1 h⟩)
  have hmid := (record?_foldl_tickEntry env hearlier node).trans h
  have hsettings := (spares_foldl (spares_tickEntry env) earlier node).settings
  unfold tick
  rw [hhandles, List.foldl_append, List.foldl_cons, record?_foldl_tickEntry env hlater]
  generalize earlier.foldl (tickEntry env) node = mid at hmid hsettings
  rw [tickEntry_of_record env (record?_eq_some_iff.1 hmid), record?_ageDevice env hmid, if_pos rfl,
    hsettings]

theorem jots_tick (k : Handle) : Jots (.tick env) k node (node.tick env) := by
  -- the walk goes over the handles of its start, so the induction is on any of them
  unfold tick
  generalize node.registry.handles = handles
  induction handles generalizing node with
  | nil => exact .refl
  | cons handle rest ih => exact (jots_tickEntry env k).trans ih

/-! ## Frames -/

variable {cp : ControlPacket} {env}

/-- A device that announced itself is recorded, or its record is marked. -/
theorem jots_recordDevice (wf : node.registry.WellFormed) (brings : x.Brings cp) (k : Handle) :
    Jots x k node (node.recordDevice cp) := by
  unfold Jots record?
  cases noting cp node k with
  | same eq =>
    rw [eq]
  | seen here shows eq =>
    rw [eq, here]
    exact .single (.seen brings (shows wf).1 (shows wf).2)
  | noted free _ _ eq =>
    rw [eq, free]
    exact .single (.noted brings)

section

variable (env : Env) (handle) (cp)

theorem sparesRecords_giveWay (node : Node) :
    SparesRecords handle node (node.giveWay env handle) := by
  unfold giveWay
  split
  · exact .of_registry_eq rfl
  · have hreleased := fun change kind => (sparesRecords_modifyStatus node handle change).trans
      (sparesRecords_queueEvent _ handle kind)
    dsimp only
    split
    · exact (hreleased _ _).trans (sparesRecords_tellRemoved _ handle env)
    · exact hreleased _ _

theorem sparesRecords_adopt (node : Node) :
    SparesRecords handle node (node.adopt env handle cp) :=
  (((sparesRecords_modifyStatus node handle _).trans (sparesRecords_queueEvent _ handle _)).trans
    (sparesRecords_call _ handle env .connected)).trans (sparesRecords_call _ handle env _)

/-- **Showing an announce to an entry touches no record**, unless the entry is a driver that listens
to the announced class; then the device is recorded. -/
theorem record?_visit (scan : Scan) :
    (∀ k, (visit env cp handle scan).node.record? k = scan.node.record? k) ∨
      (cp.flags.contains ControlFlags.uncertain = false ∧
        (∃ status registration, scan.node.enrolled? handle = some (status, registration) ∧
          status.isBroadcast = true ∧ status.isConnected = true ∧
          status.deviceClass = cp.deviceClass) ∧
        ∀ k,
          (visit env cp handle scan).node.record? k = (scan.node.recordDevice cp).record? k) := by
  rcases exists_driver_or_visit_eq env cp handle scan with ⟨status, registration, held⟩ | heq
  · have hkept := enrolled?_eq_some_iff.2 held
    have hnone := record?_of_enrolled? hkept
    cases showing env cp held with
    | yields _ _ heq =>
      rw [heq]
      exact .inl (sparesRecords_giveWay handle env scan.node hnone)
    | rebukes _ _ _ _ heq =>
      rw [heq]
      exact .inl (sparesRecords_post scan.node handle env _ hnone)
    | agrees _ _ _ heq | moves _ _ heq =>
      rw [heq]
      exact .inl (((sparesRecords_modifyStatus scan.node handle _).trans
        (sparesRecords_call _ handle env (.control cp))) hnone)
    | records _ _ broadcast sameClass connected certain heq =>
      rw [heq]
      exact .inr ⟨certain, ⟨status, registration, hkept, broadcast, connected, sameClass⟩,
        record?_call _ handle env (.control cp)⟩
    | hears _ _ _ _ _ heq | pairs _ _ _ _ _ _ _ _ heq =>
      rw [heq]
      exact .inl (record?_call _ handle env (.control cp))
    | passes _ _ _ _ heq =>
      rw [heq]
      exact .inl fun _ => rfl
  · rw [heq]
    exact .inl fun _ => rfl

/-- The end of an announce touches no record. -/
theorem record?_settle {scan : Scan} (wf : scan.node.registry.WellFormed)
    (hplain : scan.node.Each Entry.IsPlain) (k : Handle) :
    (settle env cp scan).record? k = scan.node.record? k := by
  obtain ⟨filter, heq | ⟨-, found, hfind, heq⟩⟩ := settle_cases env cp scan
  · rw [heq]
    rfl
  · rw [heq]
    obtain ⟨⟨status, kind⟩, hentry, hawaits⟩ := wf.get?_of_find?_eq_some hfind
    refine sparesRecords_adopt found cp env { scan.node with filter } ?_ k
    cases kind with
    | driver registration => exact record?_of_enrolled? (enrolled?_eq_some_iff.2 hentry)
    | record => exact absurd ((hplain found _ hentry rfl).symm.trans (awaits_iff.1 hawaits).1) nofun

end

theorem jots_visit (scan : Scan) (wf : scan.node.registry.WellFormed) (brings : x.Brings cp)
    (k : Handle) : Jots x k scan.node (visit env cp handle scan).node := by
  rcases record?_visit handle cp env scan with hsame | ⟨-, -, hsame⟩
  · exact jots_of_eq (hsame k)
  · exact (jots_recordDevice wf brings k).trans (jots_of_eq (hsame k))

theorem jots_visitAll (env : Env) (scan : Scan) (wf : scan.node.registry.WellFormed)
    (handles : List Handle) (brings : x.Brings cp) (k : Handle) :
    Jots x k scan.node (visitAll env cp handles scan).node := by
  refine (visitAll_of_visit (R := fun before after => before.registry.WellFormed →
    after.registry.WellFormed ∧ Jots x k before after) (fun _ wf => ⟨wf, .refl⟩)
    (fun h h' wf => ?_) env cp (fun handle _ scan wf => ?_) scan wf).2
  · obtain ⟨hwf, hjots⟩ := h wf
    obtain ⟨hwf', hjots'⟩ := h' hwf
    exact ⟨hwf', hjots.trans hjots'⟩
  · exact ⟨(spares_visit env cp handle scan).wellFormed wf, jots_visit scan wf brings k⟩

theorem record?_heard (cp : ControlPacket) (node : Node) (k : Handle) :
    (node.heard cp).record? k = node.record? k :=
  List.foldlRecOn (motive := fun after : Node => after.record? k = node.record? k) _ _ rfl
    fun mid hmid handle _ => (record?_modifyRegistration mid handle _ k).trans hmid

/-- What an announce makes of the records, its round makes of them. -/
theorem record?_receiveAnnounce (wf : node.registry.WellFormed) (hplain : node.Each Entry.IsPlain)
    (k : Handle) :
    (node.receiveAnnounce env cp).record? k = (node.round env cp).node.record? k := by
  rcases receiveAnnounce_cases env cp node with heq | ⟨scan, hscan, -, -, heq⟩
  · rw [heq]
  · have hwf := (spares_round env cp node).wellFormed wf
    have hplain' : (node.round env cp).node.Each Entry.IsPlain :=
      hplain.round Entry.isInvariant_isPlain env fun _ => trivial
    rw [hscan] at hwf hplain'
    rw [heq, hscan]
    exact record?_settle cp env hwf hplain' k

theorem jots_receiveAnnounce (wf : node.registry.WellFormed) (hplain : node.Each Entry.IsPlain)
    (brings : x.Brings cp) (k : Handle) : Jots x k node (node.receiveAnnounce env cp) := by
  have hheard : Jots x k node (node.heard cp) :=
    jots_of_eq (record?_heard cp node k)
  have hround : Jots x k (node.heard cp) (node.round env cp).node :=
    jots_visitAll env ⟨node.heard cp, false, false⟩ ((spares_heard cp node).wellFormed wf)
      (node.heard cp).registry.handles brings k
  exact (hheard.trans hround).trans (jots_of_eq (record?_receiveAnnounce wf hplain k))

theorem record?_receiveData (packet : Packet) (k : Handle) :
    (node.receiveData env packet).record? k = node.record? k := by
  refine List.foldlRecOn (motive := fun after : Node => after.record? k = node.record? k) _ _
    rfl fun mid hmid handle _ => ?_
  rcases routeTo_eq_or env packet (node.classesAt packet.address) mid handle with
    heq | ⟨_, _, -, -, heq⟩
  · rw [heq]
    exact hmid
  · rw [heq]
    exact (record?_call mid handle env (.data packet) k).trans hmid

/-- No frame but an announce touches a record. -/
theorem jots_receiveFrame (wf : node.registry.WellFormed) (hplain : node.Each Entry.IsPlain)
    (frame : Bytes) (k : Handle) :
    Jots (.receive env frame) k node (node.receiveFrame env frame) := by
  cases node.arrival env frame with
  | announce hello heq =>
    rw [heq]
    exact jots_receiveAnnounce wf hplain ⟨env, frame, rfl, hello⟩ k
  | pairing _ _ _ heq =>
    rw [heq]
    rcases receivePairing_eq_or env _ node with heq | ⟨handle, -, heq⟩
    · rw [heq]
      exact .refl
    · rw [heq]
      exact jots_of_eq (record?_call node handle env _ k)
  | data _ _ _ heq =>
    rw [heq]
    exact jots_of_eq (record?_receiveData _ k)
  | nothing _ heq =>
    rw [heq]
    exact .refl

/-! ## Whatever happens -/

/-- What is taken out is no record any more. -/
theorem record?_of_unregister {left : Option Driver}
    (ok : node.unregister env handle = .ok (left, after)) : after.record? handle = none := by
  obtain ⟨entry, told, gone, registry, -, -, hremove, rfl, -⟩ := remove_of_unregister ok
  unfold record?
  dsimp only
  rw [(Registry.get?_of_remove hremove).2, if_pos rfl]

theorem jots_unregister {left : Option Driver}
    (ok : node.unregister env handle = .ok (left, after)) (k : Handle) :
    Jots (.unregister env handle) k node after := by
  have hgone := record?_of_unregister ok
  obtain ⟨entry, told, gone, registry, -, htold, hremove, rfl, -⟩ := remove_of_unregister ok
  have hsame : told.record? k = node.record? k := by
    rw [htold]
    split
    · exact record?_call (node.queueEvent handle .removed) handle env .removed k
    · rfl
  refine (jots_of_eq hsame).trans ?_
  have hget := (Registry.get?_of_remove hremove).2
  by_cases hk : k = handle
  · subst hk
    unfold Jots
    rw [hgone]
    cases told.record? k with
    | none => exact .refl
    | some status => exact .single (.taken rfl)
  · refine jots_of_eq (record?_of_get?_eq ?_)
    dsimp only
    rw [hget, if_neg hk]

/-- **All that happens to records are jots.** -/
theorem jots_of_becomes (wf : node.registry.WellFormed) (hplain : node.Each Entry.IsPlain)
    {added : List Action} (becomes : Becomes x node added after) (k : Handle) :
    Jots x k node after := by
  cases becomes with
  | @register _ _ handle profile driver ok =>
    obtain ⟨registry, hinsert, rfl⟩ := insert_of_register ok
    obtain ⟨hfree, hget⟩ := Registry.get?_of_insert hinsert
    refine jots_of_eq ?_
    unfold record?
    dsimp only
    rw [hget]
    by_cases hk : k = handle
    · rw [if_pos hk, hk, hfree]
    · rw [if_neg hk]
  | unregister ok => exact jots_unregister ok k
  | receive env frame => exact jots_receiveFrame wf hplain frame k
  | tick env => exact jots_tick env k
  | @work _ handle registration driver held works =>
    exact jots_of_eq (record?_modifyRegistration node handle _ k)
  | takeLog => exact .refl

/-- **What fresh records have and every jot keeps, all records have.** -/
theorem Comes.keeps_records {settings : NodeSettings} {draws : Draws} {admits : Driver → Prop}
    {xs : List Happening} (h : Comes settings draws admits xs node) {P : Status → Prop}
    (hnoted : ∀ cp, P (.recorded cp))
    (hjot : ∀ {x k before after}, Jot x k (some before) (some after) → P before → P after)
    {status : Status} (hk : node.record? k = some status) : P status := by
  obtain ⟨trace, hcourse⟩ := h
  induction hcourse generalizing status with
  | here => simp [record?, withDraws] at hk
  | @next xs trace node x added after before admitted becomes _ ih =>
    have hcomes : Comes settings draws admits xs node := ⟨trace, before⟩
    have hjots := jots_of_becomes hcomes.wellFormed hcomes.isPlain becomes k
    have hkept : ∀ shown ∈ after.record? k, P shown := by
      unfold Jots at hjots
      generalize after.record? k = last at hjots
      induction hjots with
      | refl => exact fun shown hshown => ih hshown
      | @tail mid last _ jot ih' =>
        intro shown hshown
        cases hshown
        cases mid with
        | none =>
          cases jot with
          | noted => exact hnoted _
        | some was => exact hjot jot (ih' was rfl)
    exact hkept status hk

end Node

/-- What the status of every record shows: the device is there, and it is no driver. -/
structure Status.IsRecorded (status : Status) : Prop where
  connected : status.isConnected = true
  record : status.isRecord = true
  mode : DeviceFlags.mode status.flags = Flags.none

theorem Status.isRecorded_recorded (cp : ControlPacket) : (Status.recorded cp).IsRecorded where
  connected := by
    show Flags.contains (DeviceFlags.record ∪ DeviceFlags.confirmed ∪ DeviceFlags.seen)
      DeviceFlags.confirmed = true
    decide
  record := by
    show Flags.contains (DeviceFlags.record ∪ DeviceFlags.confirmed ∪ DeviceFlags.seen)
      DeviceFlags.record = true
    decide
  mode := by
    show DeviceFlags.mode (DeviceFlags.record ∪ DeviceFlags.confirmed ∪ DeviceFlags.seen) = _
    decide

/-- No jot hides what a record shows. -/
theorem Status.IsRecorded.jot {x : Happening} {k : Handle} {before after : Status}
    (h : before.IsRecorded) (jot : Node.Jot x k (some before) (some after)) :
    after.IsRecorded := by
  cases jot with
  | seen =>
    exact ⟨(Status.isConnected_mark_seen before).trans h.connected,
      (Flags.contains_insert_of_disjoint before.flags (by decide)).trans h.record,
      (DeviceFlags.mode_insert before.flags (by decide)).trans h.mode⟩
  | present =>
    exact ⟨(Status.isConnected_unmark_seen before).trans h.connected,
      (Flags.contains_remove_of_disjoint before.flags (by decide)).trans h.record,
      (DeviceFlags.mode_remove before.flags (by decide)).trans h.mode⟩
  | missed => exact ⟨h.connected, h.record, h.mode⟩

/-- **Every record is connected, marked as a record, and has no role.** -/
theorem Node.Comes.isRecorded {settings : NodeSettings} {draws : Draws} {admits : Driver → Prop}
    {xs : List Happening} {node : Node} (h : Comes settings draws admits xs node) {k : Handle}
    {status : Status} (hk : node.record? k = some status) : status.IsRecorded :=
  h.keeps_records Status.isRecorded_recorded (fun jot hbefore => hbefore.jot jot) hk

end DeviceBus
