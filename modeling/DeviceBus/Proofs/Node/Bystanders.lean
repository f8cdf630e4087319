import DeviceBus.Proofs.Node.Entries
import DeviceBus.Proofs.Node.Rounds
import DeviceBus.Proofs.Reports

/-!
# Bystanders

A step of a node concerns some of its drivers. All others are bystanders: what the node keeps of
them stays as it is, nothing is reported about them and they are told nothing. `Spares` says so of
the drivers of given handles. Nothing but a registration changes which drivers there are and in
which order they came.

What happens to a driver while all are visited in turn is therefore what happens in its own turn:
`exists_turn_of_foldl` cuts a walk over the registry at one handle.

## Main results

* `spares_visit`, `spares_settle`, `spares_routeTo`, `spares_tickEntry`: the parts of a step concern
  one driver each.
* `exists_turn_of_foldl`: what a walk does to a driver, it does in the driver's turn.
-/

namespace DeviceBus

namespace Driver

/-- Whether a driver is a probe. -/
def isProbe : Driver → Bool
  | probe _ => true
  | _ => false

theorem isOrdinary_iff {driver : Driver} : driver.IsOrdinary ↔ driver.isProbe = false := by
  cases driver <;> simp [IsOrdinary, isProbe]

/-- Whatever a driver is told, it stays a probe or none. -/
theorem isProbe_respond (driver : Driver) (callback : Callback) (ctx : Context) :
    (driver.respond callback ctx).driver.isProbe = driver.isProbe := by
  cases driver with
  | console c =>
    unfold respond
    cases callback <;> rfl
  | _ => rfl

end Driver

namespace Node

/-- What a node keeps of a driver. -/
def enrolled? (handle : Handle) (node : Node) : Option (Status × Registration) :=
  match node.registry.get? handle with
  | some ⟨status, .driver registration⟩ => some (status, registration)
  | _ => none

/-- Whether the driver of a handle is a probe, if there is a driver. -/
def probe? (handle : Handle) (node : Node) : Option Bool :=
  (node.enrolled? handle).map fun kept => kept.2.driver.isProbe

/-- The handles of the drivers, the oldest first. -/
def drivers (node : Node) : List Handle :=
  node.registry.handles.filter fun handle => (node.enrolled? handle).isSome

variable {node : Node}

theorem enrolled?_eq_some_iff {handle : Handle} {status : Status} {registration : Registration} :
    node.enrolled? handle = some (status, registration) ↔
      node.registry.get? handle = some ⟨status, .driver registration⟩ := by
  unfold enrolled?
  constructor
  · intro h
    split at h
    · rename_i heq
      cases h
      exact heq
    · cases h
  · intro h
    rw [h]

theorem enrolled?_of_get? {handle : Handle} {entry : Entry}
    (h : node.registry.get? handle = some entry) (hrecord : entry.isRecord = true) :
    node.enrolled? handle = none := by
  obtain ⟨status, kind⟩ := entry
  cases kind with
  | driver registration => cases hrecord
  | record =>
    unfold enrolled?
    rw [h]

theorem probe?_of_enrolled? {handle : Handle} {kept : Status × Registration}
    (h : node.enrolled? handle = some kept) :
    node.probe? handle = some kept.2.driver.isProbe := by
  unfold probe?
  rw [h]
  rfl

theorem mem_drivers_iff (wf : node.registry.WellFormed) {handle : Handle} :
    handle ∈ node.drivers ↔ (node.enrolled? handle).isSome = true := by
  unfold drivers
  rw [List.mem_filter, wf.mem_handles_iff]
  constructor
  · exact fun h => h.2
  · intro h
    obtain ⟨⟨status, registration⟩, hk⟩ := Option.isSome_iff_exists.1 h
    exact ⟨⟨_, enrolled?_eq_some_iff.1 hk⟩, h⟩

theorem mem_handles_of_enrolled? (wf : node.registry.WellFormed) {handle : Handle}
    {kept : Status × Registration} (h : node.enrolled? handle = some kept) :
    handle ∈ node.registry.handles :=
  wf.mem_handles_iff.2 ⟨_, enrolled?_eq_some_iff.1 h⟩

/-- A step does not concern the drivers that `who` is about, and no driver comes, goes or is
exchanged for another one. -/
structure Spares (who : Handle → Prop) (before after : Node) : Prop where
  settings : after.settings = before.settings
  enrolled? : ∀ k, who k → after.enrolled? k = before.enrolled? k
  probe? : ∀ k, after.probe? k = before.probe? k
  wellFormed : before.registry.WellFormed → after.registry.WellFormed
  drivers : before.registry.WellFormed → after.drivers = before.drivers
  trace : ∃ added, after.log = before.log ++ added ∧
    ∀ k, who k → reportsOf k added = [] ∧ callsOf k added = []

variable {who : Handle → Prop}

theorem Spares.refl (who : Handle → Prop) (node : Node) : Spares who node node where
  settings := rfl
  enrolled? _ _ := rfl
  probe? _ := rfl
  wellFormed := id
  drivers _ := rfl
  trace := ⟨[], (List.append_nil _).symm, fun _ _ => ⟨rfl, rfl⟩⟩

theorem Spares.trans {first second third : Node} (h : Spares who first second)
    (h' : Spares who second third) : Spares who first third where
  settings := h'.settings.trans h.settings
  enrolled? k hk := (h'.enrolled? k hk).trans (h.enrolled? k hk)
  probe? k := (h'.probe? k).trans (h.probe? k)
  wellFormed := fun wf => h'.wellFormed (h.wellFormed wf)
  drivers wf := (h'.drivers (h.wellFormed wf)).trans (h.drivers wf)
  trace := by
    obtain ⟨added, hlog, hnone⟩ := h.trace
    obtain ⟨more, hmore, hnone'⟩ := h'.trace
    refine ⟨added ++ more, by rw [hmore, hlog, List.append_assoc], fun k hk => ?_⟩
    rw [reportsOf_append, callsOf_append, (hnone k hk).1, (hnone k hk).2, (hnone' k hk).1,
      (hnone' k hk).2]
    exact ⟨rfl, rfl⟩

theorem Spares.mono {others : Handle → Prop} {before after : Node} (h : Spares who before after)
    (hsub : ∀ k, others k → who k) : Spares others before after where
  settings := h.settings
  enrolled? k hk := h.enrolled? k (hsub k hk)
  probe? := h.probe?
  wellFormed := h.wellFormed
  drivers := h.drivers
  trace := by
    obtain ⟨added, hlog, hnone⟩ := h.trace
    exact ⟨added, hlog, fun k hk => hnone k (hsub k hk)⟩

/-! ## Changes of one entry -/

/-- Who kept what it had is the driver it was. -/
theorem probe?_of_enrolled?_eq {before after : Node} {k : Handle}
    (h : after.enrolled? k = before.enrolled? k) : after.probe? k = before.probe? k := by
  unfold Node.probe?
  rw [h]

/-- A change of one entry, if no driver comes, goes or is exchanged, concerns nobody else. -/
theorem spares_update {before after : Node} {handle : Handle}
    (hsettings : after.settings = before.settings)
    (hwf : before.registry.WellFormed → after.registry.WellFormed)
    (hhandles : after.registry.handles = before.registry.handles)
    (hother : ∀ k, k ≠ handle → after.registry.get? k = before.registry.get? k)
    (hself : after.probe? handle = before.probe? handle)
    (htrace : ∃ added, after.log = before.log ++ added ∧
      ∀ k, k ≠ handle → reportsOf k added = [] ∧ callsOf k added = []) :
    Spares (· ≠ handle) before after := by
  have henrolled : ∀ k, k ≠ handle → after.enrolled? k = before.enrolled? k := by
    intro k hk
    unfold Node.enrolled?
    rw [hother k hk]
  have hprobe : ∀ k, after.probe? k = before.probe? k := by
    intro k
    by_cases hk : k = handle
    · rw [hk, hself]
    · exact probe?_of_enrolled?_eq (henrolled k hk)
  refine ⟨hsettings, henrolled, hprobe, hwf, fun _ => ?_, htrace⟩
  unfold Node.drivers
  rw [hhandles]
  refine List.filter_congr fun k _ => ?_
  have hsome := congrArg Option.isSome (hprobe k)
  unfold Node.probe? at hsome
  rw [Option.isSome_map, Option.isSome_map] at hsome
  exact hsome

theorem spares_modify {handle : Handle} {change : Entry → Entry} (node : Node)
    (hchange : ∀ entry, (change entry).registration?.map (·.driver.isProbe) =
      entry.registration?.map (·.driver.isProbe)) :
    Spares (· ≠ handle) node { node with registry := node.registry.modify handle change } := by
  refine spares_update rfl (fun wf => wf.modify handle change)
    (node.registry.handles_modify handle change) (fun k hk => ?_) ?_
    ⟨[], (List.append_nil _).symm, fun _ _ => ⟨rfl, rfl⟩⟩
  · dsimp only
    rw [Registry.get?_modify, if_neg hk]
  · unfold probe? enrolled?
    dsimp only
    rw [Registry.get?_modify, if_pos rfl]
    cases node.registry.get? handle with
    | none => rfl
    | some entry =>
      have hsame := hchange entry
      rw [Option.map_some]
      generalize change entry = changed at hsame
      obtain ⟨status, kind⟩ := entry
      obtain ⟨status', kind'⟩ := changed
      cases kind <;> cases kind' <;> exact hsame

theorem spares_modifyStatus (handle : Handle) (change : Status → Status) (node : Node) :
    Spares (· ≠ handle) node (node.modifyStatus handle change) :=
  spares_modify node fun _ => rfl

theorem spares_modifyRegistration (handle : Handle) (change : Registration → Registration)
    (node : Node) (hchange : ∀ r, (change r).driver.isProbe = r.driver.isProbe) :
    Spares (· ≠ handle) node (node.modifyRegistration handle change) := by
  refine spares_modify node fun entry => ?_
  obtain ⟨status, kind⟩ := entry
  cases kind with
  | driver registration => exact congrArg some (hchange registration)
  | record => rfl

/-- What is appended to the log concerns those that it names. -/
theorem spares_withLog (added : List Action) (node : Node)
    (hnone : ∀ k, who k → reportsOf k added = [] ∧ callsOf k added = []) :
    Spares who node { node with log := node.log ++ added } where
  settings := rfl
  enrolled? _ _ := rfl
  probe? _ := rfl
  wellFormed := id
  drivers _ := rfl
  trace := ⟨added, rfl, hnone⟩

theorem spares_withDraws (draws : Draws) (node : Node) : Spares who node { node with draws } :=
  ⟨rfl, fun _ _ => rfl, fun _ => rfl, id, fun _ => rfl, [], (List.append_nil _).symm,
    fun _ _ => ⟨rfl, rfl⟩⟩

theorem spares_queueEvent (handle : Handle) (kind : EventKind) (node : Node) :
    Spares (· ≠ handle) node (node.queueEvent handle kind) := by
  exact spares_withLog [.event ⟨handle, kind⟩] node fun k hk =>
    ⟨reportsOf_event_of_ne kind hk, rfl⟩

theorem spares_post (env : Env) (cp : ControlPacket) (node : Node) :
    Spares (fun _ => True) node (node.post env cp) := by
  unfold post
  split
  · exact spares_withLog [.sent _] node fun k _ => ⟨rfl, rfl⟩
  · exact .refl _ _

/-- A call concerns the driver that is called. -/
theorem spares_call (env : Env) (handle : Handle) (callback : Callback) (node : Node) :
    Spares (· ≠ handle) node (node.call env handle callback).2 := by
  rcases exists_driver_or_call_eq env handle callback with ⟨status, registration, hentry⟩ | hnobody
  · obtain ⟨added, hadded, hown⟩ := registration.driver.respond_adds callback
      ⟨env, handle, status, node.log ++ [.called handle callback]⟩
    have hself : (node.call env handle callback).2.enrolled? handle =
        some (_, _) := enrolled?_eq_some_iff.2 (get?_call env callback hentry)
    refine spares_update ?_ (fun wf => ?_) ?_ (fun k hk => get?_call_of_ne env callback hk) ?_
      ⟨.called handle callback :: added, ?_, fun k hk => ?_⟩
    · unfold call
      rw [hentry]
    · unfold call
      rw [hentry]
      exact wf.set handle _
    · unfold call
      rw [hentry]
      exact node.registry.handles_set handle _
    · unfold probe?
      rw [hself, enrolled?_eq_some_iff.2 hentry]
      exact congrArg some (registration.driver.isProbe_respond callback _)
    · rw [log_call env callback hentry, hadded.log, List.append_assoc]
      rfl
    · rw [reportsOf_called, callsOf_called_of_ne callback hk]
      exact ⟨reportsOf_of_isOwn hown hk, callsOf_of_isOwn hown k⟩
  · rw [hnobody]
    exact .refl _ _

/-! ## Records -/

/-- Records come and go beside all drivers. -/
theorem spares_recordDevice (cp : ControlPacket) (node : Node) :
    Spares (fun _ => True) node (node.recordDevice cp) := by
  have hsame : ∀ k, (node.recordDevice cp).enrolled? k = node.enrolled? k := by
    intro k
    unfold enrolled?
    cases noting cp node k with
    | same eq => rw [eq]
    | seen here _ eq => rw [eq, here]
    | noted free _ _ eq => rw [eq, free]
  refine ⟨by rw [recordDevice_eq], fun k _ => hsame k, fun k => probe?_of_enrolled?_eq (hsame k),
    wellFormed_recordDevice cp, fun wf => ?_,
    [], (log_recordDevice cp).trans (List.append_nil _).symm, fun _ _ => ⟨rfl, rfl⟩⟩
  unfold drivers
  simp only [hsame]
  rcases enters cp node with ⟨-, heq⟩ | ⟨-, hinsert⟩ | ⟨-, -, heq⟩
  · rw [heq, Registry.handles_modify]
  · rename_i fresh
    have hnew : node.enrolled? fresh = none := by
      unfold enrolled?
      rw [(Registry.get?_of_insert hinsert).1]
    rw [wf.handles_of_insert hinsert, List.filter_append]
    simp [hnew]
  · rw [heq]

theorem spares_removeRecord {handle : Handle} {entry : Entry} {registry : Registry Entry}
    (hremove : node.registry.remove handle = some (entry, registry))
    (hrecord : entry.isRecord = true) : Spares (fun _ => True) node { node with registry } := by
  obtain ⟨hentry, hget⟩ := Registry.get?_of_remove hremove
  have hgone := enrolled?_of_get? hentry hrecord
  have hsame : ∀ k, ({ node with registry } : Node).enrolled? k = node.enrolled? k := by
    intro k
    by_cases hk : k = handle
    · rw [hk, hgone]
      unfold enrolled?
      dsimp only
      rw [hget, if_pos rfl]
    · unfold enrolled?
      dsimp only
      rw [hget, if_neg hk]
  refine ⟨rfl, fun k _ => hsame k, fun k => probe?_of_enrolled?_eq (hsame k),
    fun wf => wf.remove hremove, fun _ => ?_, [], (List.append_nil _).symm,
    fun _ _ => ⟨rfl, rfl⟩⟩
  unfold drivers
  dsimp only
  rw [Registry.handles_of_remove hremove, List.filter_filter]
  refine List.filter_congr fun k _ => ?_
  rw [hsame]
  by_cases hk : k = handle
  · rw [hk, hgone]
    rfl
  · simp [hk]

/-! ## A received frame -/

theorem spares_tellRemoved (env : Env) (handle : Handle) (node : Node) :
    Spares (· ≠ handle) node (node.tellRemoved env handle) :=
  (spares_queueEvent handle .removed node).trans (spares_call env handle .removed _)

/-- The turn of an entry concerns no other. -/
theorem Turn.spares {env : Env} {handle : Handle} {cp : ControlPacket} {after : Node}
    (h : Turn env handle cp node after) : Spares (· ≠ handle) node after := by
  induction h with
  | start => exact .refl _ _
  | restate _ change _ ih => exact ih.trans (spares_modifyStatus handle change _)
  | report _ kind ih => exact ih.trans (spares_queueEvent handle kind _)
  | tell _ callback _ ih => exact ih.trans (spares_call env handle callback _)
  | echo _ ih => exact ih.trans ((spares_post env cp.flagged _).mono fun _ _ => trivial)
  | record _ ih => exact ih.trans ((spares_recordDevice cp _).mono fun _ _ => trivial)

/-- So does a chore. -/
theorem Chore.spares {env : Env} {handle : Handle} {after : Node}
    (h : Chore env handle node after) : Spares (· ≠ handle) node after := by
  induction h with
  | start => exact .refl _ _
  | restate _ change _ ih => exact ih.trans (spares_modifyStatus handle change _)
  | rebook _ change keeps ih =>
    exact ih.trans (spares_modifyRegistration handle change _ fun r => by rw [(keeps r).1])
  | draw _ draws ih => exact ih.trans (spares_withDraws draws _)
  | report _ kind ih => exact ih.trans (spares_queueEvent handle kind _)
  | tell _ callback _ ih => exact ih.trans (spares_call env handle callback _)
  | drop _ removed ih =>
    exact ih.trans ((spares_removeRecord removed rfl).mono fun _ _ => trivial)

theorem spares_adopt (env : Env) (handle : Handle) (cp : ControlPacket) (node : Node) :
    Spares (· ≠ handle) node (node.adopt env handle cp) :=
  (turn_adopt env handle cp node).spares

theorem spares_refreshPartner (cp : ControlPacket) (node : Node) (handle : Handle) :
    Spares (· ≠ handle) node (node.refreshPartner cp handle) := by
  obtain ⟨change, hchange, heq⟩ := refreshPartner_eq cp node handle
  rw [heq]
  exact spares_modifyRegistration handle change node fun r => by rw [(hchange r).1]

/-- An announce that comes to one driver concerns no other. -/
theorem spares_visit (env : Env) (cp : ControlPacket) (handle : Handle) (scan : Scan) :
    Spares (· ≠ handle) scan.node (visit env cp handle scan).node :=
  (turn_visit env cp handle scan).spares

theorem spares_visitAll (env : Env) (cp : ControlPacket) (handles : List Handle) (scan : Scan) :
    Spares (· ∉ handles) scan.node (visitAll env cp handles scan).node := by
  refine visitAll_of_visit (R := Spares (· ∉ handles)) (fun node => .refl _ node) Spares.trans
    env cp (fun handle hmem next => (spares_visit env cp handle next).mono ?_) scan
  rintro k hk rfl
  exact hk hmem

/-- Who claimed the announced device goes on claiming it. -/
theorem isClaimed_of_visit {env : Env} {cp : ControlPacket} {handle : Handle} {scan next : Scan}
    (h : visit env cp handle scan = .proceed next) (hclaimed : scan.isClaimed = true) :
    next.isClaimed = true := by
  rcases exists_driver_or_visit_eq env cp handle scan with ⟨status, registration, held⟩ | heq
  · cases showing env cp held with
    | yields _ _ heq | rebukes _ _ _ _ heq => cases heq.symm.trans h
    | agrees _ _ _ heq | moves _ _ heq =>
      cases heq.symm.trans h
      rfl
    | records _ _ _ _ _ _ heq | hears _ _ _ _ _ heq | pairs _ _ _ _ _ _ _ _ heq
    | passes _ _ _ _ heq =>
      cases heq.symm.trans h
      exact hclaimed
  · cases heq.symm.trans h
    exact hclaimed

theorem isClaimed_of_visitAll {env : Env} {cp : ControlPacket} {handles : List Handle}
    {scan last : Scan} (h : visitAll env cp handles scan = .proceed last)
    (hclaimed : scan.isClaimed = true) : last.isClaimed = true := by
  induction handles generalizing scan with
  | nil =>
    cases h
    exact hclaimed
  | cons handle rest ih =>
    unfold visitAll at h
    split at h
    · cases h
    · rename_i next heq
      exact ih h (isClaimed_of_visit heq hclaimed)

/-- A list without repetitions, cut at one of its members. -/
theorem split_of_nodup {handles : List Handle} (hnodup : handles.Nodup) {handle : Handle}
    (hmem : handle ∈ handles) :
    ∃ earlier later, handles = earlier ++ handle :: later ∧ handle ∉ earlier ∧ handle ∉ later := by
  obtain ⟨earlier, later, rfl⟩ := List.append_of_mem hmem
  rw [List.nodup_append] at hnodup
  obtain ⟨-, hlater, hdisjoint⟩ := hnodup
  exact ⟨earlier, later, rfl, fun hmem => hdisjoint handle hmem handle (by simp) rfl,
    (List.nodup_cons.1 hlater).1⟩

/-- What the round of an announce does to a driver, it does when it comes to the driver, if it gets
that far. -/
theorem exists_visit_of_visitAll (env : Env) (cp : ControlPacket) {handles : List Handle}
    (hnodup : handles.Nodup) {handle : Handle} (hmem : handle ∈ handles) (scan : Scan) :
    (∃ found, visitAll env cp handles scan = .collision found ∧
      Spares (· = handle) scan.node found) ∨
    ∃ next, Spares (· = handle) scan.node next.node ∧
      Spares (· = handle) (visit env cp handle next).node (visitAll env cp handles scan).node ∧
      ∀ last, visitAll env cp handles scan = .proceed last →
        ∃ mid, visit env cp handle next = .proceed mid ∧
          (mid.isClaimed = true → last.isClaimed = true) := by
  obtain ⟨earlier, later, rfl, hearlier, hlater⟩ := split_of_nodup hnodup hmem
  have hbefore : Spares (· = handle) scan.node (visitAll env cp earlier scan).node :=
    (spares_visitAll env cp earlier scan).mono fun k hk => hk ▸ hearlier
  rw [visitAll_append]
  cases hfirst : visitAll env cp earlier scan with
  | collision found =>
    rw [hfirst] at hbefore
    exact .inl ⟨found, rfl, hbefore⟩
  | proceed next =>
    rw [hfirst] at hbefore
    refine .inr ⟨next, hbefore, ?_⟩
    dsimp only
    rw [visitAll]
    cases hvisit : visit env cp handle next with
    | collision found => exact ⟨.refl _ _, fun last hlast => by cases hlast⟩
    | proceed mid =>
      exact ⟨(spares_visitAll env cp later mid).mono fun k hk => hk ▸ hlater,
        fun last hlast => ⟨mid, rfl, isClaimed_of_visitAll hlast⟩⟩

theorem spares_withFilter (filter : AddressFilter) (node : Node) :
    Spares (fun _ => True) node { node with filter } :=
  ⟨rfl, fun _ _ => rfl, fun _ => rfl, id, fun _ => rfl, [], (List.append_nil _).symm,
    fun _ _ => ⟨rfl, rfl⟩⟩

theorem spares_settle (env : Env) (cp : ControlPacket) (scan : Scan) :
    Spares (fun k => scan.isClaimed = true ∨
      scan.node.registry.findStatus? (awaits cp) ≠ some k) scan.node (settle env cp scan) := by
  obtain ⟨filter, heq | ⟨hclaimed, handle, hfind, heq⟩⟩ := settle_cases env cp scan
  · rw [heq]
    exact (spares_withFilter filter scan.node).mono fun _ _ => trivial
  · rw [heq]
    refine ((spares_withFilter filter scan.node).mono fun _ _ => trivial).trans
      ((spares_adopt env handle cp _).mono fun k hk => ?_)
    rintro rfl
    rcases hk with hk | hk
    · rw [hclaimed] at hk
      cases hk
    · exact hk hfind

theorem spares_routeTo (env : Env) (packet : Packet) (classes : List DeviceClass) (node : Node)
    (handle : Handle) : Spares (· ≠ handle) node (routeTo env packet classes node handle) := by
  rcases routeTo_eq_or env packet classes node handle with heq | ⟨_, _, -, -, heq⟩
  · rw [heq]
    exact .refl _ _
  · rw [heq]
    exact spares_call env handle (.data packet) node

/-! ## A tick -/

/-- Announcing a driver concerns nobody, not even the driver. -/
theorem spares_announce (env : Env) (handle : Handle) (node : Node) :
    Spares (fun _ => True) node (node.announce env handle) := by
  unfold announce
  split
  · exact .refl _ _
  · split
    · exact .refl _ _
    · dsimp only
      split
      · exact spares_post env _ node
      · refine (spares_withLog _ node fun k _ => ⟨?_, ?_⟩).trans (spares_post env _ _)
        · simp [reportsOf, Action.report?, List.filterMap_map, Function.comp_def]
        · simp [callsOf, Action.call?, List.filterMap_map, Function.comp_def]

theorem spares_tickDevice (env : Env) (handle : Handle) (status : Status) (node : Node) :
    Spares (· ≠ handle) node (node.tickDevice env handle status) :=
  tickDevice_of_chore (R := Spares (· ≠ handle)) Spares.trans Chore.spares
    (fun mid => (spares_announce env handle mid).mono fun _ _ => trivial) status node

/-- The turn of one entry in a tick concerns no other driver. -/
theorem spares_tickEntry (env : Env) (node : Node) (handle : Handle) :
    Spares (· ≠ handle) node (tickEntry env node handle) :=
  tickEntry_of_chore (R := Spares (· ≠ handle)) Spares.trans Chore.spares
    (fun mid => (spares_announce env handle mid).mono fun _ _ => trivial) node

/-! ## Walks over the registry -/

theorem spares_foldl {step : Node → Handle → Node}
    (hstep : ∀ node handle, Spares (· ≠ handle) node (step node handle)) (handles : List Handle)
    (node : Node) : Spares (· ∉ handles) node (handles.foldl step node) :=
  handles.foldlRecOn step (.refl _ node) fun mid hmid handle hmem =>
    hmid.trans ((hstep mid handle).mono fun _ hk heq => hk (heq ▸ hmem))

theorem spares_heard (cp : ControlPacket) (node : Node) :
    Spares (fun _ => False) node (node.heard cp) :=
  (spares_foldl (spares_refreshPartner cp) node.registry.handles node).mono fun _ h => h.elim

/-- No driver comes or goes in a round. -/
theorem spares_round (env : Env) (cp : ControlPacket) (node : Node) :
    Spares (fun _ => False) node (node.round env cp).node :=
  (spares_heard cp node).trans
    ((spares_visitAll env cp _ ⟨node.heard cp, false, false⟩).mono fun _ h => h.elim)

/-- What a walk over the registry does to a driver, it does in the driver's turn. -/
theorem exists_turn_of_foldl {step : Node → Handle → Node}
    (hstep : ∀ node handle, Spares (· ≠ handle) node (step node handle)) {handles : List Handle}
    (hnodup : handles.Nodup) {handle : Handle} (hmem : handle ∈ handles) (node : Node) :
    ∃ mid, Spares (· = handle) node mid ∧
      Spares (· = handle) (step mid handle) (handles.foldl step node) := by
  obtain ⟨earlier, later, rfl, hearlier, hlater⟩ := split_of_nodup hnodup hmem
  refine ⟨earlier.foldl step node, ?_, ?_⟩
  · exact (spares_foldl hstep earlier node).mono fun k hk => hk ▸ hearlier
  · rw [List.foldl_append]
    exact (spares_foldl hstep later _).mono fun k hk => hk ▸ hlater

end Node

end DeviceBus
