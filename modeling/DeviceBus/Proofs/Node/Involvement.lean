import DeviceBus.Proofs.Node.Bystanders

/-!
# Who is involved

What a node does is told from its log: it grows by `Deed`s, each of one entry. Some entries are
involved in a step and the others are not: these are as they were, and none of the deeds is theirs.
No step but a registration adds a driver, and none moves an entry; records come behind all others.

## Main results

* `Turn.involves`: a turn involves nobody but the entry whose turn it is.
* `involves_call`: a call involves the driver that is called.
-/

namespace DeviceBus

/-- What a driver does in one go, or what its node says for it. -/
inductive Deed (k : Handle) : List Action → Prop where
  /-- The driver is told something, and this is what it does. -/
  | answer (driver : Driver) (callback : Callback) {ctx : Context} {added : List Action}
      (place : ctx.handle = k) (adds : ctx.Extends (driver.respond callback ctx).context added) :
      Deed k (.called k callback :: added)
  /-- Something is reported about the driver. -/
  | report (kind : EventKind) : Deed k [.event ⟨k, kind⟩]
  /-- The address of the driver is defended: an announce goes back with the conflict flag. -/
  | echo (cp : ControlPacket) : Deed k [.sent cp.flagged.frame]

namespace Node

variable {who others : Handle → Prop} {node mid before after : Node} {k : Handle}

/-! ## What is done -/

/-- All that is done are deeds of those that `who` is about. -/
def Does (who : Handle → Prop) (before after : Node) : Prop :=
  ∃ deeds : List (Handle × List Action), after.log = before.log ++ deeds.flatMap (·.2) ∧
    ∀ deed ∈ deeds, who deed.1 ∧ Deed deed.1 deed.2

theorem does_of_log_eq (hlog : after.log = before.log) : Does who before after :=
  ⟨[], by simp [hlog], by simp⟩

theorem does_of_deed {actions : List Action} (hlog : after.log = before.log ++ actions)
    (hwho : who k) (hdeed : Deed k actions) : Does who before after :=
  ⟨[(k, actions)], by simp [hlog], by simp [hwho, hdeed]⟩

theorem Does.trans (h : Does who before mid) (h' : Does who mid after) : Does who before after := by
  obtain ⟨deeds, hlog, hdeeds⟩ := h
  obtain ⟨more, hmore, hdeeds'⟩ := h'
  refine ⟨deeds ++ more, by simp [hmore, hlog], fun deed hdeed => ?_⟩
  exact (List.mem_append.1 hdeed).elim (hdeeds deed) (hdeeds' deed)

theorem Does.mono (h : Does who before after) (hsub : ∀ k, who k → others k) :
    Does others before after := by
  obtain ⟨deeds, hlog, hdeeds⟩ := h
  exact ⟨deeds, hlog, fun deed hdeed => (hdeeds deed hdeed).imp_left (hsub _)⟩

/-! ## Which entries there are -/

/-- Every entry keeps its handle, its place and its kind. Records may have come behind them. -/
structure Grows (before after : Node) : Prop where
  handles : ∃ fresh, after.registry.handles = before.registry.handles ++ fresh ∧
    ∀ k ∈ fresh, ∃ entry, after.registry.get? k = some entry ∧ entry.isRecord = true
  kinds : ∀ k entry, before.registry.get? k = some entry →
    ∃ later, after.registry.get? k = some later ∧ later.isRecord = entry.isRecord

theorem grows_of_registry_eq (h : after.registry = before.registry) : Grows before after where
  handles := ⟨[], by simp [h], by simp⟩
  kinds k entry hentry := ⟨entry, h ▸ hentry, rfl⟩

theorem Grows.trans (h : Grows before mid) (h' : Grows mid after) : Grows before after where
  handles := by
    obtain ⟨fresh, hhandles, hfresh⟩ := h.handles
    obtain ⟨more, hmore, hfresh'⟩ := h'.handles
    refine ⟨fresh ++ more, by simp [hmore, hhandles], fun k hk => ?_⟩
    rcases List.mem_append.1 hk with hk | hk
    · obtain ⟨entry, hentry, hrecord⟩ := hfresh k hk
      obtain ⟨later, hlater, hsame⟩ := h'.kinds k entry hentry
      exact ⟨later, hlater, hsame.trans hrecord⟩
    · exact hfresh' k hk
  kinds k entry hentry := by
    obtain ⟨next, hnext, hsame⟩ := h.kinds k entry hentry
    obtain ⟨later, hlater, hsame'⟩ := h'.kinds k next hnext
    exact ⟨later, hlater, hsame'.trans hsame⟩

/-- A change of one entry that keeps its kind. -/
theorem grows_update {handle : Handle} {change : Entry → Entry}
    (hhandles : after.registry.handles = before.registry.handles)
    (hget : ∀ k, after.registry.get? k =
      if k = handle then (before.registry.get? handle).map change else before.registry.get? k)
    (hchange : ∀ entry, before.registry.get? handle = some entry →
      (change entry).isRecord = entry.isRecord) : Grows before after where
  handles := ⟨[], by simp [hhandles], by simp⟩
  kinds k entry hentry := by
    rw [hget]
    split
    · rename_i heq
      subst heq
      exact ⟨change entry, by simp [hentry], hchange entry hentry⟩
    · exact ⟨entry, hentry, rfl⟩

theorem grows_recordDevice (cp : ControlPacket) (wf : node.registry.WellFormed) :
    Grows node (node.recordDevice cp) := by
  refine ⟨?_, fun k entry hentry => ?_⟩
  · rcases enters cp node with ⟨-, heq⟩ | ⟨-, hinsert⟩ | ⟨-, -, heq⟩
    · exact ⟨[], by rw [heq, Registry.handles_modify, List.append_nil], nofun⟩
    · obtain ⟨-, hget⟩ := Registry.get?_of_insert hinsert
      refine ⟨_, wf.handles_of_insert hinsert, fun k hk => ?_⟩
      rw [List.mem_singleton.1 hk]
      exact ⟨_, (hget _).trans (if_pos rfl), rfl⟩
    · exact ⟨[], by rw [heq, List.append_nil], nofun⟩
  · cases noting cp node k with
    | same eq => exact ⟨entry, eq.trans hentry, rfl⟩
    | seen here _ eq =>
      cases here.symm.trans hentry
      exact ⟨_, eq, rfl⟩
    | noted free _ _ _ => cases free.symm.trans hentry

/-! ## Who is involved -/

/-- Only those that `who` is about take part in what happens. -/
structure Involves (who : Handle → Prop) (before after : Node) : Prop where
  others : Spares (fun k => ¬ who k) before after
  does : Does who before after
  grows : before.registry.WellFormed → Grows before after

namespace Involves

theorem refl (who : Handle → Prop) (node : Node) : Involves who node node :=
  ⟨.refl _ node, does_of_log_eq rfl, fun _ => grows_of_registry_eq rfl⟩

theorem trans (h : Involves who before mid) (h' : Involves who mid after) :
    Involves who before after :=
  ⟨h.others.trans h'.others, h.does.trans h'.does,
    fun wf => (h.grows wf).trans (h'.grows (h.others.wellFormed wf))⟩

theorem mono (h : Involves who before after) (hsub : ∀ k, who k → others k) :
    Involves others before after :=
  ⟨h.others.mono fun k hk hwho => hk (hsub k hwho), h.does.mono hsub, h.grows⟩

end Involves

/-! ## Parts of a step -/

variable (env : Env) (handle : Handle) (cp : ControlPacket)

theorem involves_modifyStatus (change : Status → Status) (node : Node) :
    Involves (· = handle) node (node.modifyStatus handle change) where
  others := spares_modifyStatus handle change node
  does := does_of_log_eq rfl
  grows _ := grows_update (Registry.handles_modify _ _ _) (node.registry.get?_modify handle _)
    fun _ _ => rfl

theorem involves_refreshPartner (node : Node) :
    Involves (· = handle) node (node.refreshPartner cp handle) where
  others := spares_refreshPartner cp node handle
  does := does_of_log_eq rfl
  grows _ := grows_update (Registry.handles_modify _ _ _) (node.registry.get?_modify handle _)
    fun entry _ => by
      obtain ⟨status, kind⟩ := entry
      cases kind <;> rfl

theorem involves_queueEvent (kind : EventKind) (node : Node) :
    Involves (· = handle) node (node.queueEvent handle kind) where
  others := spares_queueEvent handle kind node
  does := does_of_deed rfl rfl (.report kind)
  grows _ := grows_of_registry_eq rfl

theorem involves_echo (node : Node) : Involves (· = handle) node (node.post env cp.flagged) where
  others := (spares_post env cp.flagged node).mono fun _ _ => trivial
  does := by
    unfold post
    cases hsent : env.controlFrame cp.flagged with
    | error e => exact does_of_log_eq rfl
    | ok frame =>
      obtain ⟨-, -, rfl⟩ := Env.controlFrame_eq_ok_iff.1 hsent
      exact does_of_deed rfl rfl (.echo cp)
  grows _ := grows_of_registry_eq (by unfold post; split <;> rfl)

/-- A call involves the driver that is called. -/
theorem involves_call (callback : Callback) (node : Node) :
    Involves (· = handle) node (node.call env handle callback).2 := by
  rcases node.exists_driver_or_call_eq env handle callback with
    ⟨status, registration, hentry⟩ | heq
  · obtain ⟨added, hadded, -⟩ := registration.driver.respond_adds callback
      ⟨env, handle, status, node.log ++ [.called handle callback]⟩
    refine ⟨spares_call env handle callback node,
      does_of_deed ?_ rfl (.answer registration.driver callback rfl hadded), fun _ => ?_⟩
    · rw [log_call env callback hentry, hadded.log, List.append_assoc]
      rfl
    · unfold call
      rw [hentry]
      refine grows_update (node.registry.handles_set handle _) (node.registry.get?_set handle _) ?_
      intro entry hentry'
      cases hentry.symm.trans hentry'
      rfl
  · rw [heq]
    exact .refl _ node

/-- A record involves no driver. -/
theorem involves_recordDevice (node : Node) : Involves who node (node.recordDevice cp) where
  others := (spares_recordDevice cp node).mono fun _ _ => trivial
  does := does_of_log_eq (log_recordDevice cp)
  grows := grows_recordDevice cp

variable {handle cp} in
/-- A turn involves nobody but the driver whose turn it is. -/
theorem Turn.involves {env : Env} (h : Turn env handle cp node after) :
    Involves (· = handle) node after := by
  induction h with
  | start => exact .refl _ _
  | restate _ change _ ih => exact ih.trans (involves_modifyStatus handle change _)
  | report _ kind ih => exact ih.trans (involves_queueEvent handle kind _)
  | tell _ callback _ ih => exact ih.trans (involves_call env handle callback _)
  | echo _ ih => exact ih.trans (involves_echo env handle cp _)
  | record _ ih => exact ih.trans (involves_recordDevice cp _)

theorem involves_withFilter (filter : AddressFilter) (node : Node) :
    Involves who node { node with filter } where
  others := (spares_withFilter filter node).mono fun _ _ => trivial
  does := does_of_log_eq rfl
  grows _ := grows_of_registry_eq rfl

theorem involves_foldl {step : Node → Handle → Node}
    (hstep : ∀ node handle, Involves (· = handle) node (step node handle)) (handles : List Handle)
    (node : Node) : Involves (fun _ => True) node (handles.foldl step node) :=
  handles.foldlRecOn step (.refl _ node) fun mid hmid handle _ =>
    hmid.trans ((hstep mid handle).mono fun _ _ => trivial)

end Node

end DeviceBus
