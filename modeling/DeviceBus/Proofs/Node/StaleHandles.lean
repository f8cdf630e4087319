import DeviceBus.Proofs.Node.Expiry
import DeviceBus.Proofs.Node.Recording

/-!
# Stale handles

Who registered a driver keeps its handle, and who listed the devices keeps the handles of records.
The driver may be taken out and the record may expire; another driver or record then has the slot.
The old handle shows nothing and takes nothing out, until the slot has been emptied 65536 times.

`Issues` says that a handle was given out in a happening, `Turnover` how many entries left a slot
in a run since. Within one happening no entry comes and goes, so its ends tell.

## Main results

* `continues_of_becomes`: what a handle stands for goes on to be the same driver, or the record of
  the same device.
* `Comes.exists_issues`: every handle that stands for something was given out for it.
* `handlesLapse`: what is left of a handle of a registry and of a node, in any run.
-/

namespace DeviceBus

/-- What a driver may become by what it is told and by its own work. -/
inductive Driver.Develops (first : Driver) : Driver → Prop where
  | start : Develops first first
  | respond {driver : Driver} (before : Develops first driver) (callback : Callback)
      (ctx : Context) : Develops first (driver.respond callback ctx).driver
  | work {driver after : Driver} (before : Develops first driver) (works : driver.Works after) :
      Develops first after

theorem Driver.Develops.trans {first mid last : Driver} (h : first.Develops mid)
    (h' : mid.Develops last) : first.Develops last := by
  induction h' with
  | start => exact h
  | respond _ callback ctx ih => exact ih.respond callback ctx
  | work _ works ih => exact ih.work works

/-- A driver goes on under its registration. -/
structure Registration.Continues (first later : Registration) : Prop where
  driver : first.driver.Develops later.driver
  serial : later.requiredSerial = first.requiredSerial

/-- An entry is what another one became: the same driver, or a record of the same device. -/
inductive Entry.Continues : Entry → Entry → Prop where
  | driver {was is : Status} {first later : Registration} (continues : first.Continues later) :
      Continues ⟨was, .driver first⟩ ⟨is, .driver later⟩
  | record {was is : Status} (identity : is.identity = was.identity) :
      Continues ⟨was, .record⟩ ⟨is, .record⟩

theorem Entry.Continues.refl (entry : Entry) : entry.Continues entry := by
  obtain ⟨status, kind⟩ := entry
  cases kind with
  | driver registration => exact .driver ⟨.start, rfl⟩
  | record => exact .record rfl

theorem Entry.Continues.trans {first mid last : Entry} (h : first.Continues mid)
    (h' : mid.Continues last) : first.Continues last := by
  cases h with
  | driver continues =>
    cases h' with
    | driver continues' =>
      exact .driver ⟨continues.driver.trans continues'.driver,
        continues'.serial.trans continues.serial⟩
  | record identity =>
    cases h' with
    | record identity' => exact .record (identity'.trans identity)

namespace Node

variable {settings : NodeSettings} {draws : Draws} {admits : Driver → Prop} {xs : List Happening}
  {node start after : Node} {k : Handle} {x : Happening} {added : List Action}
  {first entry found : Entry} {left slot : Nat}

/-! ## One happening -/

theorem Replies.continues {callback : Callback} {before later : Kept} {talk : List EventKind}
    {registered : Registration} (h : Replies k callback before talk later)
    (hbefore : registered.Continues before.2) : registered.Continues later.2 := by
  obtain ⟨ctx, -, -, rfl⟩ := h.place
  exact ⟨hbefore.driver.respond callback ctx, hbefore.serial⟩

/-- Whatever a driver goes through, it goes on. -/
theorem Episode.continues {before later : Kept} {story : List Action} {registered : Registration}
    (h : Episode x start k before story later) (hbefore : registered.Continues before.2) :
    registered.Continues later.2 := by
  cases h with
  | booked driver serial => exact ⟨driver ▸ hbefore.driver, serial.trans hbefore.serial⟩
  | noticed | drawn | lost => exact hbefore
  | told _ replies => exact replies.continues hbefore
  | moved _ _ replies => exact replies.continues hbefore
  | adopted _ _ connected replies => exact replies.continues (connected.continues hbefore)
  | confirmed _ _ _ replies => exact replies.continues hbefore
  | evicted _ _ _ replies => exact replies.continues hbefore
  | vacated _ _ replies => exact replies.continues hbefore
  | worked works => exact ⟨hbefore.driver.work works, hbefore.serial⟩

/-- What is taken out no longer has its handle, and everything else is as it was. -/
theorem get?_of_unregister {env : Env} {gone : Option Driver}
    (ok : node.unregister env k = .ok (gone, after)) (other : Handle) :
    after.registry.get? other = if other = k then none else node.registry.get? other := by
  obtain ⟨_, told, _, registry, -, htold, hremove, rfl, -⟩ := remove_of_unregister ok
  dsimp only
  rw [(Registry.get?_of_remove hremove).2]
  by_cases hother : other = k
  · rw [if_pos hother, if_pos hother]
  · rw [if_neg hother, if_neg hother, htold]
    split
    · exact get?_call_of_ne env .removed hother
    · rfl

/-- Whoever finds something under a handle afterwards did not take it out. -/
theorem stays_of_get? (becomes : Becomes x node added after)
    (hfound : after.registry.get? k = some found) (env : Env) : x ≠ .unregister env k := by
  rintro rfl
  cases becomes with
  | unregister ok =>
    rw [get?_of_unregister ok, if_pos rfl] at hfound
    cases hfound

/-- Who registers a driver gets a handle that stood for nothing. -/
theorem get?_of_register {profile : DriverProfile} {driver : Driver}
    (ok : node.register profile driver = .ok (k, after)) :
    node.registry.get? k = none ∧ after.registry.get? k =
      some ⟨(newcomer node.settings profile driver).1,
        .driver (newcomer node.settings profile driver).2⟩ := by
  obtain ⟨registry, hinsert, rfl⟩ := insert_of_register ok
  obtain ⟨hnone, hget⟩ := Registry.get?_of_insert hinsert
  exact ⟨hnone, (hget k).trans (if_pos rfl)⟩

/-- No happening puts a driver where a record was. -/
theorem enrolled?_of_record (becomes : Becomes x node added after) {status : Status}
    (hrecord : node.record? k = some status) : after.enrolled? k = none := by
  rw [Option.eq_none_iff_forall_ne_some]
  intro kept hkept
  have hprobe : after.probe? k = some kept.2.driver.isProbe := probe?_of_enrolled? hkept
  rcases probe?_of_becomes becomes hprobe with ⟨hbefore, -⟩ | ⟨profile, driver, rfl, -⟩
  · obtain ⟨was, hwas, -⟩ := Option.map_eq_some_iff.1 hbefore
    cases (record?_of_enrolled? hwas).symm.trans hrecord
  · cases becomes with
    | register ok =>
      cases (get?_of_register ok).1.symm.trans (record?_eq_some_iff.1 hrecord)

/-- **What a handle stands for before and after a happening is the same driver, or the record of the
same device.** -/
theorem continues_of_becomes (h : Comes settings draws admits xs node)
    (becomes : Becomes x node added after) (hentry : node.registry.get? k = some entry)
    (hfound : after.registry.get? k = some found) : entry.Continues found := by
  obtain ⟨was, kind⟩ := entry
  cases kind with
  | driver registration =>
    obtain ⟨later, hlater, hstory⟩ := story_of_becomes (enrolled?_eq_some_iff.2 hentry)
      h.wellFormed becomes (stays_of_get? becomes hfound)
    cases (enrolled?_eq_some_iff.1 hlater).symm.trans hfound
    exact .driver (hstory.keeps (P := fun kept => registration.Continues kept.2) ⟨.start, rfl⟩
      fun hbefore episode => episode.continues hbefore)
  | record =>
    have hrecord := record?_eq_some_iff.2 hentry
    obtain ⟨is, kind⟩ := found
    cases kind with
    | driver registration =>
      cases (enrolled?_of_record becomes hrecord).symm.trans (enrolled?_eq_some_iff.2 hfound)
    | record =>
      rcases (jots_of_becomes h.wellFormed h.isPlain becomes k).origin
        (record?_eq_some_iff.2 hfound) with ⟨earlier, hearlier, hsame⟩ | ⟨hnone, -⟩
      · cases hrecord.symm.trans hearlier
        exact .record hsame.symm
      · cases hrecord.symm.trans hnone

/-- A slot that has an entry afterwards has not been left. -/
theorem vacates_of_get? (hfound : after.registry.get? k = some found) :
    node.registry.vacates k.slot after.registry = 0 := by
  refine if_neg ?_
  rw [Registry.occupant?_of_get? hfound]
  exact fun h => nomatch h.2

/-! ## Runs -/

/-- A handle that stood for nothing was given out for an entry, in the last happening of a run. -/
inductive Issues (settings : NodeSettings) (draws : Draws) (k : Handle) (first : Entry)
    (start : Node) : Prop where
  | intro {xs : List Happening} {node : Node} {x : Happening} {added : List Action}
      (before : Comes settings draws (fun _ => True) xs node)
      (becomes : Becomes x node added start) (fresh : node.registry.get? k = none)
      (stands : start.registry.get? k = some first)

/-- A run from a node to another one, and how many entries left a slot on the way. -/
inductive Turnover (slot : Nat) (start : Node) : Nat → Node → Prop where
  | here : Turnover slot start 0 start
  | next {left : Nat} {node after : Node} {x : Happening} {added : List Action}
      (before : Turnover slot start left node) (becomes : Becomes x node added after) :
      Turnover slot start (left + node.registry.vacates slot after.registry) after

theorem Issues.comes (h : Issues settings draws k first start) :
    ∃ xs, Comes settings draws (fun _ => True) xs start := by
  obtain ⟨before, becomes, -, -⟩ := h
  exact ⟨_, before.next_of_true becomes⟩

theorem Issues.get? (h : Issues settings draws k first start) :
    start.registry.get? k = some first := by
  obtain ⟨-, -, -, stands⟩ := h
  exact stands

/-- A driver that is registered is given a handle. -/
theorem Comes.issues_of_register {profile : DriverProfile} {driver : Driver}
    (h : Comes settings draws (fun _ => True) xs node)
    (ok : node.register profile driver = .ok (k, after)) :
    Issues settings draws k ⟨(newcomer node.settings profile driver).1,
      .driver (newcomer node.settings profile driver).2⟩ after :=
  .intro h (.register ok) (get?_of_register ok).1 (get?_of_register ok).2

namespace Turnover

theorem exists_comes (h : Turnover slot start left node)
    (hstart : ∃ xs, Comes settings draws (fun _ => True) xs start) :
    ∃ xs, Comes settings draws (fun _ => True) xs node := by
  induction h with
  | here => exact hstart
  | next _ becomes ih =>
    obtain ⟨xs, hcomes⟩ := ih
    exact ⟨_, hcomes.next_of_true becomes⟩

/-- A run is a history of the registry that takes as many entries out of the slot. -/
theorem exists_history (h : Turnover slot start left node) :
    ∃ history, node.registry = start.registry.performAll history ∧
      start.registry.departures slot history = left := by
  induction h with
  | here => exact ⟨[], rfl, rfl⟩
  | next _ becomes ih =>
    obtain ⟨earlier, hnode, hleft⟩ := ih
    obtain ⟨later, hafter, hvacates⟩ := exists_history_of_becomes becomes
    refine ⟨earlier ++ later, ?_, ?_⟩
    · rw [Registry.performAll_append, ← hnode, hafter]
    · rw [Registry.departures_append, ← hnode, hleft, hvacates]

/-- A handle that was given out stays one if nothing leaves its slot. -/
theorem keeps (h : Turnover k.slot start left node) (becomes : Becomes x node added after)
    (hfound : after.registry.get? k = some found) : Turnover k.slot start left after := by
  have hnext := h.next becomes
  rwa [vacates_of_get? hfound] at hnext

end Turnover

section

variable (hissues : Issues settings draws k first start)
  (hturnover : Turnover k.slot start left node)

include hissues hturnover

/-- A handle of a node lapses as a handle of a registry does. -/
theorem Issues.exists_lapses :
    ∃ history, node.registry = start.registry.performAll history ∧
      start.registry.departures k.slot history = left ∧
      start.registry.Lapses k first history := by
  obtain ⟨history, hnode, hleft⟩ := hturnover.exists_history
  exact ⟨history, hnode, hleft, Registry.lapses_of_get? hissues.get? history⟩

/-- Until something leaves its slot, a handle stands for what it was given out for. -/
theorem Issues.continues (hstays : left = 0) :
    ∃ entry, node.registry.get? k = some entry ∧ first.Continues entry := by
  induction hturnover with
  | here => exact ⟨first, hissues.get?, .refl first⟩
  | @next left node after x added before becomes ih =>
    obtain ⟨hleft, hvacates⟩ := Nat.add_eq_zero_iff.1 hstays
    obtain ⟨entry, hentry, hcontinues⟩ := ih hleft
    obtain ⟨xs, hcomes⟩ := before.exists_comes hissues.comes
    obtain ⟨history, hafter, hdepartures⟩ := exists_history_of_becomes becomes
    have hlater := Registry.get?_performAll hentry ((hdepartures k.slot).trans hvacates)
    rw [← hafter] at hlater
    exact ⟨_, hlater, hcontinues.trans (continues_of_becomes hcomes becomes hentry hlater)⟩

/-- If a handle stands for something after its slot was left, it was given out again. -/
theorem Issues.exists_reissues (hpos : 0 < left) (hfound : node.registry.get? k = some found) :
    ∃ second restart, Issues settings draws k second restart ∧
      Turnover k.slot start left restart ∧ Turnover k.slot restart 0 node := by
  induction hturnover generalizing found with
  | here => exact absurd hpos (Nat.lt_irrefl 0)
  | @next left node after x added before becomes ih =>
    have hsame : node.registry.vacates k.slot after.registry = 0 := vacates_of_get? hfound
    cases hentry : node.registry.get? k with
    | none =>
      obtain ⟨xs, hcomes⟩ := before.exists_comes hissues.comes
      exact ⟨found, after, .intro hcomes becomes hentry hfound, before.next becomes, .here⟩
    | some entry =>
      rw [hsame] at hpos ⊢
      obtain ⟨second, restart, hsecond, hbefore, hsince⟩ := ih hpos hentry
      exact ⟨second, restart, hsecond, hbefore, hsince.keeps becomes hfound⟩

end

/-- **Every handle that stands for something was given out for it.** -/
theorem Comes.exists_issues (h : Comes settings draws (fun _ => True) xs node)
    (hentry : node.registry.get? k = some entry) :
    ∃ first start, Issues settings draws k first start ∧ Turnover k.slot start 0 node := by
  obtain ⟨trace, hcourse⟩ := h
  induction hcourse generalizing entry with
  | here => cases (Registry.get?_empty _ k).symm.trans hentry
  | @next xs trace node x added after before admitted becomes _ ih =>
    cases hwas : node.registry.get? k with
    | none => exact ⟨entry, after, .intro ⟨trace, before⟩ becomes hwas hentry, .here⟩
    | some was =>
      obtain ⟨first, start, hissues, hturnover⟩ := ih hwas
      exact ⟨first, start, hissues, hturnover.keeps becomes hentry⟩

/-! ## What a handle is good for -/

theorem isSome_status?_iff : (node.status? k).isSome ↔ (node.registry.get? k).isSome := by
  rw [status?, Option.isSome_map]

/-- What a handle stands for can be taken out. -/
theorem exists_unregister (hentry : node.registry.get? k = some entry) (env : Env) :
    ∃ result, node.unregister env k = .ok result := by
  -- A driver that is told first is still there.
  have htold : ∀ told : Bool, ((if told then ((node.queueEvent k .removed).call env k
      .removed).2 else node).registry.get? k).isSome := by
    intro told
    cases told with
    | true =>
      have hundergoes : Undergoes (·.isRemove = false) node (node.tellRemoved env k) :=
        undergoes_tellRemoved (fun _ _ => rfl) env k node
      obtain ⟨history, hkind, hafter⟩ := hundergoes.registry
      rw [tellRemoved] at hafter
      rw [if_pos rfl, hafter]
      exact Option.isSome_of_eq_some
        (Registry.get?_performAll hentry (Registry.departures_of_noRemove hkind))
    | false => exact Option.isSome_of_eq_some hentry
  specialize htold (!entry.isRecord && entry.status.isConnected)
  unfold unregister
  rw [hentry]
  dsimp only
  split
  · rename_i hnone
    rw [Registry.remove_eq_none_iff.1 hnone] at htold
    cases htold
  · exact ⟨_, rfl⟩

theorem unregister_of_none (hnone : node.status? k = none) (env : Env) :
    node.unregister env k = .error (.unknownDriver k) := by
  unfold unregister
  rw [Option.map_eq_none_iff.1 hnone]

/-- What is left of handles, of a registry and of the nodes with some settings. -/
structure HandlesLapse (settings : NodeSettings) (draws : Draws) : Prop where
  /-- In any run of a registry, a handle that an insertion gave out lapses. -/
  stored {α : Type} {capacity : Nat} {earlier : List (RegistryAction α)} {first : α}
    {handle : Handle} {registry : Registry α} :
    (Registry.after capacity earlier).insert first = .ok (handle, registry) →
    ∀ later, registry.Lapses handle first later
  /-- Every happening of a node is a history of its registry, and as many entries leave a slot as
  the ends tell. -/
  happens {x : Happening} {added : List Action} {node after : Node} :
    Becomes x node added after → ∃ history, after.registry = node.registry.performAll history ∧
      ∀ slot, node.registry.departures slot history = node.registry.vacates slot after.registry
  /-- A driver that is registered is given a handle. -/
  registered {xs : List Happening} {node after : Node} {k : Handle} {profile : DriverProfile}
    {driver : Driver} : Comes settings draws (fun _ => True) xs node →
    node.register profile driver = .ok (k, after) →
    Issues settings draws k ⟨(newcomer node.settings profile driver).1,
      .driver (newcomer node.settings profile driver).2⟩ after
  /-- Every handle that is listed, of a driver or of a record, was given out. -/
  listed {xs : List Happening} {node : Node} {k : Handle} {status : Status} :
    Comes settings draws (fun _ => True) xs node → (k, status) ∈ node.statuses →
    ∃ first start, Issues settings draws k first start ∧ Turnover k.slot start 0 node
  /-- A slot is taken if an entry in it is listed. -/
  taken {xs : List Happening} {node : Node} {slot : Nat} :
    Comes settings draws (fun _ => True) xs node →
    ((node.registry.occupant? slot).isSome ↔ ∃ pair ∈ node.statuses, pair.1.slot = slot)
  /-- A handle shows a status exactly if its slot is taken and the generation is back. -/
  resolves {k : Handle} {first : Entry} {start node : Node} {left : Nat} :
    Issues settings draws k first start → Turnover k.slot start left node →
    ((node.status? k).isSome ↔ (node.registry.occupant? k.slot).isSome ∧ 65536 ∣ left)
  /-- Just then something can be taken out under it. -/
  unregisters (k : Handle) (node : Node) (env : Env) :
    (∃ result, node.unregister env k = .ok result) ↔ (node.status? k).isSome
  /-- It is what the handle stands for, and nothing else. -/
  takes {k : Handle} {env : Env} {node after : Node} {gone : Option Driver} :
    node.unregister env k = .ok (gone, after) → ∀ other, after.registry.get? other =
      if other = k then none else node.registry.get? other
  refused (k : Handle) (node : Node) (env : Env) : node.status? k = none →
    node.unregister env k = .error (.unknownDriver k)
  /-- Until an entry leaves its slot, it stands for the one that it was given out for. -/
  same {k : Handle} {first : Entry} {start node : Node} :
    Issues settings draws k first start → Turnover k.slot start 0 node →
    ∃ entry, node.registry.get? k = some entry ∧ first.Continues entry
  /-- It stands for nothing until the generation is back. -/
  lapsed {k : Handle} {first : Entry} {start node : Node} {left : Nat} :
    Issues settings draws k first start → Turnover k.slot start left node →
    0 < left → left < 65536 → node.status? k = none
  /-- It stands for another entry only if it was given out for that one too, after the generation
  was back. -/
  reissued {k : Handle} {first : Entry} {start node : Node} {left : Nat} :
    Issues settings draws k first start → Turnover k.slot start left node → 0 < left →
    (node.status? k).isSome → 65536 ≤ left ∧
      ∃ second restart, Issues settings draws k second restart ∧
        Turnover k.slot start left restart ∧ Turnover k.slot restart 0 node

/-- **Stale handles stand for nothing until the generation is back**, in any run. -/
theorem handlesLapse (settings : NodeSettings) (draws : Draws) : HandlesLapse settings draws := by
  have hresolves : ∀ {k : Handle} {first : Entry} {start node : Node} {left : Nat},
      Issues settings draws k first start → Turnover k.slot start left node →
      ((node.status? k).isSome ↔
        (node.registry.occupant? k.slot).isSome ∧ 65536 ∣ left) := by
    intro k first start node left hissues hturnover
    obtain ⟨history, hnode, hleft, hlapses⟩ := hissues.exists_lapses hturnover
    rw [isSome_status?_iff, hnode, hlapses.resolves, hleft]
  constructor
  case stored =>
    intro α capacity earlier first handle registry hinsert later
    exact Registry.lapses_of_get?
      (((Registry.get?_of_insert hinsert).2 handle).trans (if_pos rfl)) later
  case happens => exact exists_history_of_becomes
  case registered => exact fun hcomes ok => hcomes.issues_of_register ok
  case listed =>
    intro xs node k status hcomes hmem
    obtain ⟨⟨handle, entry⟩, hlisted, heq⟩ := List.mem_map.1 hmem
    cases heq
    exact hcomes.exists_issues (hcomes.wellFormed.mem_toList_iff.1 hlisted)
  case taken =>
    intro xs node slot hcomes
    rw [← Registry.get?_handleAt]
    constructor
    · intro hsome
      obtain ⟨entry, hentry⟩ := Option.isSome_iff_exists.1 hsome
      exact ⟨_, List.mem_map_of_mem (hcomes.wellFormed.mem_toList_iff.2 hentry), rfl⟩
    · rintro ⟨pair, hmem, rfl⟩
      obtain ⟨⟨handle, entry⟩, hlisted, rfl⟩ := List.mem_map.1 hmem
      have hentry := hcomes.wellFormed.mem_toList_iff.1 hlisted
      rw [Registry.handleAt_of_get? hentry, hentry]
      rfl
  case resolves => exact hresolves
  case unregisters =>
    intro k node env
    constructor
    · rintro ⟨result, hok⟩
      rw [Option.isSome_iff_ne_none]
      intro hnone
      cases (unregister_of_none hnone env).symm.trans hok
    · intro hsome
      obtain ⟨entry, hentry⟩ := Option.isSome_iff_exists.1 (isSome_status?_iff.1 hsome)
      exact exists_unregister hentry env
  case takes => exact get?_of_unregister
  case refused => exact fun _ _ env hnone => unregister_of_none hnone env
  case same => exact fun hissues hturnover => hissues.continues hturnover rfl
  case lapsed =>
    intro k first start node left hissues hturnover hpos hlt
    rw [← Option.not_isSome_iff_eq_none, hresolves hissues hturnover]
    rintro ⟨-, hback⟩
    exact absurd (Nat.le_of_dvd hpos hback) (Nat.not_le_of_lt hlt)
  case reissued =>
    intro k first start node left hissues hturnover hpos hsome
    obtain ⟨found, hfound⟩ := Option.isSome_iff_exists.1 (isSome_status?_iff.1 hsome)
    exact ⟨Nat.le_of_dvd hpos ((hresolves hissues hturnover).1 hsome).2,
      hissues.exists_reissues hturnover hpos hfound⟩

/-- Ticks that leave a handle's entry in place take nothing out of its slot. -/
theorem Turnover.afterTicks (h : Turnover k.slot start left node) {ticks : Nat}
    (hthere : ∀ n < ticks, ((node.afterTicks (n + 1)).registry.get? k).isSome) :
    Turnover k.slot start left (node.afterTicks ticks) := by
  induction ticks with
  | zero => exact h
  | succ ticks ih =>
    have hbefore := ih fun n hn => hthere n (Nat.lt_succ_of_lt hn)
    obtain ⟨found, hfound⟩ := Option.isSome_iff_exists.1 (hthere ticks (Nat.lt_succ_self ticks))
    rw [afterTicks_succ] at hfound ⊢
    obtain ⟨_, hlog, -⟩ := (spares_tick .taking (node.afterTicks ticks)).trace
    exact hbefore.keeps (.tick .taking hlog) hfound

/-- A device announces itself to a sniffer, is silent until its record goes with the fourth tick,
and announces itself again. The new record has the slot of the old one, whose handle stands for
nothing. So it is in a registry where an entry is taken out and another one stored. -/
theorem handlesLapse_of_sniffer :
    let frame := (ControlPacket.hello 20 7 2).frame
    let noted := (withDriver ⟨.sniffer, 7, none, none⟩ .quiet).receiveFrame .taking frame
    let again := (noted.afterTicks 4).receiveFrame .taking frame
    (∃ first, Issues {} ⟨fun _ => 0, 0⟩ ⟨1, 0⟩ first noted) ∧ Turnover 1 noted 1 again ∧
      again.status? ⟨1, 0⟩ = none ∧ (again.status? ⟨1, 1⟩).isSome ∧
      again.unregister .taking ⟨1, 0⟩ = .error (.unknownDriver ⟨1, 0⟩) ∧
      ∃ registry, (Registry.after 2 [.insert 7]).insert 8 = .ok (⟨1, 0⟩, registry) ∧
        (registry.performAll [.remove ⟨1, 0⟩, .insert 9]).get? ⟨1, 0⟩ = none := by
  intro frame noted again
  have hlapse := handlesLapse {} ⟨fun _ => 0, 0⟩
  obtain ⟨_, hnoted, -⟩ := (spares_receiveFrame .taking frame
    (withDriver ⟨.sniffer, 7, none, none⟩ .quiet)).trace
  obtain ⟨first, hfirst⟩ := Option.isSome_iff_exists.1
    (show (noted.registry.get? ⟨1, 0⟩).isSome by decide +kernel)
  have hissues : Issues {} ⟨fun _ => 0, 0⟩ ⟨1, 0⟩ first noted :=
    .intro (comes_withDriver (fun _ => True) ⟨.sniffer, 7, none, none⟩ .quiet trivial)
      (.receive .taking frame hnoted)
      (Option.not_isSome_iff_eq_none.1 (by decide +kernel)) hfirst
  -- the record is there for three ticks and goes with the fourth
  have hwaits : Turnover (⟨1, 0⟩ : Handle).slot noted 0 (noted.afterTicks 3) :=
    Turnover.here.afterTicks (show ∀ n < 3,
      ((noted.afterTicks (n + 1)).registry.get? ⟨1, 0⟩).isSome by decide +kernel)
  obtain ⟨_, hgone, -⟩ := (spares_tick .taking (noted.afterTicks 3)).trace
  obtain ⟨_, hagain, -⟩ := (spares_receiveFrame .taking frame (noted.afterTicks 4)).trace
  have hleft : Turnover 1 noted
      (0 + (noted.afterTicks 3).registry.vacates 1 (noted.afterTicks 4).registry)
      (noted.afterTicks 4) := hwaits.next (.tick .taking hgone)
  have hturnover := hleft.next (.receive .taking frame hagain)
  rw [show (noted.afterTicks 3).registry.vacates 1 (noted.afterTicks 4).registry = 1 by
    decide +kernel, show (noted.afterTicks 4).registry.vacates 1 again.registry = 0 by
    decide +kernel] at hturnover
  have hnone := hlapse.lapsed hissues hturnover Nat.one_pos (by decide)
  have hstored : (Registry.after 2 [.insert 7]).insert 8 = .ok (⟨1, 0⟩, _) := rfl
  exact ⟨⟨first, hissues⟩, hturnover, hnone, by decide +kernel, hlapse.refused _ _ _ hnone, _,
    hstored, (hlapse.stored hstored _).lapsed (by decide) (by decide)⟩

end Node

end DeviceBus
