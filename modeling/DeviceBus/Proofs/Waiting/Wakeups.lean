import DeviceBus.Proofs.Waiting.Unreported
import DeviceBus.Simulation.Running
import Mathlib.Logic.Relation

/-!
# Waits are woken up

An application that waits for a driver and the node of the driver take their steps each in its own
time. Since the application listens before it asks, everything that was reported about the driver
after the last answer is still unread while the application listens. What is not reported leaves
the driver as the answer described it, so whoever waits with nothing left to read waits for a driver
that is not ready.

There is one way out: a driver that is taken out while it is not connected is not reported, and who
waits for it does not learn that it is gone.

## Main results

* `Waiter.exists_asking`: a report about the driver makes its waiter ask again.
* `Watches.attend`: what an application does while the world stands still.
* `wakes_of_watches`: who sleeps waits for a driver that is there and not ready, unless it slipped
  away.
* `oversleeps_of_slippedClient`: a wait for a driver that slipped away.
-/

namespace DeviceBus

open EventKind

/-! ## Reading -/

namespace Waiter

variable {waiter next : Waiter} {k : Handle} {ready : Status → Bool}

/-- It waits for an event, and there is none. -/
def IsParked (waiter : Waiter) : Prop := waiter.phase = .listening ∧ waiter.unread = []

/-- It reads what there is, one after the other. -/
def ReadsOn : Waiter → Waiter → Prop :=
  Relation.ReflTransGen fun before after => before.read = some after

/-- What is read next: an answer, that events were lost, or an event. -/
theorem read_cases (h : waiter.read = some next) :
    (∃ answer, waiter.phase = .answered answer ∧
      next = { waiter with phase := waiter.weigh answer }) ∨
    (waiter.phase = .listening ∧ next = { waiter with
      unread := waiter.unread.drop (waiter.unread.length - World.eventBacklog)
      phase := .asking }) ∨
    ∃ event rest, waiter.phase = .listening ∧ waiter.unread = event :: rest ∧ next = { waiter with
      unread := rest
      phase := if event.handle = waiter.handle then .asking else .listening } := by
  unfold read at h
  split at h
  · rename_i answer hphase
    exact .inl ⟨answer, hphase, (Option.some.inj h).symm⟩
  · rename_i hphase
    split at h
    · exact .inr (.inl ⟨hphase, (Option.some.inj h).symm⟩)
    · split at h
      · cases h
      · rename_i event rest hunread
        exact .inr (.inr ⟨event, rest, hphase, hunread, (Option.some.inj h).symm⟩)
  · cases h
  · cases h

/-- Reading changes neither what is waited for nor when it is ready. -/
theorem same_of_read (h : waiter.read = some next) :
    next.handle = waiter.handle ∧ next.ready = waiter.ready := by
  rcases read_cases h with ⟨_, -, rfl⟩ | ⟨-, rfl⟩ | ⟨_, _, -, -, rfl⟩ <;> exact ⟨rfl, rfl⟩

/-- **A report about the driver makes its waiter ask again**, as soon as it reads on. -/
theorem exists_asking (hlistening : waiter.phase = .listening) {event : Event}
    (hunread : event ∈ waiter.unread) (hown : event.handle = waiter.handle) :
    ∃ asking, waiter.ReadsOn asking ∧ asking.phase = .asking := by
  generalize hlist : waiter.unread = unread at hunread
  induction unread generalizing waiter with
  | nil => cases hunread
  | cons first rest ih =>
    by_cases hlag : World.eventBacklog < waiter.unread.length
    · have hread : waiter.read = some { waiter with
          unread := waiter.unread.drop (waiter.unread.length - World.eventBacklog)
          phase := .asking } := by
        unfold read
        rw [hlistening]
        exact if_pos hlag
      exact ⟨_, .single hread, rfl⟩
    · have hread : waiter.read = some { waiter with
          unread := rest
          phase := if first.handle = waiter.handle then .asking else .listening } := by
        unfold read
        rw [hlistening]
        dsimp only
        rw [if_neg hlag, hlist]
      by_cases hfirst : first.handle = waiter.handle
      · rw [if_pos hfirst] at hread
        exact ⟨_, .single hread, rfl⟩
      · rw [if_neg hfirst] at hread
        have hlater : event ∈ rest :=
          (List.mem_cons.1 hunread).resolve_left fun heq => hfirst (heq ▸ hown)
        obtain ⟨asking, hreads, hphase⟩ :=
          @ih { waiter with unread := rest, phase := .listening } rfl hown rfl hlater
        exact ⟨asking, .head hread hreads, hphase⟩

/-- What a wait comes to with an answer of the node, if it ends. -/
def outcome? (k : Handle) (ready : Status → Bool) :
    Option Status → Option (Except BusError Status)
  | none => some (.error (.unknownDriver k))
  | some status => if ready status then some (.ok status) else none

/-- Who gets an answer has its result, or listens. -/
theorem weigh_eq (waiter : Waiter) (status? : Option Status) :
    waiter.weigh (.ok status?) =
      ((outcome? waiter.handle waiter.ready status?).map WaitPhase.ended).getD .listening := by
  cases status? with
  | none => rfl
  | some status =>
    unfold weigh outcome?
    dsimp only
    split <;> rfl

/-- An answer that is read ends the wait, if it can. -/
theorem result?_of_answer (hasks : waiter.phase = .asking) (status? : Option Status) :
    (waiter.answer (.ok status?)).read.bind (·.result?) =
      outcome? waiter.handle waiter.ready status? := by
  have hread : (waiter.answer (.ok status?)).read =
      some { waiter with phase := waiter.weigh (.ok status?) } := by
    unfold answer
    rw [hasks]
    rfl
  rw [hread, weigh_eq]
  cases outcome? waiter.handle waiter.ready status? <;> rfl

end Waiter

/-! ## A waiter and its node -/

/-- What can be waited for. -/
inductive IsAwaited : (Status → Bool) → Prop where
  | connected : IsAwaited Status.isConnected
  | paired : IsAwaited Status.isPaired

/-- An application listens to a node and waits for a driver, in any order of their steps: the node
takes steps and publishes their events at once, it answers, and the application reads. The node
that answered last is kept, with what happened since. -/
inductive Watches (settings : NodeSettings) (draws : Draws) (k : Handle) (ready : Status → Bool) :
    Option (Node × List Happening) → Node → Waiter → Prop where
  | subscribes {xs : List Happening} {node : Node}
      (comes : Node.Comes settings draws Driver.IsUnbonded xs node) :
      Watches settings draws k ready none node (.subscribe k ready)
  | happens {last : Option (Node × List Happening)} {node after : Node} {waiter : Waiter}
      {x : Happening} {added : List Action} (before : Watches settings draws k ready last node waiter)
      (admitted : x.IsAdmitted Driver.IsUnbonded) (becomes : Node.Becomes x node added after) :
      Watches settings draws k ready (last.map fun asked => (asked.1, asked.2 ++ [x])) after
        (waiter.publish (eventsOf added))
  | answers {last : Option (Node × List Happening)} {node : Node} {waiter : Waiter}
      (before : Watches settings draws k ready last node waiter) (asks : waiter.phase = .asking) :
      Watches settings draws k ready (some (node, [])) node (waiter.answer (.ok (node.status? k)))
  | reads {last : Option (Node × List Happening)} {node : Node} {waiter next : Waiter}
      (before : Watches settings draws k ready last node waiter) (reads : waiter.read = some next) :
      Watches settings draws k ready last node next

/-- What a phase says about the node that answered last. -/
def IsFaithful (k : Handle) (ready : Status → Bool) (first : Node) : WaitPhase → Prop
  | .asking => True
  | .answered answer => answer = .ok (first.status? k)
  | .listening => Waiter.outcome? k ready (first.status? k) = none
  | .ended result => Waiter.outcome? k ready (first.status? k) = some result

/-- What an application knows after an answer: what the node said, and, unless it asks again anyway,
every report about the driver since then. -/
structure KeepsUp (settings : NodeSettings) (draws : Draws) (k : Handle) (ready : Status → Bool)
    (first : Node) (xs : List Happening) (node : Node) (waiter : Waiter) : Prop where
  comes : ∃ ys, Node.Comes settings draws Driver.IsUnbonded ys first
  course : ∃ trace, Node.Course Driver.IsUnbonded (fun _ => True) first xs trace node ∧
    (waiter.phase ≠ .asking →
      ∀ event ∈ eventsOf trace, event.handle = k → event ∈ waiter.unread)
  faithful : IsFaithful k ready first waiter.phase

section

variable {settings : NodeSettings} {draws : Draws} {k : Handle} {ready : Status → Bool}
  {first node : Node} {xs : List Happening} {waiter : Waiter}

theorem KeepsUp.happens (h : KeepsUp settings draws k ready first xs node waiter) {x : Happening}
    {added : List Action} {after : Node} (admitted : x.IsAdmitted Driver.IsUnbonded)
    (becomes : Node.Becomes x node added after) :
    KeepsUp settings draws k ready first (xs ++ [x]) after (waiter.publish (eventsOf added)) := by
  obtain ⟨trace, hcourse, hunread⟩ := h.course
  refine ⟨h.comes, ⟨trace ++ added, .next hcourse admitted becomes trivial, ?_⟩, h.faithful⟩
  intro hphase event hevent hown
  rw [eventsOf_append, List.mem_append] at hevent
  exact List.mem_append.2 (hevent.imp_left fun hold => hunread hphase event hold hown)

/-- An answer of the node is what it says now, and nothing has happened since. -/
theorem keepsUp_answer {ys : List Happening}
    (comes : Node.Comes settings draws Driver.IsUnbonded ys node) (asks : waiter.phase = .asking) :
    KeepsUp settings draws k ready node [] node (waiter.answer (.ok (node.status? k))) := by
  refine ⟨⟨ys, comes⟩, ⟨[], .here trivial, fun _ event hevent => by cases hevent⟩, ?_⟩
  unfold Waiter.answer
  rw [asks]
  rfl

theorem KeepsUp.reads (h : KeepsUp settings draws k ready first xs node waiter)
    (hhandle : waiter.handle = k) (hready : waiter.ready = ready) {next : Waiter}
    (reads : waiter.read = some next) : KeepsUp settings draws k ready first xs node next := by
  obtain ⟨trace, hcourse, hunread⟩ := h.course
  have hfaithful := h.faithful
  rcases Waiter.read_cases reads with ⟨answer, hphase, rfl⟩ | ⟨-, rfl⟩ |
    ⟨event, rest, hphase, hlist, rfl⟩
  · rw [hphase] at hfaithful hunread
    obtain rfl : answer = .ok (first.status? k) := hfaithful
    refine ⟨h.comes, ⟨trace, hcourse, fun _ => hunread nofun⟩, ?_⟩
    dsimp only
    rw [Waiter.weigh_eq, hhandle, hready]
    cases houtcome : Waiter.outcome? k ready (first.status? k) <;> exact houtcome
  · exact ⟨h.comes, ⟨trace, hcourse, fun hasks => absurd rfl hasks⟩, trivial⟩
  · rw [hphase] at hfaithful hunread
    by_cases hown : event.handle = waiter.handle
    · rw [if_pos hown]
      exact ⟨h.comes, ⟨trace, hcourse, fun hasks => absurd rfl hasks⟩, trivial⟩
    · -- what was read is about another driver
      rw [if_neg hown]
      refine ⟨h.comes, ⟨trace, hcourse, fun _ other hother hk => ?_⟩, hfaithful⟩
      have hmem := hunread nofun other hother hk
      rw [hlist] at hmem
      exact (List.mem_cons.1 hmem).resolve_left fun heq => hown (heq ▸ hk.trans hhandle.symm)

/-- What holds of every application that waits. -/
structure InTime (settings : NodeSettings) (draws : Draws) (k : Handle) (ready : Status → Bool)
    (last : Option (Node × List Happening)) (node : Node) (waiter : Waiter) : Prop where
  about : waiter.handle = k ∧ waiter.ready = ready
  comes : ∃ xs, Node.Comes settings draws Driver.IsUnbonded xs node
  asks : last = none → waiter.phase = .asking
  keepsUp : ∀ asked ∈ last, KeepsUp settings draws k ready asked.1 asked.2 node waiter

theorem Watches.inTime {last : Option (Node × List Happening)}
    (h : Watches settings draws k ready last node waiter) :
    InTime settings draws k ready last node waiter := by
  induction h with
  | @subscribes xs _ comes => exact ⟨⟨rfl, rfl⟩, ⟨xs, comes⟩, fun _ => rfl, nofun⟩
  | @happens last node after waiter x added before admitted becomes ih =>
    obtain ⟨xs, hcomes⟩ := ih.comes
    refine ⟨ih.about, ⟨_, hcomes.next admitted becomes⟩, fun hnone => ?_, ?_⟩
    · exact ih.asks (Option.map_eq_none_iff.1 hnone)
    · intro asked hasked
      obtain ⟨was, hwas, rfl⟩ := Option.map_eq_some_iff.1 hasked
      exact (ih.keepsUp was hwas).happens admitted becomes
  | @answers last node waiter before asks ih =>
    obtain ⟨xs, hcomes⟩ := ih.comes
    have habout : (waiter.answer (.ok (node.status? k))).handle = k ∧
        (waiter.answer (.ok (node.status? k))).ready = ready := by
      unfold Waiter.answer
      rw [asks]
      exact ih.about
    refine ⟨habout, ⟨xs, hcomes⟩, nofun, ?_⟩
    rintro asked ⟨⟩
    exact keepsUp_answer hcomes asks
  | @reads last node waiter next before reads ih =>
    obtain ⟨hhandle, hready⟩ := Waiter.same_of_read reads
    refine ⟨⟨hhandle.trans ih.about.1, hready.trans ih.about.2⟩, ih.comes, fun hnone => ?_, ?_⟩
    · -- who was never answered has nothing to read
      have hasks := ih.asks hnone
      unfold Waiter.read at reads
      rw [hasks] at reads
      cases reads
    · exact fun asked hasked => (ih.keepsUp asked hasked).reads ih.about.1 ih.about.2 reads

theorem World.query_of_isRunning {world : World} {i : Nat} {site : Site}
    (hsite : world.sites[i]? = some site) (hrunning : site.isRunning = true) {α : Type}
    (question : Node → α) : world.query i question = .ok (question site.node) := by
  have hended : world.hasEnded i = false := by
    unfold World.hasEnded
    rw [hsite]
    unfold Site.isRunning at hrunning
    cases hphase : site.phase with
    | running ticker => simp [hphase]
    | _ =>
      rw [hphase] at hrunning
      cases hrunning
  unfold World.query
  rw [hsite, hended]
  rfl

/-- What an application does while the world stands still are such steps, and it does all of them
that it can. -/
theorem Watches.attend {world : World} {i : Nat} {site : Site}
    (hsite : world.sites[i]? = some site) {last : Option (Node × List Happening)}
    (h : Watches settings draws k ready last site.node waiter) :
    (∃ last, Watches settings draws k ready last site.node (world.attend i waiter)) ∧
      (world.attend i waiter).read = none := by
  fun_induction World.attend i world waiter generalizing last with
  | case1 waiter hasks hrunning ih =>
    rw [hsite] at hrunning
    have hquery := World.query_of_isRunning hsite hrunning (·.status? waiter.handle)
    rw [hquery] at ih ⊢
    rw [h.inTime.about.1] at ih ⊢
    exact ih (h.answers hasks)
  | case2 waiter hasks hidle =>
    refine ⟨⟨last, h⟩, ?_⟩
    unfold Waiter.read
    rw [hasks]
  | case3 waiter next hread hother ih => exact ih (h.reads hread)
  | case4 waiter hnone hother => exact ⟨⟨last, h⟩, hnone⟩

/-! ## Sleeping and waking -/

/-- The driver is there, and it is not ready. -/
def StillWaits (k : Handle) (ready : Status → Bool) (node : Node) : Prop :=
  ∃ status registration, node.enrolled? k = some (status, registration) ∧ ready status = false

/-- Who listens waits for a driver that is not ready, unless it slipped away or a report about it is
there to read. -/
theorem KeepsUp.stillWaits_or (h : KeepsUp settings draws k ready first xs node waiter)
    (hready : IsAwaited ready) (hdriver : first.probe? k = some false)
    (hlistening : waiter.phase = .listening) :
    StillWaits k ready node ∨ Node.SlipsAway Driver.IsUnbonded k first xs ∨
      ∃ event ∈ waiter.unread, event.handle = k := by
  obtain ⟨ys, hcomes⟩ := h.comes
  obtain ⟨trace, hcourse, hunread⟩ := h.course
  by_cases hreported : ∃ event ∈ eventsOf trace, event.handle = k
  · obtain ⟨event, hevent, hown⟩ := hreported
    have hphase : waiter.phase ≠ .asking := by
      rw [hlistening]
      exact nofun
    exact .inr (.inr ⟨event, hunread hphase event hevent hown, hown⟩)
  · have hquiet : reportsOf k trace = [] :=
      reportsOf_eq_nil fun event hevent hown => hreported ⟨event, hevent, hown⟩
    obtain ⟨stance, status, registration, hkept, hfair, -⟩ := hcomes.isFair k hdriver
    have hfaithful := h.faithful
    rw [hlistening] at hfaithful
    have hnot : ready status = false := by
      have hnone : Waiter.outcome? k ready (some status) = none := by
        rw [← Node.status?_of_enrolled? hkept]
        exact hfaithful
      simpa [Waiter.outcome?] using hnone
    rcases Node.unchanged_or_slipsAway hcourse hcomes.wellFormed hkept hfair hquiet with
      ⟨later, registration', hlater, -, hsame⟩ | hslips
    · refine .inl ⟨later, registration', hlater, ?_⟩
      cases hready with
      | connected => exact hsame.connected.trans hnot
      | paired => exact hsame.paired.trans hnot
    · exact .inr (.inl hslips)

/-- How an application is woken up that waits for a driver of the node that answered last. -/
structure Wakes (k : Handle) (ready : Status → Bool) (first : Node) (xs : List Happening)
    (node : Node) (waiter : Waiter) : Prop where
  /-- Who sleeps waits for a driver that is there and not ready, unless it slipped away. -/
  parked : waiter.IsParked →
    StillWaits k ready node ∨ Node.SlipsAway Driver.IsUnbonded k first xs
  /-- Who waits for a driver that is ready or was taken out asks again when it reads on. -/
  wakes : waiter.phase = .listening → ¬ StillWaits k ready node →
    ¬ Node.SlipsAway Driver.IsUnbonded k first xs →
    ∃ asking, waiter.ReadsOn asking ∧ asking.phase = .asking
  /-- A wait ends with what the last answer came to. -/
  ends : ∀ result, waiter.phase = .ended result →
    Waiter.outcome? k ready (first.status? k) = some result

/-- **Who sleeps waits for a driver that is there and not ready, unless it slipped away**, in any
order of the steps of a node and of an application that waits. Whoever else waits asks again, and
the next answer of the node gives the status of a driver that is ready, or tells that it is gone.
While the world stands still an application takes all of its steps, so afterwards it sleeps, its
wait is over, or nobody is there to answer. -/
theorem wakes_of_watches {last : Option (Node × List Happening)}
    (h : Watches settings draws k ready last node waiter) (hready : IsAwaited ready) :
    (last = none → waiter.phase = .asking) ∧
      (∀ first xs, last = some (first, xs) → first.probe? k = some false →
        Wakes k ready first xs node waiter) ∧
      (waiter.phase = .asking → (waiter.answer (.ok (node.status? k))).read.bind (·.result?) =
        Waiter.outcome? k ready (node.status? k)) ∧
      ∀ (world : World) (i : Nat) (site : Site), world.sites[i]? = some site → site.node = node →
        (∃ last, Watches settings draws k ready last node (world.attend i waiter)) ∧
          (world.attend i waiter).read = none := by
  have hintime := h.inTime
  refine ⟨hintime.asks, ?_, fun hasks => ?_, ?_⟩
  · rintro first xs rfl hdriver
    have hkeeps := hintime.keepsUp _ rfl
    refine ⟨fun hparked => ?_, fun hlistening hnot hnever => ?_, fun result hover => ?_⟩
    · rcases hkeeps.stillWaits_or hready hdriver hparked.1 with hstill | hslips | ⟨event, hmem, -⟩
      · exact .inl hstill
      · exact .inr hslips
      · rw [hparked.2] at hmem
        cases hmem
    · rcases hkeeps.stillWaits_or hready hdriver hlistening with hstill | hslips |
        ⟨event, hmem, hown⟩
      · exact absurd hstill hnot
      · exact absurd hslips hnever
      · exact Waiter.exists_asking hlistening hmem (hown.trans hintime.about.1.symm)
    · have hfaithful := hkeeps.faithful
      rw [hover] at hfaithful
      exact hfaithful
  · rw [Waiter.result?_of_answer hasks, hintime.about.1, hintime.about.2]
  · rintro world i site hsite rfl
    exact h.attend hsite

end

/-! ## Two waits for a client without a host -/

/-- A remote driver that was just registered. -/
def lonelyClient : Node := Node.withDriver ⟨.virtual, 7, none, none⟩ .quiet

/-- An application that waits for it asked once and sleeps. -/
def sleeper : Waiter := ⟨⟨0, 0⟩, Status.isConnected, [], .listening⟩

theorem watches_lonelyClient : Watches {} ⟨fun _ => 0, 0⟩ ⟨0, 0⟩ Status.isConnected
    (some (lonelyClient, [])) lonelyClient sleeper :=
  ((Watches.subscribes (Node.comes_withDriver Driver.IsUnbonded ⟨.virtual, 7, none, none⟩ .quiet
    trivial)).answers rfl).reads rfl

/-- The client finds a host, and its waiter has a report to read. -/
theorem wakes_of_foundHost :
    let found := lonelyClient.receiveFrame .taking (ControlPacket.hello 20 7 2).frame
    let happened : List Happening := [.receive .taking (ControlPacket.hello 20 7 2).frame]
    ∃ waiter, Watches {} ⟨fun _ => 0, 0⟩ ⟨0, 0⟩ Status.isConnected (some (lonelyClient, happened))
        found waiter ∧ lonelyClient.probe? ⟨0, 0⟩ = some false ∧
      waiter.unread = [⟨⟨0, 0⟩, .connected 20⟩] ∧
      Wakes ⟨0, 0⟩ Status.isConnected lonelyClient happened found waiter := by
  intro found happened
  obtain ⟨added, hlog, -⟩ :=
    (Node.spares_receiveFrame .taking (ControlPacket.hello 20 7 2).frame lonelyClient).trace
  have hwatches := watches_lonelyClient.happens
    (x := .receive .taking (ControlPacket.hello 20 7 2).frame) trivial (.receive .taking _ hlog)
  have hdriver : lonelyClient.probe? ⟨0, 0⟩ = some false := rfl
  have hunread : eventsOf added = [⟨⟨0, 0⟩, .connected 20⟩] := by
    have hadded : found.log = added := hlog
    rw [← hadded]
    decide +kernel
  exact ⟨_, hwatches, hdriver, hunread,
    (wakes_of_watches hwatches .connected).2.1 lonelyClient happened rfl hdriver⟩

/-- The client is taken out before it finds a host: nothing is reported, and its waiter sleeps on
although the driver is gone. -/
theorem oversleeps_of_slippedClient : ∃ first xs node waiter,
    Watches {} ⟨fun _ => 0, 0⟩ ⟨0, 0⟩ Status.isConnected (some (first, xs)) node waiter ∧
      waiter.IsParked ∧ node.status? ⟨0, 0⟩ = none ∧
      ¬ StillWaits ⟨0, 0⟩ Status.isConnected node := by
  obtain ⟨left, node, ok⟩ : ∃ left node,
      lonelyClient.unregister .taking ⟨0, 0⟩ = .ok (left, node) := ⟨_, _, rfl⟩
  have hlog : node.log = lonelyClient.log ++ [] := by
    cases ok
    rfl
  have hgone : node.status? ⟨0, 0⟩ = none := by
    cases ok
    rfl
  have hwatches := watches_lonelyClient.happens (x := .unregister .taking ⟨0, 0⟩) trivial
    (.unregister ok hlog)
  refine ⟨_, _, node, _, hwatches, ⟨rfl, rfl⟩, hgone, ?_⟩
  rintro ⟨status, registration, hkept, -⟩
  have hstatus := Node.status?_of_enrolled? hkept
  rw [hgone] at hstatus
  cases hstatus

end DeviceBus
