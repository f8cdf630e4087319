import DeviceBus.Proofs.Medium.Membership

/-!
# Delivery on the bus

What becomes of the frames of a bus whose ports come and go between any two sends. The frames ever
given to a port are those that left its queue and those that still wait in it, and they are the
frames it heard: the sends of others that found it attached and with a receiver.

## Main results

* `everQueued_eq`: what a port was given is what it heard.
* `delivers`: the delivery contract of the bus.
-/

namespace DeviceBus

namespace SharedBus

/-! ## What a port is given -/

/-- The sends of others that found a port attached and listening. -/
def heardBy (port : Nat) (history : List BusAction) : List Sending :=
  (sendings history).filter fun sending =>
    sending.sender ≠ port && ((after (history.take sending.moment)).isAttached port &&
      (after (history.take sending.moment)).isListening port)

/-- What leaves the queue of a port: the oldest frame when it is received, and all of them when the
receiver goes. -/
def leaving (bus : SharedBus) (port : Nat) : BusAction → List Bytes
  | .receive p =>
    if p = port then
      match bus.receive port with
      | some (frame, _) => [frame]
      | none => []
    else []
  | .dropReceiver p => if p = port then bus.queue port else []
  | _ => []

/-- What left the queue of a port while things happened to a bus. -/
def left (port : Nat) : SharedBus → List BusAction → List Bytes
  | _, [] => []
  | bus, action :: rest => bus.leaving port action ++ left port (bus.perform action) rest

/-- The frames a port was ever given: those that left its queue and those that still wait. -/
def everQueued (port : Nat) (history : List BusAction) : List Bytes :=
  left port empty history ++ (after history).queue port

variable {history : List BusAction} {action : BusAction} {port : Nat}

/-- What an action puts into the queue of a port. -/
def arriving (bus : SharedBus) (port : Nat) : BusAction → List Bytes
  | .send sender frame =>
    if bus.refusal sender = none ∧ sender ≠ port ∧ bus.isAttached port = true ∧
        bus.isListening port = true then [frame]
    else []
  | _ => []

/-- **Nothing else happens to a queue**: what an action takes out was there, and what it leaves is
the rest with what arrived. -/
theorem leaving_append_queue (bus : SharedBus) (port : Nat) (action : BusAction) :
    bus.leaving port action ++ (bus.perform action).queue port =
      bus.queue port ++ bus.arriving port action := by
  by_cases h : action = .attach
  · subst h
    unfold leaving arriving queue
    rw [getElem?_attach, List.append_nil, List.nil_append]
    split
    · rename_i hport
      rw [hport, List.getElem?_eq_none_iff.2 (Nat.le_refl _)]
      rfl
    · rfl
  · unfold queue
    rw [getElem?_perform bus port h]
    cases hp : bus.ports[port]? with
    | none => cases action <;> simp [leaving, arriving, queue, receive, isAttached, hp]
    | some p =>
      simp only [Option.map_some, Option.getD_some]
      cases action with
      | attach => exact absurd rfl h
      | detach q => by_cases hq : q = port <;> simp [leaving, arriving, effect, hq]
      | dropReceiver q =>
        by_cases hq : q = port <;> simp [leaving, arriving, effect, queue, hp, hq]
      | send sender frame =>
        by_cases hsent : bus.refusal sender = none ∧ sender ≠ port
        · simp [leaving, arriving, effect, isAttached, isListening, hp, hsent]
        · simp only [leaving, arriving, effect, if_neg hsent, List.nil_append]
          rw [if_neg fun h => hsent ⟨h.1, h.2.1⟩, List.append_nil]
      | shutDown => simp [leaving, arriving, effect]
      | receive q =>
        by_cases hq : q = port
        · subst hq
          have hqueue : bus.queue q = p.queue := by
            unfold queue
            rw [hp]
            rfl
          cases hframes : p.queue <;> simp [leaving, arriving, effect, receive, hqueue, hframes]
        · simp [leaving, arriving, effect, hq]

theorem left_concat (port : Nat) (bus : SharedBus) (history : List BusAction)
    (action : BusAction) : left port bus (history ++ [action]) =
      left port bus history ++ (history.foldl perform bus).leaving port action := by
  induction history generalizing bus with
  | nil => simp [left]
  | cons first rest ih => simp [left, ih]

theorem everQueued_concat (port : Nat) (history : List BusAction) (action : BusAction) :
    everQueued port (history ++ [action]) =
      everQueued port history ++ (after history).arriving port action := by
  unfold everQueued
  rw [left_concat, after_concat, List.append_assoc]
  exact (congrArg _ (leaving_append_queue (after history) port action)).trans
    (List.append_assoc ..).symm

theorem mem_heardBy {sending : Sending} : sending ∈ heardBy port history ↔
    sending ∈ sendings history ∧ sending.sender ≠ port ∧
      Belongs port (history.take sending.moment) ∧
      Listens port (history.take sending.moment) := by
  unfold heardBy
  rw [List.mem_filter, ← isAttached_after, ← isListening_after]
  simp

theorem heardBy_concat (port : Nat) (history : List BusAction) (action : BusAction) :
    (heardBy port (history ++ [action])).map (·.frame) =
      (heardBy port history).map (·.frame) ++ (after history).arriving port action := by
  unfold heardBy
  rw [sendings_concat, List.filter_append, List.map_append]
  congr 1
  · refine congrArg _ (List.filter_congr fun sending hsending => ?_)
    rw [List.take_append_of_le_length (Nat.le_of_lt (moment_lt_length hsending))]
  · rw [sendingAt_length]
    unfold arriving
    cases action with
    | send sender frame =>
      dsimp only
      by_cases hrefusal : (after history).refusal sender = none
      · rw [if_pos hrefusal]
        by_cases hother : sender ≠ port <;>
          cases hattached : (after history).isAttached port <;>
          cases hlistening : (after history).isListening port <;>
          simp [hrefusal, hother, hattached, hlistening]
      · rw [if_neg hrefusal, if_neg fun h => hrefusal h.1]
        rfl
    | attach => rfl
    | detach q => rfl
    | dropReceiver q => rfl
    | shutDown => rfl
    | receive q => rfl

/-- **A port is given what it hears**, in the order of the bus. -/
theorem everQueued_eq (port : Nat) (history : List BusAction) :
    everQueued port history = (heardBy port history).map (·.frame) := by
  induction history using List.reverseRecOn with
  | nil => simp [everQueued, left, after, empty, queue, heardBy, sendings]
  | append_singleton history action ih => rw [everQueued_concat, heardBy_concat, ih]

/-- Who hears two sends hears them in the order of the bus. -/
theorem pair_sublist_heardBy {x y : Sending} (hx : x ∈ heardBy port history)
    (hy : y ∈ heardBy port history) (h : x.moment < y.moment) :
    [x, y].Sublist (heardBy port history) := by
  have hsorted : (heardBy port history).Pairwise (·.moment < ·.moment) :=
    (pairwise_sendings history).sublist List.filter_sublist
  obtain ⟨earlier, later, hsplit⟩ := List.append_of_mem hx
  rw [hsplit, List.mem_append, List.mem_cons] at hy
  rw [hsplit, List.pairwise_append] at hsorted
  rw [hsplit]
  have hlater : y ∈ later := by
    rcases hy with hy | rfl | hy
    · exact absurd (hsorted.2.2 y hy x (List.mem_cons_self ..)) (Nat.not_lt_of_lt h)
    · exact absurd h (Nat.lt_irrefl _)
    · exact hy
  exact ((List.singleton_sublist.2 hlater).cons_cons x).trans (List.sublist_append_right ..)

/-! ## The contract -/

/-- What a bus with a history does with the frames it was and is given. -/
structure Delivers (history : List BusAction) : Prop where
  /-- A send comes through if the bus was not shut down and the sender still belongs to it. -/
  accepted (port : Nat) (frame : Bytes) :
    (∃ bus, (after history).send port frame = .ok bus) ↔
      .shutDown ∉ history ∧ Belongs port history
  /-- On a bus that was shut down every send fails for that. -/
  refused (port : Nat) (frame : Bytes) :
    (after history).send port frame = .error .shutdown ↔ .shutDown ∈ history
  /-- Elsewhere a port that does not belong to the bus finds its sink closed. -/
  closed (port : Nat) (frame : Bytes) :
    (after history).send port frame = .error .closed ↔
      .shutDown ∉ history ∧ ¬ Belongs port history
  /-- The sends that came through are those a bus in that state took. -/
  sent (sending : Sending) :
    sending ∈ sendings history ↔
      history[sending.moment]? = some (.send sending.sender sending.frame) ∧
        .shutDown ∉ history.take sending.moment ∧
        Belongs sending.sender (history.take sending.moment)
  /-- They are in the order they were made, each of them once. -/
  ordered : (sendings history).Pairwise (·.moment < ·.moment)
  /-- A port hears the sends of others that found it attached, with a receiver. -/
  heard (port : Nat) (sending : Sending) :
    sending ∈ heardBy port history ↔ sending ∈ sendings history ∧ sending.sender ≠ port ∧
      Belongs port (history.take sending.moment) ∧ Listens port (history.take sending.moment)
  /-- What it hears is in the order of the bus, each send once. -/
  heardInOrder (port : Nat) : (heardBy port history).Sublist (sendings history)
  /-- The frames ever queued for a port are those it heard. -/
  given (port : Nat) : everQueued port history = (heardBy port history).map (·.frame)
  /-- Two ports that hear the same two sends hear them in the same order. -/
  agreed (p q : Nat) (x y : Sending) : [x, y].Sublist (heardBy p history) →
    x ∈ heardBy q history → y ∈ heardBy q history → [x, y].Sublist (heardBy q history)
  /-- A port that lost its receiver stays until the next send of another one comes through, unless
  it is detached or the bus shut down. -/
  pruned (port dropped : Nat) : history[dropped]? = some (.dropReceiver port) →
    Belongs port (history.take dropped) →
    ((after history).isAttached port = true ↔
      (∀ sending ∈ sendings history, dropped < sending.moment → sending.sender = port) ∧
      ∀ moment, dropped < moment →
        history[moment]? ≠ some (.detach port) ∧ history[moment]? ≠ some .shutDown)
  /-- Detaching a port leaves every queue as it is. -/
  kept (port detached : Nat) :
    (after (history ++ [.detach detached])).queue port = (after history).queue port
  /-- So does shutting the bus down. -/
  keptAll (port : Nat) : (after (history ++ [.shutDown])).queue port = (after history).queue port

theorem queue_perform_eq (bus : SharedBus) (port : Nat) (h : action ≠ .attach)
    (heffect : ∀ p, (bus.effect port action p).queue = p.queue) :
    (bus.perform action).queue port = bus.queue port := by
  unfold queue
  rw [getElem?_perform bus port h]
  cases bus.ports[port]? with
  | none => rfl
  | some p => exact heffect p

/-- **Every bus delivers**, whatever happened to it. -/
theorem delivers (history : List BusAction) : Delivers history where
  accepted port frame := exists_send_iff port frame history
  refused port frame := by simp [send_eq_error_iff]
  closed port frame := by simp [send_eq_error_iff]
  sent _ := mem_sendings_iff
  ordered := pairwise_sendings history
  heard _ _ := mem_heardBy
  heardInOrder _ := List.filter_sublist
  given port := everQueued_eq port history
  agreed p q x y hxy hx hy := by
    have hsorted : [x, y].Pairwise (·.moment < ·.moment) :=
      (pairwise_sendings history).sublist (hxy.trans List.filter_sublist)
    exact pair_sublist_heardBy hx hy (List.rel_of_pairwise_cons hsorted (List.mem_cons_self ..))
  pruned port dropped hdropped hmember := by
    rw [isAttached_after]
    exact belongs_of_dropped hdropped hmember
  kept port detached := by
    rw [after_concat]
    refine queue_perform_eq _ port (by simp) fun p => ?_
    simp only [effect]
    split <;> rfl
  keptAll port := by
    rw [after_concat]
    exact queue_perform_eq _ port (by simp) fun _ => rfl

/-- A port whose receiver is gone still sends, until the next frame of another port finds nobody
there. -/
example :
    let history := [.attach, .attach, .attach, .dropReceiver 1, .send 1 [7], .send 0 [8],
      .send 1 [9], .receive 2, .detach 2]
    (sendings history).map (·.frame) = [[7], [8]] ∧ everQueued 0 history = [[7]] ∧
      everQueued 1 history = [] ∧ everQueued 2 history = [[7], [8]] ∧
      (after history).queue 2 = [[8]] := by
  decide

end SharedBus

end DeviceBus
