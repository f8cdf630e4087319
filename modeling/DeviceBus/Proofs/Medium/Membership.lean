import Mathlib.Data.List.Basic
import Mathlib.Data.List.Induction
import DeviceBus.Medium.SharedBus

/-!
# Who belongs to the bus

A history is the list of everything that happened to a bus whose ports come and go, and a moment is
a position in it. Which ports still belong to the bus, who has a receiver and which sends came
through are read off the history alone, and the bus turns out to know just that.

## Main results

* `isAttached_after`: the bus has the ports that belong to it by its history.
* `exists_send_iff`, `send_eq_error_iff`: what becomes of a send.
* `belongs_of_dropped`: how long a port without a receiver stays.
-/

namespace DeviceBus

/-- What can happen to a bus. -/
inductive BusAction where
  | attach
  | detach (port : Nat)
  | dropReceiver (port : Nat)
  | send (sender : Nat) (frame : Bytes)
  | shutDown
  | receive (port : Nat)
  deriving DecidableEq, Repr

/-- A send that came through, with the moment it happened. -/
structure Sending where
  moment : Nat
  sender : Nat
  frame : Bytes
  deriving DecidableEq, Repr

namespace SharedBus

/-- The bus after one thing happened to it. A send that fails leaves it as it is. -/
def perform (bus : SharedBus) : BusAction → SharedBus
  | .attach => bus.attach.2
  | .detach port => bus.detach port
  | .dropReceiver port => bus.dropReceiver port
  | .send sender frame =>
    match bus.send sender frame with
    | .ok after => after
    | .error _ => bus
  | .shutDown => bus.shutDown
  | .receive port =>
    match bus.receive port with
    | some (_, after) => after
    | none => bus

/-- The bus a history leaves behind. -/
def after (history : List BusAction) : SharedBus := history.foldl perform empty

/-- Whether someone receives on a port. -/
def isListening (bus : SharedBus) (port : Nat) : Bool :=
  (bus.ports[port]?.map (·.isListening)).getD false

/-! ## What a history says -/

/-- The send that came through at a moment. -/
def sendingAt (history : List BusAction) (moment : Nat) : Option Sending :=
  match history[moment]? with
  | some (.send sender frame) =>
    if (after (history.take moment)).refusal sender = none then some ⟨moment, sender, frame⟩
    else none
  | _ => none

/-- The sends that came through, in the order of the bus. -/
def sendings (history : List BusAction) : List Sending :=
  (List.range history.length).filterMap (sendingAt history)

/-- The moment a port was attached. Ports are numbered as they come. -/
def Joined (port : Nat) (history : List BusAction) (moment : Nat) : Prop :=
  history[moment]? = some .attach ∧ (history.take moment).count .attach = port

/-- A port belongs to the bus: it joined, it was not detached and the bus not shut down since, and
nobody else's send came through after its receiver was dropped. -/
def Belongs (port : Nat) (history : List BusAction) : Prop :=
  ∃ joined, Joined port history joined ∧
    (∀ moment, joined < moment →
      history[moment]? ≠ some (.detach port) ∧ history[moment]? ≠ some .shutDown) ∧
    ∀ dropped, joined < dropped → history[dropped]? = some (.dropReceiver port) →
      ∀ sending ∈ sendings history, dropped < sending.moment → sending.sender = port

/-- A port has a receiver: it joined and its receiver was not dropped since. -/
def Listens (port : Nat) (history : List BusAction) : Prop :=
  ∃ joined, Joined port history joined ∧
    ∀ moment, joined < moment → history[moment]? ≠ some (.dropReceiver port)

/-! ## One more action -/

variable {history : List BusAction} {action : BusAction} {port : Nat}

theorem after_concat (history : List BusAction) (action : BusAction) :
    after (history ++ [action]) = (after history).perform action := by
  unfold after
  rw [List.foldl_append]
  rfl

theorem getElem?_concat_eq_some {α : Type} (xs : List α) (x y : α) (i : Nat) :
    (xs ++ [x])[i]? = some y ↔ xs[i]? = some y ∨ (i = xs.length ∧ x = y) := by
  rw [List.getElem?_append]
  split
  · rename_i hi
    exact ⟨.inl, fun h => h.resolve_right fun h => Nat.ne_of_lt hi h.1⟩
  · rename_i hi
    rw [List.getElem?_eq_none_iff.2 (Nat.le_of_not_lt hi), List.getElem?_singleton]
    constructor
    · intro h
      split at h
      · exact .inr ⟨by omega, Option.some.inj h⟩
      · cases h
    · rintro (h | ⟨rfl, rfl⟩)
      · cases h
      · simp

theorem lt_length_of_getElem? {α : Type} {xs : List α} {x : α} {i : Nat} (h : xs[i]? = some x) :
    i < xs.length :=
  (List.getElem?_eq_some_iff.1 h).1

/-- Nothing comes after the last action. -/
theorem getElem?_concat_ne_some {moment : Nat} (h : history.length < moment) (x : BusAction) :
    (history ++ [action])[moment]? ≠ some x := by
  intro hx
  rcases (getElem?_concat_eq_some ..).1 hx with hold | ⟨hlast, -⟩
  · exact Nat.lt_asymm h (lt_length_of_getElem? hold)
  · exact absurd hlast (Nat.ne_of_gt h)

theorem sendingAt_concat {moment : Nat} (h : moment < history.length) :
    sendingAt (history ++ [action]) moment = sendingAt history moment := by
  unfold sendingAt
  rw [List.getElem?_append_left h, List.take_append_of_le_length (Nat.le_of_lt h)]

theorem sendingAt_length (history : List BusAction) (action : BusAction) :
    sendingAt (history ++ [action]) history.length =
      match action with
      | .send sender frame =>
        if (after history).refusal sender = none then some ⟨history.length, sender, frame⟩
        else none
      | _ => none := by
  unfold sendingAt
  rw [List.getElem?_concat_length, List.take_left]
  cases action <;> rfl

theorem sendings_concat (history : List BusAction) (action : BusAction) :
    sendings (history ++ [action]) =
      sendings history ++ (sendingAt (history ++ [action]) history.length).toList := by
  unfold sendings
  rw [List.length_append, List.length_singleton, List.range_succ, List.filterMap_append]
  congr 1
  exact List.filterMap_congr fun moment hmoment => sendingAt_concat (List.mem_range.1 hmoment)

theorem mem_sendings_concat {sending : Sending} :
    sending ∈ sendings (history ++ [action]) ↔ sending ∈ sendings history ∨
      (action = .send sending.sender sending.frame ∧ sending.moment = history.length ∧
        (after history).refusal sending.sender = none) := by
  rw [sendings_concat, List.mem_append, Option.mem_toList, sendingAt_length]
  refine or_congr_right ?_
  constructor
  · intro h
    split at h
    · split at h
      · rename_i hrefusal
        cases h
        exact ⟨rfl, rfl, hrefusal⟩
      · cases h
    · cases h
  · rintro ⟨rfl, hmoment, hrefusal⟩
    rw [← hmoment]
    exact if_pos hrefusal

theorem mem_sendings {sending : Sending} : sending ∈ sendings history ↔
    history[sending.moment]? = some (.send sending.sender sending.frame) ∧
      (after (history.take sending.moment)).refusal sending.sender = none := by
  unfold sendings
  rw [List.mem_filterMap]
  constructor
  · rintro ⟨moment, -, h⟩
    unfold sendingAt at h
    split at h
    · rename_i hmoment
      split at h
      · rename_i hrefusal
        cases h
        exact ⟨hmoment, hrefusal⟩
      · cases h
    · cases h
  · rintro ⟨hmoment, hrefusal⟩
    refine ⟨sending.moment, List.mem_range.2 (lt_length_of_getElem? hmoment), ?_⟩
    unfold sendingAt
    rw [hmoment]
    exact if_pos hrefusal

theorem moment_lt_length {sending : Sending} (h : sending ∈ sendings history) :
    sending.moment < history.length :=
  lt_length_of_getElem? (mem_sendings.1 h).1

/-- What came through is in the order of the moments. -/
theorem pairwise_sendings (history : List BusAction) :
    (sendings history).Pairwise (·.moment < ·.moment) := by
  induction history using List.reverseRecOn with
  | nil => exact .nil
  | append_singleton history action ih =>
    rw [sendings_concat, List.pairwise_append]
    refine ⟨ih, ?_, fun earlier hearlier later hlater => ?_⟩
    · cases sendingAt (history ++ [action]) history.length with
      | none => exact .nil
      | some sending => exact List.pairwise_singleton _ _
    · have hlast : later ∈ sendings (history ++ [action]) := by
        rw [sendings_concat]
        exact List.mem_append_right _ hlater
      have hlt := moment_lt_length hearlier
      rw [Option.mem_toList, sendingAt_length] at hlater
      split at hlater
      · split at hlater
        · cases hlater
          exact hlt
        · cases hlater
      · cases hlater

/-! ## What one action does to a port -/

theorem refusal_eq_none_iff (bus : SharedBus) (port : Nat) :
    bus.refusal port = none ↔ bus.isShutDown = false ∧ bus.isAttached port = true := by
  unfold refusal
  cases bus.isShutDown <;> cases bus.isAttached port <;> simp

/-- What an action does to a port that exists. -/
def effect (bus : SharedBus) (port : Nat) : BusAction → Port → Port
  | .attach, p => p
  | .detach q, p => if q = port then { p with isAttached := false } else p
  | .dropReceiver q, p => if q = port then { p with isListening := false, queue := [] } else p
  | .send sender frame, p =>
    if bus.refusal sender = none ∧ sender ≠ port then p.deliver frame else p
  | .shutDown, p => { p with isAttached := false }
  | .receive q, p => if q = port then { p with queue := p.queue.tail } else p

theorem getElem?_modifyPort (bus : SharedBus) (q port : Nat) (change : Port → Port) :
    (bus.modifyPort q change).ports[port]? =
      bus.ports[port]?.map fun p => if q = port then change p else p := by
  unfold modifyPort
  rw [List.getElem?_modify]
  split <;> simp_all

theorem perform_send_of_some {bus : SharedBus} {sender : Nat} {e : MediumError}
    (h : bus.refusal sender = some e) (frame : Bytes) : bus.perform (.send sender frame) = bus := by
  simp only [perform, send, h]

theorem perform_send_of_none {bus : SharedBus} {sender : Nat} (h : bus.refusal sender = none)
    (frame : Bytes) : bus.perform (.send sender frame) =
      { bus with
        ports := bus.ports.mapIdx fun i p => if i = sender then p else p.deliver frame } := by
  simp only [perform, send, h]

/-- Receiving takes the oldest frame of the queue, if there is one. -/
theorem perform_receive (bus : SharedBus) (port : Nat) : bus.perform (.receive port) =
    bus.modifyPort port fun p => { p with queue := p.queue.tail } := by
  have hmodify : ∀ rest, (bus.queue port).tail = rest →
      bus.modifyPort port (fun p => { p with queue := rest }) =
        bus.modifyPort port fun p => { p with queue := p.queue.tail } := by
    rintro rest rfl
    refine congrArg (SharedBus.mk · _) (List.ext_getElem? fun i => ?_)
    rw [List.getElem?_modify, List.getElem?_modify]
    split
    · rename_i hi
      subst hi
      unfold queue
      cases bus.ports[port]? <;> rfl
    · rfl
  cases hqueue : bus.queue port with
  | nil =>
    simp only [perform, receive, hqueue]
    rw [← hmodify [] (by rw [hqueue]; rfl)]
    refine congrArg (SharedBus.mk · _) (List.ext_getElem? fun i => ?_)
    rw [List.getElem?_modify]
    split
    · rename_i hi
      subst hi
      unfold queue at hqueue
      cases hp : bus.ports[port]? with
      | none => rfl
      | some p =>
        rw [hp] at hqueue
        exact congrArg some (congrArg (Port.mk p.isAttached p.isListening) hqueue)
    · simp
  | cons frame rest =>
    simp only [perform, receive, hqueue]
    exact hmodify rest (by rw [hqueue]; rfl)

@[simp]
theorem isAttached_deliver (frame : Bytes) (p : Port) :
    (p.deliver frame).isAttached = (p.isAttached && p.isListening) := by
  unfold Port.deliver
  cases hattached : p.isAttached <;> cases p.isListening <;> simp [hattached]

@[simp]
theorem isListening_deliver (frame : Bytes) (p : Port) :
    (p.deliver frame).isListening = p.isListening := by
  unfold Port.deliver
  split
  · split <;> rfl
  · rfl

@[simp]
theorem queue_deliver (frame : Bytes) (p : Port) : (p.deliver frame).queue =
    p.queue ++ if p.isAttached = true ∧ p.isListening = true then [frame] else [] := by
  unfold Port.deliver
  cases p.isAttached <;> cases p.isListening <;> simp

theorem getElem?_perform (bus : SharedBus) (port : Nat) (h : action ≠ .attach) :
    (bus.perform action).ports[port]? = bus.ports[port]?.map (bus.effect port action) := by
  cases action with
  | attach => exact absurd rfl h
  | detach q => exact getElem?_modifyPort bus q port _
  | dropReceiver q => exact getElem?_modifyPort bus q port _
  | send sender frame =>
    cases hrefusal : bus.refusal sender with
    | some e =>
      rw [perform_send_of_some hrefusal]
      cases bus.ports[port]? <;> simp [effect, hrefusal]
    | none =>
      rw [perform_send_of_none hrefusal, List.getElem?_mapIdx]
      refine congrArg (Option.map · _) (funext fun p => ?_)
      simp only [effect, hrefusal, true_and, ne_eq, ite_not, eq_comm]
  | shutDown => exact List.getElem?_map
  | receive q =>
    rw [perform_receive]
    exact getElem?_modifyPort bus q port _

theorem getElem?_attach (bus : SharedBus) (port : Nat) :
    (bus.perform .attach).ports[port]? =
      if port = bus.ports.length then some ⟨true, true, []⟩ else bus.ports[port]? := by
  show (bus.ports ++ [_])[port]? = _
  rw [List.getElem?_append]
  split
  · rw [if_neg (by omega)]
  · rw [List.getElem?_singleton, List.getElem?_eq_none_iff.2 (by omega)]
    by_cases hport : port = bus.ports.length
    · rw [if_pos hport, if_pos (by omega)]
    · rw [if_neg hport, if_neg (by omega)]

theorem isAttached_attach (bus : SharedBus) (port : Nat) :
    (bus.perform .attach).isAttached port = true ↔
      port = bus.ports.length ∨ bus.isAttached port = true := by
  unfold isAttached
  rw [getElem?_attach]
  split <;> simp_all

theorem isListening_attach (bus : SharedBus) (port : Nat) :
    (bus.perform .attach).isListening port = true ↔
      port = bus.ports.length ∨ bus.isListening port = true := by
  unfold isListening
  rw [getElem?_attach]
  split <;> simp_all

/-- **How a port leaves the bus**: it is detached, the bus is shut down, or another one's send finds
nobody listening. -/
theorem isAttached_perform (bus : SharedBus) (port : Nat) (h : action ≠ .attach) :
    (bus.perform action).isAttached port = true ↔ bus.isAttached port = true ∧
      action ≠ .detach port ∧ action ≠ .shutDown ∧
      ∀ sender frame, action = .send sender frame → bus.refusal sender = none → sender ≠ port →
        bus.isListening port = true := by
  unfold isAttached isListening
  rw [getElem?_perform bus port h]
  cases bus.ports[port]? with
  | none => simp
  | some p =>
    simp only [Option.map_some, Option.getD_some]
    cases action with
    | attach => exact absurd rfl h
    | detach q => by_cases hq : q = port <;> simp [effect, hq]
    | dropReceiver q => by_cases hq : q = port <;> simp [effect, hq]
    | send sender frame =>
      by_cases hsent : bus.refusal sender = none ∧ sender ≠ port
      · simp [effect, hsent]
      · have hspared : bus.effect port (.send sender frame) p = p := if_neg hsent
        rw [hspared]
        refine ⟨fun h => ⟨h, by simp, by simp, ?_⟩, fun h => h.1⟩
        rintro s f ⟨⟩ hrefusal hother
        exact absurd ⟨hrefusal, hother⟩ hsent
    | shutDown => simp [effect]
    | receive q => by_cases hq : q = port <;> simp [effect, hq]

theorem isListening_perform (bus : SharedBus) (port : Nat) (h : action ≠ .attach) :
    (bus.perform action).isListening port = true ↔ bus.isListening port = true ∧
      action ≠ .dropReceiver port := by
  unfold isListening
  rw [getElem?_perform bus port h]
  cases bus.ports[port]? with
  | none => simp
  | some p =>
    simp only [Option.map_some, Option.getD_some]
    cases action with
    | attach => exact absurd rfl h
    | detach q => by_cases hq : q = port <;> simp [effect, hq]
    | dropReceiver q => by_cases hq : q = port <;> simp [effect, hq]
    | send sender frame =>
      by_cases hsent : bus.refusal sender = none ∧ sender ≠ port <;> simp [effect, hsent]
    | shutDown => simp [effect]
    | receive q => by_cases hq : q = port <;> simp [effect, hq]

theorem length_ports_perform (bus : SharedBus) (h : action ≠ .attach) :
    (bus.perform action).ports.length = bus.ports.length := by
  refine Nat.le_antisymm ?_ ?_ <;> refine Nat.le_of_not_lt fun hlt => ?_
  · have hnone := getElem?_perform bus bus.ports.length h
    rw [List.getElem?_eq_getElem hlt, List.getElem?_eq_none_iff.2 (Nat.le_refl _)] at hnone
    cases hnone
  · have hnone := getElem?_perform bus (bus.perform action).ports.length h
    rw [List.getElem?_eq_getElem hlt, List.getElem?_eq_none_iff.2 (Nat.le_refl _)] at hnone
    cases hnone

theorem isShutDown_perform (bus : SharedBus) (action : BusAction) :
    (bus.perform action).isShutDown = true ↔ bus.isShutDown = true ∨ action = .shutDown := by
  cases action with
  | send sender frame =>
    cases hrefusal : bus.refusal sender with
    | some e => simp [perform_send_of_some hrefusal]
    | none => simp [perform_send_of_none hrefusal]
  | receive q => simp [perform_receive, modifyPort]
  | shutDown => simp [perform, shutDown]
  | attach => simp [perform, attach]
  | detach q => simp [perform, detach, modifyPort]
  | dropReceiver q => simp [perform, dropReceiver, modifyPort]

/-! ## What the bus knows of its history -/

theorem length_ports_after (history : List BusAction) :
    (after history).ports.length = history.count .attach := by
  induction history using List.reverseRecOn with
  | nil => rfl
  | append_singleton history action ih =>
    rw [after_concat, List.count_append, ← ih]
    by_cases h : action = .attach
    · subst h
      exact List.length_append
    · rw [length_ports_perform _ h, List.count_singleton, if_neg (by simpa using h)]
      rfl

theorem isShutDown_after (history : List BusAction) :
    (after history).isShutDown = true ↔ .shutDown ∈ history := by
  induction history using List.reverseRecOn with
  | nil => simp [after, empty]
  | append_singleton history action ih =>
    rw [after_concat, isShutDown_perform, ih, List.mem_append, List.mem_singleton, eq_comm]

theorem Joined.lt_length {moment : Nat} (h : Joined port history moment) :
    moment < history.length :=
  lt_length_of_getElem? h.1

theorem joined_concat {moment : Nat} : Joined port (history ++ [action]) moment ↔
    Joined port history moment ∨
      (moment = history.length ∧ action = .attach ∧ history.count .attach = port) := by
  unfold Joined
  rw [getElem?_concat_eq_some]
  constructor
  · rintro ⟨h | ⟨rfl, h⟩, hcount⟩
    · rw [List.take_append_of_le_length (Nat.le_of_lt (lt_length_of_getElem? h))] at hcount
      exact .inl ⟨h, hcount⟩
    · rw [List.take_left] at hcount
      exact .inr ⟨rfl, h, hcount⟩
  · rintro (⟨h, hcount⟩ | ⟨rfl, h, hcount⟩)
    · rw [List.take_append_of_le_length (Nat.le_of_lt (lt_length_of_getElem? h))]
      exact ⟨.inl h, hcount⟩
    · rw [List.take_left]
      exact ⟨.inr ⟨rfl, h⟩, hcount⟩

/-- No port joins twice. -/
theorem Joined.unique {first second : Nat} (h : Joined port history first)
    (h' : Joined port history second) : first = second := by
  have aux : ∀ {a b : Nat}, Joined port history a → Joined port history b → ¬ a < b := by
    intro a b ha hb hab
    have hlt := ha.lt_length
    have hsplit : history.take (a + 1) = history.take a ++ [.attach] := by
      rw [List.take_add_one, ha.1]
      rfl
    have hmore : (history.take (a + 1)).count .attach ≤ (history.take b).count .attach :=
      (List.take_sublist_take_left (Nat.succ_le_of_lt hab)).count_le _
    rw [hsplit, List.count_append, ha.2, hb.2] at hmore
    exact Nat.not_succ_le_self port hmore
  exact Nat.le_antisymm (Nat.le_of_not_lt (aux h' h)) (Nat.le_of_not_lt (aux h h'))

theorem listens_concat : Listens port (history ++ [action]) ↔
    (action = .attach ∧ history.count .attach = port) ∨
      (Listens port history ∧ action ≠ .dropReceiver port) := by
  constructor
  · rintro ⟨joined, hjoined, hkept⟩
    rcases joined_concat.1 hjoined with hold | ⟨-, hnew⟩
    · refine .inr ⟨⟨joined, hold, fun moment hmoment h => hkept moment hmoment ?_⟩, fun h => ?_⟩
      · exact (getElem?_concat_eq_some ..).2 (.inl h)
      · exact hkept _ hold.lt_length ((getElem?_concat_eq_some ..).2 (.inr ⟨rfl, h⟩))
    · exact .inl hnew
  · rintro (hnew | ⟨⟨joined, hjoined, hkept⟩, hother⟩)
    · exact ⟨history.length, joined_concat.2 (.inr ⟨rfl, hnew⟩),
        fun moment hmoment => getElem?_concat_ne_some hmoment _⟩
    · refine ⟨joined, joined_concat.2 (.inl hjoined), fun moment hmoment h => ?_⟩
      rcases (getElem?_concat_eq_some ..).1 h with h | ⟨-, h⟩
      · exact hkept moment hmoment h
      · exact hother h

theorem belongs_concat : Belongs port (history ++ [action]) ↔
    (action = .attach ∧ history.count .attach = port) ∨
      (Belongs port history ∧ action ≠ .detach port ∧ action ≠ .shutDown ∧
        ∀ sender frame, action = .send sender frame → (after history).refusal sender = none →
          sender ≠ port → Listens port history) := by
  constructor
  · rintro ⟨joined, hjoined, hkept, hserved⟩
    rcases joined_concat.1 hjoined with hold | ⟨-, hnew⟩
    · have hlast := hkept history.length hold.lt_length
      rw [List.getElem?_concat_length] at hlast
      refine .inr ⟨⟨joined, hold, fun moment hmoment => ?_, ?_⟩, ?_, ?_, ?_⟩
      · refine (hkept moment hmoment).imp (fun h h' => h ?_) fun h h' => h ?_ <;>
          exact (getElem?_concat_eq_some ..).2 (.inl h')
      · intro dropped hdropped h sending hsending hlater
        exact hserved dropped hdropped ((getElem?_concat_eq_some ..).2 (.inl h)) sending
          (mem_sendings_concat.2 (.inl hsending)) hlater
      · exact fun h => hlast.1 (congrArg some h)
      · exact fun h => hlast.2 (congrArg some h)
      · rintro sender frame rfl hrefusal hother
        refine ⟨joined, hold, fun dropped hdropped h => hother ?_⟩
        exact hserved dropped hdropped ((getElem?_concat_eq_some ..).2 (.inl h))
          ⟨history.length, sender, frame⟩ (mem_sendings_concat.2 (.inr ⟨rfl, rfl, hrefusal⟩))
          (lt_length_of_getElem? h)
    · exact .inl hnew
  · rintro (hnew | ⟨⟨joined, hjoined, hkept, hserved⟩, hdetach, hshutDown, hsend⟩)
    · exact ⟨history.length, joined_concat.2 (.inr ⟨rfl, hnew⟩), fun moment hmoment =>
        ⟨getElem?_concat_ne_some hmoment _, getElem?_concat_ne_some hmoment _⟩,
        fun dropped hdropped h => absurd h (getElem?_concat_ne_some hdropped _)⟩
    · refine ⟨joined, joined_concat.2 (.inl hjoined), fun moment hmoment => ⟨?_, ?_⟩, ?_⟩
      · intro h
        rcases (getElem?_concat_eq_some ..).1 h with h | ⟨-, h⟩
        · exact (hkept moment hmoment).1 h
        · exact hdetach h
      · intro h
        rcases (getElem?_concat_eq_some ..).1 h with h | ⟨-, h⟩
        · exact (hkept moment hmoment).2 h
        · exact hshutDown h
      · intro dropped hdropped h sending hsending hlater
        rcases (getElem?_concat_eq_some ..).1 h with h | ⟨hlast, -⟩
        · rcases mem_sendings_concat.1 hsending with hold | ⟨haction, -, hrefusal⟩
          · exact hserved dropped hdropped h sending hold hlater
          · refine Decidable.byContradiction fun hother => ?_
            obtain ⟨joined', hjoined', hlistens⟩ := hsend _ _ haction hrefusal hother
            rw [hjoined'.unique hjoined] at hlistens
            exact hlistens dropped hdropped h
        · exact absurd (mem_sendings.1 hsending).1
            (getElem?_concat_ne_some (hlast ▸ hlater) _)

theorem isListening_after (port : Nat) (history : List BusAction) :
    (after history).isListening port = true ↔ Listens port history := by
  induction history using List.reverseRecOn with
  | nil => simp [after, empty, isListening, Listens, Joined]
  | append_singleton history action ih =>
    rw [after_concat, listens_concat]
    by_cases h : action = .attach
    · subst h
      rw [isListening_attach, length_ports_after, ih, eq_comm]
      simp
    · rw [isListening_perform _ _ h, ih]
      simp [h]

/-- **The bus has the ports that belong to it.** -/
theorem isAttached_after (port : Nat) (history : List BusAction) :
    (after history).isAttached port = true ↔ Belongs port history := by
  induction history using List.reverseRecOn with
  | nil => simp [after, empty, isAttached, Belongs, Joined]
  | append_singleton history action ih =>
    rw [after_concat, belongs_concat]
    by_cases h : action = .attach
    · subst h
      rw [isAttached_attach, length_ports_after, ih, eq_comm]
      simp
    · rw [isAttached_perform _ _ h, ih, isListening_after]
      simp [h]

/-! ## Sends and dropped receivers -/

theorem exists_send_iff (port : Nat) (frame : Bytes) (history : List BusAction) :
    (∃ bus, (after history).send port frame = .ok bus) ↔
      .shutDown ∉ history ∧ Belongs port history := by
  rw [← isShutDown_after, ← isAttached_after, Bool.not_eq_true, ← refusal_eq_none_iff]
  unfold send
  cases (after history).refusal port <;> simp

theorem send_eq_error_iff (port : Nat) (frame : Bytes) (history : List BusAction)
    (e : MediumError) : (after history).send port frame = .error e ↔
      (.shutDown ∈ history ∧ e = .shutdown) ∨
        (.shutDown ∉ history ∧ ¬ Belongs port history ∧ e = .closed) := by
  rw [← isShutDown_after, ← isAttached_after]
  unfold send refusal
  cases (after history).isShutDown <;> cases (after history).isAttached port <;>
    simp [eq_comm]

theorem mem_sendings_iff {sending : Sending} : sending ∈ sendings history ↔
    history[sending.moment]? = some (.send sending.sender sending.frame) ∧
      .shutDown ∉ history.take sending.moment ∧
      Belongs sending.sender (history.take sending.moment) := by
  rw [mem_sendings, refusal_eq_none_iff, ← isShutDown_after, ← isAttached_after, Bool.not_eq_true]

theorem take_getElem? {moment other : Nat} {x : BusAction}
    (h : (history.take moment)[other]? = some x) : other < moment ∧ history[other]? = some x := by
  rw [List.getElem?_take] at h
  split at h
  · rename_i hlt
    exact ⟨hlt, h⟩
  · cases h

/-- The sends before a moment are sends of the history so far. -/
theorem mem_sendings_take {sending : Sending} {moment : Nat} (h : sending ∈ sendings history)
    (hlt : sending.moment < moment) : sending ∈ sendings (history.take moment) := by
  rw [mem_sendings] at h ⊢
  rw [List.getElem?_take_of_lt hlt, List.take_take, Nat.min_eq_left (Nat.le_of_lt hlt)]
  exact h

/-- **A port without a receiver** belongs to the bus until another one is heard. -/
theorem belongs_of_dropped {dropped : Nat}
    (hdropped : history[dropped]? = some (.dropReceiver port))
    (hmember : Belongs port (history.take dropped)) : Belongs port history ↔
      (∀ sending ∈ sendings history, dropped < sending.moment → sending.sender = port) ∧
      ∀ moment, dropped < moment →
        history[moment]? ≠ some (.detach port) ∧ history[moment]? ≠ some .shutDown := by
  obtain ⟨joined, hjoined, hkept, hserved⟩ := hmember
  have hbefore : joined < dropped := (take_getElem? hjoined.1).1
  have hjoin : Joined port history joined := by
    refine ⟨(take_getElem? hjoined.1).2, ?_⟩
    have hcount := hjoined.2
    rw [List.take_take, Nat.min_eq_left (Nat.le_of_lt hbefore)] at hcount
    exact hcount
  constructor
  · rintro ⟨joined', hjoined', hkept', hserved'⟩
    obtain rfl := hjoined'.unique hjoin
    exact ⟨hserved' dropped hbefore hdropped,
      fun moment hmoment => hkept' moment (Nat.lt_trans hbefore hmoment)⟩
  · rintro ⟨hsilent, hstays⟩
    refine ⟨joined, hjoin, fun moment hmoment => ?_, ?_⟩
    · rcases Nat.lt_trichotomy moment dropped with hlt | rfl | hgt
      · have hpast := hkept moment hmoment
        rw [List.getElem?_take_of_lt hlt] at hpast
        exact hpast
      · rw [hdropped]
        exact ⟨nofun, nofun⟩
      · exact hstays moment hgt
    · intro other hother h sending hsending hlater
      rcases Nat.lt_trichotomy sending.moment dropped with hlt | heq | hgt
      · refine hserved other hother ?_ sending (mem_sendings_take hsending hlt) hlater
        rw [List.getElem?_take_of_lt (Nat.lt_trans hlater hlt)]
        exact h
      · have hsend := (mem_sendings.1 hsending).1
        rw [heq, hdropped] at hsend
        cases hsend
      · exact hsilent sending hsending hgt

end SharedBus

end DeviceBus
