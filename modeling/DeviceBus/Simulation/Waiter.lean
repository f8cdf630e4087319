import DeviceBus.BusError
import DeviceBus.Event

/-!
# Waiting for a driver

An application that waits until a driver is ready listens to the events of the node and asks for
the status of the driver: at first, after every event of the driver, and when it lagged so far
behind that it lost events.
-/

namespace DeviceBus

/-- What an application that waits is about. -/
inductive WaitPhase where
  /-- Its question is on the way to the node. -/
  | asking
  /-- The answer is on the way back. -/
  | answered (answer : Except BusError (Option Status))
  /-- It waits for an event. -/
  | listening
  /-- It has its result. -/
  | ended (result : Except BusError Status)

/-- An application that waits until a driver is ready. -/
structure Waiter where
  handle : Handle
  ready : Status → Bool
  /-- The events since it listens that it did not read, oldest first. -/
  unread : List Event
  phase : WaitPhase

/-- The events that an application can lag behind before it loses some. -/
def World.eventBacklog : Nat := 64

namespace Waiter

/-- Listen from now on, and ask. -/
def subscribe (handle : Handle) (ready : Status → Bool) : Waiter := ⟨handle, ready, [], .asking⟩

/-- The node tells its application what happened. -/
def publish (events : List Event) (waiter : Waiter) : Waiter :=
  { waiter with unread := waiter.unread ++ events }

/-- The node answers a question. -/
def answer (answer : Except BusError (Option Status)) (waiter : Waiter) : Waiter :=
  match waiter.phase with
  | .asking => { waiter with phase := .answered answer }
  | _ => waiter

/-- What an answer comes to. -/
def weigh (answer : Except BusError (Option Status)) (waiter : Waiter) : WaitPhase :=
  match answer with
  | .error e => .ended (.error e)
  | .ok none => .ended (.error (.unknownDriver waiter.handle))
  | .ok (some status) => if waiter.ready status then .ended (.ok status) else .listening

/-- Read what there is to read next: an answer, or an event. Whoever lagged too far behind reads that
first, and goes on with the oldest event that was kept. -/
def read (waiter : Waiter) : Option Waiter :=
  match waiter.phase with
  | .answered answer => some { waiter with phase := waiter.weigh answer }
  | .listening =>
    if World.eventBacklog < waiter.unread.length then
      some { waiter with
        unread := waiter.unread.drop (waiter.unread.length - World.eventBacklog)
        phase := .asking }
    else
      match waiter.unread with
      | [] => none
      | event :: rest =>
        some { waiter with
          unread := rest
          phase := if event.handle = waiter.handle then .asking else .listening }
  | .asking | .ended _ => none

/-- The result, if it is there. -/
def result? (waiter : Waiter) : Option (Except BusError Status) :=
  match waiter.phase with
  | .ended result => some result
  | _ => none

/-- How much there is to do at most: an event can bring a question and its answer. -/
def pending (waiter : Waiter) : Nat :=
  3 * waiter.unread.length +
    match waiter.phase with
    | .asking => 2
    | .answered _ => 1
    | .listening | .ended _ => 0

theorem pending_answer {waiter : Waiter} (h : waiter.phase = .asking)
    (answer : Except BusError (Option Status)) :
    (waiter.answer answer).pending < waiter.pending := by
  unfold Waiter.answer pending
  rw [h]
  exact Nat.lt_succ_self _

theorem pending_read {waiter next : Waiter} (h : waiter.read = some next) :
    next.pending < waiter.pending := by
  unfold read at h
  unfold pending
  cases hphase : waiter.phase with
  | asking =>
    rw [hphase] at h
    cases h
  | ended result =>
    rw [hphase] at h
    cases h
  | answered answer =>
    rw [hphase] at h
    cases h
    have hweigh : ∀ other, waiter.weigh answer ≠ .answered other ∧ waiter.weigh answer ≠ .asking := by
      intro other
      unfold weigh
      split
      · exact ⟨nofun, nofun⟩
      · exact ⟨nofun, nofun⟩
      · split <;> exact ⟨nofun, nofun⟩
    dsimp only
    split
    · rename_i hasking
      exact absurd hasking (hweigh (.ok none)).2
    · rename_i other hother
      exact absurd hother (hweigh other).1
    all_goals omega
  | listening =>
    rw [hphase] at h
    dsimp only at h
    split at h
    · cases h
      simp only [List.length_drop, World.eventBacklog] at *
      omega
    · split at h
      · cases h
      · rename_i hunread
        cases h
        rw [hunread]
        dsimp only [List.length_cons]
        split <;> omega

end Waiter

end DeviceBus
