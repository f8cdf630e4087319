import DeviceBus.Proofs.Node.Entries
import DeviceBus.Proofs.Streaming.Phases

/-!
# Histories

Everything that can become of a node and its drivers. Beside what the node itself does, drivers
work: their applications ask something of them and the loops of their streams run, at any time and
without the node. A history says which drivers may be registered and which frames may arrive, so
that what depends on either can be told apart from what holds in any case.

## Main results

* `History.orderly`: addresses are in order in every history.
* `History.each`: an invariant of entries that also survives the work of drivers holds in every
  history.
* `History.streamerIs`: so does a property of streamers that survives whatever befalls them.
-/

namespace DeviceBus

namespace Driver

/-- The driver that pairs, if it is one. -/
def pairable? : Driver → Option Pairable
  | pairable p => some p
  | _ => none

theorem pairable?_eq_some_iff {driver : Driver} {p : Pairable} :
    driver.pairable? = some p ↔ driver = .pairable p := by
  constructor
  · intro h
    cases driver with
    | pairable q =>
      cases h
      rfl
    | quiet => cases h
    | probe probe => cases h
    | console console => cases h
    | logger client => cases h
  · rintro rfl
    rfl

/-- A driver that pairs stands with its peer as `Q` says. -/
def Stands (Q : Standing → Prop) : Driver → Prop
  | pairable p => Q p.state
  | _ => True

theorem Stands.mono {Q Q' : Standing → Prop} {driver : Driver} (h : driver.Stands Q)
    (himp : ∀ standing, Q standing → Q' standing) : driver.Stands Q' := by
  cases driver with
  | pairable p => exact himp p.state h
  | quiet => trivial
  | probe probe => trivial
  | console console => trivial
  | logger client => trivial

/-- A driver that is neither bonded nor asking. -/
def IsUnbonded (driver : Driver) : Prop := driver.Stands (· = .unpaired)

/-- What becomes of a driver without its node. -/
inductive Works : Driver → Driver → Prop where
  /-- Its application asks something of it. -/
  | serve (env : Env) (handle : Handle) (request : Request) (driver : Driver) :
      Works driver (driver.serve env handle request).driver
  /-- A loop of its stream runs. -/
  | run (env : Env) (number : Nat) (driver : Driver) :
      Works driver (driver.modifyStreamer fun s => (s.runLoop env number).2.2)
  /-- The loops that were cancelled exit. -/
  | reap (driver : Driver) : Works driver (driver.modifyStreamer Streamer.reap)

/-- Work behind the gate of a driver that pairs: the bond is none of its business. -/
theorem Works.pairable {p : Pairable} {after : Driver} (h : Works (.pairable p) after) :
    ∃ gated, after = .pairable { p with gated } ∧ gated.payload? = p.gated.payload? ∧
      ∀ {P}, Streamer.Survives P → p.gated.StreamerIs P → gated.StreamerIs P := by
  obtain ⟨state, gated⟩ := p
  cases h with
  | serve env handle request =>
    cases hrequest : request with
    | pairing => exact ⟨gated, rfl, rfl, fun _ h => h⟩
    | _ =>
      refine ⟨(gated.serve env handle request).driver, by rw [hrequest]; rfl, ?_,
        fun hP h => h.serve hP env handle request⟩
      cases gated with
      | idle => rfl
      | streamer s => rfl
      | application app =>
        unfold Gated.serve
        dsimp only
        split <;> rfl
  | run env number =>
    cases gated with
    | idle => exact ⟨.idle, rfl, rfl, fun _ h => h⟩
    | application app => exact ⟨.application app, rfl, rfl, fun _ h => h⟩
    | streamer s => exact ⟨_, rfl, rfl, fun hP h => hP (.runs env number) h⟩
  | reap =>
    cases gated with
    | idle => exact ⟨.idle, rfl, rfl, fun _ h => h⟩
    | application app => exact ⟨.application app, rfl, rfl, fun _ h => h⟩
    | streamer s => exact ⟨_, rfl, rfl, fun hP h => hP .reaps h⟩

/-- A driver that does not pair is one of the other kinds, whatever it works. -/
theorem Works.not_pairable {before after : Driver} (h : Works before after)
    (hbefore : ∀ p, before ≠ .pairable p) :
    (∀ p, after ≠ .pairable p) ∧ (before.IsOrdinary → after.IsOrdinary) := by
  cases before with
  | pairable p => exact absurd rfl (hbefore p)
  | quiet =>
    have hsame : after = .quiet := by
      cases h with
      | serve env handle request => cases request <;> rfl
      | run env number => rfl
      | reap => rfl
    rw [hsame]
    exact ⟨fun p hp => (by cases hp), id⟩
  | probe probe =>
    refine ⟨fun p hp => ?_, fun hordinary => hordinary.elim⟩
    have hsame : after = .probe probe := by
      cases h with
      | serve env handle request => cases request <;> rfl
      | run env number => rfl
      | reap => rfl
    rw [hsame] at hp
    cases hp
  | console console =>
    obtain ⟨c, hsame⟩ : ∃ c, after = .console c := by
      cases h with
      | serve env handle request => cases request <;> exact ⟨_, rfl⟩
      | run env number => exact ⟨_, rfl⟩
      | reap => exact ⟨_, rfl⟩
    rw [hsame]
    exact ⟨fun p hp => (by cases hp), id⟩
  | logger client =>
    obtain ⟨c, hsame⟩ : ∃ c, after = .logger c := by
      cases h with
      | serve env handle request => cases request <;> exact ⟨_, rfl⟩
      | run env number => exact ⟨_, rfl⟩
      | reap => exact ⟨_, rfl⟩
    rw [hsame]
    exact ⟨fun p hp => (by cases hp), id⟩

theorem payload?_of_not_pairable {driver : Driver} (h : ∀ p, driver ≠ .pairable p) :
    driver.payload? = none := by
  cases driver with
  | pairable p => exact absurd rfl (h p)
  | quiet => rfl
  | probe probe => rfl
  | console console => rfl
  | logger client => rfl

theorem stands_of_not_pairable {driver : Driver} (h : ∀ p, driver ≠ .pairable p)
    (Q : Standing → Prop) : driver.Stands Q := by
  cases driver with
  | pairable p => exact absurd rfl (h p)
  | quiet => trivial
  | probe probe => trivial
  | console console => trivial
  | logger client => trivial

theorem streamerIs_of_not_pairable {driver : Driver} (h : ∀ p, driver ≠ .pairable p)
    (P : Streamer → Prop) : driver.StreamerIs P := by
  cases driver with
  | pairable p => exact absurd rfl (h p)
  | quiet => trivial
  | probe probe => trivial
  | console console => trivial
  | logger client => trivial

/-- What work leaves alone. -/
structure Steady (before after : Driver) : Prop where
  ordinary : before.IsOrdinary → after.IsOrdinary
  payload : after.payload? = before.payload?
  stands : ∀ Q, before.Stands Q → after.Stands Q
  streamerIs : ∀ {P}, Streamer.Survives P → before.StreamerIs P → after.StreamerIs P

theorem Works.steady {before after : Driver} (h : Works before after) : Steady before after := by
  by_cases hpairable : ∃ p, before = .pairable p
  · obtain ⟨p, rfl⟩ := hpairable
    obtain ⟨gated, rfl, hpayload, hstreamer⟩ := h.pairable
    exact ⟨id, hpayload, fun _ hQ => hQ, hstreamer⟩
  · have hbefore : ∀ p, before ≠ .pairable p := fun p hp => hpairable ⟨p, hp⟩
    obtain ⟨hafter, hordinary⟩ := h.not_pairable hbefore
    refine ⟨hordinary, ?_, fun Q _ => stands_of_not_pairable hafter Q,
      fun _ _ => streamerIs_of_not_pairable hafter _⟩
    rw [payload?_of_not_pairable hafter, payload?_of_not_pairable hbefore]

end Driver

namespace Node

/-! ## Histories -/

/-- What can become of a fresh node: drivers that `admits` allows are registered and go, frames that
`meets` allows arrive, ticks pass, drivers work and the log is taken, each at any time. -/
inductive History (settings : NodeSettings) (draws : Draws) (admits : Driver → Prop)
    (meets : Node → Bytes → Prop) : Node → Prop where
  | start : History settings draws admits meets (withDraws settings draws)
  | register {node after : Node} {handle : Handle} {profile : DriverProfile} {driver : Driver}
      (before : History settings draws admits meets node) (ordinary : driver.IsOrdinary)
      (admitted : admits driver) (ok : node.register profile driver = .ok (handle, after)) :
      History settings draws admits meets after
  | unregister {node after : Node} {env : Env} {handle : Handle} {driver? : Option Driver}
      (before : History settings draws admits meets node)
      (ok : node.unregister env handle = .ok (driver?, after)) :
      History settings draws admits meets after
  | receive {node : Node} (env : Env) (frame : Bytes)
      (before : History settings draws admits meets node) (met : meets node frame) :
      History settings draws admits meets (node.receiveFrame env frame)
  | tick {node : Node} (env : Env) (before : History settings draws admits meets node) :
      History settings draws admits meets (node.tick env)
  | work {node : Node} {handle : Handle} {registration : Registration} {driver : Driver}
      (before : History settings draws admits meets node)
      (held : node.registration? handle = some registration)
      (works : registration.driver.Works driver) :
      History settings draws admits meets
        (node.modifyRegistration handle fun r => { r with driver })
  | takeLog {node : Node} (before : History settings draws admits meets node) :
      History settings draws admits meets node.takeLog.2

/-- A node that came about somehow: with any drivers, in whatever state they were registered, and
any frames. -/
abbrev Occurs (settings : NodeSettings) (draws : Draws) (node : Node) : Prop :=
  History settings draws (fun _ => True) (fun _ _ => True) node

variable {settings : NodeSettings} {draws : Draws} {admits : Driver → Prop}
  {meets : Node → Bytes → Prop} {node : Node}

theorem registration?_eq_some_iff {handle : Handle} {registration : Registration} :
    node.registration? handle = some registration ↔
      ∃ status, node.registry.get? handle = some ⟨status, .driver registration⟩ := by
  unfold registration?
  rw [Option.bind_eq_some_iff]
  constructor
  · rintro ⟨⟨status, kind⟩, hentry, hkind⟩
    cases kind with
    | driver r =>
      cases hkind
      exact ⟨status, hentry⟩
    | record => cases hkind
  · rintro ⟨status, hentry⟩
    exact ⟨_, hentry, rfl⟩

/-- The driver that pairs at a handle, if there is one. -/
def pairable? (handle : Handle) (node : Node) : Option Pairable :=
  (node.registration? handle).bind fun registration => registration.driver.pairable?

theorem pairable?_of_get? {handle : Handle} {status : Status} {registration : Registration}
    (hentry : node.registry.get? handle = some ⟨status, .driver registration⟩) {p : Pairable}
    (hdriver : registration.driver = .pairable p) : node.pairable? handle = some p := by
  unfold pairable?
  rw [registration?_eq_some_iff.2 ⟨status, hentry⟩]
  exact Driver.pairable?_eq_some_iff.2 hdriver

/-- The entry of a driver that pairs. -/
theorem get?_of_pairable? {handle : Handle} {status : Status} {p : Pairable}
    (hstatus : node.status? handle = some status) (hpairable : node.pairable? handle = some p) :
    ∃ registration, node.registry.get? handle = some ⟨status, .driver registration⟩ ∧
      registration.driver = .pairable p := by
  obtain ⟨registration, hregistration, hdriver⟩ := Option.bind_eq_some_iff.1 hpairable
  obtain ⟨status', hentry⟩ := registration?_eq_some_iff.1 hregistration
  rw [status?, hentry] at hstatus
  cases hstatus
  exact ⟨registration, hentry, Driver.pairable?_eq_some_iff.1 hdriver⟩

/-- The work of a driver is no matter of addresses. -/
theorem quiet_work (hsound : node.Sound) {handle : Handle} {registration : Registration}
    {driver : Driver} (hheld : node.registration? handle = some registration)
    (hworks : registration.driver.Works driver) :
    Quiet node (node.modifyRegistration handle fun r => { r with driver }) := by
  obtain ⟨status, hentry⟩ := registration?_eq_some_iff.1 hheld
  have hsteady := hworks.steady
  refine quiet_update hsound rfl (hsound.wellFormed.modify handle _)
    (node.registry.get?_modify handle _) ?_ ⟨[], (List.append_nil _).symm, rfl⟩
  intro entry hentry'
  rw [hentry] at hentry'
  cases hentry'
  obtain ⟨hordinary, hrole⟩ := hsound.entries handle _ hentry
  exact ⟨⟨hsteady.ordinary hordinary, hrole⟩, hsteady.payload, rfl⟩

/-- Addresses are in order in every history. -/
theorem History.orderly (h : History settings draws admits meets node) : node.Orderly := by
  induction h with
  | start => exact orderly_withDraws settings draws
  | register _ ordinary _ ok ih => exact ih.register ordinary ok
  | unregister _ ok ih => exact ih.unregister ok
  | receive env frame _ _ ih => exact ih.receiveFrame env frame
  | tick env _ ih => exact ih.tick env
  | work _ held works ih => exact ih.quiet (quiet_work ih.sound held works)
  | takeLog _ ih => exact ⟨⟨ih.sound.wellFormed, ih.sound.entries⟩, ih.lawful, ih.distinct⟩

end Node

/-- An invariant of entries that holds of fresh entries and survives the work of drivers. -/
structure Entry.Lasts (admits : Driver → Prop) (told : ControlPacket → Status → Prop)
    (P : Handle → Entry → Prop) : Prop extends IsInvariant told P where
  fresh : ∀ handle settings profile (registration : Registration),
    registration.driver.IsOrdinary → admits registration.driver →
    P handle ⟨Node.startStatus settings profile, .driver registration⟩
  work : ∀ {handle : Handle} {status : Status} {registration : Registration} {driver : Driver},
    registration.driver.Works driver → P handle ⟨status, .driver registration⟩ →
    P handle ⟨status, .driver { registration with driver }⟩

namespace Node

variable {settings : NodeSettings} {draws : Draws} {admits : Driver → Prop}
  {meets : Node → Bytes → Prop} {node : Node}

/-- What lasts holds of every entry in every history. -/
theorem History.each {told : ControlPacket → Status → Prop} {P : Handle → Entry → Prop}
    (lasts : Entry.Lasts admits told P)
    (hmeets : ∀ node frame, meets node frame → node.Admits told frame)
    (h : History settings draws admits meets node) : node.Each P := by
  have inv := lasts.toIsInvariant
  induction h with
  | start => exact each_withDraws P settings draws
  | @register node _ handle profile driver _ ordinary admitted ok ih =>
    obtain ⟨registry, hinsert, rfl⟩ := insert_of_register ok
    exact ih.insert hinsert (lasts.fresh _ _ profile _ ordinary admitted)
  | unregister _ ok ih => exact ih.unregister inv ok
  | receive env frame before met ih =>
    exact ih.receiveFrame inv before.orderly.sound.wellFormed env (hmeets _ frame met)
  | tick env _ ih => exact ih.tick inv env
  | @work node handle registration driver _ held works ih =>
    obtain ⟨status, hentry⟩ := registration?_eq_some_iff.1 held
    refine ih.update (node.registry.get?_modify handle _) ?_
    intro entry hentry' hold
    rw [hentry] at hentry'
    cases hentry'
    exact lasts.work works hold
  | takeLog _ ih => exact ih

end Node

/-! ## Streamers -/

/-- A driver that lets its bond go keeps what its streamer keeps. -/
theorem Gated.StreamerIs.letGo {P : Streamer → Prop} (hP : Streamer.Survives P) {driver : Pairable}
    (h : driver.gated.StreamerIs P) (ctx : Context) :
    (driver.letGo ctx).1.gated.StreamerIs P := by
  rcases driver.gated_letGo ctx with heq | ⟨place, heq⟩
  · rw [heq]
    exact h
  · rw [heq]
    exact h.unpaired hP place

/-- **Whatever a driver is told**, it keeps what its streamer keeps. -/
theorem Driver.StreamerIs.respond {P : Streamer → Prop} (hP : Streamer.Survives P)
    {driver : Driver} (h : driver.StreamerIs P) (callback : Callback) (ctx : Context) :
    (driver.respond callback ctx).driver.StreamerIs P := by
  cases driver with
  | quiet => trivial
  | probe p => trivial
  | console c =>
    unfold Driver.respond
    cases callback <;> trivial
  | logger client => trivial
  | pairable p =>
    have hgated : p.gated.StreamerIs P := h
    cases callback with
    | control cp =>
      show (p.onControl cp ctx).driver.gated.StreamerIs P
      rcases p.gated_onControl cp ctx with heq | ⟨place, heq⟩
      · rw [heq]
        exact hgated
      · rw [heq]
        exact hgated.unpaired hP place
    | data packet =>
      show (p.onData packet ctx).driver.gated.StreamerIs P
      unfold Pairable.onData
      split
      · split
        · exact hgated.onData hP packet ctx
        · exact hgated
      · exact hgated.onData hP packet ctx
    | connected => exact hgated.connected hP ctx
    | removed => exact (hgated.letGo hP ctx).removed hP _
    | partnerLost => exact hgated.letGo hP ctx

/-- The streamer of an entry, if it has one, has a property. -/
def Entry.StreamerIs (P : Streamer → Prop) (entry : Entry) : Prop :=
  ∀ registration, entry.kind = .driver registration → registration.driver.StreamerIs P

theorem Entry.lasts_streamerIs {P : Streamer → Prop} (hP : Streamer.Survives P) :
    Entry.Lasts (Driver.StreamerIs P) (fun _ _ => True) (fun _ => Entry.StreamerIs P) where
  record _ _ _ _ hkind := by cases hkind
  restate _ _ h := h
  rebook hdriver _ h registration hkind := by
    cases hkind
    rw [hdriver]
    exact h _ rfl
  tell _ h registration hkind := by
    cases hkind
    exact (h _ rfl).respond hP _ _
  fresh _ _ _ registration _ hadmits other hkind := by
    cases hkind
    exact hadmits
  work hworks h registration hkind := by
    cases hkind
    exact hworks.steady.streamerIs hP (h _ rfl)

namespace Node

variable {settings : NodeSettings} {draws : Draws} {meets : Node → Bytes → Prop} {node : Node}

/-- **The streamers of a node keep what nothing that befalls a streamer takes away.** -/
theorem History.streamerIs {P : Streamer → Prop} (hP : Streamer.Survives P)
    (h : History settings draws (Driver.StreamerIs P) meets node) {handle : Handle}
    {registration : Registration} (hheld : node.registration? handle = some registration) :
    registration.driver.StreamerIs P := by
  have hadmits : ∀ node frame, meets node frame → node.Admits (fun _ _ => True) frame :=
    fun _ _ _ _ _ => ⟨fun _ _ => trivial, fun _ _ _ _ _ => trivial⟩
  obtain ⟨status, hentry⟩ := registration?_eq_some_iff.1 hheld
  exact History.each (Entry.lasts_streamerIs hP) hadmits h handle _ hentry _ rfl

/-! ## A node with one driver -/

/-- Whoever is there is the only one there is. -/
theorem eq_of_handles_eq_singleton (hsound : node.Sound) {handle k : Handle}
    (hhandles : node.registry.handles = [handle]) {status : Status}
    (hstatus : node.status? k = some status) : k = handle := by
  obtain ⟨entry, hentry, -⟩ := Option.map_eq_some_iff.1 hstatus
  have hlisted : k ∈ node.registry.handles :=
    hsound.wellFormed.mem_handles_iff.2 ⟨entry, hentry⟩
  rw [hhandles] at hlisted
  exact List.mem_singleton.1 hlisted

end Node

/-- A step whose sends are all taken. -/
def Env.taking : Env := { refusal := none, now := 0 }

namespace Node

variable {admits : Driver → Prop} {meets : Node → Bytes → Prop}

/-- A fresh node with one driver. -/
def withDriver (profile : DriverProfile) (driver : Driver) : Node :=
  match (withDraws {} ⟨fun _ => 0, 0⟩).register profile driver with
  | .ok (_, node) => node
  | .error _ => withDraws {} ⟨fun _ => 0, 0⟩

theorem history_withDriver (profile : DriverProfile) {driver : Driver}
    (hordinary : driver.IsOrdinary) (hadmits : admits driver) :
    History {} ⟨fun _ => 0, 0⟩ admits meets (withDriver profile driver) := by
  unfold withDriver
  split
  · rename_i hregister
    exact .register .start hordinary hadmits hregister
  · exact .start

/-- A node some ticks later, if nothing else happens. -/
def afterTicks : Nat → Node → Node
  | 0, node => node
  | ticks + 1, node => afterTicks ticks (node.tick .taking)

/-- The last of some ticks comes after the others. -/
theorem afterTicks_succ (ticks : Nat) (node : Node) :
    node.afterTicks (ticks + 1) = (node.afterTicks ticks).tick .taking := by
  induction ticks generalizing node with
  | zero => rfl
  | succ ticks ih => exact ih (node.tick .taking)

theorem History.afterTicks {settings : NodeSettings} {draws : Draws} {node : Node}
    (h : History settings draws admits meets node) (ticks : Nat) :
    History settings draws admits meets (node.afterTicks ticks) := by
  induction ticks generalizing node with
  | zero => exact h
  | succ ticks ih => exact ih (.tick .taking h)

end Node

end DeviceBus
