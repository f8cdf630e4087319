import DeviceBus.Proofs.Node.Dealings

/-!
# Happenings

What can happen to a node is a `Happening`; `Becomes` says what one makes of a node and what it adds
to the log. Drivers come by registration and go by being taken out, and the others are as they were.
`Fares` says how a driver fares in each happening: frames and ticks aside, whatever happens leaves
its stance alone.

## Main results

* `joins_register`, `unregister_cases`: how a driver comes and goes.
* `fares_of_becomes`: how a driver fares in one happening.
-/

namespace DeviceBus

open EventKind

/-! ## Happenings -/

/-- Something that happens to a node. -/
inductive Happening where
  /-- A driver is registered and gets a handle. -/
  | register (handle : Handle) (profile : DriverProfile) (driver : Driver)
  /-- A driver is taken out. -/
  | unregister (env : Env) (handle : Handle)
  /-- A frame arrives. -/
  | receive (env : Env) (frame : Bytes)
  /-- A tick passes. -/
  | tick (env : Env)
  /-- A driver works without its node. -/
  | work (handle : Handle) (driver : Driver)
  /-- The log is taken. -/
  | takeLog

namespace Happening

/-- The drivers that are registered are all admitted. -/
def IsAdmitted (admits : Driver → Prop) : Happening → Prop
  | register _ _ driver => admits driver
  | _ => True

/-- Who is registered after a happening, in the order of the registrations. -/
def enroll (roster : List (Handle × DriverProfile)) : Happening → List (Handle × DriverProfile)
  | register handle profile _ => roster ++ [(handle, profile)]
  | unregister _ handle => roster.filter (·.1 ≠ handle)
  | _ => roster

/-- Who is on a roster after a happening was on it before or was just registered. -/
theorem mem_enroll {roster : List (Handle × DriverProfile)} {x : Happening}
    {member : Handle × DriverProfile} (h : member ∈ x.enroll roster) :
    member ∈ roster ∨ ∃ driver, x = .register member.1 member.2 driver := by
  cases x with
  | register handle profile driver =>
    rcases List.mem_append.1 h with hold | hnew
    · exact .inl hold
    · rw [List.mem_singleton.1 hnew]
      exact .inr ⟨driver, rfl⟩
  | unregister env handle => exact .inl (List.mem_filter.1 h).1
  | _ => exact .inl h

/-- Whom nothing takes out stays on the roster. -/
theorem mem_enroll_of_stays {roster : List (Handle × DriverProfile)} {k : Handle}
    {profile : DriverProfile} (x : Happening) (h : (k, profile) ∈ roster)
    (hstays : ∀ env, x ≠ .unregister env k) : (k, profile) ∈ x.enroll roster := by
  cases x with
  | register => exact List.mem_append_left _ h
  | unregister env handle =>
    refine List.mem_filter.2 ⟨h, decide_eq_true ?_⟩
    rintro rfl
    exact hstays env rfl
  | _ => exact h

end Happening

/-- Whatever driver was registered under a handle is of a kind. -/
def Registers (k : Handle) (kind : Driver → Prop) (xs : List Happening) : Prop :=
  ∀ profile driver, .register k profile driver ∈ xs → kind driver

theorem Registers.of_append {k : Handle} {kind : Driver → Prop} {xs ys : List Happening}
    (h : Registers k kind (xs ++ ys)) : Registers k kind xs :=
  fun profile driver hmem => h profile driver (List.mem_append_left _ hmem)

/-- Who is registered after some happenings, in the order of the registrations. -/
def rosterOf (happenings : List Happening) : List (Handle × DriverProfile) :=
  happenings.foldl Happening.enroll []

theorem rosterOf_append_singleton (xs : List Happening) (x : Happening) :
    rosterOf (xs ++ [x]) = x.enroll (rosterOf xs) := by
  unfold rosterOf
  rw [List.foldl_append]
  rfl

namespace Node

/-- What a happening makes of a node, and what it adds to the log. -/
inductive Becomes : Happening → Node → List Action → Node → Prop where
  | register {node after : Node} {handle : Handle} {profile : DriverProfile} {driver : Driver}
      (ok : node.register profile driver = .ok (handle, after)) :
      Becomes (.register handle profile driver) node [] after
  | unregister {node after : Node} {env : Env} {handle : Handle} {left : Option Driver}
      {added : List Action} (ok : node.unregister env handle = .ok (left, after))
      (log : after.log = node.log ++ added) :
      Becomes (.unregister env handle) node added after
  | receive {node : Node} (env : Env) (frame : Bytes) {added : List Action}
      (log : (node.receiveFrame env frame).log = node.log ++ added) :
      Becomes (.receive env frame) node added (node.receiveFrame env frame)
  | tick {node : Node} (env : Env) {added : List Action}
      (log : (node.tick env).log = node.log ++ added) :
      Becomes (.tick env) node added (node.tick env)
  | work {node : Node} {handle : Handle} {registration : Registration} {driver : Driver}
      (held : node.registration? handle = some registration)
      (works : registration.driver.Works driver) :
      Becomes (.work handle driver) node []
        (node.modifyRegistration handle fun r => { r with driver })
  | takeLog {node : Node} : Becomes .takeLog node [] node.takeLog.2

variable {node : Node}

/-! ## No driver comes or goes by itself -/

theorem spares_receiveAnnounce (env : Env) (cp : ControlPacket) (node : Node) :
    Spares (fun _ => False) node (node.receiveAnnounce env cp) := by
  have hround := spares_round env cp node
  rcases receiveAnnounce_cases env cp node with heq | ⟨scan, hscan, -, -, heq⟩
  · rw [heq]
    exact hround
  · rw [hscan] at hround
    rw [heq]
    exact hround.trans ((spares_settle env cp scan).mono fun _ h => h.elim)

/-- A frame makes no driver come or go. -/
theorem spares_receiveFrame (env : Env) (frame : Bytes) (node : Node) :
    Spares (fun _ => False) node (node.receiveFrame env frame) := by
  cases node.arrival env frame with
  | announce _ heq =>
    rw [heq]
    exact spares_receiveAnnounce env _ node
  | pairing _ _ _ heq =>
    rw [heq]
    rcases receivePairing_eq_or env _ node with heq | ⟨handle, -, heq⟩
    · rw [heq]
      exact .refl _ _
    · rw [heq]
      exact (spares_call env handle _ node).mono fun _ h => h.elim
  | data _ _ _ heq =>
    rw [heq]
    exact (spares_foldl (spares_routeTo env _ _) node.registry.handles node).mono fun _ h => h.elim
  | nothing _ heq =>
    rw [heq]
    exact .refl _ _

/-- A tick makes no driver come or go. -/
theorem spares_tick (env : Env) (node : Node) : Spares (fun _ => False) node (node.tick env) :=
  (spares_foldl (spares_tickEntry env) node.registry.handles node).mono fun _ h => h.elim

/-! ## Coming and going -/

/-- A driver joined a node under a handle that nobody had, and the others are as they were. -/
structure Joins (handle : Handle) (profile : DriverProfile) (driver : Driver)
    (before after : Node) : Prop where
  settings : after.settings = before.settings
  log : after.log = before.log
  fresh : before.enrolled? handle = none
  newcomer : after.enrolled? handle = some (newcomer before.settings profile driver)
  others : ∀ k, k ≠ handle → after.enrolled? k = before.enrolled? k
  wellFormed : before.registry.WellFormed → after.registry.WellFormed
  drivers : before.registry.WellFormed → after.drivers = before.drivers ++ [handle]

theorem joins_register {profile : DriverProfile} {driver : Driver} {handle : Handle}
    {after : Node} (ok : node.register profile driver = .ok (handle, after)) :
    Joins handle profile driver node after := by
  obtain ⟨registry, hinsert, rfl⟩ := insert_of_register ok
  obtain ⟨hfree, hget⟩ := Registry.get?_of_insert hinsert
  have hothers : ∀ k, k ≠ handle →
      ({ node with registry } : Node).enrolled? k = node.enrolled? k := by
    intro k hk
    unfold enrolled?
    dsimp only
    rw [hget, if_neg hk]
  have hnew : ({ node with registry } : Node).enrolled? handle =
      some (newcomer node.settings profile driver) :=
    enrolled?_eq_some_iff.2 ((hget handle).trans (if_pos rfl))
  refine ⟨rfl, rfl, ?_, hnew, hothers, fun wf => wf.insert hinsert, fun wf => ?_⟩
  · unfold enrolled?
    rw [hfree]
  · unfold drivers
    dsimp only
    rw [wf.handles_of_insert hinsert, List.filter_append]
    refine congrArg₂ (· ++ ·) (List.filter_congr fun k hk => ?_) (by simp [hnew])
    have hne : k ≠ handle := by
      rintro rfl
      obtain ⟨entry, hentry⟩ := wf.mem_handles_iff.1 hk
      rw [hfree] at hentry
      cases hentry
    rw [hothers k hne]

/-- A driver left a node, and the others are as they were. -/
structure Departs (handle : Handle) (before after : Node) : Prop where
  settings : after.settings = before.settings
  log : after.log = before.log
  gone : after.enrolled? handle = none
  others : ∀ k, k ≠ handle → after.enrolled? k = before.enrolled? k
  wellFormed : before.registry.WellFormed → after.registry.WellFormed
  drivers : after.drivers = before.drivers.filter (· ≠ handle)

theorem departs_remove {handle : Handle} {entry : Entry} {registry : Registry Entry}
    (hremove : node.registry.remove handle = some (entry, registry)) :
    Departs handle node { node with registry } := by
  have hget := (Registry.get?_of_remove hremove).2
  have hothers : ∀ k, k ≠ handle →
      ({ node with registry } : Node).enrolled? k = node.enrolled? k := by
    intro k hk
    unfold enrolled?
    dsimp only
    rw [hget, if_neg hk]
  have hgone : ({ node with registry } : Node).enrolled? handle = none := by
    unfold enrolled?
    dsimp only
    rw [hget, if_pos rfl]
  refine ⟨rfl, rfl, hgone, hothers, fun wf => wf.remove hremove, ?_⟩
  unfold drivers
  dsimp only
  rw [Registry.handles_of_remove hremove, List.filter_filter, List.filter_filter]
  refine List.filter_congr fun k _ => ?_
  by_cases hk : k = handle
  · simp [hk, hgone]
  · simp [hk, hothers k hk]

/-- A connected driver is told before it leaves. -/
theorem unregister_cases {env : Env} {handle : Handle} {left : Option Driver} {after : Node}
    (ok : node.unregister env handle = .ok (left, after)) :
    ∃ told, Departs handle told after ∧ left = (told.registration? handle).map (·.driver) ∧
      (told = node ∧ (∀ status registration,
          node.enrolled? handle = some (status, registration) → status.isConnected = false) ∨
        told = node.tellRemoved env handle ∧ ∃ status registration,
          node.enrolled? handle = some (status, registration) ∧ status.isConnected = true) := by
  obtain ⟨⟨status, kind⟩, told, gone, registry, hentry, htold, hremove, rfl, rfl⟩ :=
    remove_of_unregister ok
  have hleft : gone.registration?.map (·.driver) = (told.registration? handle).map (·.driver) := by
    unfold registration?
    rw [(Registry.get?_of_remove hremove).1]
    rfl
  refine ⟨told, departs_remove hremove, hleft, ?_⟩
  cases kind with
  | record =>
    refine .inl ⟨htold, fun other registration hother => ?_⟩
    rw [enrolled?_of_get? hentry rfl] at hother
    cases hother
  | driver registration =>
    have hkept := enrolled?_eq_some_iff.2 hentry
    cases hconnected : status.isConnected with
    | true =>
      rw [if_pos (by simp [Entry.isRecord, hconnected])] at htold
      exact .inr ⟨htold, status, registration, hkept, hconnected⟩
    | false =>
      rw [if_neg (by simp [hconnected])] at htold
      refine .inl ⟨htold, fun other r hother => ?_⟩
      rw [hkept] at hother
      cases hother
      exact hconnected

/-! ## How a driver fares -/

/-- How a driver fares in one happening: its stance before, what is reported about its peer, how
often it is told that its partner is lost, and its stance afterwards. -/
inductive Fares (limit : UInt8) :
    Happening → Stance → List EventKind → Nat → Stance → Prop where
  /-- A tick counts the silence of the peer, and may end the patience with it. -/
  | tick (env : Env) (stance : Stance) :
      Fares limit (.tick env) stance (stance.partings limit) (stance.losses limit)
        (stance.age limit)
  /-- An announce of the peer breaks its silence, and a frame lets the standing take one turn. -/
  | receive (env : Env) (frame : Bytes) {stance : Stance} {events : List EventKind}
      {standing : Standing} (turn : stance.standing.Turn events standing) :
      Fares limit (.receive env frame) stance events 0
        { (helloOf? frame).elim stance stance.hear with standing }
  /-- Anything else is no matter of the driver. -/
  | aside (x : Happening) (stance : Stance) (noTick : ∀ env, x ≠ .tick env)
      (noFrame : ∀ env frame, x ≠ .receive env frame) : Fares limit x stance [] 0 stance

/-- Work is no matter between a driver and its peer. -/
theorem standing_of_works {before after : Driver} (h : before.Works after) :
    after.standing = before.standing ∧ after.pairs = before.pairs := by
  by_cases hpairable : ∃ p, before = .pairable p
  · obtain ⟨p, rfl⟩ := hpairable
    obtain ⟨gated, rfl, -, -⟩ := h.pairable
    exact ⟨rfl, rfl⟩
  · have hbefore : ∀ p, before ≠ .pairable p := fun p hp => hpairable ⟨p, hp⟩
    have hnone : ∀ {driver : Driver}, (∀ p, driver ≠ .pairable p) →
        driver.standing = .unpaired ∧ driver.pairs = false := by
      intro driver hdriver
      cases driver with
      | pairable p => exact absurd rfl (hdriver p)
      | _ => exact ⟨rfl, rfl⟩
    obtain ⟨hafter, -⟩ := h.not_pairable hbefore
    rw [(hnone hafter).1, (hnone hafter).2, (hnone hbefore).1, (hnone hbefore).2]
    exact ⟨rfl, rfl⟩

/-- Work makes no driver a probe, and no probe another driver. -/
theorem isProbe_of_works {before after : Driver} (h : before.Works after) :
    after.isProbe = before.isProbe := by
  cases before with
  | pairable p =>
    obtain ⟨gated, rfl, -, -⟩ := h.pairable
    rfl
  | _ =>
    cases h with
    | serve env handle request => cases request <;> rfl
    | run env number => rfl
    | reap => rfl

/-- The work of a driver concerns nobody else. -/
theorem spares_work {handle : Handle} {registration : Registration} {driver : Driver}
    (held : node.registration? handle = some registration)
    (works : registration.driver.Works driver) :
    Spares (· ≠ handle) node (node.modifyRegistration handle fun r => { r with driver }) := by
  obtain ⟨status, hentry⟩ := registration?_eq_some_iff.1 held
  have hkept := enrolled?_eq_some_iff.2 hentry
  refine spares_update rfl (fun wf => wf.modify handle _) (node.registry.handles_modify handle _)
    (fun k hk => ?_) ?_ ⟨[], (List.append_nil _).symm, fun _ _ => ⟨rfl, rfl⟩⟩
  · unfold modifyRegistration
    dsimp only
    rw [Registry.get?_modify, if_neg hk]
  · unfold probe?
    rw [enrolled?_modifyRegistration hkept, hkept]
    exact congrArg some (isProbe_of_works works)

/-- Work is no matter of stances. -/
theorem keeps_work {k : Handle} {stance : Stance} (h : node.Keeps k stance) {handle : Handle}
    {registration : Registration} {driver : Driver}
    (held : node.registration? handle = some registration)
    (works : registration.driver.Works driver) :
    Keeps k stance (node.modifyRegistration handle fun r => { r with driver }) := by
  by_cases hk : k = handle
  · subst hk
    obtain ⟨status, r, hkept, hfair, rfl⟩ := h
    obtain ⟨other, hother⟩ := registration?_eq_some_iff.1 held
    rw [enrolled?_eq_some_iff.1 hkept] at hother
    cases hother
    obtain ⟨hstanding, hpairs⟩ := standing_of_works works
    refine ⟨status, { registration with driver }, enrolled?_modifyRegistration hkept _, ?_, ?_⟩
    · exact ⟨works.steady.ordinary hfair.ordinary, hfair.role, hstanding ▸ hfair.marks,
        hstanding ▸ hfair.remote⟩
    · unfold Stance.of
      rw [hstanding, hpairs]
  · exact (deals_of_spares h (spares_work held works) hk).keeps

/-- How a driver fares in one happening, unless it is taken out. -/
theorem fares_of_becomes {k : Handle} {stance : Stance} (h : node.Keeps k stance)
    (wf : node.registry.WellFormed) {x : Happening} {added : List Action} {after : Node}
    (becomes : Becomes x node added after) (stays : ∀ env, x ≠ .unregister env k) :
    ∃ later, after.Keeps k later ∧ Fares node.settings.silenceTicks x stance
      (peerOnly (reportsOf k added)) (lossesOf k added) later := by
  have hadded : ∀ {after : Node} {added : List Action} {later : Stance}
      {reports : List EventKind} {losses : Nat}, Deals k node after later reports losses →
      after.log = node.log ++ added → reportsOf k added = reports ∧ lossesOf k added = losses := by
    intro after added later reports losses hdeals hlog
    obtain ⟨more, hmore, hreports, hlosses⟩ := hdeals.trace
    rw [List.append_cancel_left (hlog.symm.trans hmore)]
    exact ⟨hreports, hlosses⟩
  have haside : ∀ x : Happening, (∀ env, x ≠ .tick env) → (∀ env frame, x ≠ .receive env frame) →
      Fares node.settings.silenceTicks x stance (peerOnly (reportsOf k [])) (lossesOf k [])
        stance := fun x htick hframe => .aside x stance htick hframe
  cases becomes with
  | @register _ _ handle profile driver ok =>
    have hjoins := joins_register ok
    refine ⟨stance, ?_, haside _ (fun _ heq => by cases heq) fun _ _ heq => by cases heq⟩
    obtain ⟨status, registration, hkept, hfair, hstance⟩ := h
    refine ⟨status, registration, (hjoins.others k ?_).trans hkept, hfair, hstance⟩
    rintro rfl
    rw [hjoins.fresh] at hkept
    cases hkept
  | @unregister _ _ env handle left added ok log =>
    have hk : k ≠ handle := fun hk => stays env (hk ▸ rfl)
    obtain ⟨told, hdeparts, -, htold⟩ := unregister_cases ok
    have hdeals : Deals k node told stance [] 0 := by
      rcases htold with ⟨rfl, -⟩ | ⟨rfl, -⟩
      · exact .refl h
      · exact deals_of_spares h (spares_tellRemoved env handle node) hk
    obtain ⟨hreports, hlosses⟩ := hadded hdeals (hdeparts.log.symm.trans log)
    obtain ⟨status, registration, hkept, hfair, hstance⟩ := hdeals.keeps
    refine ⟨stance, ⟨status, registration, (hdeparts.others k hk).trans hkept, hfair, hstance⟩, ?_⟩
    rw [hreports, hlosses]
    exact .aside _ stance (fun _ heq => by cases heq) fun _ _ heq => by cases heq
  | receive env frame log =>
    obtain ⟨reports, standing, hturn, hdeals⟩ := turnsOnce_receiveFrame h wf env frame
    obtain ⟨hreports, hlosses⟩ := hadded hdeals log
    refine ⟨_, hdeals.keeps, ?_⟩
    rw [hreports, hlosses]
    refine .receive env frame ?_
    cases hhello : helloOf? frame with
    | none =>
      rw [hhello] at hturn
      exact hturn
    | some cp =>
      rw [hhello] at hturn
      exact standing_hear cp stance ▸ hturn
  | tick env log =>
    obtain ⟨reports, honly, hdeals⟩ := deals_tick h wf env
    obtain ⟨hreports, hlosses⟩ := hadded hdeals log
    refine ⟨_, hdeals.keeps, ?_⟩
    rw [hreports, honly, hlosses]
    exact .tick env stance
  | work held works =>
    exact ⟨stance, keeps_work h held works,
      haside _ (fun _ heq => by cases heq) fun _ _ heq => by cases heq⟩
  | takeLog =>
    exact ⟨stance, h, haside _ (fun _ heq => by cases heq) fun _ _ heq => by cases heq⟩

/-- What a driver was registered as does not change. -/
theorem Fares.same {limit : UInt8} {x : Happening} {stance later : Stance}
    {events : List EventKind} {losses : Nat} (h : Fares limit x stance events losses later) :
    later.mode = stance.mode ∧ later.deviceClass = stance.deviceClass ∧
      later.requiredSerial = stance.requiredSerial ∧ later.pairs = stance.pairs := by
  cases h with
  | tick env =>
    unfold Stance.age
    split <;> exact ⟨rfl, rfl, rfl, rfl⟩
  | receive env frame turn =>
    cases helloOf? frame with
    | none => exact ⟨rfl, rfl, rfl, rfl⟩
    | some cp =>
      unfold Stance.hear
      dsimp only [Option.elim]
      split <;> exact ⟨rfl, rfl, rfl, rfl⟩
  | aside => exact ⟨rfl, rfl, rfl, rfl⟩

end Node

end DeviceBus
