import DeviceBus.Proofs.Console.Lines
import DeviceBus.Proofs.Node.Protocol

/-!
# The link of a log client

A log client has the address of its host whenever its driver is connected, and no address otherwise.
It follows its host at once: the announce that moves the status is shown to the client, too.

## Main results

* `LinkIsCurrent.episode`: every episode keeps the link at the address in the status.
* `Comes.linked`: so does whatever happens to a node.
-/

namespace DeviceBus

/-- A log client is made without a host. -/
def Driver.IsUnlinked (driver : Driver) : Prop := driver.isLogger = true → driver.link? = none

namespace Node

variable {x : Happening} {k : Handle} {start node : Node} {before after : Kept}
  {story : List Action}

/-- The link is the address in the status while the driver is connected, and there is none
otherwise. -/
def LinkIsCurrent (kept : Kept) : Prop :=
  kept.2.driver.link? = if kept.1.isConnected then some kept.1.address else none

/-- A log client has a role, and if it is a remote driver its link is current. -/
def Linked (kept : Kept) : Prop :=
  kept.2.driver.isLogger = true → ∃ role : Role, DeviceFlags.mode kept.1.flags = role.flags ∧
    (role = .virtual → LinkIsCurrent kept)

theorem isDiscreet_of_isLogger {driver : Driver} (h : driver.isLogger = true) :
    driver.IsDiscreet := by
  cases driver with
  | logger client => trivial
  | _ => cases h

/-- A log client leaves its status alone and follows what it is told. -/
theorem Replies.ofLogger {callback : Callback} {talk : List EventKind}
    (replies : Replies k callback before talk after) (hlogger : before.2.driver.isLogger = true) :
    after.1 = before.1 ∧ after.2.driver.isLogger = true ∧
      after.2.driver.link? = before.2.driver.linkAfter callback before.1.address := by
  refine ⟨?_, replies.kind.2.trans hlogger, replies.link⟩
  obtain ⟨ctx, -, hstatus, heq⟩ := replies.place
  obtain ⟨status, registration⟩ := before
  cases hdriver : registration.driver with
  | logger client =>
    rw [heq, ← hstatus]
    simp only [hdriver]
    rfl
  | _ =>
    dsimp only at hlogger
    rw [hdriver] at hlogger
    cases hlogger

/-- What is no matter of the address is no matter of the link. -/
theorem LinkIsCurrent.of_tenancy_eq {status later : Status} {registration : Registration}
    (h : LinkIsCurrent (status, registration)) (htenancy : later.tenancy = status.tenancy) :
    LinkIsCurrent (later, registration) := by
  have haddress : later.address = status.address := congrArg Tenancy.address htenancy
  have hsame : later.isConnected = status.isConnected := congrArg Tenancy.isConfirmed htenancy
  unfold LinkIsCurrent
  rw [haddress, hsame]
  exact h

/-- A log client that was told that its device is gone has no link. -/
theorem linkIsCurrent_of_removed {talk : List EventKind}
    (replies : Replies k .removed before talk after) (hlogger : before.2.driver.isLogger = true)
    (hgone : before.1.isConnected = false) : LinkIsCurrent after := by
  obtain ⟨hstatus, -, hlink⟩ := replies.ofLogger hlogger
  unfold LinkIsCurrent
  rw [hlink, hstatus, hgone]
  rfl

/-- A log client that was told that its device is there has the address of the device. -/
theorem linkIsCurrent_of_connected {talk : List EventKind}
    (replies : Replies k .connected before talk after) (hlogger : before.2.driver.isLogger = true)
    (hthere : before.1.isConnected = true) : LinkIsCurrent after := by
  obtain ⟨hstatus, -, hlink⟩ := replies.ofLogger hlogger
  unfold LinkIsCurrent
  rw [hlink, hstatus, hthere]
  simp [Driver.linkAfter, hlogger]

/-- A log client that has a link while it is connected, at whatever address, takes the address in
its status over with an announce. -/
theorem linkIsCurrent_of_control {talk : List EventKind} {cp : ControlPacket}
    (replies : Replies k (.control cp) before talk after)
    (hlogger : before.2.driver.isLogger = true)
    (hlinked : before.2.driver.link?.isSome = before.1.isConnected) : LinkIsCurrent after := by
  obtain ⟨hstatus, -, hlink⟩ := replies.ofLogger hlogger
  unfold LinkIsCurrent
  rw [hlink, hstatus, ← hlinked]
  cases hbefore : before.2.driver.link? with
  | none => simp [Driver.linkAfter, hlogger, hbefore]
  | some address => simp [Driver.linkAfter, hlogger, hbefore]

theorem LinkIsCurrent.isSome_link? (h : LinkIsCurrent before) :
    before.2.driver.link?.isSome = before.1.isConnected := by
  unfold LinkIsCurrent at h
  rw [h]
  cases before.1.isConnected <;> rfl

/-- Data and the loss of a partner are no matter of a log client. -/
theorem LinkIsCurrent.told (h : LinkIsCurrent before) {callback : Callback}
    {talk : List EventKind} (replies : Replies k callback before talk after)
    (hlogger : before.2.driver.isLogger = true) (hheard : IsHeard x start k before callback) :
    LinkIsCurrent after := by
  obtain ⟨hstatus, -, hlink⟩ := replies.ofLogger hlogger
  cases callback with
  | control cp => exact linkIsCurrent_of_control replies hlogger h.isSome_link?
  | data packet =>
    have hdeaf : before.2.driver.obeys packet = false := by
      revert hlogger
      cases before.2.driver <;> simp [Driver.isLogger, Driver.obeys]
    unfold LinkIsCurrent
    rw [hlink, hstatus]
    simp only [Driver.linkAfter, hdeaf, Bool.false_eq_true, if_false]
    exact h
  | partnerLost =>
    unfold LinkIsCurrent
    rw [hlink, hstatus]
    exact h
  | connected => exact hheard.elim
  | removed => exact hheard.elim

/-- **Every episode of a remote log client keeps its link current.** -/
theorem LinkIsCurrent.episode (h : LinkIsCurrent before)
    (hlogger : before.2.driver.isLogger = true)
    (hmode : DeviceFlags.mode before.1.flags = Role.virtual.flags)
    (hepisode : Episode x start k before story after) : LinkIsCurrent after := by
  have hremote : before.1.isLocal ≠ true := by
    rw [isLocal_of_mode hmode]
    decide
  cases hepisode with
  | booked driver =>
    unfold LinkIsCurrent
    rw [driver]
    exact h
  | noticed tenancy => exact h.of_tenancy_eq tenancy
  | told heard replies => exact h.told replies hlogger heard
  | @moved cp status registration _ talk brings follows replies =>
    -- the status has moved, and the announce takes the link along
    have hconnected : status.isConnected = true := (follows_iff.1 follows).2.1
    refine linkIsCurrent_of_control replies hlogger ?_
    exact h.isSome_link?.trans (hconnected.trans
      ((Status.isConnected_mark_seen status).trans hconnected).symm)
  | @adopted cp status registration mid _ talk more brings awaits connected replies =>
    have hthere : (status.found cp).isConnected = true :=
      Flags.contains_insert_of_subset _ (by decide)
    have hmid := linkIsCurrent_of_connected connected hlogger hthere
    exact linkIsCurrent_of_control replies (connected.ofLogger hlogger).2.1 hmid.isSome_link?
  | drawn own => exact absurd own hremote
  | confirmed own => exact absurd own hremote
  | lost own => exact absurd own hremote
  | evicted own => exact absurd own hremote
  | @vacated status registration _ talk remote connected replies =>
    exact linkIsCurrent_of_removed replies hlogger (Status.isConnected_vacated _ _)
  | worked works =>
    unfold LinkIsCurrent
    rw [works.sameLink.link]
    exact h

theorem Episode.isLogger (h : Episode x start k before story after) :
    after.2.driver.isLogger = before.2.driver.isLogger := by
  cases h with
  | booked driver => exact congrArg _ driver
  | noticed => rfl
  | told _ replies => exact replies.kind.2
  | moved _ _ replies => exact replies.kind.2
  | adopted _ _ connected replies => exact replies.kind.2.trans connected.kind.2
  | drawn => rfl
  | confirmed _ _ _ replies => exact replies.kind.2
  | lost => rfl
  | evicted _ _ _ replies => exact replies.kind.2
  | vacated _ _ replies => exact replies.kind.2
  | worked works => exact works.sameLink.isLogger

theorem Linked.episode (h : Linked before) (hepisode : Episode x start k before story after) :
    Linked after := by
  intro hafter
  have hlogger : before.2.driver.isLogger = true := hepisode.isLogger.symm.trans hafter
  obtain ⟨role, hmode, hlink⟩ := h hlogger
  have hadvances := (hepisode.advances (isDiscreet_of_isLogger hlogger) hmode).2
  refine ⟨role, hadvances.mode_eq.trans hmode, ?_⟩
  rintro rfl
  exact (hlink rfl).episode hlogger hmode hepisode

/-- Log clients are linked after everything that happens, if new ones have no host. -/
theorem linked_of_becomes (h : ∀ k kept, node.enrolled? k = some kept → Linked kept)
    (wf : node.registry.WellFormed) {added : List Action} {later : Node}
    (becomes : Becomes x node added later) (hadmitted : x.IsAdmitted Driver.IsUnlinked) :
    ∀ k kept, later.enrolled? k = some kept → Linked kept := by
  intro k kept hkept
  have hprobe : later.probe? k = some kept.2.driver.isProbe := probe?_of_enrolled? hkept
  rcases probe?_of_becomes becomes hprobe with ⟨hbefore, hstays⟩ | ⟨profile, driver, rfl, -⟩
  · obtain ⟨was, hwas, -⟩ := Option.map_eq_some_iff.1 hbefore
    obtain ⟨last, hlast, hstory⟩ := story_of_becomes hwas wf becomes hstays
    rw [hkept] at hlast
    cases hlast
    exact hstory.keeps (h k was hwas) fun hpast hepisode => hpast.episode hepisode
  · cases becomes with
    | register ok =>
      rw [(joins_register ok).newcomer] at hkept
      cases hkept
      intro hlogger
      refine ⟨profile.role, mode_startStatus _ profile, fun hrole => ?_⟩
      have hunconnected : (newcomer node.settings profile driver).1.isConnected = false := by
        have hnoSniffer : profile.role ≠ .sniffer := by
          rw [hrole]
          decide
        exact congrArg Tenancy.isConfirmed (tenancy_startStatus node.settings hnoSniffer)
      unfold LinkIsCurrent
      rw [hunconnected]
      exact hadmitted hlogger

/-- **The link of every remote log client is current**, whatever happened to its node. -/
theorem Comes.linked {settings : NodeSettings} {draws : Draws} {xs : List Happening}
    (h : Comes settings draws Driver.IsUnlinked xs node) :
    ∀ k kept, node.enrolled? k = some kept → Linked kept := by
  obtain ⟨trace, hcourse⟩ := h
  induction hcourse with
  | here => exact fun k kept => nofun
  | next before admitted becomes _ ih =>
    exact linked_of_becomes ih (Comes.wellFormed ⟨_, before⟩) becomes admitted

end Node

end DeviceBus
