import DeviceBus.Proofs.Node.Episodes

/-!
# The protocol of lifecycle events

What is reported about the device of a driver comes in rounds. A round of an own driver is the
life of one address: it is drawn and lost, or drawn, confirmed, lost and taken from the driver. A
round of a remote driver is the stay of one device: it is connected and removed. The round that is
under way can be told from the status alone.

Two kinds of these reports are also told to the driver, in the order in which they are reported:
that the device is there, and that it is gone.

The driver must leave the flags of its role and of its address to the node. All drivers do, except
for probes that are made to set such flags; what the other drivers do makes no difference.

## Main results

* `InRounds.episode`: what one episode adds to the rounds of a driver.
* `protocol_of_course`: the lifecycle events of every driver that is no sniffer, in every course of
  events after its registration, and at its end.
-/

namespace DeviceBus

open ControlPacket EventKind

/-! ## Discreet drivers -/

namespace Driver

/-- A driver that sets neither a flag of its role nor one of its address. -/
def IsDiscreet : Driver → Prop
  | probe p => DeviceFlags.official.IsDisjoint p.marks ∧ DeviceFlags.unconfirmed.IsDisjoint p.marks
  | _ => True

theorem IsOrdinary.isDiscreet {driver : Driver} (h : driver.IsOrdinary) : driver.IsDiscreet := by
  cases driver with
  | probe p => exact h.elim
  | _ => trivial

/-- Whatever a discreet driver is told, its tenancy stays what it was. -/
theorem IsDiscreet.respond {driver : Driver} (h : driver.IsDiscreet) (callback : Callback)
    (ctx : Context) : (driver.respond callback ctx).driver.IsDiscreet ∧
      (driver.respond callback ctx).context.status.tenancy = ctx.status.tenancy := by
  by_cases hordinary : driver.IsOrdinary
  · have htame := respond_spec hordinary callback ctx
    exact ⟨htame.ordinary.isDiscreet, Status.tenancy_eq_of_unbonded_eq htame.unbonded⟩
  · cases driver with
    | probe p =>
      refine ⟨h, ?_⟩
      by_cases hcallback : ∃ cp, callback = .control cp
      · obtain ⟨cp, rfl⟩ := hcallback
        obtain ⟨hofficial, hunconfirmed⟩ := h
        have heq := Status.official_mark ctx.status hofficial
        have hmark : (ctx.status.mark p.marks).isUnconfirmed = ctx.status.isUnconfirmed :=
          Flags.contains_insert_of_disjoint ctx.status.flags hunconfirmed
        have hconfirmed : (ctx.status.mark p.marks).isConfirmed = ctx.status.isConfirmed :=
          Status.isConnected_of_official_eq heq
        show (ctx.status.mark p.marks).tenancy = ctx.status.tenancy
        simp only [Status.tenancy, hmark, hconfirmed, Status.mode_of_official_eq heq]
        rfl
      · exact congrArg Status.tenancy (p.status_respond (fun cp hcp => hcallback ⟨cp, hcp⟩) ctx)
    | _ => exact absurd trivial hordinary

theorem IsDiscreet.works {before after : Driver} (h : before.IsDiscreet)
    (works : before.Works after) : after.IsDiscreet := by
  cases before with
  | probe p =>
    have hsame : after = .probe p := by
      cases works with
      | serve env handle request => cases request <;> rfl
      | run env number => rfl
      | reap => rfl
    rw [hsame]
    exact h
  | _ => exact (isOrdinary_iff.2 (Node.isProbe_of_works works)).isDiscreet

end Driver

/-- What a discreet driver replies leaves its tenancy alone. -/
theorem Node.Replies.discreet {k : Handle} {callback : Callback} {before after : Kept}
    {talk : List EventKind} (h : Node.Replies k callback before talk after)
    (hdiscreet : before.2.driver.IsDiscreet) :
    after.2.driver.IsDiscreet ∧ after.1.tenancy = before.1.tenancy := by
  obtain ⟨ctx, -, hstatus, rfl⟩ := h.place
  obtain ⟨hafter, htenancy⟩ := hdiscreet.respond callback ctx
  exact ⟨hafter, htenancy.trans (congrArg Status.tenancy hstatus)⟩

/-- A driver whose device is gone is not connected. -/
theorem Status.isConnected_vacated (pinned : UInt32) (status : Status) :
    (status.vacated pinned).isConnected = false := by
  have hnone : (status.vacated pinned).flags.restrict DeviceFlags.confirmed = Flags.none :=
    Flags.restrict_restrict_of_disjoint status.flags (by decide)
  have hself : DeviceFlags.confirmed.IsSubset DeviceFlags.confirmed := by decide
  unfold isConnected isConfirmed
  rw [← Flags.contains_restrict_of_subset _ hself, hnone]
  rfl

/-! ## Milestones -/

namespace EventKind

/-- A matter of the driver's device: everything but what is between the driver and its peer. -/
def isMilestone : EventKind → Bool
  | addressDrawn _ | connected _ | addressLost _ | removed => true
  | paired _ | unpaired | pairRejected => false

/-- The reports about the device. -/
def milestones (reports : List EventKind) : List EventKind := reports.filter (·.isMilestone)

@[simp] theorem milestones_append (xs ys : List EventKind) :
    milestones (xs ++ ys) = milestones xs ++ milestones ys := List.filter_append ..

/-- What a driver is told with a report about its device. -/
def tiding? : EventKind → Option Callback
  | connected _ => some .connected
  | removed => some .removed
  | _ => none

/-- What a driver is told with some reports. -/
def tidings (reports : List EventKind) : List Callback := reports.filterMap tiding?

@[simp] theorem tidings_append (xs ys : List EventKind) :
    tidings (xs ++ ys) = tidings xs ++ tidings ys := List.filterMap_append

theorem isMilestone_eq_not (kind : EventKind) : kind.isMilestone = !kind.concernsPeer := by
  cases kind <;> rfl

theorem milestones_of_concernsPeer {talk : List EventKind}
    (h : ∀ kind ∈ talk, kind.concernsPeer = true) : milestones talk = [] := by
  refine List.filter_eq_nil_iff.2 fun kind hkind => ?_
  rw [isMilestone_eq_not, h kind hkind]
  exact Bool.false_ne_true

/-- Only reports about the device are told. -/
theorem tidings_milestones (reports : List EventKind) :
    tidings (milestones reports) = tidings reports := by
  unfold tidings milestones
  rw [List.filterMap_filter]
  refine List.filterMap_congr fun kind _ => ?_
  cases kind <;> rfl

end EventKind

/-- The driver is told that its device is there, or that it is gone. -/
def Callback.isTiding : Callback → Bool
  | .connected | .removed => true
  | _ => false

/-- What a driver is told about whether its device is there. -/
def tidingsFor (k : Handle) (log : List Action) : List Callback :=
  (callsOf k log).filter (·.isTiding)

@[simp] theorem tidingsFor_append (k : Handle) (a b : List Action) :
    tidingsFor k (a ++ b) = tidingsFor k a ++ tidingsFor k b := by
  unfold tidingsFor
  rw [callsOf_append, List.filter_append]

section

variable {k : Handle}

theorem reportsOf_map_report (k : Handle) (talk : List EventKind) :
    reportsOf k (talk.map (.report k)) = talk := by
  refine reportsOf_of_eventsOf ?_
  unfold eventsOf
  rw [List.filterMap_map, ← List.filterMap_eq_map]
  rfl

theorem callsOf_map_report (k : Handle) (talk : List EventKind) :
    callsOf k (talk.map (.report k)) = [] := by
  rw [callsOf, List.filterMap_map, List.filterMap_eq_nil_iff]
  exact fun _ _ => rfl

/-- What is reported when something is reported, the driver is told something and reports something
about its peer. -/
theorem milestones_sequel (reports : List EventKind) {callback : Callback}
    {talk : List EventKind} (htalk : ∀ kind ∈ talk, kind.concernsPeer = true) :
    milestones (reportsOf k (sequel k reports callback talk)) = milestones reports := by
  rw [sequel, reportsOf_append, reportsOf_map_report, reportsOf_called, reportsOf_map_report,
    milestones_append, milestones_of_concernsPeer htalk, List.append_nil]

/-- The driver is told what is reported about whether its device is there, if that goes for the one
thing that it is told. -/
theorem tidings_sequel (reports : List EventKind) {callback : Callback} {talk : List EventKind}
    (hreports : (if callback.isTiding then [callback] else []) = tidings reports)
    (htalk : ∀ kind ∈ talk, kind.concernsPeer = true) :
    tidingsFor k (sequel k reports callback talk) =
      tidings (reportsOf k (sequel k reports callback talk)) := by
  have hcalls : tidingsFor k (sequel k reports callback talk) =
      if callback.isTiding then [callback] else [] := by
    unfold tidingsFor sequel
    rw [callsOf_append, callsOf_map_report, callsOf_called_self, callsOf_map_report,
      List.nil_append, List.filter_cons, List.filter_nil]
  rw [hcalls, hreports, ← tidings_milestones (reportsOf k _), milestones_sequel reports htalk,
    tidings_milestones]

end

/-! ## Rounds -/

/-- The life of an own address, as it is reported. -/
inductive OwnRound : List EventKind → Prop where
  | unconfirmed (address : UInt8) : OwnRound [.addressDrawn address, .addressLost address]
  | confirmed (address : UInt8) : OwnRound
      [.addressDrawn address, .connected address, .addressLost address, .removed]

/-- The stay of the device of a remote driver, as it is reported. -/
inductive RemoteRound : List EventKind → Prop where
  | stay (address : UInt8) : RemoteRound [.connected address, .removed]

/-- Reports that are rounds, one after the other, the last of them maybe not over. -/
def Repeats (round : List EventKind → Prop) (reports : List EventKind) : Prop :=
  ∃ rounds : List (List EventKind), (∀ r ∈ rounds, round r) ∧ reports <+: rounds.flatten

/-- Reports that are rounds, one after the other, and the beginning of one that is under way. -/
def Reaches (round : List EventKind → Prop) (underway reports : List EventKind) : Prop :=
  ∃ rounds : List (List EventKind), (∀ r ∈ rounds, round r) ∧ reports = rounds.flatten ++ underway

section

variable {round : List EventKind → Prop} {underway reports : List EventKind}

theorem reaches_nil (round : List EventKind → Prop) : Reaches round [] [] :=
  ⟨[], fun _ h => (List.not_mem_nil h).elim, rfl⟩

/-- A round goes on. -/
theorem Reaches.more (h : Reaches round underway reports) (more : List EventKind) :
    Reaches round (underway ++ more) (reports ++ more) := by
  obtain ⟨rounds, hrounds, rfl⟩ := h
  exact ⟨rounds, hrounds, List.append_assoc ..⟩

/-- A round is over. -/
theorem Reaches.close (h : Reaches round underway reports) (hround : round underway) :
    Reaches round [] reports := by
  obtain ⟨rounds, hrounds, rfl⟩ := h
  refine ⟨rounds ++ [underway], fun r hr => ?_, by simp⟩
  rcases List.mem_append.1 hr with hmem | hlast
  · exact hrounds r hmem
  · rw [List.mem_singleton.1 hlast]
    exact hround

/-- What is under way is the beginning of a round. -/
theorem Reaches.repeats (h : Reaches round underway reports)
    (hbegins : underway = [] ∨ ∃ rest, round (underway ++ rest)) : Repeats round reports := by
  obtain ⟨rounds, hrounds, rfl⟩ := h
  rcases hbegins with rfl | ⟨rest, hround⟩
  · exact ⟨rounds, hrounds, by simp⟩
  · refine ⟨rounds ++ [underway ++ rest], fun r hr => ?_, rest, by simp⟩
    rcases List.mem_append.1 hr with hmem | hlast
    · exact hrounds r hmem
    · rw [List.mem_singleton.1 hlast]
      exact hround

/-- The last that a driver was told is that its device is there exactly if the round under way says
so, for no round ends with it. -/
theorem Reaches.getLast? (h : Reaches round underway reports)
    (hround : ∀ r, round r → (tidings r).getLast? ≠ some .connected) :
    (tidings reports).getLast? = some .connected ↔
      (tidings underway).getLast? = some .connected := by
  obtain ⟨rounds, hrounds, rfl⟩ := h
  -- closed rounds never end with the device there, so only the round under way can
  have hclosed : (tidings rounds.flatten).getLast? ≠ some .connected := by
    induction rounds with
    | nil => exact nofun
    | cons r rest ih =>
      have hrest := ih fun other hother => hrounds other (List.mem_cons_of_mem _ hother)
      rw [List.flatten_cons, tidings_append, List.getLast?_append]
      cases hlast : (tidings rest.flatten).getLast? with
      | none => exact hround r (hrounds r List.mem_cons_self)
      | some callback =>
        rw [hlast] at hrest
        exact hrest
  rw [tidings_append, List.getLast?_append]
  cases hlast : (tidings underway).getLast? with
  | none => exact iff_of_false hclosed nofun
  | some callback => rfl

end

theorem OwnRound.getLast?_ne {r : List EventKind} (h : OwnRound r) :
    (tidings r).getLast? ≠ some .connected := by
  cases h <;> exact nofun

theorem RemoteRound.getLast?_ne {r : List EventKind} (h : RemoteRound r) :
    (tidings r).getLast? ≠ some .connected := by
  cases h
  exact nofun

/-! ## What one episode reports about the device -/

namespace Node

/-- What one episode makes of the tenancy of a driver that was registered with a role, and what it
reports about the device. -/
inductive Advances (role : Role) : Tenancy → List EventKind → Tenancy → Prop where
  | still (t : Tenancy) : Advances role t [] t
  | moved {t u : Tenancy} (mode : u.mode = t.mode) (remote : role = .virtual)
      (was : t.isConfirmed = true) (is : u.isConfirmed = true) : Advances role t [] u
  | adopted {t u : Tenancy} {address : UInt8} (mode : u.mode = t.mode) (remote : role = .virtual)
      (was : t.isConfirmed = false) (is : u.isConfirmed = true) :
      Advances role t [.connected address] u
  | vacated {t u : Tenancy} (mode : u.mode = t.mode) (remote : role = .virtual)
      (was : t.isConfirmed = true) (is : u.isConfirmed = false) : Advances role t [.removed] u
  | drawn {t : Tenancy} {address : UInt8} (own : role.isLocal = true) (without : t.address = 0)
      (pos : address ≠ 0) (le : address.toNat ≤ 254) :
      Advances role t [.addressDrawn address] (t.drawn address)
  | confirmed {t : Tenancy} (own : role.isLocal = true) (pos : t.address ≠ 0)
      (onProbation : t.isUnconfirmed = true) :
      Advances role t [.connected t.address] t.confirmed
  | lost {t : Tenancy} (own : role.isLocal = true) (pos : t.address ≠ 0)
      (was : t.isConfirmed = false) : Advances role t [.addressLost t.address] t.released
  | evicted {t : Tenancy} (own : role.isLocal = true) (was : t.isConfirmed = true) :
      Advances role t [.addressLost t.address, .removed] t.released

variable {role : Role} {k : Handle} {x : Happening} {start : Node} {before after : Kept}
  {story : List Action}

theorem Advances.mode_eq {t u : Tenancy} {reports : List EventKind}
    (h : Advances role t reports u) : u.mode = t.mode := by
  cases h with
  | moved mode => exact mode
  | adopted mode => exact mode
  | vacated mode => exact mode
  | _ => rfl

/-- What a driver was registered as can be told from the flags of its role. -/
theorem isLocal_of_mode {status : Status}
    (h : DeviceFlags.mode status.flags = role.flags) : status.isLocal = role.isLocal := by
  rw [Status.isLocal_eq_mode, h]
  rfl

theorem eq_virtual_of_mode {status : Status} (h : DeviceFlags.mode status.flags = role.flags)
    (hvirtual : status.isVirtual = true) : role = .virtual := by
  rw [Status.isVirtual_eq_mode, h] at hvirtual
  revert hvirtual
  cases role <;> decide

/-- In every episode the driver is told what is reported about whether its device is there. -/
theorem Episode.tidings_eq (h : Episode x start k before story after) :
    tidingsFor k story = tidings (reportsOf k story) := by
  cases h with
  | booked => rfl
  | noticed => rfl
  | @told callback _ _ talk heard replies =>
    refine tidings_sequel [] ?_ replies.peer
    cases callback <;> first | rfl | exact heard.elim
  | moved brings follows replies => exact tidings_sequel [] rfl replies.peer
  | adopted brings awaits connected replies =>
    rw [tidingsFor_append, reportsOf_append, tidings_append,
      tidings_sequel [.connected _] rfl connected.peer, tidings_sequel [] rfl replies.peer]
  | drawn =>
    rw [reportsOf_event_self]
    rfl
  | confirmed own pos onProbation replies =>
    exact tidings_sequel [.connected _] rfl replies.peer
  | lost =>
    rw [reportsOf_event_self]
    rfl
  | evicted own pos connected replies =>
    exact tidings_sequel [.addressLost _, .removed] rfl replies.peer
  | vacated remote connected replies => exact tidings_sequel [.removed] rfl replies.peer
  | worked => rfl

/-- What an episode reports about the device. -/
theorem Episode.advances (h : Episode x start k before story after)
    (hdiscreet : before.2.driver.IsDiscreet)
    (hmode : DeviceFlags.mode before.1.flags = role.flags) :
    after.2.driver.IsDiscreet ∧
      Advances role before.1.tenancy (milestones (reportsOf k story)) after.1.tenancy := by
  cases h with
  | booked driver serial =>
    refine ⟨?_, .still _⟩
    rw [driver]
    exact hdiscreet
  | noticed tenancy =>
    refine ⟨hdiscreet, ?_⟩
    rw [tenancy]
    exact .still _
  | told heard replies =>
    obtain ⟨hafter, htenancy⟩ := replies.discreet hdiscreet
    refine ⟨hafter, ?_⟩
    rw [milestones_sequel [] replies.peer, htenancy]
    exact .still _
  | moved brings follows replies =>
    obtain ⟨hafter, htenancy⟩ := replies.discreet hdiscreet
    obtain ⟨hvirtual, hconnected, -⟩ := follows_iff.1 follows
    refine ⟨hafter, ?_⟩
    rw [milestones_sequel [] replies.peer, htenancy]
    exact .moved (DeviceFlags.mode_insert _ (by decide)) (eq_virtual_of_mode hmode hvirtual)
      hconnected ((Status.isConnected_mark_seen _).trans hconnected)
  | adopted brings awaits connected replies =>
    obtain ⟨hmid, htenancy⟩ := connected.discreet hdiscreet
    obtain ⟨hafter, htenancy'⟩ := replies.discreet hmid
    obtain ⟨hvirtual, hwaiting, -⟩ := awaits_iff.1 awaits
    refine ⟨hafter, ?_⟩
    rw [reportsOf_append, milestones_append, milestones_sequel [.connected _] connected.peer,
      milestones_sequel [] replies.peer, htenancy', htenancy]
    exact .adopted (DeviceFlags.mode_insert _ (by decide)) (eq_virtual_of_mode hmode hvirtual)
      hwaiting (Flags.contains_insert_of_subset _ (by decide))
  | drawn own without pos le =>
    refine ⟨hdiscreet, ?_⟩
    rw [reportsOf_event_self, Status.tenancy_draw]
    exact .drawn ((isLocal_of_mode hmode).symm.trans own) without pos le
  | confirmed own pos onProbation replies =>
    obtain ⟨hafter, htenancy⟩ := replies.discreet hdiscreet
    refine ⟨hafter, ?_⟩
    rw [milestones_sequel [.connected _] replies.peer, htenancy, Status.tenancy_confirm]
    exact .confirmed ((isLocal_of_mode hmode).symm.trans own) pos onProbation
  | lost own pos unconnected =>
    refine ⟨hdiscreet, ?_⟩
    rw [reportsOf_event_self, Status.tenancy_release]
    exact .lost ((isLocal_of_mode hmode).symm.trans own) pos unconnected
  | evicted own pos connected replies =>
    obtain ⟨hafter, htenancy⟩ := replies.discreet hdiscreet
    refine ⟨hafter, ?_⟩
    rw [milestones_sequel [.addressLost _, .removed] replies.peer, htenancy, Status.tenancy_release]
    exact .evicted ((isLocal_of_mode hmode).symm.trans own) connected
  | vacated remote connected replies =>
    obtain ⟨hafter, htenancy⟩ := replies.discreet hdiscreet
    refine ⟨hafter, ?_⟩
    rw [milestones_sequel [.removed] replies.peer, htenancy]
    refine .vacated (Flags.restrict_restrict_of_subset _ (by decide))
      (eq_virtual_of_mode hmode remote) connected (Status.isConnected_vacated _ _)
  | worked works => exact ⟨hdiscreet.works works, .still _⟩

/-! ## The rounds of one driver -/

/-- What has been reported of the life of an address. -/
def lifeOf (t : Tenancy) : List EventKind :=
  if t.isUnconfirmed then [.addressDrawn t.address]
  else if t.isConfirmed then [.addressDrawn t.address, .connected t.address]
  else []

theorem lifeOf_begins (t : Tenancy) :
    lifeOf t = [] ∨ ∃ rest, OwnRound (lifeOf t ++ rest) := by
  unfold lifeOf
  split
  · exact .inr ⟨_, .unconfirmed t.address⟩
  · split
    · exact .inr ⟨_, .confirmed t.address⟩
    · exact .inl rfl

/-- The life that has been reported is that of the address that the driver has. -/
structure Lives (t : Tenancy) (reports : List EventKind) : Prop where
  lawful : t.Lawful
  reaches : Reaches OwnRound (lifeOf t) reports

/-- The stay that has been reported is under way if the driver is connected. -/
structure Stays (t : Tenancy) (reports : List EventKind) : Prop where
  connected : t.isConfirmed = true → ∃ address, Reaches RemoteRound [.connected address] reports
  waiting : t.isConfirmed = false → Reaches RemoteRound [] reports

/-- The life of an own address goes on. -/
theorem Lives.advances {t u : Tenancy} {reports added : List EventKind} (h : Lives t reports)
    (hlocal : role.isLocal = true) (hadvances : Advances role t added u) :
    Lives u (reports ++ added) := by
  obtain ⟨hlawful, hreaches⟩ := h
  have hremote : role = .virtual → Lives u (reports ++ added) := by
    rintro rfl
    cases hlocal
  cases hadvances with
  | still =>
    rw [List.append_nil]
    exact ⟨hlawful, hreaches⟩
  | moved mode remote => exact hremote remote
  | adopted mode remote => exact hremote remote
  | vacated mode remote => exact hremote remote
  | @drawn address own without pos le =>
    obtain ⟨hconfirmed, hunconfirmed⟩ := hlawful.address_eq_zero_iff.1 without
    refine ⟨.drawn t pos le, ?_⟩
    have hnothing : lifeOf t = [] := by simp [lifeOf, hconfirmed, hunconfirmed]
    rw [hnothing] at hreaches
    exact hreaches.more [.addressDrawn address]
  | confirmed own pos onProbation =>
    refine ⟨hlawful.confirmed pos, ?_⟩
    have hdrawn : lifeOf t = [.addressDrawn t.address] := by simp [lifeOf, onProbation]
    rw [hdrawn] at hreaches
    exact hreaches.more [.connected t.address]
  | lost own pos was =>
    have hunconfirmed : t.isUnconfirmed = true := by
      rw [← Bool.not_eq_false]
      exact fun hnot => pos (hlawful.address_eq_zero_iff.2 ⟨was, hnot⟩)
    have hdrawn : lifeOf t = [.addressDrawn t.address] := by simp [lifeOf, hunconfirmed]
    rw [hdrawn] at hreaches
    exact ⟨.released t, (hreaches.more [.addressLost t.address]).close (.unconfirmed t.address)⟩
  | evicted own was =>
    have hunconfirmed : t.isUnconfirmed = false := by
      rw [← Bool.not_eq_true]
      exact fun honProbation => hlawful.not_both ⟨was, honProbation⟩
    have hconnected : lifeOf t = [.addressDrawn t.address, .connected t.address] := by
      simp [lifeOf, hunconfirmed, was]
    rw [hconnected] at hreaches
    exact ⟨.released t,
      (hreaches.more [.addressLost t.address, .removed]).close (.confirmed t.address)⟩

/-- The stay of a device goes on. -/
theorem Stays.advances {t u : Tenancy} {reports added : List EventKind} (h : Stays t reports)
    (hadvances : Advances .virtual t added u) : Stays u (reports ++ added) := by
  cases hadvances with
  | still => rwa [List.append_nil]
  | moved mode remote was is =>
    rw [List.append_nil]
    refine ⟨fun _ => h.connected was, fun hnot => ?_⟩
    rw [is] at hnot
    cases hnot
  | @adopted _ address mode remote was is =>
    refine ⟨fun _ => ⟨address, (h.waiting was).more [.connected address]⟩, fun hnot => ?_⟩
    rw [is] at hnot
    cases hnot
  | vacated mode remote was is =>
    obtain ⟨address, hreaches⟩ := h.connected was
    refine ⟨fun hstill => ?_, fun _ => (hreaches.more [.removed]).close (.stay address)⟩
    rw [is] at hstill
    cases hstill
  | drawn own => cases own
  | confirmed own => cases own
  | lost own => cases own
  | evicted own => cases own

/-- What holds of a driver that was registered with a role, and of its story. -/
structure InRounds (role : Role) (k : Handle) (kept : Kept) (story : List Action) : Prop where
  discreet : kept.2.driver.IsDiscreet
  mode : DeviceFlags.mode kept.1.flags = role.flags
  told : tidingsFor k story = tidings (reportsOf k story)
  own : role.isLocal = true → Lives kept.1.tenancy (milestones (reportsOf k story))
  remote : role = .virtual → Stays kept.1.tenancy (milestones (reportsOf k story))

/-- **Every episode keeps to the rounds.** -/
theorem InRounds.episode {past : List Action} (h : InRounds role k before past)
    (hepisode : Episode x start k before story after) : InRounds role k after (past ++ story) := by
  obtain ⟨hdiscreet, hadvances⟩ := hepisode.advances h.discreet h.mode
  refine ⟨hdiscreet, hadvances.mode_eq.trans h.mode, ?_, fun hlocal => ?_, ?_⟩
  · rw [tidingsFor_append, reportsOf_append, tidings_append, h.told, hepisode.tidings_eq]
  · rw [reportsOf_append, milestones_append]
    exact (h.own hlocal).advances hlocal hadvances
  · rintro rfl
    rw [reportsOf_append, milestones_append]
    exact (h.remote rfl).advances hadvances

/-- A driver is connected exactly if the last that it was told is that its device is there. -/
theorem InRounds.isConnected_iff {kept : Kept} (h : InRounds role k kept story)
    (hrole : role ≠ .sniffer) : kept.1.isConnected = true ↔
      (tidings (reportsOf k story)).getLast? = some .connected := by
  rw [← tidings_milestones]
  by_cases hlocal : role.isLocal = true
  · obtain ⟨hlawful, hreaches⟩ := h.own hlocal
    rw [hreaches.getLast? fun _ => OwnRound.getLast?_ne]
    show kept.1.tenancy.isConfirmed = true ↔ _
    unfold lifeOf
    split
    · rename_i hprobation
      exact iff_of_false (fun hconfirmed => hlawful.not_both ⟨hconfirmed, hprobation⟩) nofun
    · split
      · rename_i hconfirmed
        exact iff_of_true hconfirmed rfl
      · rename_i hnot
        exact iff_of_false hnot nofun
  · have hvirtual : role = .virtual := by
      revert hrole hlocal
      cases role <;> decide
    obtain ⟨hconnected, hwaiting⟩ := h.remote hvirtual
    show kept.1.tenancy.isConfirmed = true ↔ _
    cases hconfirmed : kept.1.tenancy.isConfirmed with
    | true =>
      obtain ⟨address, hreaches⟩ := hconnected hconfirmed
      rw [hreaches.getLast? fun _ => RemoteRound.getLast?_ne]
      exact iff_of_true rfl rfl
    | false =>
      rw [(hwaiting hconfirmed).getLast? fun _ => RemoteRound.getLast?_ne]
      exact iff_of_false Bool.false_ne_true nofun

/-- A driver that is no sniffer starts without a device. -/
theorem tenancy_startStatus (settings : NodeSettings) {profile : DriverProfile}
    (hrole : profile.role ≠ .sniffer) : (startStatus settings profile).tenancy =
      ⟨0, startSerial settings profile, profile.role.flags, false, false⟩ := by
  unfold startStatus
  dsimp only
  rw [if_neg hrole]
  show Tenancy.mk 0 _ (DeviceFlags.mode profile.role.flags) _ _ = _
  rw [profile.role.mode_flags]
  have hfresh : profile.role.flags.contains DeviceFlags.confirmed = false ∧
      profile.role.flags.contains DeviceFlags.unconfirmed = false := by
    cases profile.role <;> decide
  exact congrArg₂ (Tenancy.mk 0 _ _) hfresh.1 hfresh.2

/-- Nothing has been reported about a driver that was just registered. -/
theorem inRounds_newcomer (settings : NodeSettings) {profile : DriverProfile} {driver : Driver}
    (hdiscreet : driver.IsDiscreet) (hrole : profile.role ≠ .sniffer) :
    InRounds profile.role k (newcomer settings profile driver) [] where
  discreet := hdiscreet
  mode := mode_startStatus settings profile
  told := rfl
  own _ := by
    show Lives (startStatus settings profile).tenancy []
    rw [tenancy_startStatus settings hrole]
    exact ⟨⟨by simp, by simp, by simp⟩, reaches_nil OwnRound⟩
  remote _ := by
    show Stays (startStatus settings profile).tenancy []
    rw [tenancy_startStatus settings hrole]
    exact ⟨nofun, fun _ => reaches_nil RemoteRound⟩

/-! ## The protocol -/

/-- **Lifecycle events form a protocol.** What has been reported about a driver of a role since its
registration, and what is reported when it is taken out. -/
structure Protocol (role : Role) (k : Handle) (trace : List Action) (node : Node) : Prop where
  /-- An own address is drawn and lost, or drawn, confirmed, lost and taken from the driver, and
  only then another one is drawn. -/
  own : role.isLocal = true → Repeats OwnRound (milestones (reportsOf k trace))
  /-- The device of a remote driver is connected and removed, and only then another one is
  connected. -/
  remote : role = .virtual → Repeats RemoteRound (milestones (reportsOf k trace))
  /-- The driver is connected exactly if this is the last that was reported of whether its device is
  there. -/
  connected : ∃ status, node.status? k = some status ∧
    (status.isConnected = true ↔ (tidings (reportsOf k trace)).getLast? = some .connected)
  /-- The driver was told so once with every such report, in the same order. -/
  told : tidingsFor k trace = tidings (reportsOf k trace)
  /-- When it is taken out, its removal is reported once, and it is told so, if it is connected;
  otherwise neither. -/
  farewell : ∀ env left added after, node.unregister env k = .ok (left, after) →
    after.log = node.log ++ added → ∀ status, node.status? k = some status →
      milestones (reportsOf k added) = (if status.isConnected then [.removed] else []) ∧
      tidingsFor k added = (if status.isConnected then [.removed] else [])

/-- A driver that is taken out is told so if it is connected. -/
theorem farewell_of_unregister {node after : Node} {kept : Kept}
    (hkept : node.enrolled? k = some kept) {env : Env} {left : Option Driver}
    (ok : node.unregister env k = .ok (left, after)) {added : List Action}
    (hlog : after.log = node.log ++ added) :
    milestones (reportsOf k added) = (if kept.1.isConnected then [.removed] else []) ∧
      tidingsFor k added = (if kept.1.isConnected then [.removed] else []) := by
  obtain ⟨told, hdeparts, -, ⟨rfl, hnot⟩ | ⟨rfl, status, registration, hsame, hconnected⟩⟩ :=
    unregister_cases ok
  · have hnone : added = [] :=
      List.append_cancel_left ((hlog.symm.trans hdeparts.log).trans (List.append_nil _).symm)
    rw [hnone, hnot kept.1 kept.2 hkept]
    exact ⟨rfl, rfl⟩
  · rw [hkept] at hsame
    cases hsame
    obtain ⟨talk, later, hreplies, hchronicle⟩ := chronicle_tellRemoved hkept env
    obtain ⟨added', hlog', hstory⟩ := hchronicle.trace
    have hsame : added = added' :=
      List.append_cancel_left (hlog.symm.trans (hdeparts.log.trans hlog'))
    have hmilestones : milestones (reportsOf k added) = [.removed] := by
      rw [hsame, ← reportsOf_storyOf, hstory, milestones_sequel [.removed] hreplies.peer]
      rfl
    refine ⟨by rw [hconnected, hmilestones]; rfl, ?_⟩
    have htold : tidingsFor k added = tidings (reportsOf k added) := by
      have hseq : tidingsFor k (sequel k [.removed] .removed talk) = _ :=
        tidings_sequel [.removed] rfl hreplies.peer
      rw [← hstory, reportsOf_storyOf] at hseq
      rw [hsame, ← hseq]
      unfold tidingsFor
      rw [callsOf_storyOf]
    rw [htold, ← tidings_milestones, hmilestones, hconnected]
    rfl

/-- **The lifecycle events of every driver that is no sniffer form a protocol**, whatever happens to
its node between its registration and its end. -/
theorem protocol_of_course {settings : NodeSettings} {draws : Draws} {ys xs : List Happening}
    {before joined node : Node} {profile : DriverProfile} {driver : Driver} {handle : Handle}
    {trace : List Action} (hbefore : Comes settings draws (fun _ => True) ys before)
    (hregister : before.register profile driver = .ok (handle, joined))
    (hrole : profile.role ≠ .sniffer) (hdiscreet : driver.IsDiscreet)
    (hcourse : Course (fun _ => True) (fun _ => True) joined xs trace node)
    (hstays : ∀ env, .unregister env handle ∉ xs) : Protocol profile.role handle trace node := by
  have hjoins := joins_register hregister
  obtain ⟨kept, hkept, hrounds⟩ := hcourse.preserves (hjoins.wellFormed hbefore.wellFormed)
    hjoins.newcomer hstays (inRounds_newcomer before.settings hdiscreet hrole)
    fun _ hpast hepisode => hpast.episode hepisode
  have hreports := reportsOf_storyOf handle trace
  have hcalls : tidingsFor handle (storyOf handle trace) = tidingsFor handle trace := by
    unfold tidingsFor
    rw [callsOf_storyOf]
  have hstatus : node.status? handle = some kept.1 := status?_of_enrolled? hkept
  refine ⟨fun hlocal => ?_, fun hvirtual => ?_, ⟨kept.1, hstatus, ?_⟩, ?_, ?_⟩
  · rw [← hreports]
    exact (hrounds.own hlocal).reaches.repeats (lifeOf_begins kept.1.tenancy)
  · rw [← hreports]
    obtain ⟨hconnected, hwaiting⟩ := hrounds.remote hvirtual
    cases hconfirmed : kept.1.tenancy.isConfirmed with
    | true =>
      obtain ⟨address, hreaches⟩ := hconnected hconfirmed
      exact hreaches.repeats (.inr ⟨[.removed], .stay address⟩)
    | false => exact (hwaiting hconfirmed).repeats (.inl rfl)
  · rw [← hreports]
    exact hrounds.isConnected_iff hrole
  · rw [← hreports, ← hcalls]
    exact hrounds.told
  · intro env left added after ok hlog status hsame
    rw [hstatus] at hsame
    cases hsame
    exact farewell_of_unregister hkept ok hlog

/-- A host whose address was confirmed, until another device announced itself there. -/
theorem protocol_of_evictedHost :
    let profile : DriverProfile := ⟨.host, 7, some 1, some 10⟩
    let joined := withDriver profile .quiet
    let evicted := (joined.afterTicks 4).receiveFrame .taking (ControlPacket.hello 10 7 9).frame
    let happened := List.replicate 4 (.tick .taking) ++
      [.receive .taking (ControlPacket.hello 10 7 9).frame]
    ∃ trace, Course (fun _ => True) (fun _ => True) joined happened trace evicted ∧
      milestones (reportsOf ⟨0, 0⟩ trace) =
        [.addressDrawn 10, .connected 10, .addressLost 10, .removed] ∧
      Protocol .host ⟨0, 0⟩ trace evicted := by
  intro profile joined evicted happened
  obtain ⟨ticked, hticks⟩ : ∃ trace, Course (fun _ => True) (fun _ => True) joined
      (List.replicate 4 (.tick .taking)) trace (joined.afterTicks 4) :=
    exists_course_afterTicks _ fun _ _ => trivial
  obtain ⟨trace, hcourse⟩ := hticks.receive .taking (ControlPacket.hello 10 7 9).frame trivial
  have hlog : evicted.log = trace :=
    hcourse.log_eq (by simp)
  refine ⟨trace, hcourse, ?_, ?_⟩
  · rw [← hlog]
    decide +kernel
  · have hregister : (withDraws {} ⟨fun _ => 0, 0⟩).register profile .quiet =
        .ok (⟨0, 0⟩, joined) := rfl
    have hrole : profile.role ≠ .sniffer := by decide
    have hdiscreet : Driver.quiet.IsDiscreet := trivial
    have hstays : ∀ env, .unregister env ⟨0, 0⟩ ∉ happened := by simp [happened]
    exact protocol_of_course Comes.start hregister hrole hdiscreet hcourse hstays

end Node

end DeviceBus
