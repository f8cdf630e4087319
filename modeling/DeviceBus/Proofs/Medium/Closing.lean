import DeviceBus.Medium.Sink
import DeviceBus.Proofs.Medium.Membership

/-!
# Closed sinks

A sink can be asked whether anything will ever receive what is sent through it, and a send through
it can fail. The first question looks at who is attached, the second also at whether the bus was
shut down. Both are answered here for a medium that anything happened to: a bus whose ports come
and go, and channels whose receivers may be dropped.

A bus that was shut down still lets ports join. The sink of such a port says that it is open and
takes nothing; these are the only sinks whose two answers differ.

## Main results

* `bus_after`: what happens to the channels leaves the bus alone.
* `isListening_after`: the channels with a receiver, by the history.
* `closing`: what the two answers are, for every sink after every history.
-/

namespace DeviceBus

/-- What can happen to a medium. Receivers are named by the sink that leads to them. -/
inductive MediumAction where
  | attach
  | openChannel
  | detach (port : Nat)
  | dropReceiver (sink : Sink)
  | send (sink : Sink) (frame : Bytes)
  | receive (sink : Sink)
  | shutDown
  deriving DecidableEq, Repr

/-- What an action is for the bus, if it concerns the bus at all. -/
def MediumAction.onBus : MediumAction → Option BusAction
  | .attach => some .attach
  | .detach port => some (.detach port)
  | .dropReceiver (.port port) => some (.dropReceiver port)
  | .send (.port port) frame => some (.send port frame)
  | .receive (.port port) => some (.receive port)
  | .shutDown => some .shutDown
  | _ => none

namespace Medium

/-- The medium after one thing happened to it. A send that fails leaves it as it is. -/
def perform (medium : Medium) : MediumAction → Medium
  | .attach => medium.attach.2
  | .openChannel => medium.openChannel.2
  | .detach port => medium.modifyBus (·.detach port)
  | .dropReceiver (.port port) => medium.modifyBus (·.dropReceiver port)
  | .dropReceiver (.channel index) => medium.dropChannelReceiver index
  | .dropReceiver .discard => medium
  | .send sink frame =>
    match sink.send frame medium with
    | .ok after => after
    | .error _ => medium
  | .receive (.port port) =>
    match medium.bus.receive port with
    | some (_, bus) => { medium with bus }
    | none => medium
  | .receive (.channel index) => (medium.receiveChannel index).2
  | .receive .discard => medium
  | .shutDown => medium.modifyBus (·.shutDown)

/-- The medium a history leaves behind. -/
def after (history : List MediumAction) : Medium := history.foldl perform empty

/-- The part of a history that the bus sees. -/
def busHistory (history : List MediumAction) : List BusAction :=
  history.filterMap MediumAction.onBus

/-- A channel has a receiver: it was opened, as the channel of its number, and its receiver was not
dropped since. -/
def HasReceiver (index : Nat) (history : List MediumAction) : Prop :=
  ∃ earlier later, history = earlier ++ .openChannel :: later ∧
    earlier.count .openChannel = index ∧ .dropReceiver (.channel index) ∉ later

/-- A port that joined a bus when that was shut down already, and still belongs to it. -/
def JoinedLate (port : Nat) (history : List BusAction) : Prop :=
  SharedBus.Belongs port history ∧
    ∃ closed joined, history[closed]? = some .shutDown ∧ SharedBus.Joined port history joined ∧
      closed < joined

/-- A sink is stranded if it is that of a port that joined too late. -/
def Stranded (sink : Sink) (history : List MediumAction) : Prop :=
  ∃ port, sink = .port port ∧ JoinedLate port (busHistory history)

variable {history : List MediumAction} {action : MediumAction}

/-! ## One more action -/

theorem after_concat (history : List MediumAction) (action : MediumAction) :
    after (history ++ [action]) = (after history).perform action := by
  unfold after
  rw [List.foldl_append]
  rfl

theorem busHistory_concat (history : List MediumAction) (action : MediumAction) :
    busHistory (history ++ [action]) = busHistory history ++ action.onBus.toList := by
  unfold busHistory
  rw [List.filterMap_append]
  cases h : action.onBus <;> simp [h]

theorem perform_send_port (medium : Medium) (port : Nat) (frame : Bytes) :
    medium.perform (.send (.port port) frame) =
      medium.modifyBus (·.perform (.send port frame)) := by
  simp only [perform, Sink.send, modifyBus, SharedBus.perform]
  cases medium.bus.send port frame <;> rfl

theorem perform_receive_port (medium : Medium) (port : Nat) :
    medium.perform (.receive (.port port)) = medium.modifyBus (·.perform (.receive port)) := by
  simp only [perform, modifyBus, SharedBus.perform]
  cases medium.bus.receive port <;> rfl

theorem perform_send_channel (medium : Medium) (index : Nat) (frame : Bytes) :
    medium.perform (.send (.channel index) frame) =
      if medium.isListening index then
        medium.modifyChannel index fun c => { c with queue := c.queue ++ [frame] }
      else medium := by
  simp only [perform, Sink.send]
  split
  · rename_i h
    split at h
    · rename_i hlistening
      rw [if_pos hlistening]
      exact (Except.ok.inj h).symm
    · cases h
  · rename_i h
    split at h
    · cases h
    · rename_i hgone
      rw [if_neg hgone]

/-- An action does to the bus what it is for the bus. -/
theorem bus_perform (medium : Medium) (action : MediumAction) :
    (medium.perform action).bus = action.onBus.toList.foldl SharedBus.perform medium.bus := by
  cases action with
  | attach => rfl
  | openChannel => rfl
  | detach port => rfl
  | shutDown => rfl
  | dropReceiver sink => cases sink <;> rfl
  | send sink frame =>
    cases sink with
    | port port =>
      rw [perform_send_port]
      rfl
    | channel index =>
      rw [perform_send_channel]
      split <;> rfl
    | discard => rfl
  | receive sink =>
    cases sink with
    | port port =>
      rw [perform_receive_port]
      rfl
    | channel index => rfl
    | discard => rfl

/-- **The bus sees its part of the history** and nothing else. -/
theorem bus_after (history : List MediumAction) :
    (after history).bus = SharedBus.after (busHistory history) := by
  induction history using List.reverseRecOn with
  | nil => rfl
  | append_singleton history action ih =>
    rw [after_concat, bus_perform, busHistory_concat, ih]
    unfold SharedBus.after
    rw [List.foldl_append]

/-! ## Channels -/

/-- What an action does to a channel that is open. -/
def channelEffect (index : Nat) : MediumAction → Channel → Channel
  | .dropReceiver (.channel dropped), c => if dropped = index then ⟨false, []⟩ else c
  | .send (.channel sent) frame, c =>
    if sent = index ∧ c.isListening then { c with queue := c.queue ++ [frame] } else c
  | .receive (.channel taken), c => if taken = index then { c with queue := [] } else c
  | _, c => c

theorem getElem?_modifyChannel (medium : Medium) (changed index : Nat)
    (change : Channel → Channel) : (medium.modifyChannel changed change).channels[index]? =
      medium.channels[index]?.map fun c => if changed = index then change c else c := by
  unfold modifyChannel
  rw [List.getElem?_modify]
  split <;> simp_all

theorem getElem?_perform (medium : Medium) (index : Nat) (h : action ≠ .openChannel) :
    (medium.perform action).channels[index]? =
      medium.channels[index]?.map (channelEffect index action) := by
  have hspared : (∀ c, channelEffect index action c = c) →
      medium.channels[index]?.map (channelEffect index action) = medium.channels[index]? := by
    intro heffect
    rw [funext heffect, Option.map_id']
  cases action with
  | openChannel => exact absurd rfl h
  | attach => exact (hspared fun _ => rfl).symm
  | detach port => exact (hspared fun _ => rfl).symm
  | shutDown => exact (hspared fun _ => rfl).symm
  | dropReceiver sink =>
    cases sink with
    | channel dropped => exact getElem?_modifyChannel medium dropped index _
    | port port => exact (hspared fun _ => rfl).symm
    | discard => exact (hspared fun _ => rfl).symm
  | send sink frame =>
    cases sink with
    | channel sent =>
      rw [perform_send_channel]
      unfold isListening
      by_cases hsent : sent = index
      · subst hsent
        cases hchannel : medium.channels[sent]? with
        | none => simp [hchannel]
        | some c =>
          cases hlistening : c.isListening <;>
            simp [getElem?_modifyChannel, channelEffect, hchannel, hlistening]
      · rw [hspared fun c => if_neg fun h => hsent h.1]
        split
        · simp [getElem?_modifyChannel, hsent]
        · rfl
    | port port =>
      rw [perform_send_port]
      exact (hspared fun _ => rfl).symm
    | discard => exact (hspared fun _ => rfl).symm
  | receive sink =>
    cases sink with
    | channel taken => exact getElem?_modifyChannel medium taken index _
    | port port =>
      rw [perform_receive_port]
      exact (hspared fun _ => rfl).symm
    | discard => exact (hspared fun _ => rfl).symm

/-- Only opening a channel and dropping its receiver matter to who listens. -/
theorem isListening_perform (medium : Medium) (index : Nat) (h : action ≠ .openChannel) :
    (medium.perform action).isListening index = true ↔
      medium.isListening index = true ∧ action ≠ .dropReceiver (.channel index) := by
  unfold isListening
  rw [getElem?_perform medium index h]
  cases medium.channels[index]? with
  | none => simp
  | some c =>
    simp only [Option.map_some, Option.getD_some]
    fun_cases channelEffect index action c <;> simp_all

theorem length_channels_perform (medium : Medium) (h : action ≠ .openChannel) :
    (medium.perform action).channels.length = medium.channels.length := by
  have hsame : ∀ index : Nat, (medium.perform action).channels[index]? = none ↔
      medium.channels[index]? = none := by
    intro index
    rw [getElem?_perform medium index h, Option.map_eq_none_iff]
  simp only [List.getElem?_eq_none_iff] at hsame
  exact Nat.le_antisymm ((hsame _).2 (Nat.le_refl _)) ((hsame _).1 (Nat.le_refl _))

theorem isListening_openChannel (medium : Medium) (index : Nat) :
    (medium.perform .openChannel).isListening index = true ↔
      index = medium.channels.length ∨ medium.isListening index = true := by
  have hchannels : (medium.perform .openChannel).channels = medium.channels ++ [⟨true, []⟩] := rfl
  unfold isListening
  rw [hchannels, List.getElem?_append]
  split
  · rename_i hlt
    simp [Nat.ne_of_lt hlt]
  · rename_i hge
    rw [List.getElem?_eq_none_iff.2 (Nat.le_of_not_lt hge), List.getElem?_singleton]
    by_cases hindex : index = medium.channels.length
    · simp [hindex]
    · simp [hindex, show index - medium.channels.length ≠ 0 by omega]

theorem length_channels_after (history : List MediumAction) :
    (after history).channels.length = history.count .openChannel := by
  induction history using List.reverseRecOn with
  | nil => rfl
  | append_singleton history action ih =>
    rw [after_concat, List.count_append, ← ih]
    by_cases h : action = .openChannel
    · subst h
      exact List.length_append
    · rw [length_channels_perform _ h, List.count_singleton, if_neg (by simpa using h)]
      rfl

theorem hasReceiver_concat {index : Nat} : HasReceiver index (history ++ [action]) ↔
    (action = .openChannel ∧ history.count .openChannel = index) ∨
      (HasReceiver index history ∧ action ≠ .dropReceiver (.channel index)) := by
  constructor
  · rintro ⟨earlier, later, hsplit, hcount, hkept⟩
    rcases List.eq_nil_or_concat later with rfl | ⟨init, last, rfl⟩
    · obtain ⟨rfl, hlast⟩ := List.append_inj' hsplit rfl
      exact .inl ⟨(List.cons.inj hlast).1, hcount⟩
    · rw [List.concat_eq_append, ← List.cons_append, ← List.append_assoc] at hsplit
      obtain ⟨rfl, hlast⟩ := List.append_inj' hsplit rfl
      obtain rfl := (List.cons.inj hlast).1
      rw [List.concat_eq_append, List.mem_append, List.mem_singleton, not_or] at hkept
      exact .inr ⟨⟨earlier, init, rfl, hcount, hkept.1⟩, Ne.symm hkept.2⟩
  · rintro (⟨rfl, hcount⟩ | ⟨⟨earlier, later, rfl, hcount, hkept⟩, hother⟩)
    · exact ⟨history, [], rfl, hcount, List.not_mem_nil⟩
    · refine ⟨earlier, later ++ [action], by simp, hcount, ?_⟩
      rw [List.mem_append, List.mem_singleton, not_or]
      exact ⟨hkept, Ne.symm hother⟩

/-- **The channels somebody receives from**, by the history. -/
theorem isListening_after (index : Nat) (history : List MediumAction) :
    (after history).isListening index = true ↔ HasReceiver index history := by
  induction history using List.reverseRecOn with
  | nil => simp [after, empty, isListening, HasReceiver]
  | append_singleton history action ih =>
    rw [after_concat, hasReceiver_concat]
    by_cases h : action = .openChannel
    · subst h
      rw [isListening_openChannel, length_channels_after, ih, eq_comm]
      simp
    · rw [isListening_perform _ _ h, ih]
      simp [h]

/-! ## Ports -/

/-- A port that left with a shutdown never comes back. -/
theorem not_belongs_of_joined {port joined closed : Nat} {history : List BusAction}
    (hjoined : SharedBus.Joined port history joined) (hclosed : history[closed]? = some .shutDown)
    (h : joined < closed) : ¬ SharedBus.Belongs port history := by
  rintro ⟨joined', hjoined', hkept, -⟩
  obtain rfl := hjoined'.unique hjoined
  exact (hkept closed h).2 hclosed

/-- The ports that joined late are those a bus that was shut down still has. -/
theorem joinedLate_iff (port : Nat) (history : List BusAction) : JoinedLate port history ↔
    SharedBus.Belongs port history ∧ .shutDown ∈ history := by
  refine and_congr_right fun hbelongs => ⟨?_, fun hmem => ?_⟩
  · rintro ⟨closed, joined, hclosed, -, -⟩
    exact List.mem_of_getElem? hclosed
  · obtain ⟨joined, hjoined, hkept, -⟩ := hbelongs
    obtain ⟨closed, hclosed⟩ := List.mem_iff_getElem?.1 hmem
    refine ⟨closed, joined, hclosed, hjoined, Nat.lt_of_not_le fun hle => ?_⟩
    rcases Nat.lt_or_eq_of_le hle with hlt | rfl
    · exact (hkept closed hlt).2 hclosed
    · exact absurd (hjoined.1.symm.trans hclosed) nofun

theorem onBus_eq_shutDown {action : MediumAction} : action.onBus = some .shutDown ↔
    action = .shutDown := by
  cases action with
  | dropReceiver sink => cases sink <;> simp [MediumAction.onBus]
  | send sink frame => cases sink <;> simp [MediumAction.onBus]
  | receive sink => cases sink <;> simp [MediumAction.onBus]
  | _ => simp [MediumAction.onBus]

theorem shutDown_mem_busHistory (history : List MediumAction) :
    BusAction.shutDown ∈ busHistory history ↔ MediumAction.shutDown ∈ history := by
  simp [busHistory, List.mem_filterMap, onBus_eq_shutDown]

theorem stranded_port (port : Nat) (history : List MediumAction) :
    Stranded (.port port) history ↔
      SharedBus.Belongs port (busHistory history) ∧ .shutDown ∈ history := by
  rw [← shutDown_mem_busHistory, ← joinedLate_iff]
  exact ⟨fun ⟨_, heq, hlate⟩ => Sink.port.inj heq ▸ hlate, fun hlate => ⟨port, rfl, hlate⟩⟩

/-! ## What sinks say -/

theorem isClosed_channel (index : Nat) (history : List MediumAction) :
    (Sink.channel index).isClosed (after history) = true ↔ ¬ HasReceiver index history := by
  rw [← isListening_after]
  simp [Sink.isClosed]

theorem isClosed_port (port : Nat) (history : List MediumAction) :
    (Sink.port port).isClosed (after history) = true ↔
      ¬ SharedBus.Belongs port (busHistory history) := by
  rw [← SharedBus.isAttached_after, ← bus_after]
  simp [Sink.isClosed]

/-- A send fails if the sink is refused anything, whatever the frame. -/
theorem exists_send_eq_error_iff (sink : Sink) (frame : Bytes) (medium : Medium) :
    (∃ e, sink.send frame medium = .error e) ↔ sink.refusal medium ≠ none := by
  simp only [Sink.send_eq_error_iff, Option.ne_none_iff_exists']

theorem refusal_port_ne_none (port : Nat) (history : List MediumAction) :
    (Sink.port port).refusal (after history) ≠ none ↔
      .shutDown ∈ history ∨ ¬ SharedBus.Belongs port (busHistory history) := by
  show (after history).bus.refusal port ≠ none ↔ _
  rw [ne_eq, SharedBus.refusal_eq_none_iff, bus_after, SharedBus.isAttached_after,
    ← Bool.not_eq_true, SharedBus.isShutDown_after, shutDown_mem_busHistory, not_and_or,
    not_not]

/-- What the sinks of a medium with a history answer when they are asked whether they are closed,
and when they are sent something. -/
structure Closing (history : List MediumAction) : Prop where
  /-- A sink says that it is closed if it takes nothing, unless it is stranded. -/
  reported (sink : Sink) (frame : Bytes) : sink.isClosed (after history) = true ↔
    (∃ e, sink.send frame (after history) = .error e) ∧ ¬ Stranded sink history
  /-- A stranded sink takes nothing either. -/
  stranded (sink : Sink) (frame : Bytes) : Stranded sink history →
    sink.send frame (after history) = .error .shutdown
  /-- No sink is stranded unless the bus was shut down. -/
  unstranded (sink : Sink) : .shutDown ∉ history → ¬ Stranded sink history
  /-- The sink of a channel is closed when the receiver is gone. -/
  channel (index : Nat) :
    (Sink.channel index).isClosed (after history) = true ↔ ¬ HasReceiver index history
  /-- The sink of a port is closed when the port does not belong to the bus. -/
  port (port : Nat) : (Sink.port port).isClosed (after history) = true ↔
    ¬ SharedBus.Belongs port (busHistory history)
  /-- The sink that leads nowhere is open. -/
  discard : Sink.discard.isClosed (after history) = false
  /-- A shutdown closes the sinks and ends the intake of all ports. -/
  shutDown (port : Nat) : (Sink.port port).isClosed (after (history ++ [.shutDown])) = true ∧
    (after (history ++ [.shutDown])).bus.attachedCount = 0
  /-- The ports it found stay closed. -/
  forGood (port joined closed : Nat) : SharedBus.Joined port (busHistory history) joined →
    (busHistory history)[closed]? = some .shutDown → joined < closed →
    (Sink.port port).isClosed (after history) = true
  /-- Every port that joins later is stranded, with an intake that is open. -/
  late : .shutDown ∈ history →
    Stranded (.port (after history).attach.1) (history ++ [.attach]) ∧
      (after (history ++ [.attach])).bus.isAttached (after history).attach.1 = true

theorem attachedCount_shutDown (bus : SharedBus) : bus.shutDown.attachedCount = 0 := by
  simp [SharedBus.shutDown, SharedBus.attachedCount, List.countP_map, Function.comp_def]

/-- **What sinks say**, and what they do. -/
theorem closing (history : List MediumAction) : Closing history where
  reported sink frame := by
    rw [exists_send_eq_error_iff]
    cases sink with
    | channel index => simp [Sink.isClosed, Sink.refusal, Stranded]
    | port port =>
      rw [isClosed_port, refusal_port_ne_none, stranded_port]
      tauto
    | discard => simp [Sink.isClosed, Sink.refusal]
  stranded sink frame := by
    rintro ⟨port, rfl, hlate⟩
    rw [Sink.send_eq_error_iff]
    have hdown : (after history).bus.isShutDown = true := by
      rw [bus_after]
      exact (SharedBus.isShutDown_after _).2 ((joinedLate_iff port _).1 hlate).2
    exact if_pos hdown
  unstranded sink h := by
    rintro ⟨port, rfl, hlate⟩
    exact h ((shutDown_mem_busHistory history).1 ((joinedLate_iff port _).1 hlate).2)
  channel index := isClosed_channel index history
  port port := isClosed_port port history
  discard := rfl
  shutDown port := by
    rw [after_concat]
    refine ⟨?_, attachedCount_shutDown (after history).bus⟩
    have hbus : busHistory (history ++ [.shutDown]) = busHistory history ++ [.shutDown] :=
      busHistory_concat history .shutDown
    rw [← after_concat, isClosed_port, hbus, SharedBus.belongs_concat]
    rintro (⟨h, -⟩ | ⟨-, -, h, -⟩)
    · cases h
    · exact h rfl
  forGood port joined closed hjoined hclosed h :=
    (isClosed_port port history).2 (not_belongs_of_joined hjoined hclosed h)
  late h := by
    have hjoins : SharedBus.Belongs (after history).attach.1
        (busHistory (history ++ [.attach])) := by
      have hbus : busHistory (history ++ [.attach]) = busHistory history ++ [.attach] :=
        busHistory_concat history .attach
      rw [hbus, SharedBus.belongs_concat]
      refine .inl ⟨rfl, ?_⟩
      rw [← SharedBus.length_ports_after, ← bus_after]
      rfl
    refine ⟨(stranded_port _ _).2 ⟨hjoins, List.mem_append_left _ h⟩, ?_⟩
    rw [bus_after]
    exact (SharedBus.isAttached_after _ _).2 hjoins

/-- A sink may take nothing and not be closed, also after a shutdown. -/
theorem stranded_not_closed :
    (¬ ∀ (history : List MediumAction) (sink : Sink) (frame : Bytes),
      sink.isClosed (after history) = true ↔
        ∃ e, sink.send frame (after history) = .error e) ∧
    ¬ ∀ (history : List MediumAction) (port : Nat), .shutDown ∈ history →
      (Sink.port port).isClosed (after history) = true ∧
        (after history).bus.isAttached port = false := by
  constructor
  · intro h
    exact absurd ((h [.shutDown, .attach] (.port 0) [1]).2 ⟨.shutdown, rfl⟩) (by decide)
  · intro h
    exact absurd (h [.shutDown, .attach] 0 (by decide)).1 (by decide)

end Medium

end DeviceBus
