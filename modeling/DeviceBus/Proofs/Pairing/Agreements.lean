import DeviceBus.Proofs.Pairing.Handshake

/-!
# What two drivers owe each other

Among any number of drivers, every pairing packet is heard by all and meant for one. `Responds`
lists what a driver makes of a frame that concerns it, with the frames as they are on the bus.

Whoever is paired with a driver, or is about to accept its request, counts on it. `Agrees` says that
the driver stands by it. Only one thing breaks this: a refusal that is not the answer to the last
request of the driver, but an answer to an earlier one that comes late.

## Main results

* `responds_of_move`: a move of a driver is a response.
* `Agrees.hear`, `Agrees.respond`, `Agrees.bystander`: the agreement of two drivers lasts, whoever of
  them or of the others acts, as long as no refusal comes late.
-/

namespace DeviceBus

open ControlPacket

/-! ## Pairing packets on the bus -/

/-- The frame of a pairing packet. -/
def pairingFrame (flags : ControlFlags) (sender target : Identity) : Bytes :=
  (pairingMessage target flags sender).frame

theorem ofFrame?_pairingFrame (flags : ControlFlags) (sender target : Identity) :
    ofFrame? (pairingFrame flags sender target) = some (pairingMessage target flags sender) :=
  ofFrame?_pairingMessage target flags sender

/-- A pairing packet can be told by its frame. -/
theorem pairingFrame_inj {flags flags' : ControlFlags} {sender sender' target target' : Identity}
    (h : pairingFrame flags sender target = pairingFrame flags' sender' target') :
    flags = flags' ∧ sender = sender' ∧ target = target' := by
  have hframe := congrArg ofFrame? h
  rw [ofFrame?_pairingFrame, ofFrame?_pairingFrame] at hframe
  have hmessage := Option.some.inj hframe
  have hsender := congrArg (fun cp => Identity.decode? (ControlPacket.payload cp)) hmessage
  rw [decode?_payload_pairingMessage, decode?_payload_pairingMessage] at hsender
  have haddress := congrArg ControlPacket.address hmessage
  have hserial := congrArg ControlPacket.serial hmessage
  have hclass := congrArg ControlPacket.deviceClass hmessage
  refine ⟨congrArg ControlPacket.flags hmessage, Option.some.inj hsender, ?_⟩
  obtain ⟨address, serial, deviceClass⟩ := target
  obtain ⟨address', serial', deviceClass'⟩ := target'
  have h₁ : address = address' := haddress
  have h₂ : serial = serial' := hserial
  have h₃ : deviceClass = deviceClass' := hclass
  rw [h₁, h₂, h₃]

/-- The frame of an announce is none of a pairing packet. -/
theorem ne_pairingFrame_of_hello {frame : Bytes} {cp : ControlPacket}
    (hcp : ofFrame? frame = some cp) (hello : cp.type = .hello) (flags : ControlFlags)
    (sender target : Identity) : frame ≠ pairingFrame flags sender target := by
  rintro rfl
  rw [ofFrame?_pairingFrame] at hcp
  rw [← Option.some.inj hcp] at hello
  cases hello

/-- A request is neither of the answers, and these are two. -/
theorem askingFlags_ne : askingFlags ≠ ControlFlags.ack ∧ askingFlags ≠ ControlFlags.nack ∧
    ControlFlags.ack ≠ ControlFlags.nack := by
  decide

/-- The flags of a pairing packet. -/
inductive IsPairingFlags : ControlFlags → Prop where
  | request : IsPairingFlags askingFlags
  | ack : IsPairingFlags ControlFlags.ack
  | nack : IsPairingFlags ControlFlags.nack

variable {flags : ControlFlags} {target sender : Identity}

/-- What is no answer is a request. -/
theorem IsPairingFlags.eq_asking (h : IsPairingFlags flags)
    (request : (pairingMessage target flags sender).isPairingAnswer = false) :
    flags = askingFlags := by
  cases h with
  | request => rfl
  | ack =>
    rw [isPairingAnswer_accept] at request
    cases request
  | nack =>
    rw [isPairingAnswer_refusal] at request
    cases request

/-- An answer with the flag of an acceptance is one. -/
theorem IsPairingFlags.eq_ack (h : IsPairingFlags flags)
    (answer : (pairingMessage target flags sender).isPairingAnswer = true)
    (ack : flags.contains ControlFlags.ack = true) : flags = ControlFlags.ack := by
  cases h with
  | request =>
    rw [isPairingAnswer_request] at answer
    cases answer
  | ack => rfl
  | nack =>
    have hnone : ControlFlags.nack.contains ControlFlags.ack = false := by decide
    rw [hnone] at ack
    cases ack

/-- An answer without the flag of an acceptance is a refusal. -/
theorem IsPairingFlags.eq_nack (h : IsPairingFlags flags)
    (answer : (pairingMessage target flags sender).isPairingAnswer = true)
    (nack : flags.contains ControlFlags.ack = false) : flags = ControlFlags.nack := by
  cases h with
  | request =>
    rw [isPairingAnswer_request] at answer
    cases answer
  | ack =>
    have hsome : ControlFlags.ack.contains ControlFlags.ack = true := by decide
    rw [hsome] at nack
    cases nack
  | nack => rfl

/-! ## Responses -/

/-- What a driver makes of a frame of another one: from one standing to another one, with the frames
that are sent. -/
inductive Responds (own other : Identity) (frame : Bytes) :
    Standing → Standing → List Bytes → Prop where
  | stay (standing : Standing) : Responds own other frame standing standing []
  | ask {standing : Standing} (free : standing = .unpaired ∨ standing = .pairing other) :
      Responds own other frame standing (.pairing other) [pairingFrame askingFlags own other]
  | accept {standing : Standing} (request : frame = pairingFrame askingFlags other own)
      (free : ∀ peer, standing.peer = some peer → peer = other) :
      Responds own other frame standing (.paired other) [pairingFrame ControlFlags.ack own other]
  | refuse (standing : Standing) :
      Responds own other frame standing standing [pairingFrame ControlFlags.nack own other]
  | bond (accepted : frame = pairingFrame ControlFlags.ack other own) :
      Responds own other frame (.pairing other) (.paired other) []
  | giveUp (refused : frame = pairingFrame ControlFlags.nack other own) :
      Responds own other frame (.pairing other) .unpaired []

/-- A frame that concerns a driver: an announce of another one, or a pairing packet of it for the
driver. -/
inductive Concerns (own other : Identity) (frame : Bytes) (cp : ControlPacket) : Prop where
  | hello (type : cp.type = .hello) (announced : cp.announced = other)
  | pairing {flags : ControlFlags} (known : IsPairingFlags flags)
      (packet : cp = pairingMessage own flags other) (said : frame = pairingFrame flags other own)

/-- **A move is a response.** The driver takes no other device for the one that it hears. -/
theorem responds_of_move {own other : Identity} {frame : Bytes} {cp : ControlPacket}
    {status : Status} {before after : Standing} {sent : Option ControlPacket}
    {events : List EventKind} (hself : status.identity = own)
    (hknown : ∀ peer, before.peer = some peer → peer.isSameDevice other = true → peer = other)
    (hconcerns : Concerns own other frame cp)
    (hmove : Pairable.Move status cp before after sent events) :
    Responds own other frame before after (sent.map ControlPacket.frame).toList := by
  have hhello : cp.type = .hello → cp.announced = other := by
    intro htype
    cases hconcerns with
    | hello _ announced => exact announced
    | pairing known packet said =>
      rw [packet] at htype
      cases htype
  -- Who a pairing packet is from, and what the flags tell about the frame.
  have hpairing : cp.type = .pairing → ∃ flags, IsPairingFlags flags ∧
      cp = pairingMessage own flags other ∧ frame = pairingFrame flags other own := by
    intro htype
    cases hconcerns with
    | hello type _ =>
      rw [htype] at type
      cases type
    | @pairing flags known packet said => exact ⟨flags, known, packet, said⟩
  have hsender : ∀ {sender}, cp.type = .pairing → Identity.decode? cp.payload = some sender →
      sender = other := by
    intro sender htype hdecode
    obtain ⟨flags, -, rfl, -⟩ := hpairing htype
    rw [decode?_payload_pairingMessage] at hdecode
    exact (Option.some.inj hdecode).symm
  cases hmove with
  | stay => exact .stay before
  | @follow partner hello same =>
    rw [hhello hello] at same ⊢
    rw [hknown partner rfl same]
    exact .stay _
  | ask hello foreign reason =>
    rw [hhello hello, hself]
    refine .ask ?_
    rcases reason with ⟨hfree, -⟩ | ⟨target, htarget, hsame⟩
    · exact .inl hfree
    · rw [hhello hello] at hsame
      right
      rw [htarget, hknown target (by rw [htarget]; rfl) hsame]
  | @accept _ requester pairing request sender free =>
    obtain rfl := hsender pairing sender
    obtain ⟨flags, hflags, rfl, hframe⟩ := hpairing pairing
    rw [hself]
    rw [hflags.eq_asking request] at hframe
    exact .accept hframe fun peer hpeer => hknown peer hpeer (free peer hpeer)
  | @refuse _ requester peer pairing request sender taken different =>
    obtain rfl := hsender pairing sender
    rw [hself]
    exact .refuse before
  | @bond target responder pairing answer sender same ack =>
    obtain rfl := hsender pairing sender
    obtain ⟨flags, hflags, rfl, hframe⟩ := hpairing pairing
    rw [hflags.eq_ack answer ack] at hframe
    rw [hknown target rfl same]
    exact .bond hframe
  | @giveUp target responder pairing answer sender same nack =>
    obtain rfl := hsender pairing sender
    obtain ⟨flags, hflags, rfl, hframe⟩ := hpairing pairing
    rw [hflags.eq_nack answer nack] at hframe
    rw [hknown target rfl same]
    exact .giveUp hframe

/-- Nobody but the other one becomes a peer. -/
theorem Responds.peer {own other : Identity} {frame : Bytes} {before after : Standing}
    {sent : List Bytes} (h : Responds own other frame before after sent) {peer : Identity}
    (hpeer : after.peer = some peer) : peer = other ∨ before.peer = some peer := by
  cases h with
  | stay => exact .inr hpeer
  | ask _ => exact .inl (Option.some.inj hpeer).symm
  | accept _ _ => exact .inl (Option.some.inj hpeer).symm
  | refuse => exact .inr hpeer
  | bond _ => exact .inl (Option.some.inj hpeer).symm
  | giveUp _ => cases hpeer

/-- Whatever is sent is a pairing packet for the other one. -/
theorem Responds.sent {own other : Identity} {frame : Bytes} {before after : Standing}
    {sent : List Bytes} (h : Responds own other frame before after sent) :
    ∀ said ∈ sent, ∃ flags, IsPairingFlags flags ∧ said = pairingFrame flags own other := by
  intro said hsaid
  cases h with
  | stay => cases hsaid
  | ask _ => exact ⟨_, .request, List.mem_singleton.1 hsaid⟩
  | accept _ _ => exact ⟨_, .ack, List.mem_singleton.1 hsaid⟩
  | refuse => exact ⟨_, .nack, List.mem_singleton.1 hsaid⟩
  | bond _ => cases hsaid
  | giveUp _ => cases hsaid

/-! ## Agreement of two drivers -/

/-- Driver `a` is paired with driver `b`, or a request of `b` waits for it. -/
def CountsOn (a b : Identity) (atA : Standing) (waiting : List Bytes) : Prop :=
  atA = .paired b ∨ pairingFrame askingFlags b a ∈ waiting

/-- If `a` counts on `b`, then `b` asks `a` or is paired with it; and if `b` accepted a request of
`a`, it is. The frames that wait for `a` tell. -/
structure Agrees (a b : Identity) (atA atB : Standing) (waiting : List Bytes) : Prop where
  asked : CountsOn a b atA waiting → atB = .pairing a ∨ atB = .paired a
  accepted : pairingFrame ControlFlags.ack b a ∈ waiting → atB = .paired a

variable {a b other : Identity} {atA atB after : Standing} {frame : Bytes} {waiting sent : List Bytes}

/-- What others say makes no difference. -/
theorem Agrees.bystander (h : Agrees a b atA atB waiting) {extra : List Bytes}
    (hextra : ∀ said ∈ extra, ∀ flags, said ≠ pairingFrame flags b a) :
    Agrees a b atA atB (waiting ++ extra) := by
  have hold : ∀ flags, pairingFrame flags b a ∈ waiting ++ extra →
      pairingFrame flags b a ∈ waiting := by
    intro flags hmem
    rcases List.mem_append.1 hmem with hwaiting | hnew
    · exact hwaiting
    · exact absurd rfl (hextra _ hnew flags)
  refine ⟨fun hcounts => h.asked ?_, fun hmem => h.accepted (hold _ hmem)⟩
  exact hcounts.imp_right (hold _)

/-- What `a` makes of a frame is agreed on, for it only accepts what `b` asked. -/
theorem Agrees.hear (h : Agrees a b atA atB (frame :: waiting))
    (hresponds : Responds a other frame atA after sent) : Agrees a b after atB waiting := by
  have hrest : ∀ {said}, said ∈ waiting → said ∈ frame :: waiting := List.mem_cons_of_mem frame
  refine ⟨fun hcounts => ?_, fun hmem => h.accepted (hrest hmem)⟩
  rcases hcounts with hpaired | hmem
  · cases hresponds with
    | stay => exact h.asked (.inl hpaired)
    | ask _ => cases hpaired
    | accept request _ =>
      obtain rfl := Standing.paired.inj hpaired
      refine h.asked (.inr ?_)
      rw [request]
      exact List.mem_cons_self
    | refuse => exact h.asked (.inl hpaired)
    | bond accepted =>
      obtain rfl := Standing.paired.inj hpaired
      refine .inr (h.accepted ?_)
      rw [accepted]
      exact List.mem_cons_self
    | giveUp _ => cases hpaired
  · exact h.asked (.inr (hrest hmem))

/-- A refusal of `a` that `b` does not expect any more: while it asks `a`, another request of it
waits for `a`, or `a` is paired with it already. -/
structure ComesLate (a b : Identity) (atA atB : Standing) (waiting : List Bytes) (frame : Bytes) :
    Prop where
  asking : atB = .pairing a
  refusal : frame = pairingFrame ControlFlags.nack a b
  counted : CountsOn a b atA waiting

/-- Of what waits after `b` spoke, only the last frame is new. -/
theorem mem_of_mem_append_pairingFrame {flags' : ControlFlags}
    (h : pairingFrame flags b a ∈ waiting ++ [pairingFrame flags' b other]) :
    pairingFrame flags b a ∈ waiting ∨ flags = flags' ∧ other = a := by
  rcases List.mem_append.1 h with hwaiting | hnew
  · exact .inl hwaiting
  · obtain ⟨hflags, -, htarget⟩ := pairingFrame_inj (List.mem_singleton.1 hnew)
    exact .inr ⟨hflags, htarget.symm⟩

/-- Asking is agreed on: whoever counted on `b` before was asked, and is asked again. -/
theorem Agrees.ask (h : Agrees a b atA atB waiting)
    (free : atB = .unpaired ∨ atB = .pairing other) :
    Agrees a b atA (.pairing other) (waiting ++ [pairingFrame askingFlags b other]) := by
  have hunbound : atB ≠ .paired a := by
    rcases free with hfree | hfree
    · rw [hfree]
      exact Standing.noConfusion
    · rw [hfree]
      exact Standing.noConfusion
  have hold : CountsOn a b atA waiting → other = a := by
    intro hcounts
    have hasks := (h.asked hcounts).resolve_right hunbound
    rcases free with hfree | hfree
    · rw [hfree] at hasks
      cases hasks
    · rw [hfree] at hasks
      exact Standing.pairing.inj hasks
  constructor
  · intro hcounts
    have hother : other = a := by
      rcases hcounts with hpaired | hsaid
      · exact hold (.inl hpaired)
      · rcases mem_of_mem_append_pairingFrame hsaid with hwaiting | ⟨-, hnew⟩
        · exact hold (.inr hwaiting)
        · exact hnew
    exact .inl (congrArg Standing.pairing hother)
  · intro hsaid
    rcases mem_of_mem_append_pairingFrame hsaid with hwaiting | ⟨hflags, -⟩
    · exact absurd (h.accepted hwaiting) hunbound
    · exact absurd hflags.symm askingFlags_ne.1

/-- Accepting is agreed on: whoever has a peer accepts no other one. -/
theorem Agrees.accept (h : Agrees a b atA atB waiting)
    (free : ∀ peer, atB.peer = some peer → peer = other) :
    Agrees a b atA (.paired other) (waiting ++ [pairingFrame ControlFlags.ack b other]) := by
  have hbonded : atB.peer = some a → Standing.paired other = .paired a :=
    fun hpeer => by rw [free a hpeer]
  have hold : CountsOn a b atA waiting → Standing.paired other = .paired a := by
    intro hcounts
    rcases h.asked hcounts with hasks | hpaired
    · exact hbonded (by rw [hasks]; rfl)
    · exact hbonded (by rw [hpaired]; rfl)
  constructor
  · intro hcounts
    right
    rcases hcounts with hpaired | hsaid
    · exact hold (.inl hpaired)
    · rcases mem_of_mem_append_pairingFrame hsaid with hwaiting | ⟨hflags, -⟩
      · exact hold (.inr hwaiting)
      · exact absurd hflags askingFlags_ne.1
  · intro hsaid
    rcases mem_of_mem_append_pairingFrame hsaid with hwaiting | ⟨-, rfl⟩
    · exact hbonded (by rw [h.accepted hwaiting]; rfl)
    · rfl

/-- Refusing is agreed on. -/
theorem Agrees.refuse (h : Agrees a b atA atB waiting) (other : Identity) :
    Agrees a b atA atB (waiting ++ [pairingFrame ControlFlags.nack b other]) := by
  obtain ⟨-, hask, hack⟩ := askingFlags_ne
  constructor
  · intro hcounts
    refine h.asked (hcounts.imp_right fun hsaid => ?_)
    exact (mem_of_mem_append_pairingFrame hsaid).resolve_right fun hnew => hask hnew.1
  · intro hsaid
    refine h.accepted ?_
    exact (mem_of_mem_append_pairingFrame hsaid).resolve_right fun hnew => hack hnew.1

/-- What `b` makes of a frame is agreed on, unless it is a refusal that comes late. -/
theorem Agrees.respond (h : Agrees a b atA atB waiting)
    (hresponds : Responds b other frame atB after sent)
    (hintime : ¬ ComesLate a b atA atB waiting frame) :
    Agrees a b atA after (waiting ++ sent) := by
  cases hresponds with
  | stay =>
    rw [List.append_nil]
    exact h
  | ask free => exact h.ask free
  | accept _ free => exact h.accept free
  | refuse => exact h.refuse other
  | bond _ =>
    rw [List.append_nil]
    constructor
    · intro hcounts
      rcases h.asked hcounts with hasks | hpaired
      · exact .inr (congrArg Standing.paired (Standing.pairing.inj hasks))
      · cases hpaired
    · intro hsaid
      cases h.accepted hsaid
  | giveUp refused =>
    rw [List.append_nil]
    constructor
    · intro hcounts
      rcases h.asked hcounts with hasks | hpaired
      · obtain rfl := Standing.pairing.inj hasks
        exact absurd ⟨rfl, refused, hcounts⟩ hintime
      · cases hpaired
    · intro hsaid
      cases h.accepted hsaid

end DeviceBus
