import DeviceBus.StreamCommand

/-!
# Streaming commands and their bytes

Five layouts share the payload of a data frame, and the first byte tells them apart. Reading is
lenient: bytes behind a command that has no use for them are passed over. A `Layout` says which of
the layouts some bytes have, and what is true of reading and writing is shown layout by layout.

## Main results

* `decode_toBytes_iff`: which commands read back as they were written.
* `decode_eq_error_iff`: which bytes are not read.
* `toBytes_eq_iff_of_decode`: which bytes are written again as they were.
* `reads_and_writes`: the contract of the format.
-/

namespace DeviceBus

namespace StreamCommand

/-- A driver's own command keeps clear of the bytes of the others. -/
def IsCanonical : StreamCommand → Prop
  | .other command _ => 3 < command
  | _ => True

/-- A command that one frame can carry. -/
def Fits : StreamCommand → Prop
  | .state _ bytes => bytes.length ≤ 27
  | .other _ payload => payload.length ≤ 31
  | _ => True

/-- Bytes behind a command that has no use for them. -/
def IsPadded (data : Bytes) : Prop :=
  (data.head? = some 0 ∨ data.head? = some 2) ∧ 1 < data.length ∨
    data.head? = some 1 ∧ 5 < data.length

/-- No bytes, or a command that ends within its fixed fields. -/
def IsCut (data : Bytes) : Prop :=
  data = [] ∨ (data.head? = some 1 ∨ data.head? = some 3) ∧ data.length < 5

/-! ## Layouts -/

/-- The layout of some bytes. -/
inductive Layout : Bytes → Prop where
  | empty : Layout []
  | idle (rest : Bytes) : Layout (0 :: rest)
  | start (b0 b1 b2 b3 : UInt8) (rest : Bytes) : Layout (1 :: b0 :: b1 :: b2 :: b3 :: rest)
  | stop (rest : Bytes) : Layout (2 :: rest)
  | state (b0 b1 b2 b3 : UInt8) (bytes : Bytes) : Layout (3 :: b0 :: b1 :: b2 :: b3 :: bytes)
  /-- A start or a state that ends within its fixed fields. -/
  | cut (command : UInt8) (rest : Bytes) (known : command = 1 ∨ command = 3)
      (short : rest.length < 4) : Layout (command :: rest)
  /-- A driver's own command. -/
  | other (command : UInt8) (payload : Bytes) (own : 3 < command) : Layout (command :: payload)

/-- Four bytes in front, or fewer in all. -/
theorem length_lt_or_exists (rest : Bytes) :
    rest.length < 4 ∨ ∃ b0 b1 b2 b3 later, rest = b0 :: b1 :: b2 :: b3 :: later := by
  match rest with
  | b0 :: b1 :: b2 :: b3 :: later => exact .inr ⟨b0, b1, b2, b3, later, rfl⟩
  | [] | [_] | [_, _] | [_, _, _] => exact .inl (by simp)

/-- All bytes have a layout. -/
theorem layout (data : Bytes) : Layout data := by
  cases data with
  | nil => exact .empty
  | cons command rest =>
    by_cases hidle : command = 0
    · exact hidle ▸ .idle rest
    by_cases hstart : command = 1
    · rcases length_lt_or_exists rest with hshort | ⟨b0, b1, b2, b3, later, rfl⟩
      · exact .cut command rest (.inl hstart) hshort
      · exact hstart ▸ .start b0 b1 b2 b3 later
    by_cases hstop : command = 2
    · exact hstop ▸ .stop rest
    by_cases hstate : command = 3
    · rcases length_lt_or_exists rest with hshort | ⟨b0, b1, b2, b3, bytes, rfl⟩
      · exact .cut command rest (.inr hstate) hshort
      · exact hstate ▸ .state b0 b1 b2 b3 bytes
    · refine .other command rest ?_
      rw [← UInt8.toNat_inj] at hidle hstart hstop hstate
      rw [UInt8.lt_iff_toNat_lt]
      simp only [UInt8.reduceToNat] at hidle hstart hstop hstate ⊢
      omega

/-- A driver's own command is none of the others. -/
theorem ne_of_own {command : UInt8} (own : 3 < command) (known : UInt8) (hknown : known ≤ 3) :
    command ≠ known := by
  rintro rfl
  exact absurd own (UInt8.not_lt.2 hknown)

theorem decode_of_own {command : UInt8} (own : 3 < command) (payload : Bytes) :
    decode (command :: payload) = .ok (.other command payload) := by
  have hne := ne_of_own own
  simp only [decode, if_neg (hne 0 (by decide)), if_neg (hne 1 (by decide)),
    if_neg (hne 2 (by decide)), if_neg (hne 3 (by decide))]

theorem decode_of_cut {command : UInt8} {rest : Bytes} (known : command = 1 ∨ command = 3)
    (short : rest.length < 4) :
    decode (command :: rest) = .error (.commandTooShort command (rest.length + 1)) := by
  match rest, short with
  | [], _ | [_], _ | [_, _], _ | [_, _, _], _ => rcases known with rfl | rfl <;> rfl

/-! ## Reading what was written -/

theorem decode_toBytes_of_isCanonical {command : StreamCommand} (h : command.IsCanonical) :
    decode command.toBytes = .ok command := by
  cases command with
  | idle => rfl
  | start interval => simp [toBytes, Bytes.ofWord32, decode, Bytes.word32_ofWord32]
  | stop => rfl
  | state timestamp bytes => simp [toBytes, Bytes.ofWord32, decode, Bytes.word32_ofWord32]
  | other command payload => exact decode_of_own h payload

/-- What is read reads back. -/
theorem isCanonical_of_decode {data : Bytes} {command : StreamCommand}
    (h : decode data = .ok command) : command.IsCanonical := by
  cases layout data with
  | empty => cases h
  | idle rest | stop rest | start b0 b1 b2 b3 rest | state b0 b1 b2 b3 rest =>
    cases h
    trivial
  | cut command rest known short =>
    rw [decode_of_cut known short] at h
    cases h
  | other command payload own =>
    rw [decode_of_own own] at h
    cases h
    exact own

theorem decode_toBytes_iff {command : StreamCommand} :
    decode command.toBytes = .ok command ↔ command.IsCanonical :=
  ⟨isCanonical_of_decode, decode_toBytes_of_isCanonical⟩

theorem length_toBytes_le_iff {command : StreamCommand} :
    command.toBytes.length ≤ payloadLimit ↔ command.Fits := by
  cases command with
  | idle | start interval | stop => simp [toBytes, Fits, payloadLimit, Bytes.ofWord32]
  | state timestamp bytes =>
    simp only [toBytes, Fits, payloadLimit, List.length_cons, List.length_append,
      Bytes.length_ofWord32]
    omega
  | other command payload =>
    simp only [toBytes, Fits, payloadLimit, List.length_cons]
    omega

/-- A packet is made of a command that fits, and of no other. -/
theorem exists_ofData_iff {command : StreamCommand} (address : UInt8) :
    (∃ packet, Packet.ofData address command.toBytes = .ok packet) ↔ command.Fits := by
  rw [← length_toBytes_le_iff, Packet.ofData]
  split
  next hlarge => simp [Nat.not_le.2 hlarge]
  next hfits => simp [Nat.not_lt.1 hfits]

/-! ## Writing what was read -/

theorem decode_eq_error_iff {data : Bytes} {e : FrameError} :
    decode data = .error e ↔ IsCut data ∧ e = .commandTooShort (data.headD 0) data.length := by
  cases layout data with
  | empty =>
    have hcut : IsCut [] := .inl rfl
    have hdecode : decode [] = .error (.commandTooShort 0 0) := rfl
    rw [and_iff_right hcut, hdecode, Except.error.injEq, eq_comm]
    rfl
  | cut command rest known short =>
    have hcut : IsCut (command :: rest) := .inr ⟨by simpa using known, Nat.succ_lt_succ short⟩
    rw [and_iff_right hcut, decode_of_cut known short, Except.error.injEq, eq_comm]
    rfl
  | idle rest | stop rest => simp [decode, IsCut]
  | start b0 b1 b2 b3 rest | state b0 b1 b2 b3 rest =>
    have hlong : ¬rest.length + 1 + 1 + 1 + 1 + 1 < 5 := by omega
    simp [decode, IsCut, hlong]
  | other command payload own =>
    simp [decode_of_own own, IsCut, ne_of_own own 1 (by decide),
      ne_of_own own 3 (by decide)]

/-- The front of the bytes is written again. -/
theorem toBytes_prefix_of_decode {data : Bytes} {command : StreamCommand}
    (h : decode data = .ok command) : command.toBytes <+: data := by
  cases layout data with
  | empty => cases h
  | idle rest | stop rest =>
    cases h
    exact ⟨rest, rfl⟩
  | start b0 b1 b2 b3 rest =>
    cases h
    rw [toBytes, Bytes.ofWord32_word32]
    exact ⟨rest, rfl⟩
  | state b0 b1 b2 b3 bytes =>
    cases h
    rw [toBytes, Bytes.ofWord32_word32]
    exact List.prefix_rfl
  | cut command rest known short =>
    rw [decode_of_cut known short] at h
    cases h
  | other command payload own =>
    rw [decode_of_own own] at h
    cases h
    exact List.prefix_rfl

/-- The bytes are written again as they were exactly if none of them was passed over. -/
theorem toBytes_eq_iff_of_decode {data : Bytes} {command : StreamCommand}
    (h : decode data = .ok command) : command.toBytes = data ↔ ¬IsPadded data := by
  cases layout data with
  | empty => cases h
  | idle rest | stop rest =>
    cases h
    cases rest <;> simp [toBytes, IsPadded]
  | start b0 b1 b2 b3 rest =>
    cases h
    rw [toBytes, Bytes.ofWord32_word32]
    cases rest <;> simp [IsPadded]
  | state b0 b1 b2 b3 bytes =>
    cases h
    rw [toBytes, Bytes.ofWord32_word32]
    simp [IsPadded]
  | cut command rest known short =>
    rw [decode_of_cut known short] at h
    cases h
  | other command payload own =>
    rw [decode_of_own own] at h
    cases h
    simp [toBytes, IsPadded, ne_of_own own 0 (by decide),
      ne_of_own own 1 (by decide), ne_of_own own 2 (by decide)]

/-- **The format of streaming commands.** A command reads back if a driver's own has none of the
bytes of the others, and fits a frame if what it carries is short enough. Bytes are read unless they
end within the fixed fields of their command; then they are written again up to what was passed
over, and read as the same command. -/
theorem reads_and_writes :
    (∀ command, decode command.toBytes = .ok command ↔ command.IsCanonical) ∧
    (∀ (command : StreamCommand) (address : UInt8),
      (∃ packet, Packet.ofData address command.toBytes = .ok packet) ↔ command.Fits) ∧
    ∀ data : Bytes,
      (∀ e, decode data = .error e ↔
        IsCut data ∧ e = .commandTooShort (data.headD 0) data.length) ∧
      ∀ command, decode data = .ok command →
        (command.toBytes = data ↔ ¬IsPadded data) ∧ command.toBytes <+: data ∧
          decode command.toBytes = .ok command := by
  refine ⟨fun command => decode_toBytes_iff, fun command address => exists_ofData_iff address,
    fun data => ⟨fun e => decode_eq_error_iff, fun command h => ⟨?_, ?_, ?_⟩⟩⟩
  · exact toBytes_eq_iff_of_decode h
  · exact toBytes_prefix_of_decode h
  · exact decode_toBytes_iff.2 (isCanonical_of_decode h)

/-- A start with a byte behind its interval is read, but written again without it. -/
theorem reads_paddedStart :
    decode [1, 5, 0, 0, 0, 9] = .ok (.start 5) ∧
      (start 5).toBytes ≠ [1, 5, 0, 0, 0, 9] ∧ (start 5).toBytes <+: [1, 5, 0, 0, 0, 9] := by
  have hread : decode [1, 5, 0, 0, 0, 9] = .ok (.start 5) := rfl
  have hpadded : IsPadded [1, 5, 0, 0, 0, 9] := .inr ⟨rfl, by decide⟩
  obtain ⟨hagain, hfront, -⟩ := (reads_and_writes.2.2 [1, 5, 0, 0, 0, 9]).2 (.start 5) hread
  exact ⟨hread, fun hsame => hagain.1 hsame hpadded, hfront⟩

end StreamCommand

end DeviceBus
