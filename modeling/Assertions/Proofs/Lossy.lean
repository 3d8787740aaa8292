import Assertions.Proofs.Utf8

/-!
Reading bytes that may be ill-formed. A reading takes the bytes apart: a sequence gives its
character, and where none stands, the longest run of bytes that could still begin one, or a single
byte where nothing could, gives one replacement character. Every list of bytes has exactly one
reading, and it is the one that the lossy reader gives.
-/

namespace Assertions.Text

/-- Some character has a sequence that begins with these bytes. -/
def Begins (run : List UInt8) : Prop :=
  ∃ c, run <+: String.utf8EncodeChar c

/-- No sequence stands at the front of `run ++ rest`, and `run` is as long as it can be. -/
structure Broken (run rest : List UInt8) : Prop where
  nonempty : run ≠ []
  part : run.length = 1 ∨ Begins run
  illFormed : ∀ c, ¬ String.utf8EncodeChar c <+: run ++ rest
  longest : ∀ more, more <+: run ++ rest → run.length < more.length → ¬ Begins more

/-- The characters that bytes read as. -/
inductive Reads : List UInt8 → List Char → Prop
  | nil : Reads [] []
  | sequence (c : Char) {rest : List UInt8} {chars : List Char} (behind : Reads rest chars) :
      Reads (String.utf8EncodeChar c ++ rest) (c :: chars)
  | broken {run rest : List UInt8} {chars : List Char} (front : Broken run rest)
      (behind : Reads rest chars) : Reads (run ++ rest) (replacement :: chars)

theorem Begins.of_prefix {run more : List UInt8} (h : Begins more) (front : run <+: more) :
    Begins run := by
  obtain ⟨c, sequence⟩ := h
  exact ⟨c, front.trans sequence⟩

namespace Utf8

theorem Sequence.length_eq {lead : UInt8} {tail : List UInt8} (h : Sequence (lead :: tail)) :
    (lead :: tail).length = lengthOf lead := by
  cases h with
  | one length | two length _ | three length _ _ | four length _ _ _ => exact length.symm

section Beginnings

variable {lead second third fourth : UInt8}

theorem begins_iff {run : List UInt8} : Begins run ↔ ∃ bytes, Sequence bytes ∧ run <+: bytes := by
  constructor
  · rintro ⟨c, front⟩
    exact ⟨_, sequence_encode c, front⟩
  · rintro ⟨bytes, sequence, front⟩
    obtain ⟨c, rfl, -⟩ := decodeLossy_sequence sequence []
    exact ⟨c, front⟩

theorem begins_one (h : Begins [lead]) : lengthOf lead ≠ 0 := by
  obtain ⟨bytes, sequence, front⟩ := begins_iff.mp h
  cases sequence with
  | one length | two length _ | three length _ _ | four length _ _ _ =>
      obtain ⟨rfl, _⟩ := List.cons_prefix_cons.mp front
      rw [length]
      decide

theorem begins_two (h : Begins [lead, second]) :
    (lengthOf lead = 2 → isContinuation second = true) ∧
      (lengthOf lead = 3 → isSecondOfThree lead second = true) ∧
      (lengthOf lead = 4 → isSecondOfFour lead second = true) := by
  obtain ⟨bytes, sequence, front⟩ := begins_iff.mp h
  cases sequence <;> simp_all [List.cons_prefix_cons]

theorem begins_three (h : Begins [lead, second, third]) : isContinuation third = true := by
  obtain ⟨bytes, sequence, front⟩ := begins_iff.mp h
  cases sequence <;> simp_all [List.cons_prefix_cons]

theorem begins_four (h : Begins [lead, second, third, fourth]) : isContinuation fourth = true := by
  obtain ⟨bytes, sequence, front⟩ := begins_iff.mp h
  cases sequence <;> simp_all [List.cons_prefix_cons]

/-- The least continuation byte goes on with whatever is behind the second byte. -/
theorem begins_of_second (h : lengthOf lead = 3 ∧ isSecondOfThree lead second = true ∨
    lengthOf lead = 4 ∧ isSecondOfFour lead second = true) : Begins [lead, second] := by
  obtain ⟨length, next⟩ | ⟨length, next⟩ := h
  · exact begins_iff.mpr ⟨_, @Sequence.three lead second 0x80 length next rfl, [0x80], rfl⟩
  · exact begins_iff.mpr ⟨_, @Sequence.four lead second 0x80 0x80 length next rfl rfl,
      [0x80, 0x80], rfl⟩

theorem begins_of_third (length : lengthOf lead = 4) (next : isSecondOfFour lead second = true)
    (after : isContinuation third = true) : Begins [lead, second, third] :=
  begins_iff.mpr ⟨_, @Sequence.four lead second third 0x80 length next after rfl, [0x80], rfl⟩

end Beginnings

/-- A longer piece of the same bytes goes on with the byte behind the shorter one. -/
theorem next_of_longer {run rest more : List UInt8} (front : more <+: run ++ rest)
    (longer : run.length < more.length) :
    ∃ byte after, rest = byte :: after ∧ run ++ [byte] <+: more := by
  obtain ⟨extra, rfl⟩ :=
    List.prefix_of_prefix_length_le (List.prefix_append run rest) front
      (Nat.le_of_lt longer)
  have behind : extra <+: rest := (List.prefix_append_right_inj run).mp front
  cases extra with
  | nil =>
      rw [List.append_nil] at longer
      exact absurd longer (Nat.lt_irrefl _)
  | cons byte extra =>
      obtain ⟨after, rfl⟩ := behind
      exact ⟨byte, extra ++ after, rfl, extra, by rw [List.append_assoc]; rfl⟩

section Broken

variable {lead byte : UInt8} {tail rest : List UInt8} {n : Nat}

/-- A run that falls short of its sequence is broken where the next byte does not go on with it. -/
theorem broken_of_stop (length : lengthOf lead = n) (short : tail.length + 1 < n)
    (part : tail = [] ∨ Begins (lead :: tail))
    (stop : ∀ byte after, rest = byte :: after → ¬ Begins (lead :: tail ++ [byte])) :
    Broken (lead :: tail) rest := by
  have longest more (front : more <+: lead :: tail ++ rest)
      (longer : (lead :: tail).length < more.length) : ¬ Begins more := by
    obtain ⟨byte, after, rfl, next⟩ := next_of_longer front longer
    exact fun begins => stop byte after rfl (begins.of_prefix next)
  have parts : (lead :: tail).length = 1 ∨ Begins (lead :: tail) :=
    part.imp_left (congrArg fun tail => (lead :: tail).length)
  refine ⟨List.cons_ne_nil _ _, parts, ?_, longest⟩
  intro c front
  have sequence := sequence_encode c
  have begins : Begins (String.utf8EncodeChar c) := ⟨c, List.prefix_refl _⟩
  generalize String.utf8EncodeChar c = bytes at front sequence begins
  by_cases longer : (lead :: tail).length < bytes.length
  · exact longest bytes front longer begins
  · cases bytes with
    | nil => cases sequence
    | cons head bytes =>
        obtain ⟨rfl, _⟩ := List.cons_prefix_cons.mp front
        rw [sequence.length_eq, length] at longer
        exact longer short

theorem broken_before (length : lengthOf lead = n) (short : tail.length + 1 < n)
    (part : tail = [] ∨ Begins (lead :: tail)) (stop : ¬ Begins (lead :: tail ++ [byte])) :
    Broken (lead :: tail) (byte :: rest) := by
  refine broken_of_stop length short part ?_
  intro next after same
  cases same
  exact stop

theorem broken_at_end (length : lengthOf lead = n) (short : tail.length + 1 < n)
    (part : tail = [] ∨ Begins (lead :: tail)) : Broken (lead :: tail) [] :=
  broken_of_stop length short part nofun

theorem broken_of_lead (h : lengthOf lead = 0) : Broken [lead] rest := by
  have none more (front : more <+: [lead] ++ rest) (nonempty : 0 < more.length) :
      ¬ Begins more := by
    cases more with
    | nil => exact absurd nonempty (Nat.lt_irrefl 0)
    | cons head more =>
        obtain ⟨rfl, _⟩ := List.cons_prefix_cons.mp front
        exact fun begins => begins_one (begins.of_prefix (List.prefix_append [head] more)) h
  refine ⟨List.cons_ne_nil _ _, .inl rfl, ?_, ?_⟩
  · intro c front
    have begins : Begins (String.utf8EncodeChar c) := ⟨c, List.prefix_refl _⟩
    exact none _ front (List.length_pos_iff.mpr String.utf8EncodeChar_ne_nil) begins
  · intro more front longer
    exact none more front (Nat.lt_trans Nat.one_pos longer)

end Broken

/-- The lossy reader reads. -/
theorem reads_decodeLossy (bytes : List UInt8) : Reads bytes (decodeLossy bytes) := by
  fun_induction decodeLossy bytes with
  | case1 => exact .nil
  | case2 lead rest length ih =>
      have reads := Reads.sequence (Char.ofNat lead.toNat) ih
      rwa [encode_one length] at reads
  | case3 lead length second after last ih =>
      have reads := Reads.sequence (two lead second) ih
      rwa [encode_two length last] at reads
  | case4 lead length second after ends ih =>
      have front : Broken [lead] (second :: after) :=
        broken_before length (by simp) (.inl rfl) fun begins => ends ((begins_two begins).1 length)
      exact .broken front ih
  | case5 lead length => exact .broken (broken_at_end length (by simp) (.inl rfl)) .nil
  | case6 lead length second next third after last ih =>
      have reads := Reads.sequence (three lead second third) ih
      rwa [encode_three length next last] at reads
  | case7 lead length second next third after ends ih =>
      have front : Broken [lead, second] (third :: after) :=
        broken_before length (by simp) (.inr (begins_of_second (.inl ⟨length, next⟩)))
          fun begins => ends (begins_three begins)
      exact .broken front ih
  | case8 lead length second next =>
      exact .broken (broken_at_end length (by simp)
        (.inr (begins_of_second (.inl ⟨length, next⟩)))) .nil
  | case9 lead length second after ends ih =>
      have front : Broken [lead] (second :: after) :=
        broken_before length (by simp) (.inl rfl)
          fun begins => ends ((begins_two begins).2.1 length)
      exact .broken front ih
  | case10 lead length => exact .broken (broken_at_end length (by simp) (.inl rfl)) .nil
  | case11 lead length second next third middle fourth after last ih =>
      have reads := Reads.sequence (four lead second third fourth) ih
      rwa [encode_four length next middle last] at reads
  | case12 lead length second next third middle fourth after ends ih =>
      have front : Broken [lead, second, third] (fourth :: after) :=
        broken_before length (by simp) (.inr (begins_of_third length next middle))
          fun begins => ends (begins_four begins)
      exact .broken front ih
  | case13 lead length second next third middle =>
      exact .broken (broken_at_end length (by simp)
        (.inr (begins_of_third length next middle))) .nil
  | case14 lead length second next third after ends ih =>
      have front : Broken [lead, second] (third :: after) :=
        broken_before length (by simp) (.inr (begins_of_second (.inr ⟨length, next⟩)))
          fun begins => ends (begins_three begins)
      exact .broken front ih
  | case15 lead length second next =>
      exact .broken (broken_at_end length (by simp)
        (.inr (begins_of_second (.inr ⟨length, next⟩)))) .nil
  | case16 lead length second after ends ih =>
      have front : Broken [lead] (second :: after) :=
        broken_before length (by simp) (.inl rfl)
          fun begins => ends ((begins_two begins).2.2 length)
      exact .broken front ih
  | case17 lead length => exact .broken (broken_at_end length (by simp) (.inl rfl)) .nil
  | case18 lead rest one two three four ih =>
      have none : lengthOf lead = 0 := by
        simp only [lengthOf] at one two three four ⊢
        split_ifs at one two three four ⊢ <;> simp_all
      exact .broken (broken_of_lead none) ih

end Utf8

theorem Broken.unique {run rest run' rest' : List UInt8} (h : Broken run rest)
    (h' : Broken run' rest') (same : run ++ rest = run' ++ rest') : run = run' ∧ rest = rest' := by
  have shorter {run rest run' rest' : List UInt8} (h : Broken run rest) (h' : Broken run' rest')
      (same : run ++ rest = run' ++ rest') : run'.length ≤ run.length := by
    refine Nat.le_of_not_lt fun longer => ?_
    have pos := List.length_pos_iff.mpr h.nonempty
    have front : run' <+: run ++ rest := same ▸ List.prefix_append run' rest'
    refine h.longest run' front longer (h'.part.resolve_left ?_)
    omega
  exact List.append_inj same (Nat.le_antisymm (shorter h' h same.symm) (shorter h h' same))

theorem encode_append_inj {c d : Char} {rest rest' : List UInt8}
    (h : String.utf8EncodeChar c ++ rest = String.utf8EncodeChar d ++ rest') :
    c = d ∧ rest = rest' := by
  have decoded := congrArg Utf8.decodeLossy h
  rw [Utf8.decodeLossy_encode, Utf8.decodeLossy_encode] at decoded
  obtain rfl := (List.cons.inj decoded).1
  exact ⟨rfl, List.append_cancel_left h⟩

/-- Bytes have one reading only. -/
theorem Reads.unique {bytes : List UInt8} {chars others : List Char} (h : Reads bytes chars)
    (h' : Reads bytes others) : chars = others := by
  induction h generalizing others with
  | nil =>
      generalize same : ([] : List UInt8) = bytes at h'
      cases h' with
      | nil => rfl
      | sequence c _ =>
          exact absurd (List.append_eq_nil_iff.mp same.symm).1 String.utf8EncodeChar_ne_nil
      | broken front _ => exact absurd (List.append_eq_nil_iff.mp same.symm).1 front.nonempty
  | @sequence c rest chars behind ih =>
      generalize same : String.utf8EncodeChar c ++ rest = bytes at h'
      cases h' with
      | nil => exact absurd (List.append_eq_nil_iff.mp same).1 String.utf8EncodeChar_ne_nil
      | sequence d behind' =>
          obtain ⟨rfl, rfl⟩ := encode_append_inj same
          rw [ih behind']
      | broken front _ => exact absurd (same ▸ List.prefix_append _ _) (front.illFormed c)
  | @broken run rest chars front behind ih =>
      generalize same : run ++ rest = bytes at h'
      cases h' with
      | nil => exact absurd (List.append_eq_nil_iff.mp same).1 front.nonempty
      | sequence c _ => exact absurd (same ▸ List.prefix_append _ _) (front.illFormed c)
      | broken front' behind' =>
          obtain ⟨rfl, rfl⟩ := front.unique front' same
          rw [ih behind']

theorem reads_iff {bytes : List UInt8} {chars : List Char} :
    Reads bytes chars ↔ Utf8.decodeLossy bytes = chars := by
  constructor
  · exact (Utf8.reads_decodeLossy bytes).unique
  · rintro rfl
    exact Utf8.reads_decodeLossy bytes

/-- A reading without replacement characters is the text that was encoded. -/
theorem Reads.encoded {bytes : List UInt8} {chars : List Char} (h : Reads bytes chars)
    (clean : replacement ∉ chars) : chars.flatMap String.utf8EncodeChar = bytes := by
  induction h with
  | nil => rfl
  | sequence c _ ih =>
      rw [List.flatMap_cons, ih fun member => clean (List.mem_cons_of_mem _ member)]
  | broken _ _ _ => exact absurd List.mem_cons_self clean

theorem replacement_mem_of_illFormed {content : List UInt8} (h : ∀ text, bytes text ≠ content) :
    replacement ∈ (ofBytesLossy content).toList := by
  rw [ofBytesLossy, String.toList_ofList]
  refine Decidable.of_not_not fun clean => h (ofBytesLossy content) ?_
  rw [bytes, ofBytesLossy, String.toList_ofList]
  exact (Utf8.reads_decodeLossy content).encoded clean

end Assertions.Text
