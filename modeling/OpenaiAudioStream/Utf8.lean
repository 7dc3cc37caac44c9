import Mathlib.Data.UInt
import OpenaiAudioStream.CString

/-!
`is_valid_utf8`: the check of a command's text argument, against the encoder of Unicode
scalar values.
-/

namespace OpenaiAudioStream

open CString

def NotContinuation (byte : UInt8) : Prop := byte &&& 0xC0 ≠ 0x80

instance (byte : UInt8) : Decidable (NotContinuation byte) :=
  inferInstanceAs (Decidable (byte &&& 0xC0 ≠ 0x80))

/-- One round of the loop over `bytes`; a byte is read only where the conditions before it
in the source did not decide. -/
def utf8Round (_ : Unit) (bytes : List UInt8) : Option (Round Unit Bool) := do
  let lead ← read 0 bytes 0
  if lead = 0 then some (.leave true)
  else if lead ≤ 0x7F then some (.forward () 1)
  else if 0xC2 ≤ lead ∧ lead ≤ 0xDF then
    let second ← read 0 bytes 1
    if NotContinuation second then some (.leave false) else some (.forward () 2)
  else if 0xE0 ≤ lead ∧ lead ≤ 0xEF then
    let second ← read 0 bytes 1
    if NotContinuation second then some (.leave false) else
      let third ← read 0 bytes 2
      if NotContinuation third ∨ lead = 0xE0 ∧ second < 0xA0 ∨ lead = 0xED ∧ second > 0x9F then
        some (.leave false)
      else some (.forward () 3)
  else if 0xF0 ≤ lead ∧ lead ≤ 0xF4 then
    let second ← read 0 bytes 1
    if NotContinuation second then some (.leave false) else
      let third ← read 0 bytes 2
      if NotContinuation third then some (.leave false) else
        let fourth ← read 0 bytes 3
        if NotContinuation fourth ∨ lead = 0xF0 ∧ second < 0x90 ∨
            lead = 0xF4 ∧ second > 0x8F then
          some (.leave false)
        else some (.forward () 4)
  else some (.leave false)

/-- `none` is the null pointer; no result is a read behind the NUL. -/
def isValidUtf8 (text : Option (CString UInt8 0)) : Option Bool :=
  match text with
  | none => some false
  | some text => loop utf8Round () text.contents

def Tail (byte : UInt8) : Prop := 0x80 ≤ byte.toNat ∧ byte.toNat ≤ 0xBF

/-- The shortest forms of one scalar value other than zero, surrogates left out. -/
inductive Sequence : List UInt8 → Prop
  | one {lead} : 0 < lead.toNat → lead.toNat ≤ 0x7F → Sequence [lead]
  | two {lead second} : 0xC2 ≤ lead.toNat → lead.toNat ≤ 0xDF → Tail second →
      Sequence [lead, second]
  | three {lead second third} : 0xE0 ≤ lead.toNat → lead.toNat ≤ 0xEF → Tail second → Tail third →
      (lead.toNat = 0xE0 → 0xA0 ≤ second.toNat) → (lead.toNat = 0xED → second.toNat ≤ 0x9F) →
      Sequence [lead, second, third]
  | four {lead second third fourth} : 0xF0 ≤ lead.toNat → lead.toNat ≤ 0xF4 → Tail second →
      Tail third → Tail fourth → (lead.toNat = 0xF0 → 0x90 ≤ second.toNat) →
      (lead.toNat = 0xF4 → second.toNat ≤ 0x8F) → Sequence [lead, second, third, fourth]

theorem tail_iff {byte : UInt8} : Tail byte ↔ ¬NotContinuation byte := by
  have all : ∀ byte : Fin 256, (0x80 ≤ byte.val ∧ byte.val ≤ 0xBF) ↔
      ¬(UInt8.ofNat byte.val &&& 0xC0 ≠ 0x80) := by decide +kernel
  have here := all ⟨byte.toNat, byte.toNat_lt⟩
  simpa [NotContinuation, Tail] using here

theorem notContinuation_zero : NotContinuation 0 := by decide

/-! One round over the bytes of each class of lead bytes. -/

theorem lead_high {lead : UInt8} (high : 0x80 ≤ lead.toNat) : lead ≠ 0 ∧ ¬lead ≤ 0x7F := by
  constructor
  · rintro rfl
    exact absurd high (by decide)
  · intro ascii
    exact absurd (Nat.le_trans high ascii) (by decide)

theorem utf8Round_one {lead : UInt8} (positive : 0 < lead.toNat) (high : lead.toNat ≤ 0x7F)
    (rest : List UInt8) : utf8Round () (lead :: rest) = some (.forward () 1) := by
  have nonzero : lead ≠ 0 := by
    rintro rfl
    exact Nat.lt_irrefl _ positive
  have ascii : lead ≤ 0x7F := high
  simp [utf8Round, nonzero, ascii]

theorem utf8Round_two {lead : UInt8} (low : 0xC2 ≤ lead.toNat) (high : lead.toNat ≤ 0xDF)
    (rest : List UInt8) :
    utf8Round () (lead :: rest) = (read 0 rest 0).bind fun second =>
      if NotContinuation second then some (.leave false) else some (.forward () 2) := by
  obtain ⟨nonzero, ascii⟩ := @lead_high lead (by omega)
  have range : 0xC2 ≤ lead ∧ lead ≤ 0xDF := ⟨low, high⟩
  simp [utf8Round, nonzero, ascii, range]

theorem utf8Round_three {lead : UInt8} (low : 0xE0 ≤ lead.toNat) (high : lead.toNat ≤ 0xEF)
    (rest : List UInt8) :
    utf8Round () (lead :: rest) = (read 0 rest 0).bind fun second =>
      if NotContinuation second then some (.leave false) else
        (read 0 rest 1).bind fun third =>
          if NotContinuation third ∨ lead = 0xE0 ∧ second < 0xA0 ∨ lead = 0xED ∧ 0x9F < second then
            some (.leave false)
          else some (.forward () 3) := by
  obtain ⟨nonzero, ascii⟩ := @lead_high lead (by omega)
  have two : ¬(0xC2 ≤ lead ∧ lead ≤ 0xDF) := fun range =>
    absurd (Nat.le_trans low range.2) (by decide)
  have range : 0xE0 ≤ lead ∧ lead ≤ 0xEF := ⟨low, high⟩
  simp [utf8Round, nonzero, ascii, two, range]

theorem utf8Round_four {lead : UInt8} (low : 0xF0 ≤ lead.toNat) (high : lead.toNat ≤ 0xF4)
    (rest : List UInt8) :
    utf8Round () (lead :: rest) = (read 0 rest 0).bind fun second =>
      if NotContinuation second then some (.leave false) else
        (read 0 rest 1).bind fun third =>
          if NotContinuation third then some (.leave false) else
            (read 0 rest 2).bind fun fourth =>
              if NotContinuation fourth ∨ lead = 0xF0 ∧ second < 0x90 ∨
                  lead = 0xF4 ∧ 0x8F < second then
                some (.leave false)
              else some (.forward () 4) := by
  obtain ⟨nonzero, ascii⟩ := @lead_high lead (by omega)
  have two : ¬(0xC2 ≤ lead ∧ lead ≤ 0xDF) := fun range =>
    absurd (Nat.le_trans low range.2) (by decide)
  have three : ¬(0xE0 ≤ lead ∧ lead ≤ 0xEF) := fun range =>
    absurd (Nat.le_trans low range.2) (by decide)
  have range : 0xF0 ≤ lead ∧ lead ≤ 0xF4 := ⟨low, high⟩
  simp [utf8Round, nonzero, ascii, two, three, range]

theorem utf8Round_other {lead : UInt8} (high : 0x80 ≤ lead.toNat)
    (two : ¬(0xC2 ≤ lead.toNat ∧ lead.toNat ≤ 0xDF))
    (three : ¬(0xE0 ≤ lead.toNat ∧ lead.toNat ≤ 0xEF))
    (four : ¬(0xF0 ≤ lead.toNat ∧ lead.toNat ≤ 0xF4)) (rest : List UInt8) :
    utf8Round () (lead :: rest) = some (.leave false) := by
  obtain ⟨nonzero, ascii⟩ := lead_high high
  have notTwo : ¬(0xC2 ≤ lead ∧ lead ≤ 0xDF) := two
  have notThree : ¬(0xE0 ≤ lead ∧ lead ≤ 0xEF) := three
  have notFour : ¬(0xF0 ≤ lead ∧ lead ≤ 0xF4) := four
  simp [utf8Round, nonzero, ascii, notTwo, notThree, notFour]

theorem utf8Round_sequence {sequence : List UInt8} (form : Sequence sequence) (rest : List UInt8) :
    utf8Round () (sequence ++ rest) = some (.forward () sequence.length) := by
  induction form with
  | one positive high => exact utf8Round_one positive high rest
  | two low high second =>
      rw [List.cons_append, utf8Round_two low high]
      simp [tail_iff.1 second]
  | three low high second third overlong surrogate =>
      rw [List.cons_append, utf8Round_three low high]
      simp [tail_iff.1 second, tail_iff.1 third, ← UInt8.toNat_inj, UInt8.lt_iff_toNat_lt]
      omega
  | four low high second third fourth overlong range =>
      rw [List.cons_append, utf8Round_four low high]
      simp [tail_iff.1 second, tail_iff.1 third, tail_iff.1 fourth, ← UInt8.toNat_inj,
        UInt8.lt_iff_toNat_lt]
      omega

theorem utf8Round_three_cases {lead : UInt8} (low : 0xE0 ≤ lead.toNat) (high : lead.toNat ≤ 0xEF)
    (rest : List UInt8) :
    (∃ sequence after, Sequence sequence ∧ lead :: rest = sequence ++ after) ∨
      utf8Round () (lead :: rest) = some (.leave false) := by
  rw [utf8Round_three low high]
  rcases rest with _ | ⟨second, rest⟩
  · exact .inr (by simp [notContinuation_zero])
  by_cases noSecond : NotContinuation second
  · exact .inr (by simp [noSecond])
  rcases rest with _ | ⟨third, rest⟩
  · exact .inr (by simp [notContinuation_zero])
  by_cases refused : NotContinuation third ∨ lead = 0xE0 ∧ second < 0xA0 ∨
      lead = 0xED ∧ 0x9F < second
  · exact .inr (by simp only [read_cons_zero, read_cons_succ, Option.bind_some, refused, ite_self,
      if_true])
  · simp only [not_or, not_and, ← tail_iff, ← UInt8.toNat_inj, UInt8.lt_iff_toNat_lt,
      Nat.not_lt] at refused
    exact .inl ⟨[lead, second, third], rest,
      .three low high (tail_iff.2 noSecond) refused.1 refused.2.1 refused.2.2, rfl⟩

theorem utf8Round_four_cases {lead : UInt8} (low : 0xF0 ≤ lead.toNat) (high : lead.toNat ≤ 0xF4)
    (rest : List UInt8) :
    (∃ sequence after, Sequence sequence ∧ lead :: rest = sequence ++ after) ∨
      utf8Round () (lead :: rest) = some (.leave false) := by
  rw [utf8Round_four low high]
  rcases rest with _ | ⟨second, rest⟩
  · exact .inr (by simp [notContinuation_zero])
  by_cases noSecond : NotContinuation second
  · exact .inr (by simp [noSecond])
  rcases rest with _ | ⟨third, rest⟩
  · exact .inr (by simp [notContinuation_zero])
  by_cases noThird : NotContinuation third
  · exact .inr (by simp [noThird])
  rcases rest with _ | ⟨fourth, rest⟩
  · exact .inr (by simp [notContinuation_zero])
  by_cases refused : NotContinuation fourth ∨ lead = 0xF0 ∧ second < 0x90 ∨
      lead = 0xF4 ∧ 0x8F < second
  · exact .inr (by simp only [read_cons_zero, read_cons_succ, Option.bind_some, refused, ite_self,
      if_true])
  · simp only [not_or, not_and, ← tail_iff, ← UInt8.toNat_inj, UInt8.lt_iff_toNat_lt,
      Nat.not_lt] at refused
    exact .inl ⟨[lead, second, third, fourth], rest, .four low high (tail_iff.2 noSecond)
      (tail_iff.2 noThird) refused.1 refused.2.1 refused.2.2, rfl⟩

theorem utf8Round_cases {lead : UInt8} (nonzero : lead ≠ 0) (rest : List UInt8) :
    (∃ sequence after, Sequence sequence ∧ lead :: rest = sequence ++ after) ∨
      utf8Round () (lead :: rest) = some (.leave false) := by
  have positive : 0 < lead.toNat := by
    refine Nat.pos_of_ne_zero fun zero => nonzero ?_
    exact UInt8.toNat_inj.1 zero
  by_cases one : lead.toNat ≤ 0x7F
  · exact .inl ⟨[lead], rest, .one positive one, rfl⟩
  by_cases two : 0xC2 ≤ lead.toNat ∧ lead.toNat ≤ 0xDF
  · rw [utf8Round_two two.1 two.2]
    rcases rest with _ | ⟨second, rest⟩
    · exact .inr (by simp [notContinuation_zero])
    · by_cases noSecond : NotContinuation second
      · exact .inr (by simp [noSecond])
      · exact .inl ⟨[lead, second], rest, .two two.1 two.2 (tail_iff.2 noSecond), rfl⟩
  by_cases three : 0xE0 ≤ lead.toNat ∧ lead.toNat ≤ 0xEF
  · exact utf8Round_three_cases three.1 three.2 rest
  by_cases four : 0xF0 ≤ lead.toNat ∧ lead.toNat ≤ 0xF4
  · exact utf8Round_four_cases four.1 four.2 rest
  · exact .inr (utf8Round_other (by omega) two three four rest)

/-! Sequences are what the encoder of scalar values writes. -/

theorem sequence_encode {c : Char} (nonzero : c ≠ Char.ofNat 0) :
    Sequence (String.utf8EncodeChar c) := by
  have positive : 0 < c.val.toNat := by
    refine Nat.pos_of_ne_zero fun zero => nonzero ?_
    exact Char.ext (UInt32.toNat_inj.1 zero)
  have valid : c.val.toNat < 0xD800 ∨ 0xDFFF < c.val.toNat ∧ c.val.toNat < 0x110000 := c.valid
  simp only [String.utf8EncodeChar]
  generalize c.val.toNat = scalar at *
  split
  · exact .one (by rw [UInt8.toNat_ofNat']; omega) (by rw [UInt8.toNat_ofNat']; omega)
  split
  · apply Sequence.two <;> simp only [Tail, UInt8.toNat_ofNat'] <;> omega
  split
  · apply Sequence.three <;> simp only [Tail, UInt8.toNat_ofNat'] <;> omega
  · apply Sequence.four <;> simp only [Tail, UInt8.toNat_ofNat'] <;> omega

theorem val_ofNat {scalar : Nat} (valid : scalar.isValidChar) :
    (Char.ofNat scalar).val.toNat = scalar := by
  rw [Char.ofNat, dif_pos valid]
  exact UInt32.toNat_ofNatLT

theorem ofNat_nonzero {scalar : Nat} (valid : scalar.isValidChar) (positive : 0 < scalar) :
    Char.ofNat scalar ≠ Char.ofNat 0 := by
  intro same
  have values := congrArg (fun c => c.val.toNat) same
  simp only [val_ofNat valid] at values
  exact absurd (values.trans (val_ofNat (Or.inl (by decide)))) (by omega)

theorem exists_encode {sequence : List UInt8} (form : Sequence sequence) :
    ∃ c, c ≠ Char.ofNat 0 ∧ sequence = String.utf8EncodeChar c := by
  induction form with
  | @one lead positive high =>
      have valid : lead.toNat.isValidChar := Or.inl (by omega)
      refine ⟨Char.ofNat lead.toNat, ofNat_nonzero valid positive, ?_⟩
      simp only [String.utf8EncodeChar, val_ofNat valid, if_pos high, UInt8.ofNat_toNat]
  | @two lead second low high tail =>
      obtain ⟨tailLow, tailHigh⟩ := tail
      have valid : ((lead.toNat - 0xC0) * 64 + (second.toNat - 0x80)).isValidChar :=
        Or.inl (by omega)
      refine ⟨_, ofNat_nonzero valid (by omega), ?_⟩
      simp only [String.utf8EncodeChar, val_ofNat valid]
      rw [if_neg (by omega), if_pos (by omega)]
      simp only [List.cons.injEq, ← UInt8.toNat_inj, UInt8.toNat_ofNat', and_true]
      omega
  | @three lead second third low high secondTail thirdTail overlong surrogate =>
      obtain ⟨secondLow, secondHigh⟩ := secondTail
      obtain ⟨thirdLow, thirdHigh⟩ := thirdTail
      have valid : ((lead.toNat - 0xE0) * 4096 + (second.toNat - 0x80) * 64 +
          (third.toNat - 0x80)).isValidChar := by
        by_cases below : lead.toNat ≤ 0xED
        · exact Or.inl (by omega)
        · exact Or.inr (by omega)
      refine ⟨_, ofNat_nonzero valid (by omega), ?_⟩
      simp only [String.utf8EncodeChar, val_ofNat valid]
      rw [if_neg (by omega), if_neg (by omega), if_pos (by omega)]
      simp only [List.cons.injEq, ← UInt8.toNat_inj, UInt8.toNat_ofNat', and_true]
      omega
  | @four lead second third fourth low high secondTail thirdTail fourthTail overlong range =>
      obtain ⟨secondLow, secondHigh⟩ := secondTail
      obtain ⟨thirdLow, thirdHigh⟩ := thirdTail
      obtain ⟨fourthLow, fourthHigh⟩ := fourthTail
      have valid : ((lead.toNat - 0xF0) * 262144 + (second.toNat - 0x80) * 4096 +
          (third.toNat - 0x80) * 64 + (fourth.toNat - 0x80)).isValidChar :=
        Or.inr (by omega)
      refine ⟨_, ofNat_nonzero valid (by omega), ?_⟩
      simp only [String.utf8EncodeChar, val_ofNat valid]
      rw [if_neg (by omega), if_neg (by omega), if_neg (by omega)]
      simp only [List.cons.injEq, ← UInt8.toNat_inj, UInt8.toNat_ofNat', and_true]
      omega

theorem sequence_iff {sequence : List UInt8} :
    Sequence sequence ↔ ∃ c, c ≠ Char.ofNat 0 ∧ sequence = String.utf8EncodeChar c := by
  constructor
  · exact exists_encode
  · rintro ⟨c, nonzero, rfl⟩
    exact sequence_encode nonzero

/-! The loop over a whole text. -/

def Utf8Text (bytes : List UInt8) : Prop :=
  ∃ chars : List Char, (∀ c ∈ chars, c ≠ Char.ofNat 0) ∧ bytes = chars.flatMap String.utf8EncodeChar

theorem utf8Text_append {sequence : List UInt8} (form : Sequence sequence) {rest : List UInt8}
    (text : Utf8Text rest) : Utf8Text (sequence ++ rest) := by
  obtain ⟨c, nonzero, rfl⟩ := sequence_iff.1 form
  obtain ⟨chars, others, rfl⟩ := text
  exact ⟨c :: chars, by simpa using ⟨nonzero, others⟩, rfl⟩

theorem utf8Text_cons {lead : UInt8} {bytes : List UInt8} (text : Utf8Text (lead :: bytes)) :
    ∃ sequence rest, Sequence sequence ∧ lead :: bytes = sequence ++ rest ∧ Utf8Text rest := by
  obtain ⟨_ | ⟨c, chars⟩, nonzero, equal⟩ := text
  · simp at equal
  · refine ⟨_, _, sequence_encode (nonzero c (by simp)), equal, chars, ?_, rfl⟩
    exact fun other member => nonzero other (by simp [member])

theorem sequence_unique {sequence other rest after : List UInt8} (form : Sequence sequence)
    (otherForm : Sequence other) (equal : sequence ++ rest = other ++ after) :
    sequence = other ∧ rest = after := by
  have rounds := utf8Round_sequence form rest
  rw [equal, utf8Round_sequence otherForm after] at rounds
  have lengths : other.length = sequence.length := by simpa using rounds
  exact List.append_inj equal lengths.symm

theorem sequence_ne_nil {sequence : List UInt8} (form : Sequence sequence) : sequence ≠ [] := by
  rintro rfl
  nomatch form

theorem utf8Loop_spec (bytes : List UInt8) (nonzero : ∀ byte ∈ bytes, byte ≠ 0) :
    ∃ valid, loop utf8Round () bytes = some valid ∧ (valid = true ↔ Utf8Text bytes) := by
  induction lengthEq : bytes.length using Nat.strongRecOn generalizing bytes with
  | ind length ih =>
      rcases bytes with _ | ⟨lead, rest⟩
      · refine ⟨true, loop_leave rfl, ?_⟩
        exact iff_of_true rfl ⟨[], by simp, rfl⟩
      · rcases utf8Round_cases (nonzero lead (by simp)) rest with
          ⟨sequence, after, form, split⟩ | refused
        · -- the round takes one sequence; what is behind it is shorter
          have taken := sequence_ne_nil form
          have positive : 0 < sequence.length := List.length_pos_iff.2 taken
          rw [split] at nonzero lengthEq ⊢
          rw [List.length_append] at lengthEq
          obtain ⟨valid, result, iff⟩ := ih after.length (by omega) after
            (fun byte member => nonzero byte (by simp [member])) rfl
          refine ⟨valid, ?_, iff.trans ⟨utf8Text_append form, ?_⟩⟩
          · rw [loop_forward taken (utf8Round_sequence form after), result]
          · intro text
            rw [← split] at text
            obtain ⟨other, others, otherForm, otherSplit, text⟩ := utf8Text_cons text
            have same := sequence_unique form otherForm (split.symm.trans otherSplit)
            rwa [same.2]
        · refine ⟨false, loop_leave refused, ?_⟩
          refine iff_of_false (by simp) fun text => ?_
          obtain ⟨other, others, otherForm, otherSplit, -⟩ := utf8Text_cons text
          rw [otherSplit, utf8Round_sequence otherForm] at refused
          simp at refused

theorem isValidUtf8_iff (text : CString UInt8 0) :
    ∃ valid, isValidUtf8 (some text) = some valid ∧
      (valid = true ↔ ∃ chars : List Char, (∀ c ∈ chars, c ≠ Char.ofNat 0) ∧
        text.contents = chars.flatMap String.utf8EncodeChar) :=
  utf8Loop_spec text.contents text.nonzero

end OpenaiAudioStream
