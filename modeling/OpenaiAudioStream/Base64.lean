import Mathlib.Data.List.Basic

/-!
`base64_decode`: groups of up to four characters to up to three bytes, over both
alphabets, with or without padding. An exception is no result.
-/

namespace OpenaiAudioStream

def posOfChar (chr : Char) : Option Nat :=
  if chr.isUpper then some (chr.toNat - 'A'.toNat)
  else if chr.isLower then some (chr.toNat - 'a'.toNat + 26)
  else if chr.isDigit then some (chr.toNat - '0'.toNat + 52)
  else if chr = '+' ∨ chr = '-' then some 62
  else if chr = '/' ∨ chr = '_' then some 63
  else none

def isPadding (chr : Char) : Bool := chr = '=' || chr = '.'

def laterBytes (posOfChar1 : Nat) : List Char → Option (List UInt8)
  | [] => some []
  | third :: rest =>
      if isPadding third then some []
      else do
        let posOfChar2 ← posOfChar third
        let byte := UInt8.ofNat ((posOfChar1 &&& 0x0F) <<< 4 + (posOfChar2 &&& 0x3C) >>> 2)
        match rest with
        | [] => some [byte]
        | fourth :: _ =>
            if isPadding fourth then some [byte]
            else do
              let posOfChar3 ← posOfChar fourth
              some [byte, UInt8.ofNat ((posOfChar2 &&& 0x03) <<< 6 + posOfChar3)]

def base64Decode : List Char → Option (List UInt8)
  | [] => some []
  -- `at(pos + 1)` is out of range
  | [_] => none
  | first :: second :: rest => do
      let posOfChar1 ← posOfChar second
      let posOfChar0 ← posOfChar first
      let byte := UInt8.ofNat (posOfChar0 <<< 2 + (posOfChar1 &&& 0x30) >>> 4)
      let later ← laterBytes posOfChar1 rest
      let decoded ← base64Decode (rest.drop 2)
      some (byte :: later ++ decoded)
termination_by encoded => encoded.length
decreasing_by simp; omega

theorem base64Decode_ne_nil {encoded : List Char} (some : encoded ≠ []) {decoded : List UInt8}
    (found : base64Decode encoded = Option.some decoded) : decoded ≠ [] := by
  rcases encoded with _ | ⟨first, _ | ⟨second, rest⟩⟩
  · exact absurd rfl some
  · simp [base64Decode] at found
  · rw [base64Decode] at found
    simp only [Option.bind_eq_bind, Option.bind_eq_some_iff, Option.some.injEq] at found
    obtain ⟨_, _, _, _, later, _, rest, _, rfl⟩ := found
    simp

theorem laterBytes_length {posOfChar1 : Nat} {rest : List Char} {later : List UInt8}
    (found : laterBytes posOfChar1 rest = some later) :
    later.length ≤ 2 ∧ later.length ≤ rest.length := by
  rcases rest with _ | ⟨third, _ | ⟨fourth, rest⟩⟩
  · obtain rfl := Option.some.inj found
    simp
  · simp only [laterBytes] at found
    split at found
    · obtain rfl := Option.some.inj found
      simp
    · simp only [Option.bind_eq_bind, Option.bind_eq_some_iff, Option.some.injEq] at found
      obtain ⟨_, _, rfl⟩ := found
      simp
  · simp only [laterBytes] at found
    split at found
    · obtain rfl := Option.some.inj found
      simp
    · simp only [Option.bind_eq_bind, Option.bind_eq_some_iff] at found
      obtain ⟨_, _, found⟩ := found
      split at found
      · obtain rfl := Option.some.inj found
        simp
      · simp only [Option.bind_eq_some_iff, Option.some.injEq] at found
        obtain ⟨_, _, rfl⟩ := found
        simp

theorem base64Decode_length (encoded : List Char) {decoded : List UInt8}
    (found : base64Decode encoded = some decoded) : decoded.length ≤ encoded.length := by
  induction lengthEq : encoded.length using Nat.strongRecOn generalizing encoded decoded with
  | ind length ih =>
      rcases encoded with _ | ⟨first, _ | ⟨second, rest⟩⟩
      · rw [base64Decode] at found
        obtain rfl := Option.some.inj found
        simp
      · simp [base64Decode] at found
      · rw [base64Decode] at found
        simp only [Option.bind_eq_bind, Option.bind_eq_some_iff, Option.some.injEq] at found
        obtain ⟨_, _, _, _, later, group, tail, others, rfl⟩ := found
        have short := laterBytes_length group
        have shorter := ih (rest.drop 2).length (by
          simp only [List.length_cons, List.length_drop] at lengthEq ⊢
          omega) (rest.drop 2) others rfl
        simp only [List.length_append, List.length_cons, List.length_drop] at lengthEq shorter ⊢
        omega

end OpenaiAudioStream
