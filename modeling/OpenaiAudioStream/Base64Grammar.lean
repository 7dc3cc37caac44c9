import Mathlib.Data.Nat.Digits.Defs
import OpenaiAudioStream.Base64Encode

/-!
What `base64_decode` accepts, and what it makes of it: the characters of a group are the
digits of a number, and its bytes are the digits of that number without its lowest bits.
-/

namespace OpenaiAudioStream

def bigEndian (base : Nat) (digits : List Nat) : Nat :=
  Nat.ofDigits base digits.reverse

/-- Two to four characters of an alphabet, which may be followed by padding. Behind a padding
character anything may stand. -/
inductive Base64Group : List Char → List UInt8 → Prop
  | group {chars padding : List Char} {sextets : List Nat} {bytes : List UInt8} :
      chars.map posOfChar = sextets.map some → 2 ≤ chars.length →
      chars.length + padding.length ≤ 4 → (∀ chr ∈ padding.head?, isPadding chr = true) →
      bytes.length + 1 = chars.length →
      bigEndian 256 (bytes.map UInt8.toNat) = bigEndian 64 sextets / 4 ^ (4 - chars.length) →
      Base64Group (chars ++ padding) bytes

inductive Base64Text : List Char → List UInt8 → Prop
  | nil : Base64Text [] []
  | group {chars rest : List Char} {bytes more : List UInt8} : Base64Group chars bytes →
      chars.length = 4 ∨ rest = [] → Base64Text rest more →
      Base64Text (chars ++ rest) (bytes ++ more)

theorem bigEndian_bytes_injective {one other : List UInt8} (count : one.length = other.length)
    (number : bigEndian 256 (one.map UInt8.toNat) = bigEndian 256 (other.map UInt8.toNat)) :
    one = other := by
  have digit : ∀ bytes : List UInt8, ∀ digit ∈ (bytes.map UInt8.toNat).reverse, digit < 256 := by
    intro bytes digit mem
    rw [List.mem_reverse, List.mem_map] at mem
    obtain ⟨byte, _, rfl⟩ := mem
    exact byte.toNat_lt
  have digits := Nat.ofDigits_inj_of_len_eq (by decide) (by simpa using count) (digit one)
    (digit other) number
  exact List.map_injective_iff.2 (fun _ _ => UInt8.toNat.inj) (List.reverse_injective digits)

theorem posOfChar_lt {chr : Char} {position : Nat} (found : posOfChar chr = some position) :
    position < 64 := by
  simp only [posOfChar] at found
  split at found
  · next upper =>
    obtain rfl := Option.some.inj found
    have range : chr.val ≥ 'A'.val ∧ chr.val ≤ 'Z'.val := of_decide_eq_true upper
    have high : chr.toNat ≤ 90 := UInt32.le_iff_toNat_le.1 range.2
    have base : 'A'.toNat = 65 := rfl
    omega
  split at found
  · next lower =>
    obtain rfl := Option.some.inj found
    have range := (Bool.and_eq_true _ _).mp lower
    have high : chr.toNat ≤ 122 := UInt32.le_iff_toNat_le.1 (of_decide_eq_true range.2)
    have base : 'a'.toNat = 97 := rfl
    omega
  split at found
  · next digit =>
    obtain rfl := Option.some.inj found
    have high : chr.toNat ≤ 57 := (Char.isDigit_iff_toNat.mp digit).2
    have base : '0'.toNat = 48 := rfl
    omega
  split at found
  · obtain rfl := Option.some.inj found
    decide
  split at found
  · obtain rfl := Option.some.inj found
    decide
  · cases found

theorem firstByte_toNat {s0 s1 : Nat} (first : s0 < 64) (second : s1 < 64) :
    (UInt8.ofNat (s0 <<< 2 + (s1 &&& 0x30) >>> 4)).toNat = s0 * 4 + s1 / 16 := by
  have high : (s1 &&& 0x30) >>> 4 = s1 / 16 % 4 := and_shiftRight s1 4 2
  rw [high, Nat.shiftLeft_eq]
  simp
  omega

theorem secondByte_toNat (s1 : Nat) {s2 : Nat} (third : s2 < 64) :
    (UInt8.ofNat ((s1 &&& 0x0F) <<< 4 + (s2 &&& 0x3C) >>> 2)).toNat = s1 % 16 * 16 + s2 / 4 := by
  have low : s1 &&& 0x0F = s1 % 16 := and_low s1 4
  have middle : (s2 &&& 0x3C) >>> 2 = s2 / 4 % 16 := and_shiftRight s2 2 4
  rw [low, middle, Nat.shiftLeft_eq]
  simp
  omega

theorem thirdByte_toNat (s2 : Nat) {s3 : Nat} (fourth : s3 < 64) :
    (UInt8.ofNat ((s2 &&& 0x03) <<< 6 + s3)).toNat = s2 % 4 * 64 + s3 := by
  have low : s2 &&& 0x03 = s2 % 4 := and_low s2 2
  rw [low, Nat.shiftLeft_eq]
  simp
  omega

theorem padding_position {chr : Char} (padding : isPadding chr = true) : posOfChar chr = none := by
  simp only [isPadding, Bool.or_eq_true, decide_eq_true_eq] at padding
  rcases padding with rfl | rfl <;> decide

theorem Base64Group.two {first second : Char} {padding : List Char} {s0 s1 : Nat}
    (high : posOfChar first = some s0) (low : posOfChar second = some s1)
    (short : padding.length ≤ 2) (pad : ∀ chr ∈ padding.head?, isPadding chr = true) :
    Base64Group ([first, second] ++ padding)
      [UInt8.ofNat (s0 <<< 2 + (s1 &&& 0x30) >>> 4)] := by
  have firstByte := firstByte_toNat (posOfChar_lt high) (posOfChar_lt low)
  have secondBound := posOfChar_lt low
  refine @Base64Group.group _ _ [s0, s1] _ (by simp [high, low]) (by simp)
    (Nat.add_le_add_left short 2) pad (by simp) ?_
  simp only [List.map_cons, List.map_nil, firstByte, bigEndian,
    List.reverse_cons, List.reverse_nil, List.nil_append, List.cons_append, Nat.ofDigits_cons,
    Nat.ofDigits_nil, List.length_cons, List.length_nil]
  omega

theorem Base64Group.three {first second third : Char} {padding : List Char} {s0 s1 s2 : Nat}
    (high : posOfChar first = some s0) (low : posOfChar second = some s1)
    (middle : posOfChar third = some s2)
    (short : padding.length ≤ 1) (pad : ∀ chr ∈ padding.head?, isPadding chr = true) :
    Base64Group ([first, second, third] ++ padding)
      [UInt8.ofNat (s0 <<< 2 + (s1 &&& 0x30) >>> 4),
        UInt8.ofNat ((s1 &&& 0x0F) <<< 4 + (s2 &&& 0x3C) >>> 2)] := by
  have firstByte := firstByte_toNat (posOfChar_lt high) (posOfChar_lt low)
  have secondByte := secondByte_toNat s1 (posOfChar_lt middle)
  have thirdBound := posOfChar_lt middle
  refine @Base64Group.group _ _ [s0, s1, s2] _ (by simp [high, low, middle]) (by simp)
    (Nat.add_le_add_left short 3) pad (by simp) ?_
  simp only [List.map_cons, List.map_nil, firstByte, secondByte, bigEndian,
    List.reverse_cons, List.reverse_nil, List.nil_append, List.cons_append, Nat.ofDigits_cons,
    Nat.ofDigits_nil, List.length_cons, List.length_nil]
  omega

theorem Base64Group.four {first second third fourth : Char} {s0 s1 s2 s3 : Nat}
    (high : posOfChar first = some s0) (low : posOfChar second = some s1)
    (middle : posOfChar third = some s2) (last : posOfChar fourth = some s3) :
    Base64Group [first, second, third, fourth]
      [UInt8.ofNat (s0 <<< 2 + (s1 &&& 0x30) >>> 4),
        UInt8.ofNat ((s1 &&& 0x0F) <<< 4 + (s2 &&& 0x3C) >>> 2),
        UInt8.ofNat ((s2 &&& 0x03) <<< 6 + s3)] := by
  have firstByte := firstByte_toNat (posOfChar_lt high) (posOfChar_lt low)
  have secondByte := secondByte_toNat s1 (posOfChar_lt middle)
  have thirdByte := thirdByte_toNat s2 (posOfChar_lt last)
  refine @Base64Group.group [first, second, third, fourth] [] [s0, s1, s2, s3] _
    (by simp [high, low, middle, last]) (by simp) (by simp) nofun (by simp) ?_
  simp only [List.map_cons, List.map_nil, firstByte, secondByte, thirdByte, bigEndian,
    List.reverse_cons, List.reverse_nil, List.nil_append, List.cons_append, Nat.ofDigits_cons,
    Nat.ofDigits_nil, List.length_cons, List.length_nil]
  omega

theorem decoded_group {first second : Char} {rest : List Char} {s0 s1 : Nat} {later : List UInt8}
    (high : posOfChar first = some s0) (low : posOfChar second = some s1)
    (found : laterBytes s1 rest = some later) :
    Base64Group (first :: second :: rest.take 2)
      (UInt8.ofNat (s0 <<< 2 + (s1 &&& 0x30) >>> 4) :: later) := by
  rcases rest with _ | ⟨third, rest⟩
  · obtain rfl := Option.some.inj found
    exact .two high low (Nat.zero_le _) nofun
  by_cases thirdPadding : isPadding third = true
  · simp only [laterBytes, thirdPadding, if_true, Option.some.injEq] at found
    subst found
    exact .two high low (List.length_take_le 2 (third :: rest)) (by simpa using thirdPadding)
  simp only [laterBytes, thirdPadding, Bool.false_eq_true, if_false, Option.bind_eq_bind,
    Option.bind_eq_some_iff] at found
  obtain ⟨s2, middle, found⟩ := found
  rcases rest with _ | ⟨fourth, rest⟩
  · obtain rfl := Option.some.inj found
    exact .three high low middle (Nat.zero_le _) nofun
  by_cases fourthPadding : isPadding fourth = true
  · simp only [fourthPadding, if_true, Option.some.injEq] at found
    subst found
    exact @Base64Group.three _ _ _ [fourth] _ _ _ high low middle (by simp)
      (by simpa using fourthPadding)
  simp only [fourthPadding, Bool.false_eq_true, if_false, Option.bind_eq_some_iff,
    Option.some.injEq] at found
  obtain ⟨s3, last, rfl⟩ := found
  exact .four high low middle last

theorem base64Decode_cons {first second : Char} {rest : List Char} {s0 s1 : Nat}
    {later : List UInt8} (high : posOfChar first = some s0) (low : posOfChar second = some s1)
    (found : laterBytes s1 rest = some later) :
    base64Decode (first :: second :: rest) = (base64Decode (rest.drop 2)).map
      (UInt8.ofNat (s0 <<< 2 + (s1 &&& 0x30) >>> 4) :: later ++ ·) := by
  rw [base64Decode, high, low]
  simp only [Option.bind_eq_bind, Option.bind_some, found]
  cases base64Decode (rest.drop 2) <;> rfl

theorem not_padding {chr : Char} {position : Nat} (found : posOfChar chr = some position) :
    isPadding chr = false := by
  refine Bool.eq_false_iff.2 fun padding => ?_
  rw [padding_position padding] at found
  cases found

theorem group_positions {chars : List Char} {sextets : List Nat}
    (positions : chars.map posOfChar = sextets.map some) {chr : Char} (mem : chr ∈ chars) :
    ∃ position, posOfChar chr = some position := by
  have image := List.mem_map_of_mem (f := posOfChar) mem
  rw [positions, List.mem_map] at image
  obtain ⟨sextet, _, found⟩ := image
  exact ⟨sextet, found.symm⟩

theorem group_characters {chars padding : List Char} {sextets : List Nat}
    (positions : chars.map posOfChar = sextets.map some)
    (pad : ∀ chr ∈ padding.head?, isPadding chr = true) :
    (chars ++ padding).takeWhile (fun chr => (posOfChar chr).isSome) = chars := by
  have known : ∀ chr ∈ chars, (posOfChar chr).isSome := by
    intro chr mem
    obtain ⟨position, found⟩ := group_positions positions mem
    rw [found]
    rfl
  rw [List.takeWhile_append_of_pos known]
  rcases padding with _ | ⟨chr, padding⟩
  · simp
  · simp [padding_position (pad chr rfl)]

theorem Base64Group.unique {text : List Char} {one other : List UInt8}
    (left : Base64Group text one) (right : Base64Group text other) : one = other := by
  obtain ⟨positions, -, -, pad, count, number⟩ := left
  generalize whole : (_ ++ _ : List Char) = text at right
  obtain ⟨positions', -, -, pad', count', number'⟩ := right
  -- padding is not in the alphabet, so both end their characters at one place
  have same := group_characters positions pad
  rw [whole, group_characters positions' pad'] at same
  subst same
  rw [positions'] at positions
  have sextets := List.map_injective_iff.2 (Option.some_injective Nat) positions
  subst sextets
  exact bigEndian_bytes_injective (by omega) (number.trans number'.symm)

theorem laterBytes_found {chars padding after : List Char} (s1 : Nat)
    (known : ∀ chr ∈ chars, ∃ position, posOfChar chr = some position)
    (pad : ∀ chr ∈ padding.head?, isPadding chr = true)
    (last : (chars ++ padding).length = 2 ∨ after = []) :
    ∃ later, laterBytes s1 (chars ++ padding ++ after) = some later := by
  rcases chars with _ | ⟨third, chars⟩
  · rcases padding with _ | ⟨chr, padding⟩
    · obtain rfl : after = [] := last.resolve_left (by simp)
      exact ⟨[], rfl⟩
    · simp [laterBytes, pad chr rfl]
  obtain ⟨s2, middle⟩ := known third (by simp)
  rcases chars with _ | ⟨fourth, chars⟩
  · rcases padding with _ | ⟨chr, padding⟩
    · obtain rfl : after = [] := last.resolve_left (by simp)
      simp [laterBytes, not_padding middle, middle]
    · simp [laterBytes, not_padding middle, middle, pad chr rfl]
  obtain ⟨s3, lowest⟩ := known fourth (by simp)
  simp [laterBytes, not_padding middle, middle, not_padding lowest, lowest]

theorem group_decoded {text after : List Char} {bytes : List UInt8}
    (group : Base64Group text bytes) (last : text.length = 4 ∨ after = []) :
    base64Decode (text ++ after) = (base64Decode after).map (bytes ++ ·) := by
  have unique := fun other => @group.unique _ _ other
  cases group with
  | @group chars padding sextets _ positions atLeast atMost pad _ _ =>
  obtain ⟨first, second, chars, rfl⟩ : ∃ first second rest, chars = first :: second :: rest := by
    match chars, atLeast with
    | first :: second :: rest, _ => exact ⟨first, second, rest, rfl⟩
  obtain ⟨s0, high⟩ := group_positions positions List.mem_cons_self
  obtain ⟨s1, low⟩ := group_positions positions (List.mem_cons_of_mem first List.mem_cons_self)
  have known : ∀ chr ∈ chars, ∃ position, posOfChar chr = some position := by
    intro chr mem
    exact group_positions positions (by simp [mem])
  simp only [List.length_cons, List.length_append] at last atMost
  have ends : (chars ++ padding).length = 2 ∨ after = [] := by
    refine last.imp_left fun full => ?_
    rw [List.length_append]
    omega
  obtain ⟨later, found⟩ := laterBytes_found s1 known pad ends
  have front : (chars ++ padding ++ after).take 2 = chars ++ padding := by
    rcases ends with full | rfl
    · exact List.take_left' full
    · rw [List.append_nil]
      exact List.take_of_length_le (by rw [List.length_append]; omega)
  have back : (chars ++ padding ++ after).drop 2 = after := by
    rcases ends with full | rfl
    · exact List.drop_left' full
    · rw [List.append_nil]
      exact List.drop_eq_nil_of_le (by rw [List.length_append]; omega)
  have decoded := decoded_group high low found
  rw [front] at decoded
  rw [unique _ decoded, List.cons_append, List.cons_append, List.cons_append, List.cons_append,
    base64Decode_cons high low found, back]

theorem base64Decode_text (text : List Char) {bytes : List UInt8}
    (decoded : base64Decode text = some bytes) : Base64Text text bytes := by
  induction lengthEq : text.length using Nat.strongRecOn generalizing text bytes with
  | ind length ih =>
      rcases text with _ | ⟨first, _ | ⟨second, rest⟩⟩
      · rw [base64Decode] at decoded
        obtain rfl := Option.some.inj decoded
        exact .nil
      · simp [base64Decode] at decoded
      · rw [base64Decode] at decoded
        simp only [Option.bind_eq_bind, Option.bind_eq_some_iff, Option.some.injEq] at decoded
        obtain ⟨s1, low, s0, high, later, found, more, others, rfl⟩ := decoded
        have onward := ih (rest.drop 2).length (by
          simp only [List.length_cons, List.length_drop] at lengthEq ⊢
          omega) (rest.drop 2) others rfl
        have whole : first :: second :: rest = (first :: second :: rest.take 2) ++ rest.drop 2 := by
          simp
        rw [whole]
        refine .group (decoded_group high low found) ?_ onward
        by_cases short : rest.length ≤ 2
        · exact .inr (List.drop_eq_nil_of_le short)
        · refine .inl ?_
          simp only [List.length_cons, List.length_take]
          omega

/-- `base64_decode` accepts exactly the texts made of groups, and gives the bytes that are the
same number as their characters; with line breaks removed, the same of the rest. -/
theorem base64_decode_accepts (text : List Char) (bytes : List UInt8) :
    (base64Decode text = some bytes ↔ Base64Text text bytes) ∧
      (base64DecodeLines text = some bytes ↔ Base64Text (text.filter (· ≠ '\n')) bytes) := by
  have accepts : ∀ text, base64Decode text = some bytes ↔ Base64Text text bytes := by
    intro text
    refine ⟨base64Decode_text text, fun form => ?_⟩
    induction form with
    | nil => rw [base64Decode]
    | group group last _ ih => rw [group_decoded group last, ih, Option.map_some]
  exact ⟨accepts text, accepts _⟩

end OpenaiAudioStream
