import Mathlib.Algebra.Group.Nat.Defs
import OpenaiAudioStream.Base64

/-!
`base64_encode` with its 32-bit position, the line breaks of the PEM and MIME forms, and
what `base64_decode` makes of the texts they write.
-/

namespace OpenaiAudioStream

def base64Chars (url : Bool) : List Char :=
  "ABCDEFGHIJKLMNOPQRSTUVWXYZabcdefghijklmnopqrstuvwxyz0123456789".toList ++
    if url then ['-', '_'] else ['+', '/']

def base64Char (url : Bool) (index : Nat) : Char := (base64Chars url).getD index (Char.ofNat 0)

def trailingChar (url : Bool) : Char := if url then '.' else '='

structure EncodeState where
  pos : UInt32
  ret : List Char

def byteAt (bytesToEncode : List UInt8) (pos : UInt32) : Nat :=
  (bytesToEncode.getD pos.toNat 0).toNat

def encodeRound (bytesToEncode : List UInt8) (url : Bool) (state : EncodeState) : EncodeState :=
  let char := base64Char url
  let byte (offset : UInt32) := byteAt bytesToEncode (state.pos + offset)
  let inside (offset : UInt32) := (state.pos + offset).toNat < bytesToEncode.length
  let first := char ((byte 0 &&& 0xFC) >>> 2)
  let later :=
    if inside 1 then
      char ((byte 0 &&& 0x03) <<< 4 + (byte 1 &&& 0xF0) >>> 4) ::
        if inside 2 then
          [char ((byte 1 &&& 0x0F) <<< 2 + (byte 2 &&& 0xC0) >>> 6), char (byte 2 &&& 0x3F)]
        else [char ((byte 1 &&& 0x0F) <<< 2), trailingChar url]
    else [char ((byte 0 &&& 0x03) <<< 4), trailingChar url, trailingChar url]
  { pos := state.pos + 3, ret := state.ret ++ first :: later }

/-- No result where the loop takes more rounds than the fuel. -/
def encodeLoop (bytesToEncode : List UInt8) (url : Bool) : Nat → EncodeState → Option (List Char)
  | 0, _ => none
  | fuel + 1, state =>
      if state.pos.toNat < bytesToEncode.length then
        encodeLoop bytesToEncode url fuel (encodeRound bytesToEncode url state)
      else some state.ret

def base64Encode (bytesToEncode : List UInt8) (url : Bool) : Option (List Char) :=
  encodeLoop bytesToEncode url (bytesToEncode.length + 1) { pos := 0, ret := [] }

def insertLinebreaksFrom (distance : Nat) : Nat → Nat → List Char → Option (List Char)
  | 0, _, _ => none
  | fuel + 1, pos, str =>
      if pos < str.length then
        insertLinebreaksFrom distance fuel (pos + (distance + 1))
          (str.take pos ++ '\n' :: str.drop pos)
      else some str

def insertLinebreaks (str : List Char) (distance : Nat) : Option (List Char) :=
  if str = [] then some [] else insertLinebreaksFrom distance (str.length + 1) distance str

def encodeWithLineBreaks (lineLength : Nat) (bytes : List UInt8) : Option (List Char) :=
  (base64Encode bytes false).bind fun text => insertLinebreaks text lineLength

def base64EncodePem : List UInt8 → Option (List Char) := encodeWithLineBreaks 64

def base64EncodeMime : List UInt8 → Option (List Char) := encodeWithLineBreaks 76

def base64DecodeLines (encoded : List Char) : Option (List UInt8) :=
  base64Decode (encoded.filter (· ≠ '\n'))

/-! The text, three bytes at a time. -/

def group (url : Bool) : List UInt8 → List Char
  | [] => []
  | [first] =>
      [base64Char url (first.toNat / 4), base64Char url (first.toNat % 4 * 16),
        trailingChar url, trailingChar url]
  | [first, second] =>
      [base64Char url (first.toNat / 4),
        base64Char url (first.toNat % 4 * 16 + second.toNat / 16),
        base64Char url (second.toNat % 16 * 4), trailingChar url]
  | first :: second :: third :: _ =>
      [base64Char url (first.toNat / 4),
        base64Char url (first.toNat % 4 * 16 + second.toNat / 16),
        base64Char url (second.toNat % 16 * 4 + third.toNat / 64),
        base64Char url (third.toNat % 64)]

def groups (url : Bool) : List UInt8 → List Char
  | [] => []
  | first :: rest => group url (first :: rest) ++ groups url (rest.drop 2)
termination_by bytes => bytes.length
decreasing_by exact Nat.lt_succ_of_le (List.drop_sublist 2 rest).length_le

theorem base64Char_spec (url : Bool) {index : Nat} (within : index < 64) :
    posOfChar (base64Char url index) = some index ∧
      isPadding (base64Char url index) = false ∧ base64Char url index ≠ '\n' := by
  have table : ∀ url : Bool, ∀ index < 64, posOfChar (base64Char url index) = some index ∧
      isPadding (base64Char url index) = false ∧ base64Char url index ≠ '\n' := by
    decide +kernel
  exact table url index within

theorem trailingChar_spec (url : Bool) :
    isPadding (trailingChar url) = true ∧ trailingChar url ≠ '\n' := by
  cases url <;> decide

theorem and_shiftRight (value low high : Nat) :
    (value &&& ((2 ^ high - 1) <<< low)) >>> low = value / 2 ^ low % 2 ^ high := by
  rw [Nat.shiftRight_and_distrib, Nat.shiftLeft_shiftRight, Nat.shiftRight_eq_div_pow,
    Nat.and_two_pow_sub_one_eq_mod]

theorem and_low (value width : Nat) : value &&& (2 ^ width - 1) = value % 2 ^ width :=
  Nat.and_two_pow_sub_one_eq_mod value width

theorem ofNat_byte {value : Nat} {byte : UInt8} (same : value % 256 = byte.toNat) :
    UInt8.ofNat value = byte := by
  apply UInt8.toNat.inj
  simpa using same

theorem group_bytes (first second third : UInt8) :
    UInt8.ofNat ((first.toNat / 4) <<< 2 +
        ((first.toNat % 4 * 16 + second.toNat / 16) &&& 0x30) >>> 4) = first ∧
      UInt8.ofNat (((first.toNat % 4 * 16 + second.toNat / 16) &&& 0x0F) <<< 4 +
        ((second.toNat % 16 * 4 + third.toNat / 64) &&& 0x3C) >>> 2) = second ∧
      UInt8.ofNat (((second.toNat % 16 * 4 + third.toNat / 64) &&& 0x03) <<< 6 +
        third.toNat % 64) = third := by
  have high (value : Nat) : (value &&& 0x30) >>> 4 = value / 16 % 4 := and_shiftRight value 4 2
  have middle (value : Nat) : (value &&& 0x3C) >>> 2 = value / 4 % 16 := and_shiftRight value 2 4
  have low (value : Nat) : value &&& 0x0F = value % 16 := and_low value 4
  have lowest (value : Nat) : value &&& 0x03 = value % 4 := and_low value 2
  have firstByte := first.toNat_lt
  have secondByte := second.toNat_lt
  have thirdByte := third.toNat_lt
  simp only [high, middle, low, lowest, Nat.shiftLeft_eq]
  refine ⟨ofNat_byte ?_, ofNat_byte ?_, ofNat_byte ?_⟩ <;> omega

theorem base64Decode_group (url : Bool) (first : UInt8) (rest : List UInt8) (after : List Char) :
    base64Decode (group url (first :: rest) ++ after) =
      (base64Decode after).map ((first :: rest).take 3 ++ ·) := by
  have padded := (trailingChar_spec url).1
  have position {index : Nat} (within : index < 64) := (base64Char_spec url within).1
  have char {index : Nat} (within : index < 64) := (base64Char_spec url within).2.1
  have high := position (show first.toNat / 4 < 64 by have := first.toNat_lt; omega)
  rcases rest with _ | ⟨second, _ | ⟨third, rest⟩⟩
  · have bytes := (group_bytes first 0 0).1
    have low := position (show first.toNat % 4 * 16 < 64 by omega)
    simp only [UInt8.toNat_zero, Nat.zero_div, Nat.add_zero] at bytes
    simp only [group, List.cons_append, List.nil_append, base64Decode, laterBytes, high, low,
      padded, Option.bind_eq_bind, Option.bind_some, if_true, List.drop_succ_cons, List.drop_zero,
      bytes]
    cases base64Decode after <;> rfl
  · obtain ⟨firstByte, secondByte, -⟩ := group_bytes first second 0
    have middle := show first.toNat % 4 * 16 + second.toNat / 16 < 64 by
      have := second.toNat_lt
      omega
    have low := show second.toNat % 16 * 4 < 64 by omega
    simp only [UInt8.toNat_zero, Nat.zero_div, Nat.add_zero] at secondByte
    simp only [group, List.cons_append, List.nil_append, base64Decode, laterBytes, high,
      position middle, position low, char low, padded, Option.bind_eq_bind, Option.bind_some,
      if_true, Bool.false_eq_true, if_false, List.drop_succ_cons, List.drop_zero, firstByte,
      secondByte]
    cases base64Decode after <;> rfl
  · obtain ⟨firstByte, secondByte, thirdByte⟩ := group_bytes first second third
    have middle := show first.toNat % 4 * 16 + second.toNat / 16 < 64 by
      have := second.toNat_lt
      omega
    have lower := show second.toNat % 16 * 4 + third.toNat / 64 < 64 by
      have := third.toNat_lt
      omega
    have low := show third.toNat % 64 < 64 by omega
    simp only [group, List.cons_append, List.nil_append, base64Decode, laterBytes, high,
      position middle, position lower, position low, char lower, char low, Option.bind_eq_bind,
      Option.bind_some, Bool.false_eq_true, if_false, List.drop_succ_cons, List.drop_zero,
      firstByte, secondByte, thirdByte]
    cases base64Decode after <;> rfl

theorem base64Decode_groups (url : Bool) (bytes : List UInt8) :
    base64Decode (groups url bytes) = some bytes := by
  induction bytes using groups.induct with
  | case1 => simp [groups, base64Decode]
  | case2 first rest ih =>
      rw [groups, base64Decode_group, ih]
      simp

section

variable {url : Bool} {property : Char → Prop}

theorem group_char (char : ∀ index < 64, property (base64Char url index))
    (padding : property (trailingChar url)) {first : UInt8} {rest : List UInt8} {c : Char}
    (member : c ∈ group url (first :: rest)) : property c := by
  have high := char (first.toNat / 4) (by have := first.toNat_lt; omega)
  rcases rest with _ | ⟨second, _ | ⟨third, rest⟩⟩
  · simp only [group, List.mem_cons, List.not_mem_nil, or_false] at member
    rcases member with rfl | rfl | rfl | rfl
    · exact high
    · exact char _ (by omega)
    · exact padding
    · exact padding
  · have := second.toNat_lt
    simp only [group, List.mem_cons, List.not_mem_nil, or_false] at member
    rcases member with rfl | rfl | rfl | rfl
    · exact high
    · exact char _ (by omega)
    · exact char _ (by omega)
    · exact padding
  · have := second.toNat_lt
    have := third.toNat_lt
    simp only [group, List.mem_cons, List.not_mem_nil, or_false] at member
    rcases member with rfl | rfl | rfl | rfl
    · exact high
    · exact char _ (by omega)
    · exact char _ (by omega)
    · exact char _ (by omega)

theorem groups_char (char : ∀ index < 64, property (base64Char url index))
    (padding : property (trailingChar url)) {bytes : List UInt8} {c : Char}
    (member : c ∈ groups url bytes) : property c := by
  induction bytes using groups.induct with
  | case1 => simp [groups] at member
  | case2 first rest ih =>
      rw [groups, List.mem_append] at member
      rcases member with here | later
      · exact group_char char padding here
      · exact ih later

end

theorem groups_unbroken {url : Bool} {bytes : List UInt8} {c : Char}
    (member : c ∈ groups url bytes) : c ≠ '\n' :=
  @groups_char url (· ≠ '\n') (fun _ within => (base64Char_spec url within).2.2)
    (trailingChar_spec url).2 bytes c member

theorem groups_length (url : Bool) (bytes : List UInt8) :
    (groups url bytes).length = (bytes.length + 2) / 3 * 4 := by
  induction bytes using groups.induct with
  | case1 => simp [groups]
  | case2 first rest ih =>
      rw [groups, List.length_append, ih]
      rcases rest with _ | ⟨second, _ | ⟨third, rest⟩⟩
      · simp [group]
      · simp [group]
      · simp only [group, List.length_cons, List.length_nil, List.drop_succ_cons, List.drop_zero]
        omega

/-! The loop writes these groups, as long as its position does not wrap. -/

section

variable {bytesToEncode : List UInt8} {url : Bool}

theorem pos_offset {state : EncodeState} (short : bytesToEncode.length < 4294967296)
    (aligned : state.pos.toNat % 3 = 0) (inside : state.pos.toNat < bytesToEncode.length) :
    (state.pos + 0).toNat = state.pos.toNat ∧ (state.pos + 1).toNat = state.pos.toNat + 1 ∧
      (state.pos + 2).toNat = state.pos.toNat + 2 ∧
      (state.pos + 3).toNat = state.pos.toNat + 3 := by
  simp only [UInt32.toNat_add, UInt32.reduceToNat]
  omega

theorem encodeRound_group {state : EncodeState} (short : bytesToEncode.length < 4294967296)
    (aligned : state.pos.toNat % 3 = 0) (inside : state.pos.toNat < bytesToEncode.length) :
    (encodeRound bytesToEncode url state).pos.toNat = state.pos.toNat + 3 ∧
      (encodeRound bytesToEncode url state).ret =
        state.ret ++ group url (bytesToEncode.drop state.pos.toNat) := by
  obtain ⟨zero, one, two, three⟩ := pos_offset short aligned inside
  refine ⟨three, ?_⟩
  have high (value : Nat) : (value &&& 0xFC) >>> 2 = value / 4 % 64 := and_shiftRight value 2 6
  have upper (value : Nat) : (value &&& 0xF0) >>> 4 = value / 16 % 16 := and_shiftRight value 4 4
  have top (value : Nat) : (value &&& 0xC0) >>> 6 = value / 64 % 4 := and_shiftRight value 6 2
  have lowest (value : Nat) : value &&& 0x03 = value % 4 := and_low value 2
  have low (value : Nat) : value &&& 0x0F = value % 16 := and_low value 4
  have bottom (value : Nat) : value &&& 0x3F = value % 64 := and_low value 6
  have byte (offset : Nat) : bytesToEncode.getD (state.pos.toNat + offset) 0 =
      (bytesToEncode.drop state.pos.toNat).getD offset 0 := by
    simp [List.getD_eq_getElem?_getD, List.getElem?_drop]
  have room (offset : Nat) : state.pos.toNat + offset < bytesToEncode.length ↔
      offset < (bytesToEncode.drop state.pos.toNat).length := by
    rw [List.length_drop]
    omega
  have here := byte 0
  rw [Nat.add_zero] at here
  have some := (room 0).1 inside
  simp only [encodeRound, byteAt, zero, one, two, here, byte, room, high, upper, top, lowest, low,
    bottom, Nat.shiftLeft_eq]
  have quotient (byte : UInt8) : byte.toNat / 4 % 64 = byte.toNat / 4 ∧
      byte.toNat / 16 % 16 = byte.toNat / 16 ∧ byte.toNat / 64 % 4 = byte.toNat / 64 := by
    have := byte.toNat_lt
    omega
  generalize bytesToEncode.drop state.pos.toNat = rest at some
  rcases rest with _ | ⟨first, _ | ⟨second, _ | ⟨third, rest⟩⟩⟩
  · simp at some
  · simp [group, quotient]
  · simp [group, quotient]
  · simp [group, quotient]

theorem groups_drop {pos : Nat} (inside : pos < bytesToEncode.length) :
    groups url (bytesToEncode.drop pos) =
      group url (bytesToEncode.drop pos) ++ groups url (bytesToEncode.drop (pos + 3)) := by
  rw [List.drop_eq_getElem_cons inside, groups, List.drop_drop]

theorem encodeLoop_groups (short : bytesToEncode.length < 4294967296) {fuel : Nat}
    {state : EncodeState} (aligned : state.pos.toNat % 3 = 0)
    (enough : bytesToEncode.length ≤ state.pos.toNat + fuel) :
    encodeLoop bytesToEncode url (fuel + 1) state =
      some (state.ret ++ groups url (bytesToEncode.drop state.pos.toNat)) := by
  induction fuel generalizing state with
  | zero =>
      rw [encodeLoop, if_neg (by omega), List.drop_eq_nil_of_le (by omega)]
      simp [groups]
  | succ fuel ih =>
      rw [encodeLoop]
      split
      · next inside =>
        obtain ⟨moved, written⟩ := @encodeRound_group _ url _ short aligned inside
        rw [ih (by omega) (by omega), moved, written, List.append_assoc, ← groups_drop inside]
      · next ended =>
        rw [List.drop_eq_nil_of_le (by omega)]
        simp [groups]

theorem base64Encode_groups (short : bytesToEncode.length < 4294967296) :
    base64Encode bytesToEncode url = some (groups url bytesToEncode) := by
  rw [base64Encode, encodeLoop_groups short (by simp) (by simp)]
  simp

theorem encodeLoop_endless (long : 4294967296 ≤ bytesToEncode.length) (fuel : Nat)
    (state : EncodeState) : encodeLoop bytesToEncode url fuel state = none := by
  induction fuel generalizing state with
  | zero => rfl
  | succ fuel ih =>
      have inside : state.pos.toNat < bytesToEncode.length :=
        Nat.lt_of_lt_of_le state.pos.toNat_lt long
      rw [encodeLoop, if_pos inside, ih]

theorem base64DecodeLines_groups : base64DecodeLines (groups url bytesToEncode) =
    some bytesToEncode := by
  have unbroken : (groups url bytesToEncode).filter (· ≠ '\n') = groups url bytesToEncode :=
    List.filter_eq_self.2 fun c member => by simpa using groups_unbroken member
  rw [base64DecodeLines, unbroken, base64Decode_groups]

end

/-- `base64_encode` returns exactly for lengths of 32 bits, and then `base64_decode` gives
the bytes back, whichever alphabet was used. -/
theorem base64_round_trip (bytes : List UInt8) (url : Bool) :
    (bytes.length < 4294967296 → ∃ text, base64Encode bytes url = some text ∧
      text.length = (bytes.length + 2) / 3 * 4 ∧ base64Decode text = some bytes ∧
      base64DecodeLines text = some bytes) ∧
    (4294967296 ≤ bytes.length →
      ∀ fuel, encodeLoop bytes url fuel { pos := 0, ret := [] } = none) := by
  constructor
  · intro short
    exact ⟨groups url bytes, base64Encode_groups short, groups_length url bytes,
      base64Decode_groups url bytes, base64DecodeLines_groups⟩
  · intro long fuel
    exact encodeLoop_endless long fuel _

theorem base64_round_trip_two : ∃ text, base64Encode [251, 255] true = some text ∧
    text.length = 4 ∧ base64Decode text = some [251, 255] ∧
    base64DecodeLines text = some [251, 255] :=
  (base64_round_trip [251, 255] true).1 (by decide)

/-! Line breaks. -/

structure Lines (distance : Nat) (text : List Char) (lines : List (List Char)) : Prop where
  flatten : lines.flatten = text
  full : ∀ line ∈ lines.dropLast, line.length = distance
  last : ∀ line ∈ lines, line ≠ [] ∧ line.length ≤ distance

theorem Lines.single {distance : Nat} {line : List Char} (some : line ≠ [])
    (short : line.length ≤ distance) : Lines distance line [line] where
  flatten := by simp
  full := by simp
  last := by simpa using ⟨some, short⟩

theorem Lines.cons {distance : Nat} {line text : List Char} {lines : List (List Char)}
    (full : line.length = distance) (some : line ≠ []) (broken : Lines distance text lines)
    (nonempty : lines ≠ []) : Lines distance (line ++ text) (line :: lines) where
  flatten := by simp [broken.flatten]
  full := by
    intro other member
    rw [List.dropLast_cons_of_ne_nil nonempty, List.mem_cons] at member
    rcases member with rfl | member
    · exact full
    · exact broken.full other member
  last := by
    intro other member
    rcases List.mem_cons.1 member with rfl | member
    · exact ⟨some, by omega⟩
    · exact broken.last other member

theorem insertLinebreaksFrom_short {distance : Nat} {done rest : List Char}
    (short : rest.length ≤ distance) (fuel : Nat) :
    insertLinebreaksFrom distance (fuel + 1) (done.length + distance) (done ++ rest) =
      some (done ++ rest) := by
  rw [insertLinebreaksFrom, if_neg (by rw [List.length_append]; omega)]

theorem insertLinebreaksFrom_long {distance : Nat} {done rest : List Char}
    (long : distance < rest.length) (fuel : Nat) :
    insertLinebreaksFrom distance (fuel + 1) (done.length + distance) (done ++ rest) =
      insertLinebreaksFrom distance fuel ((done ++ rest.take distance ++ ['\n']).length + distance)
        ((done ++ rest.take distance ++ ['\n']) ++ rest.drop distance) := by
  have moved : done.length + distance + (distance + 1) =
      (done ++ rest.take distance ++ ['\n']).length + distance := by
    simp only [List.length_append, List.length_take, List.length_singleton]
    omega
  rw [insertLinebreaksFrom, if_pos (by rw [List.length_append]; omega), moved,
    List.take_length_add_append, List.drop_length_add_append]
  simp

theorem insertLinebreaksFrom_lines {distance : Nat} (positive : 0 < distance) {fuel : Nat}
    {done rest : List Char} (some : rest ≠ []) (enough : rest.length ≤ fuel + 1) :
    ∃ lines, insertLinebreaksFrom distance (fuel + 1) (done.length + distance) (done ++ rest) =
        Option.some (done ++ ['\n'].intercalate lines) ∧
      Lines distance rest lines ∧ lines ≠ [] := by
  induction fuel generalizing done rest with
  | zero =>
      have short : rest.length ≤ distance := by omega
      exact ⟨[rest], by rw [insertLinebreaksFrom_short short]; simp, .single some short, by simp⟩
  | succ fuel ih =>
      by_cases short : rest.length ≤ distance
      · exact ⟨[rest], by rw [insertLinebreaksFrom_short short]; simp, .single some short, by simp⟩
      · have left : rest.drop distance ≠ [] := by simpa using Nat.not_le.1 short
        have full : (rest.take distance).length = distance := by
          rw [List.length_take]
          omega
        have begun : rest.take distance ≠ [] := List.length_pos_iff.1 (by omega)
        obtain ⟨lines, broken, spec, nonempty⟩ :=
          @ih (done ++ rest.take distance ++ ['\n']) (rest.drop distance) left (by
            rw [List.length_drop]
            omega)
        refine ⟨rest.take distance :: lines, ?_, ?_, by simp⟩
        · rw [insertLinebreaksFrom_long (Nat.not_le.1 short), broken,
            List.intercalate_cons_of_ne_nil nonempty]
          simp
        · have whole := Lines.cons full begun spec nonempty
          rwa [List.take_append_drop] at whole

theorem filter_intercalate {lines : List (List Char)}
    (plain : ∀ line ∈ lines, ∀ c ∈ line, c ≠ '\n') :
    (['\n'].intercalate lines).filter (· ≠ '\n') = lines.flatten := by
  induction lines with
  | nil => rfl
  | cons line rest ih =>
      have kept : line.filter (· ≠ '\n') = line :=
        List.filter_eq_self.2 fun c member => by simpa using plain line (by simp) c member
      have later := ih fun other member => plain other (by simp [member])
      by_cases empty : rest = []
      · subst empty
        simpa using kept
      · rw [List.intercalate_cons_of_ne_nil empty, List.filter_append, List.filter_append, later,
          kept]
        simp

/-- The PEM and MIME forms of every text: full lines but for the last, and
`base64_decode` with removal of the line breaks gives the bytes back. -/
theorem base64_lines_round_trip {lineLength : Nat} (positive : 0 < lineLength)
    {bytes : List UInt8} (short : bytes.length < 4294967296) :
    ∃ text lines, base64Encode bytes false = some text ∧
      encodeWithLineBreaks lineLength bytes = some (['\n'].intercalate lines) ∧
      Lines lineLength text lines ∧
      base64DecodeLines (['\n'].intercalate lines) = some bytes := by
  refine ⟨groups false bytes, ?_⟩
  by_cases empty : groups false bytes = []
  · have none : bytes = [] := by
      have decoded := base64Decode_groups false bytes
      rw [empty] at decoded
      simpa [base64Decode] using decoded.symm
    subst none
    refine ⟨[], base64Encode_groups short, ?_, ⟨by simp [groups], by simp, by simp⟩, ?_⟩
    · simp [encodeWithLineBreaks, base64Encode_groups, groups, insertLinebreaks]
    · simp [base64DecodeLines, base64Decode]
  · obtain ⟨lines, broken, spec, -⟩ := @insertLinebreaksFrom_lines _ positive
      (groups false bytes).length [] _ empty (by omega)
    simp only [List.length_nil, Nat.zero_add, List.nil_append] at broken
    refine ⟨lines, base64Encode_groups short, ?_, spec, ?_⟩
    · rw [encodeWithLineBreaks, base64Encode_groups short, Option.bind_some, insertLinebreaks,
        if_neg empty, broken]
    · have plain : ∀ line ∈ lines, ∀ c ∈ line, c ≠ '\n' := by
        intro line member c inside
        have within := List.mem_flatten.2 ⟨line, member, inside⟩
        rw [spec.flatten] at within
        exact groups_unbroken within
      rw [base64DecodeLines, filter_intercalate plain, spec.flatten, base64Decode_groups]

theorem base64_lines_round_trip_two : ∃ text lines, base64Encode [251, 255] false = some text ∧
    encodeWithLineBreaks 3 [251, 255] = some (['\n'].intercalate lines) ∧ Lines 3 text lines ∧
    base64DecodeLines (['\n'].intercalate lines) = some [251, 255] :=
  base64_lines_round_trip (by decide) (by decide)

end OpenaiAudioStream
