import OpenaiAudioStream.JsonReader

/-!
`json_depth_exceeded`: a scan that counts brackets outside strings, without regard
to their kinds or to the grammar, before the recursive cJSON parser is called.
-/

namespace OpenaiAudioStream

open Json

def scanDepth (maxDepth : Nat) : Bool → Nat → List Char → Bool
  | _, _, [] => false
  | true, depth, c :: rest =>
      if c = '\\' then
        match rest with
        | [] => false
        | _ :: after => scanDepth maxDepth true depth after
      else if c = '"' then scanDepth maxDepth false depth rest
      else scanDepth maxDepth true depth rest
  | false, depth, c :: rest =>
      if c = '"' then scanDepth maxDepth true depth rest
      else if c = '{' ∨ c = '[' then
        if depth + 1 > maxDepth then true else scanDepth maxDepth false (depth + 1) rest
      else if c = '}' ∨ c = ']' then
        scanDepth maxDepth false (if depth > 0 then depth - 1 else depth) rest
      else scanDepth maxDepth false depth rest

/-- `none` is the null pointer. -/
def jsonDepthExceeded (json : Option (List Char)) (maxDepth : Int) : Bool :=
  match json with
  | none => true
  | some text => if maxDepth < 0 then true else scanDepth maxDepth.toNat false 0 text

variable {maxDepth : Nat}

theorem scanDepth_plain {text : List Char} (plain : ∀ c ∈ text, Plain c) (depth : Nat)
    (rest : List Char) :
    scanDepth maxDepth false depth (text ++ rest) = scanDepth maxDepth false depth rest := by
  induction text with
  | nil => rfl
  | cons c text ih =>
      obtain ⟨quote, openArray, openObject, closeArray, closeObject⟩ := plain c (by simp)
      rw [List.cons_append, scanDepth, if_neg quote, if_neg (by simp [openArray, openObject]),
        if_neg (by simp [closeArray, closeObject])]
      exact ih fun other member => plain other (by simp [member])

theorem scanDepth_quote (depth : Nat) (rest : List Char) :
    scanDepth maxDepth false depth ('"' :: rest) = scanDepth maxDepth true depth rest := by
  simp [scanDepth]

theorem scanDepth_open {bracket : Char} (opens : bracket = '[' ∨ bracket = '{') (depth : Nat)
    (rest : List Char) :
    scanDepth maxDepth false depth (bracket :: rest) =
      if maxDepth < depth + 1 then true else scanDepth maxDepth false (depth + 1) rest := by
  rcases opens with rfl | rfl <;> simp [scanDepth]

theorem scanDepth_close {bracket : Char} (closes : bracket = ']' ∨ bracket = '}') (depth : Nat)
    (rest : List Char) :
    scanDepth maxDepth false (depth + 1) (bracket :: rest) =
      scanDepth maxDepth false depth rest := by
  rcases closes with rfl | rfl <;> rfl

theorem scanDepth_endQuote (depth : Nat) (rest : List Char) :
    scanDepth maxDepth true depth ('"' :: rest) = scanDepth maxDepth false depth rest := by
  cases rest <;> simp [scanDepth]

theorem scanDepth_short (inString : Bool) {depth : Nat} (text : List Char)
    (short : depth + text.length ≤ maxDepth) : scanDepth maxDepth inString depth text = false := by
  induction lengthEq : text.length using Nat.strongRecOn generalizing inString depth text with
  | ind length ih =>
      rcases text with _ | ⟨c, rest⟩
      · cases inString <;> rfl
      rw [List.length_cons] at lengthEq short
      have next : ∀ inString depth', depth' ≤ depth + 1 →
          scanDepth maxDepth inString depth' rest = false := fun inString depth' bound =>
        ih rest.length (by omega) inString rest (by omega) rfl
      rcases inString with _ | _
      · rw [scanDepth]
        split_ifs
        · exact next true depth (by omega)
        · omega
        · exact next false (depth + 1) (by omega)
        · exact next false (depth - 1) (by omega)
        · exact next false depth (by omega)
        · exact next false depth (by omega)
      · rcases rest with _ | ⟨other, after⟩
        · simp [scanDepth]
        rw [List.length_cons] at lengthEq short
        have later := @ih after.length (by omega) true depth after (by omega) rfl
        rw [scanDepth]
        split_ifs
        · exact later
        · exact next false depth (by omega)
        · exact next true depth (by omega)

/-! Exact on the grammar. -/

theorem scanDepth_unescaped {c : Char} (quote : c ≠ '"') (escape : c ≠ '\\') (depth : Nat)
    (rest : List Char) :
    scanDepth maxDepth true depth (c :: rest) = scanDepth maxDepth true depth rest := by
  cases rest <;> simp [scanDepth, quote, escape]

theorem scanDepth_escape (c : Char) (depth : Nat) (rest : List Char) :
    scanDepth maxDepth true depth ('\\' :: c :: rest) = scanDepth maxDepth true depth rest := by
  simp [scanDepth]

theorem hex_inside {c : Char} (hex : isHex c = true) : c ≠ '"' ∧ c ≠ '\\' := by
  constructor <;> rintro rfl <;> exact absurd hex (by decide)

theorem scanDepth_body {body : List Char} (string : StringBody body) (depth : Nat)
    (rest : List Char) :
    scanDepth maxDepth true depth (body ++ '"' :: rest) = scanDepth maxDepth false depth rest := by
  induction string with
  | nil => exact scanDepth_endQuote depth rest
  | unescaped c body quote escape _ _ ih =>
      rw [List.cons_append, scanDepth_unescaped quote escape, ih]
  | escaped c body _ _ ih => rw [List.cons_append, List.cons_append, scanDepth_escape, ih]
  | unicode a b c d body hexA hexB hexC hexD _ ih =>
      simp only [List.cons_append]
      rw [scanDepth_escape, scanDepth_unescaped (hex_inside hexA).1 (hex_inside hexA).2,
        scanDepth_unescaped (hex_inside hexB).1 (hex_inside hexB).2,
        scanDepth_unescaped (hex_inside hexC).1 (hex_inside hexC).2,
        scanDepth_unescaped (hex_inside hexD).1 (hex_inside hexD).2, ih]

theorem scanDepth_quoted {body : List Char} (string : StringBody body) (depth : Nat)
    (rest : List Char) :
    scanDepth maxDepth false depth (quoted body ++ rest) = scanDepth maxDepth false depth rest := by
  rw [quoted, List.cons_append, List.append_assoc, scanDepth_quote]
  exact scanDepth_body string depth rest

/-- The scan over a piece of a document that nests `nesting` levels deep. -/
def ScansAs (maxDepth : Nat) (text : List Char) (nesting : Nat) : Prop :=
  ∀ depth rest, depth ≤ maxDepth →
    scanDepth maxDepth false depth (text ++ rest) =
      if maxDepth < depth + nesting then true else scanDepth maxDepth false depth rest

theorem scansAs_of_skipped {text : List Char}
    (skipped : ∀ depth rest, scanDepth maxDepth false depth (text ++ rest) =
      scanDepth maxDepth false depth rest) : ScansAs maxDepth text 0 := by
  intro depth rest below
  rw [skipped, if_neg (by omega)]

theorem ScansAs.append {first second : List Char} {left right : Nat}
    (before : ScansAs maxDepth first left) (after : ScansAs maxDepth second right) :
    ScansAs maxDepth (first ++ second) (max left right) := by
  intro depth rest below
  rw [List.append_assoc, before depth _ below]
  split
  · rw [if_pos (by omega)]
  · rw [after depth rest below]
    split
    · rw [if_pos (by omega)]
    · rw [if_neg (by omega)]

theorem scansAs_plain {text : List Char} (plain : ∀ c ∈ text, Plain c) :
    ScansAs maxDepth text 0 :=
  scansAs_of_skipped (scanDepth_plain plain)

theorem scansAs_comma {first second : List Char} {left right : Nat}
    (before : ScansAs maxDepth first left) (after : ScansAs maxDepth second right) :
    ScansAs maxDepth (first ++ ',' :: second) (max left right) := by
  have comma : ScansAs maxDepth [','] 0 := scansAs_plain (by simp [Plain])
  simpa using before.append (comma.append after)

theorem ScansAs.surrounded {before inner after : List Char} {nesting : Nat}
    (scanned : ScansAs maxDepth inner nesting) (leading : Whitespace before)
    (trailing : Whitespace after) : ScansAs maxDepth (before ++ (inner ++ after)) nesting := by
  have left : ScansAs maxDepth before 0 := scansAs_plain leading.plain
  have right : ScansAs maxDepth after 0 := scansAs_plain trailing.plain
  simpa using left.append (scanned.append right)

theorem scansAs_member {before key between gap value after : List Char} {nesting : Nat}
    (scanned : ScansAs maxDepth value nesting) (leading : Whitespace before)
    (string : StringBody key) (middle : Whitespace between) (space : Whitespace gap)
    (trailing : Whitespace after) :
    ScansAs maxDepth (before ++ (quoted key ++ (between ++ ':' :: (gap ++ (value ++ after)))))
      nesting := by
  have name : ScansAs maxDepth (quoted key) 0 := scansAs_of_skipped (scanDepth_quoted string)
  have colon : ScansAs maxDepth [':'] 0 := scansAs_plain (by simp [Plain])
  have first : ScansAs maxDepth before 0 := scansAs_plain leading.plain
  have second : ScansAs maxDepth between 0 := scansAs_plain middle.plain
  have inner := scanned.surrounded space trailing
  simpa using first.append (name.append (second.append (colon.append inner)))

theorem scansAs_bracket {opening closing : Char} (opens : opening = '[' ∨ opening = '{')
    (closes : closing = ']' ∨ closing = '}') {inner : List Char} {nesting : Nat}
    (inside : ScansAs maxDepth inner nesting) :
    ScansAs maxDepth (opening :: (inner ++ [closing])) (nesting + 1) := by
  intro depth rest below
  rw [List.cons_append, List.append_assoc, scanDepth_open opens]
  split
  · rw [if_pos (by omega)]
  · rename_i room
    rw [inside (depth + 1) _ (by omega), List.singleton_append, scanDepth_close closes]
    split
    · rw [if_pos (by omega)]
    · rw [if_neg (by omega)]

mutual

theorem value_scansAs : {text : List Char} → {nesting : Nat} → Value text nesting →
    ScansAs maxDepth text nesting
  | _, _, .null => scansAs_plain (by simp [Plain])
  | _, _, .true => scansAs_plain (by simp [Plain])
  | _, _, .false => scansAs_plain (by simp [Plain])
  | _, _, .number _ number => scansAs_plain number.plain
  | _, _, .string _ string => scansAs_of_skipped (scanDepth_quoted string)
  | _, _, .emptyArray _ space => scansAs_bracket (by simp) (by simp) (scansAs_plain space.plain)
  | _, _, .array _ _ elements =>
      scansAs_bracket (by simp) (by simp) (elements_scansAs elements)
  | _, _, .emptyObject _ space => scansAs_bracket (by simp) (by simp) (scansAs_plain space.plain)
  | _, _, .object _ _ members => scansAs_bracket (by simp) (by simp) (members_scansAs members)

theorem elements_scansAs : {text : List Char} → {nesting : Nat} → Elements text nesting →
    ScansAs maxDepth text nesting
  | _, _, .last _ _ _ _ leading value trailing =>
      (value_scansAs value).surrounded leading trailing
  | _, _, .cons _ _ _ _ _ _ leading value trailing others => by
      have inner : ScansAs maxDepth _ _ := value_scansAs value
      simpa using scansAs_comma (inner.surrounded leading trailing) (elements_scansAs others)

theorem members_scansAs : {text : List Char} → {nesting : Nat} → Members text nesting →
    ScansAs maxDepth text nesting
  | _, _, .last _ _ _ _ _ _ _ leading key middle space value trailing =>
      scansAs_member (value_scansAs value) leading key middle space trailing
  | _, _, .cons _ _ _ _ _ _ _ _ _ leading key middle space value trailing others => by
      have inner : ScansAs maxDepth _ _ := value_scansAs value
      simpa using scansAs_comma (scansAs_member inner leading key middle space trailing)
        (members_scansAs others)

end

theorem document_scanned {text : List Char} {nesting : Nat} (document : Document text nesting) :
    scanDepth maxDepth false 0 text = true ↔ maxDepth < nesting := by
  obtain ⟨before, value, after, _, leading, inner, trailing⟩ := document
  have scanned := (value_scansAs inner).surrounded leading trailing 0 [] (Nat.zero_le maxDepth)
  rw [List.append_nil, Nat.zero_add] at scanned
  rw [scanned]
  split
  · rename_i deep
    simp [deep]
  · rename_i shallow
    simp [scanDepth, shallow]

/-! Sound on everything. -/

structure Within (maxDepth level : Nat) (reading : Reading) : Prop where
  reached : reading.reached ≤ maxDepth
  behind : ∀ rest, reading.outcome = .done rest → scanDepth maxDepth false level rest = false

theorem within_failed {level : Nat} (below : level ≤ maxDepth) (after : Nat) :
    Within maxDepth after ⟨level, .failed⟩ :=
  ⟨below, by simp⟩

theorem within_done {level after : Nat} {rest : List Char} (below : level ≤ maxDepth)
    (scanned : scanDepth maxDepth false after rest = false) :
    Within maxDepth after ⟨level, .done rest⟩ := by
  refine ⟨below, ?_⟩
  rintro other same
  cases same
  exact scanned

theorem andThen_within {level after : Nat} {first : Reading} {next : List Char → Reading}
    (read : Within maxDepth level first)
    (later : ∀ rest, scanDepth maxDepth false level rest = false →
      Within maxDepth after (next rest)) :
    Within maxDepth after (first.andThen next) := by
  obtain ⟨reached, outcome⟩ := first
  cases outcome with
  | done rest =>
      have continued := later rest (read.behind rest rfl)
      exact ⟨Nat.max_le.mpr ⟨read.reached, continued.reached⟩, continued.behind⟩
  | failed => exact within_failed read.reached after
  | exhausted => exact ⟨read.reached, by simp [Reading.andThen]⟩

theorem scanDepth_skip (reader : Reader) (level : Nat) (text : List Char) :
    scanDepth maxDepth false level (reader.skip text) = scanDepth maxDepth false level text := by
  obtain ⟨dropped, whole, plain⟩ := reader.skip_plain text
  conv_rhs => rw [whole]
  rw [scanDepth_plain plain]

theorem scanDepth_stringEnd {text contents rest : List Char}
    (found : stringEnd text = some (contents, rest)) (depth : Nat) :
    scanDepth maxDepth true depth text = scanDepth maxDepth false depth rest := by
  induction text using stringEnd.induct generalizing contents with
  | case1 => simp [stringEnd] at found
  | case2 => simp [stringEnd] at found
  | case3 c after ih =>
      simp only [stringEnd, Option.map_eq_some_iff, Prod.mk.injEq] at found
      obtain ⟨⟨inner, behind⟩, later, _, rfl⟩ := found
      rw [scanDepth_escape, ih later]
  | case4 after =>
      simp only [stringEnd, Option.some.injEq, Prod.mk.injEq] at found
      obtain ⟨_, rfl⟩ := found
      exact scanDepth_endQuote depth after
  | case5 c after notLast notEscape notQuote ih =>
      rw [stringEnd] at found
      · simp only [Option.map_eq_some_iff, Prod.mk.injEq] at found
        obtain ⟨⟨inner, behind⟩, later, _, rfl⟩ := found
        have quote : c ≠ '"' := fun same => notQuote same
        have escape : c ≠ '\\' := by
          rintro rfl
          cases after with
          | nil => exact notLast rfl rfl
          | cons next after => exact notEscape next after rfl rfl
        rw [scanDepth_unescaped quote escape, ih later]
      all_goals assumption

theorem string_within {reader : Reader} {level : Nat} {text rest : List Char}
    (read : reader.string text = some rest) :
    scanDepth maxDepth true level text = scanDepth maxDepth false level rest := by
  obtain ⟨contents, found⟩ := reader.string_spec read
  exact scanDepth_stringEnd found level

theorem key_within {reader : Reader} {level : Nat} {text rest : List Char}
    (read : reader.key text = some rest) :
    scanDepth maxDepth false level text = scanDepth maxDepth false level rest := by
  obtain ⟨after, behind, quote, string, colon⟩ := reader.key_spec read
  have plain : scanDepth maxDepth false level (':' :: rest) =
      scanDepth maxDepth false level rest := by
    simp [scanDepth]
  rw [← scanDepth_skip reader, quote, scanDepth_quote, string_within string,
    ← scanDepth_skip reader, colon, plain]

theorem separator_within {reader : Reader} {close : Char} {level : Nat}
    {again : List Char → Reading} {text : List Char} (closes : close = ']' ∨ close = '}')
    (below : level + 1 ≤ maxDepth)
    (scanned : scanDepth maxDepth false (level + 1) text = false)
    (later : ∀ rest, scanDepth maxDepth false (level + 1) rest = false →
      Within maxDepth level (again rest)) :
    Within maxDepth level (reader.separator close (level + 1) again text) := by
  rw [← scanDepth_skip reader] at scanned
  unfold Reader.separator
  split
  · exact within_failed below level
  · rename_i c rest shape
    rw [shape] at scanned
    split
    · rename_i comma
      subst comma
      exact later rest (by simpa [scanDepth] using scanned)
    · split
      · rename_i closing
        subst closing
        exact within_done below (by rwa [scanDepth_close closes] at scanned)
      · exact within_failed below level

theorem inside_within {reader : Reader} {close : Char} {level : Nat}
    {items : List Char → Reading} {text : List Char} (closes : close = ']' ∨ close = '}')
    (below : level + 1 ≤ maxDepth)
    (scanned : scanDepth maxDepth false (level + 1) text = false)
    (later : ∀ rest, scanDepth maxDepth false (level + 1) rest = false →
      Within maxDepth level (items rest)) :
    Within maxDepth level (reader.inside close (level + 1) items text) := by
  rw [← scanDepth_skip reader] at scanned
  unfold Reader.inside
  split
  · exact within_failed below level
  · rename_i c rest shape
    rw [shape] at scanned
    split
    · rename_i closing
      subst closing
      exact within_done below (by rwa [scanDepth_close closes] at scanned)
    · exact later _ scanned

theorem opened_within {bracket : Char} (opens : bracket = '[' ∨ bracket = '{') {level : Nat}
    {after : List Char} (scanned : scanDepth maxDepth false level (bracket :: after) = false) :
    level + 1 ≤ maxDepth ∧ scanDepth maxDepth false (level + 1) after = false := by
  rw [scanDepth_open opens] at scanned
  split at scanned
  · cases scanned
  · exact ⟨by omega, scanned⟩

/-- The counter of the scan is the level of the reader at each of its positions. -/
theorem reader_within (reader : Reader) (fuel : Nat) :
    (∀ level text, level ≤ maxDepth → scanDepth maxDepth false level text = false →
        Within maxDepth level (reader.value fuel level text)) ∧
      (∀ level text, level + 1 ≤ maxDepth → scanDepth maxDepth false (level + 1) text = false →
        Within maxDepth level (reader.elements fuel (level + 1) text)) ∧
      (∀ level text, level + 1 ≤ maxDepth → scanDepth maxDepth false (level + 1) text = false →
        Within maxDepth level (reader.members fuel (level + 1) text)) := by
  induction fuel with
  | zero =>
      exact ⟨fun _ _ below _ => ⟨below, by simp [Reader.value]⟩,
        fun _ _ below _ => ⟨below, by simp [Reader.elements]⟩,
        fun _ _ below _ => ⟨below, by simp [Reader.members]⟩⟩
  | succ fuel ih =>
      obtain ⟨values, elements, members⟩ := ih
      refine ⟨?_, ?_, ?_⟩
      · intro level text below scanned
        cases text with
        | nil => exact within_failed below level
        | cons c after =>
            simp only [Reader.value]
            split
            · rename_i quote
              subst quote
              split
              · exact within_failed below level
              · rename_i rest read
                rw [scanDepth_quote, string_within read] at scanned
                exact within_done below scanned
            · split
              · rename_i bracket
                subst bracket
                obtain ⟨deeper, inner⟩ := opened_within (Or.inl rfl) scanned
                exact inside_within (Or.inl rfl) deeper inner fun rest =>
                  elements level rest deeper
              · split
                · rename_i bracket
                  subst bracket
                  obtain ⟨deeper, inner⟩ := opened_within (Or.inr rfl) scanned
                  exact inside_within (Or.inr rfl) deeper inner fun rest =>
                    members level rest deeper
                · split
                  · exact within_failed below level
                  · rename_i rest read
                    obtain ⟨taken, _, whole, plain⟩ := reader.scalar_plain _ _ read
                    rw [whole, scanDepth_plain plain] at scanned
                    exact within_done below scanned
      · intro level text below scanned
        simp only [Reader.elements]
        rw [← scanDepth_skip reader] at scanned
        refine andThen_within (values (level + 1) _ below scanned) fun rest behind => ?_
        exact separator_within (Or.inl rfl) below behind fun more => elements level more below
      · intro level text below scanned
        simp only [Reader.members]
        split
        · exact within_failed below level
        · rename_i behind read
          rw [key_within read, ← scanDepth_skip reader] at scanned
          refine andThen_within (values (level + 1) _ below scanned) fun rest later => ?_
          exact separator_within (Or.inr rfl) below later fun more => members level more below

/-- Exact on documents; on any text the reader, run for however long, opens no level
beyond a limit that the scan found kept. -/
theorem json_depth_guard (text : List Char) (maxDepth : Int) (nonnegative : 0 ≤ maxDepth) :
    (∀ nesting, Document text nesting →
        (jsonDepthExceeded (some text) maxDepth = true ↔ maxDepth < nesting)) ∧
      (jsonDepthExceeded (some text) maxDepth = false →
        ∀ (reader : Reader) (fuel : Nat), (reader.document fuel text).reached ≤ maxDepth) := by
  obtain ⟨limit, rfl⟩ := Int.eq_ofNat_of_zero_le nonnegative
  have scanned : jsonDepthExceeded (some text) limit = scanDepth limit false 0 text := by
    simp only [jsonDepthExceeded, Int.toNat_natCast]
    rw [if_neg (by omega)]
  rw [scanned]
  constructor
  · intro nesting document
    rw [document_scanned document]
    exact Int.ofNat_lt.symm
  · intro kept reader fuel
    rw [← scanDepth_skip reader] at kept
    have read := (reader_within reader fuel).1 0 _ (Nat.zero_le limit) kept
    exact Int.ofNat_le.mpr read.reached

theorem dropWhile_plain {p : Char → Bool} (plain : ∀ c, p c = true → Plain c)
    (text : List Char) : ∃ dropped, text = dropped ++ text.dropWhile p ∧ ∀ c ∈ dropped, Plain c :=
  ⟨text.takeWhile p, List.takeWhile_append_dropWhile.symm,
    fun c member => plain c (List.all_eq_true.mp List.all_takeWhile c member)⟩

def numberCharacter (c : Char) : Bool := c.isDigit || "+-eE.".toList.contains c

theorem numberCharacter_plain (c : Char) (found : numberCharacter c = true) : Plain c := by
  simp only [numberCharacter, Bool.or_eq_true] at found
  rcases found with digit | other
  · exact plain_of_isDigit digit
  · have listed : c = '+' ∨ c = '-' ∨ c = 'e' ∨ c = 'E' ∨ c = '.' := by simpa using other
    rcases listed with rfl | rfl | rfl | rfl | rfl <;> decide

theorem blank_plain (c : Char) (blank : decide (c.toNat ≤ 32) = true) : Plain c := by
  refine ⟨?_, ?_, ?_, ?_, ?_⟩ <;> rintro rfl <;> exact absurd blank (by decide)

def cjson : Reader where
  skip := List.dropWhile fun c => decide (c.toNat ≤ 32)
  scalar := fun text =>
    if (text.takeWhile numberCharacter).isEmpty then none
    else some (text.dropWhile numberCharacter)
  stringAccepted := fun _ => true
  skip_plain := dropWhile_plain blank_plain
  scalar_plain := by
    intro text rest read
    split at read
    · cases read
    · rename_i some_
      simp only [Option.some.injEq] at read
      refine ⟨text.takeWhile numberCharacter, by simpa using some_, ?_,
        fun c member => numberCharacter_plain c (List.all_eq_true.mp List.all_takeWhile c member)⟩
      rw [← read, List.takeWhile_append_dropWhile]

/-- A text behind mismatched brackets is scanned but never read. -/
example : jsonDepthExceeded (some ['[', '}', '[', '[', '[']) 2 = true ∧
    cjson.document 20 ['[', '}', '[', '[', '['] = ⟨1, .failed⟩ := by
  decide

theorem nested_document : Document "[[1], 2]".toList 2 :=
  .mk [] "[[1], 2]".toList [] 2 (by simp [Whitespace])
    (.array _ _ (.cons [] _ [] 1 _ 0 (by simp [Whitespace])
      (.array _ _ (.last [] ['1'] [] 0 (by simp [Whitespace])
        (.number _ (.mk [] ['1'] [] [] (by simp) (.nonzero _ _ (by decide) (by decide)
          (by simp [Digits])) .absent .absent)) (by simp [Whitespace])))
      (by simp [Whitespace])
      (.last [' '] ['2'] [] 0 (by simp [Whitespace])
        (.number _ (.mk [] ['2'] [] [] (by simp) (.nonzero _ _ (by decide) (by decide)
          (by simp [Digits])) .absent .absent)) (by simp [Whitespace]))))
    (by simp [Whitespace])

theorem json_depth_guard_nested :
    jsonDepthExceeded (some "[[1], 2]".toList) 1 = true ∧
      (cjson.document 20 "[[1], 2]".toList).reached ≤ 2 := by
  have shallow := json_depth_guard "[[1], 2]".toList 1 (by decide)
  have enough := json_depth_guard "[[1], 2]".toList 2 (by decide)
  exact ⟨(shallow.1 2 nested_document).mpr (by decide),
    Int.ofNat_le.mp (enough.2 (by decide) cjson 20)⟩

end OpenaiAudioStream
