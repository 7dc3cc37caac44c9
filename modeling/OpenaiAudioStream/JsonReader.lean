import OpenaiAudioStream.JsonGrammar

/-!
A recursive-descent JSON parser that records the deepest level it opens. A level is
opened at a bracket in value position and closed at the matching one only; how
blanks, scalars and string contents are judged is left to the parameters.
-/

namespace Json

structure Reader where
  skip : List Char → List Char
  -- what is left behind a literal or a number
  scalar : List Char → Option (List Char)
  stringAccepted : List Char → Bool
  skip_plain : ∀ text, ∃ dropped, text = dropped ++ skip text ∧ ∀ c ∈ dropped, Plain c
  scalar_plain : ∀ text rest, scalar text = some rest →
    ∃ taken, taken ≠ [] ∧ text = taken ++ rest ∧ ∀ c ∈ taken, Plain c

inductive Outcome where
  | done (rest : List Char)
  | failed
  | exhausted
  deriving DecidableEq, Repr

structure Reading where
  reached : Nat
  outcome : Outcome
  deriving DecidableEq, Repr

def stringEnd : List Char → Option (List Char × List Char)
  | [] => none
  | ['\\'] => none
  | '\\' :: c :: rest => (stringEnd rest).map fun found => ('\\' :: c :: found.1, found.2)
  | '"' :: rest => some ([], rest)
  | c :: rest => (stringEnd rest).map fun found => (c :: found.1, found.2)

def Reading.andThen (first : Reading) (next : List Char → Reading) : Reading :=
  match first.outcome with
  | .done rest => ⟨max first.reached (next rest).reached, (next rest).outcome⟩
  | .failed => first
  | .exhausted => first

namespace Reader

variable (reader : Reader)

def string (text : List Char) : Option (List Char) :=
  match stringEnd text with
  | none => none
  | some (contents, rest) => if reader.stringAccepted contents then some rest else none

def key (text : List Char) : Option (List Char) :=
  match reader.skip text with
  | '"' :: after =>
      match reader.string after with
      | none => none
      | some rest =>
          match reader.skip rest with
          | ':' :: text => some text
          | _ => none
  | _ => none

def separator (close : Char) (level : Nat) (again : List Char → Reading) (text : List Char) :
    Reading :=
  match reader.skip text with
  | [] => ⟨level, .failed⟩
  | c :: rest =>
      if c = ',' then again rest
      else if c = close then ⟨level, .done rest⟩
      else ⟨level, .failed⟩

def inside (close : Char) (level : Nat) (items : List Char → Reading) (text : List Char) :
    Reading :=
  match reader.skip text with
  | [] => ⟨level, .failed⟩
  | c :: rest => if c = close then ⟨level, .done rest⟩ else items (c :: rest)

mutual

def value : Nat → Nat → List Char → Reading
  | 0, level, _ => ⟨level, .exhausted⟩
  | _ + 1, level, [] => ⟨level, .failed⟩
  | fuel + 1, level, c :: after =>
      if c = '"' then
        match reader.string after with
        | none => ⟨level, .failed⟩
        | some rest => ⟨level, .done rest⟩
      else if c = '[' then reader.inside ']' (level + 1) (elements fuel (level + 1)) after
      else if c = '{' then reader.inside '}' (level + 1) (members fuel (level + 1)) after
      else
        match reader.scalar (c :: after) with
        | none => ⟨level, .failed⟩
        | some rest => ⟨level, .done rest⟩

def elements : Nat → Nat → List Char → Reading
  | 0, level, _ => ⟨level, .exhausted⟩
  | fuel + 1, level, text =>
      (value fuel level (reader.skip text)).andThen
        (reader.separator ']' level (elements fuel level))

def members : Nat → Nat → List Char → Reading
  | 0, level, _ => ⟨level, .exhausted⟩
  | fuel + 1, level, text =>
      match reader.key text with
      | none => ⟨level, .failed⟩
      | some text =>
          (value fuel level (reader.skip text)).andThen
            (reader.separator '}' level (members fuel level))

end

def document (fuel : Nat) (text : List Char) : Reading := reader.value fuel 0 (reader.skip text)

theorem skip_length (text : List Char) : (reader.skip text).length ≤ text.length := by
  obtain ⟨dropped, whole, _⟩ := reader.skip_plain text
  have lengths := congrArg List.length whole
  simp only [List.length_append] at lengths
  omega

theorem scalar_length {text rest : List Char} (read : reader.scalar text = some rest) :
    rest.length < text.length := by
  obtain ⟨taken, nonempty, whole, _⟩ := reader.scalar_plain text rest read
  have positive := List.length_pos_iff.mpr nonempty
  rw [whole, List.length_append]
  omega

end Reader

theorem stringEnd_length {text contents rest : List Char}
    (found : stringEnd text = some (contents, rest)) : rest.length < text.length := by
  induction text using stringEnd.induct generalizing contents with
  | case1 => simp [stringEnd] at found
  | case2 => simp [stringEnd] at found
  | case3 c after ih =>
      simp only [stringEnd, Option.map_eq_some_iff, Prod.mk.injEq] at found
      obtain ⟨⟨inner, behind⟩, later, _, rfl⟩ := found
      have shorter : behind.length < after.length := ih later
      simp only [List.length_cons]
      omega
  | case4 after =>
      simp only [stringEnd, Option.some.injEq, Prod.mk.injEq] at found
      obtain ⟨_, rfl⟩ := found
      simp
  | case5 c after notLast notEscape notQuote ih =>
      rw [stringEnd] at found
      · simp only [Option.map_eq_some_iff, Prod.mk.injEq] at found
        obtain ⟨⟨inner, behind⟩, later, _, rfl⟩ := found
        have shorter : behind.length < after.length := ih later
        simp only [List.length_cons]
        omega
      all_goals assumption

namespace Reader

variable (reader : Reader)

theorem string_spec {text rest : List Char} (read : reader.string text = some rest) :
    ∃ contents, stringEnd text = some (contents, rest) := by
  unfold string at read
  split at read
  · simp at read
  · rename_i contents behind found
    split at read
    · simp only [Option.some.injEq] at read
      exact ⟨contents, by rw [found, read]⟩
    · simp at read

theorem string_length {text rest : List Char} (read : reader.string text = some rest) :
    rest.length < text.length := by
  obtain ⟨contents, found⟩ := reader.string_spec read
  exact stringEnd_length found

theorem key_spec {text rest : List Char} (read : reader.key text = some rest) :
    ∃ after behind, reader.skip text = '"' :: after ∧ reader.string after = some behind ∧
      reader.skip behind = ':' :: rest := by
  unfold key at read
  split at read
  · rename_i after quote
    split at read
    · simp at read
    · rename_i behind string
      split at read
      · rename_i value colon
        simp only [Option.some.injEq] at read
        exact ⟨after, behind, quote, string, by rw [colon, read]⟩
      · simp at read
  · simp at read

theorem key_length {text rest : List Char} (read : reader.key text = some rest) :
    rest.length < text.length := by
  obtain ⟨after, behind, quote, string, colon⟩ := reader.key_spec read
  have first := reader.skip_length text
  have second := reader.string_length string
  have third := reader.skip_length behind
  rw [quote, List.length_cons] at first
  rw [colon, List.length_cons] at third
  omega

end Reader

structure Reading.Finishes (size : Nat) (reading : Reading) : Prop where
  ended : reading.outcome ≠ .exhausted
  shorter : ∀ rest, reading.outcome = .done rest → rest.length < size

theorem finishes_failed (size level : Nat) : (⟨level, .failed⟩ : Reading).Finishes size :=
  ⟨by simp, by simp⟩

theorem finishes_done {size level : Nat} {rest : List Char} (shorter : rest.length < size) :
    (⟨level, .done rest⟩ : Reading).Finishes size := by
  refine ⟨by simp, ?_⟩
  rintro other same
  cases same
  exact shorter

theorem andThen_finishes {size bound : Nat} {first : Reading} {next : List Char → Reading}
    (finished : first.Finishes size)
    (later : ∀ rest, rest.length < size → (next rest).Finishes bound) :
    (first.andThen next).Finishes bound := by
  obtain ⟨reached, outcome⟩ := first
  cases outcome with
  | done rest =>
      obtain ⟨ended, shorter⟩ := later rest (finished.shorter rest rfl)
      exact ⟨ended, shorter⟩
  | failed => exact finishes_failed bound reached
  | exhausted => exact absurd rfl finished.ended

namespace Reader

variable (reader : Reader)

theorem separator_finishes {close : Char} {level size : Nat} {again : List Char → Reading}
    {text : List Char} (bound : text.length ≤ size)
    (later : ∀ rest, rest.length < text.length → (again rest).Finishes size) :
    (reader.separator close level again text).Finishes size := by
  have skipped := reader.skip_length text
  unfold separator
  split
  · exact finishes_failed size level
  · rename_i c rest shape
    rw [shape, List.length_cons] at skipped
    split
    · exact later rest (by omega)
    · split
      · exact finishes_done (by omega)
      · exact finishes_failed size level

theorem inside_finishes {close : Char} {level size : Nat} {items : List Char → Reading}
    {text : List Char} (bound : text.length ≤ size)
    (later : ∀ rest, rest.length ≤ text.length → (items rest).Finishes size) :
    (reader.inside close level items text).Finishes size := by
  have skipped := reader.skip_length text
  unfold inside
  split
  · exact finishes_failed size level
  · rename_i c rest shape
    rw [shape] at skipped
    split
    · simp only [List.length_cons] at skipped
      exact finishes_done (by omega)
    · exact later _ skipped

/-- Fuel for two calls a character is enough. -/
theorem finishes (fuel : Nat) :
    (∀ level text, 2 * text.length + 1 ≤ fuel →
        (reader.value fuel level text).Finishes text.length) ∧
      (∀ level text size, 2 * text.length + 2 ≤ fuel → text.length ≤ size →
        (reader.elements fuel level text).Finishes size) ∧
      (∀ level text size, 2 * text.length + 2 ≤ fuel → text.length ≤ size →
        (reader.members fuel level text).Finishes size) := by
  induction fuel with
  | zero =>
      exact ⟨fun _ _ enough => by omega, fun _ _ _ enough => by omega,
        fun _ _ _ enough => by omega⟩
  | succ fuel ih =>
      obtain ⟨values, elements, members⟩ := ih
      refine ⟨?_, ?_, ?_⟩
      · intro level text enough
        cases text with
        | nil => exact finishes_failed 0 level
        | cons c after =>
            simp only [List.length_cons] at enough ⊢
            simp only [value]
            split
            · split
              · exact finishes_failed _ level
              · rename_i rest read
                have shorter := reader.string_length read
                exact finishes_done (by omega)
            · split
              · exact reader.inside_finishes (by omega) fun rest bound =>
                  elements _ rest _ (by omega) (by omega)
              · split
                · exact reader.inside_finishes (by omega) fun rest bound =>
                    members _ rest _ (by omega) (by omega)
                · split
                  · exact finishes_failed _ level
                  · rename_i rest read
                    exact finishes_done (by simpa using reader.scalar_length read)
      · intro level text size enough bound
        have skipped := reader.skip_length text
        simp only [Reader.elements]
        refine andThen_finishes (values level _ (by omega)) fun rest shorter => ?_
        exact reader.separator_finishes (by omega) fun more less =>
          elements level more size (by omega) (by omega)
      · intro level text size enough bound
        simp only [Reader.members]
        split
        · exact finishes_failed size level
        · rename_i behind read
          have shorter := reader.key_length read
          have skipped := reader.skip_length behind
          refine andThen_finishes (values level _ (by omega)) fun rest less => ?_
          exact reader.separator_finishes (by omega) fun more fewer =>
            members level more size (by omega) (by omega)

theorem document_finishes (text : List Char) :
    (reader.document (2 * text.length + 1) text).outcome ≠ .exhausted := by
  have skipped := reader.skip_length text
  exact ((reader.finishes (2 * text.length + 1)).1 0 (reader.skip text) (by omega)).ended

end Reader

end Json
