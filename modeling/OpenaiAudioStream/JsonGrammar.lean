import Mathlib.Data.List.Basic

/-!
The grammar of JSON texts, each with the nesting depth of its arrays and objects.
-/

namespace Json

def Plain (c : Char) : Prop := c ≠ '"' ∧ c ≠ '[' ∧ c ≠ '{' ∧ c ≠ ']' ∧ c ≠ '}'

instance (c : Char) : Decidable (Plain c) := inferInstanceAs (Decidable (_ ∧ _))

def Whitespace (text : List Char) : Prop :=
  ∀ c ∈ text, c = ' ' ∨ c = '\t' ∨ c = '\n' ∨ c = '\r'

def Digits (text : List Char) : Prop := ∀ c ∈ text, c.isDigit = true

inductive Integer : List Char → Prop
  | zero : Integer ['0']
  | nonzero (first rest) : first.isDigit = true → first ≠ '0' → Digits rest →
      Integer (first :: rest)

inductive Fraction : List Char → Prop
  | absent : Fraction []
  | present (digits) : digits ≠ [] → Digits digits → Fraction ('.' :: digits)

inductive Exponent : List Char → Prop
  | absent : Exponent []
  | present (marker sign digits) : marker = 'e' ∨ marker = 'E' →
      sign = [] ∨ sign = ['+'] ∨ sign = ['-'] → digits ≠ [] → Digits digits →
      Exponent (marker :: (sign ++ digits))

inductive Number : List Char → Prop
  | mk (sign integer fraction exponent) : sign = [] ∨ sign = ['-'] → Integer integer →
      Fraction fraction → Exponent exponent →
      Number (sign ++ (integer ++ (fraction ++ exponent)))

def isHex (c : Char) : Bool := c.isDigit || ('a' ≤ c && c ≤ 'f') || ('A' ≤ c && c ≤ 'F')

inductive StringBody : List Char → Prop
  | nil : StringBody []
  | unescaped (c rest) : c ≠ '"' → c ≠ '\\' → 32 ≤ c.toNat → StringBody rest →
      StringBody (c :: rest)
  | escaped (c rest) : c ∈ ['"', '\\', '/', 'b', 'f', 'n', 'r', 't'] → StringBody rest →
      StringBody ('\\' :: c :: rest)
  | unicode (a b c d rest) : isHex a = true → isHex b = true → isHex c = true → isHex d = true →
      StringBody rest → StringBody ('\\' :: 'u' :: a :: b :: c :: d :: rest)

def quoted (body : List Char) : List Char := '"' :: (body ++ ['"'])

mutual

inductive Value : List Char → Nat → Prop
  | null : Value ['n', 'u', 'l', 'l'] 0
  | true : Value ['t', 'r', 'u', 'e'] 0
  | false : Value ['f', 'a', 'l', 's', 'e'] 0
  | number (text) : Number text → Value text 0
  | string (body) : StringBody body → Value (quoted body) 0
  | emptyArray (space) : Whitespace space → Value ('[' :: (space ++ [']'])) 1
  | array (elements depth) : Elements elements depth →
      Value ('[' :: (elements ++ [']'])) (depth + 1)
  | emptyObject (space) : Whitespace space → Value ('{' :: (space ++ ['}'])) 1
  | object (members depth) : Members members depth →
      Value ('{' :: (members ++ ['}'])) (depth + 1)

inductive Elements : List Char → Nat → Prop
  | last (before value after depth) : Whitespace before → Value value depth → Whitespace after →
      Elements (before ++ (value ++ after)) depth
  | cons (before value after depth rest deepest) : Whitespace before → Value value depth →
      Whitespace after → Elements rest deepest →
      Elements (before ++ (value ++ (after ++ ',' :: rest))) (max depth deepest)

inductive Members : List Char → Nat → Prop
  | last (before key between gap value after depth) : Whitespace before → StringBody key →
      Whitespace between → Whitespace gap → Value value depth → Whitespace after →
      Members (before ++ (quoted key ++ (between ++ ':' :: (gap ++ (value ++ after))))) depth
  | cons (before key between gap value after depth rest deepest) : Whitespace before →
      StringBody key → Whitespace between → Whitespace gap → Value value depth →
      Whitespace after → Members rest deepest →
      Members (before ++ (quoted key ++ (between ++ ':' ::
        (gap ++ (value ++ (after ++ ',' :: rest)))))) (max depth deepest)

end

inductive Document : List Char → Nat → Prop
  | mk (before value after depth) : Whitespace before → Value value depth → Whitespace after →
      Document (before ++ (value ++ after)) depth

theorem Whitespace.plain {text : List Char} (space : Whitespace text) : ∀ c ∈ text, Plain c := by
  intro c member
  rcases space c member with rfl | rfl | rfl | rfl <;> decide

theorem plain_of_isDigit {c : Char} (digit : c.isDigit = true) : Plain c := by
  refine ⟨?_, ?_, ?_, ?_, ?_⟩ <;> rintro rfl <;> exact absurd digit (by decide)

theorem Digits.plain {text : List Char} (digits : Digits text) : ∀ c ∈ text, Plain c :=
  fun c member => plain_of_isDigit (digits c member)

theorem forall_plain_append {first second : List Char} (left : ∀ c ∈ first, Plain c)
    (right : ∀ c ∈ second, Plain c) : ∀ c ∈ first ++ second, Plain c := by
  intro c member
  rcases List.mem_append.mp member with before | after
  · exact left c before
  · exact right c after

theorem forall_plain_cons {first : Char} {rest : List Char} (head : Plain first)
    (tail : ∀ c ∈ rest, Plain c) : ∀ c ∈ first :: rest, Plain c := by
  intro c member
  rcases List.mem_cons.mp member with rfl | after
  · exact head
  · exact tail c after

theorem Integer.plain {text : List Char} (integer : Integer text) : ∀ c ∈ text, Plain c := by
  cases integer with
  | zero => simp [Plain]
  | nonzero first rest digit _ digits =>
      exact forall_plain_cons (plain_of_isDigit digit) digits.plain

theorem Fraction.plain {text : List Char} (fraction : Fraction text) : ∀ c ∈ text, Plain c := by
  cases fraction with
  | absent => simp
  | present digits _ all => exact forall_plain_cons (by decide) all.plain

theorem Exponent.plain {text : List Char} (exponent : Exponent text) : ∀ c ∈ text, Plain c := by
  cases exponent with
  | absent => simp
  | present marker sign digits marked signed _ all =>
      have head : Plain marker := by rcases marked with rfl | rfl <;> decide
      have signs : ∀ c ∈ sign, Plain c := by rcases signed with rfl | rfl | rfl <;> simp [Plain]
      exact forall_plain_cons head (forall_plain_append signs all.plain)

theorem Number.plain {text : List Char} (number : Number text) : ∀ c ∈ text, Plain c := by
  obtain ⟨sign, integer, fraction, exponent, signed, whole, fractional, scaled⟩ := number
  have signs : ∀ c ∈ sign, Plain c := by rcases signed with rfl | rfl <;> simp [Plain]
  exact forall_plain_append signs
    (forall_plain_append whole.plain (forall_plain_append fractional.plain scaled.plain))

end Json
