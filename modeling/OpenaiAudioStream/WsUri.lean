import Mathlib.Data.List.TakeDrop
import Mathlib.Data.List.TakeWhile
import OpenaiAudioStream.CString

/-!
`validate_ws_uri`: the parser that a URI passes before it is copied, and its grammar.
Characters are classified as in the C locale.
-/

namespace OpenaiAudioStream

open CString

abbrev nul : Char := Char.ofNat 0

def hostRound (ends admitted : Char → Bool) (_ : Unit) (hostEnd : List Char) :
    Option (Round Unit (Option (List Char))) := do
  let c ← read nul hostEnd 0
  if c = nul ∨ ends c then some (.leave (some hostEnd))
  else if admitted c then some (.forward () 1)
  else some (.leave none)

def endsAddress (c : Char) : Bool := c = ']'

def inAddress (c : Char) : Bool := c.isHexDigit || c = ':' || c = '.'

def endsName (c : Char) : Bool := c = ':' || c = '/' || c = '?'

def inName (c : Char) : Bool := c.isAlphanum || c = '-' || c = '.'

def scanHost (hostStart : List Char) : Option (Option (List Char)) := do
  let first ← read nul hostStart 0
  if first = '[' then
    let addressStart ← advance hostStart 1
    match ← loop (hostRound endsAddress inAddress) () addressStart with
    | none => some none
    | some hostEnd =>
        let last ← read nul hostEnd 0
        if last ≠ ']' ∨ hostEnd = addressStart then some none
        else (advance hostEnd 1).map some
  else
    match ← loop (hostRound endsName inName) () hostStart with
    | none => some none
    | some hostEnd => if hostStart = hostEnd then some none else some (some hostEnd)

/-- The least `LONG_MAX` that the C standard allows. -/
def longMax : Nat := 2147483647

def checkedLong (value : Nat) : Option Nat := if value ≤ longMax then some value else none

def endsPort (c : Char) : Bool := c = '/' || c = '?'

def portRound (port : Nat) (p : List Char) : Option (Round Nat (Option (Nat × List Char))) := do
  let c ← read nul p 0
  if c = nul ∨ endsPort c then some (.leave (some (port, p)))
  else if ¬c.isDigit then some (.leave none)
  else
    let port ← checkedLong (port * 10 + (c.toNat - '0'.toNat))
    if port > 65535 then some (.leave none) else some (.forward port 1)

def scanPort (hostEnd : List Char) : Option (Option (List Char)) := do
  let colon ← read nul hostEnd 0
  if colon = ':' then
    let portStart ← advance hostEnd 1
    match ← loop portRound 0 portStart with
    | none => some none
    | some (port, p) => if p = portStart ∨ port = 0 then some none else some (some p)
  else some (some hostEnd)

def uriHost (url : List Char) : Option (List Char) :=
  if url.take 5 = "ws://".toList then some (url.drop 5)
  else if url.take 6 = "wss://".toList then some (url.drop 6)
  else none

def scanUri (url : List Char) : Option Bool :=
  match uriHost url with
  | none => some false
  | some hostStart => do
      match ← scanHost hostStart with
      | none => some false
      | some hostEnd =>
          match ← scanPort hostEnd with
          | none => some false
          | some hostEnd =>
              let c ← read nul hostEnd 0
              some (c = nul || c = '/' || c = '?')

/-- A destination is its buffer of `destination_size` characters; `none` outside is a
read, a write or a sum beyond what it may be. -/
def validateWsUri (url : Option (CString Char nul)) (destination : Option (List Char)) :
    Option (Bool × Option (List Char)) :=
  match url, destination with
  | some url, some buffer =>
      if buffer.length = 0 then some (false, destination)
      else do
        let accepted ← scanUri url.contents
        if ¬accepted then some (false, destination)
        else if url.contents.length ≥ buffer.length then some (false, destination)
        else
          let copied ← memcpy buffer (url.contents ++ [nul])
          some (true, some copied)
  | _, _ => some (false, destination)

/-! The grammar. -/

inductive Host : List Char → Prop
  | address {text} : text ≠ [] → (∀ c ∈ text, inAddress c) → Host ('[' :: text ++ [']'])
  | name {text} : text ≠ [] → (∀ c ∈ text, inName c) → Host text

inductive Port : List Char → Prop
  | absent : Port []
  | given {digits} : digits ≠ [] → (∀ c ∈ digits, c.isDigit) →
      1 ≤ Nat.ofDigitChars 10 digits 0 → Nat.ofDigitChars 10 digits 0 ≤ 65535 →
      Port (':' :: digits)

inductive UriTail : List Char → Prop
  | absent : UriTail []
  | path (rest) : UriTail ('/' :: rest)
  | query (rest) : UriTail ('?' :: rest)

def WsUri (url : List Char) : Prop :=
  ∃ scheme host port tail, (scheme = "ws://".toList ∨ scheme = "wss://".toList) ∧ Host host ∧
    Port port ∧ UriTail tail ∧ url = scheme ++ (host ++ (port ++ tail))

/-! The host loops. -/

def Stops (ends : Char → Bool) (rest : List Char) : Prop := ∀ c after, rest = c :: after → ends c

variable {ends admitted : Char → Bool}

theorem hostLoop_stop {rest : List Char} (stops : Stops ends rest) :
    loop (hostRound ends admitted) () rest = some (some rest) := by
  apply loop_leave
  rcases rest with _ | ⟨c, rest⟩
  · rfl
  · simp [hostRound, stops c rest rfl]

theorem hostLoop_step {c : Char} (nonzero : c ≠ nul) (goes : ends c = false)
    (admits : admitted c = true) (rest : List Char) :
    loop (hostRound ends admitted) () (c :: rest) =
      loop (hostRound ends admitted) () rest :=
  loop_step (by simp [hostRound, nonzero, goes, admits])

theorem hostLoop_over {text rest : List Char} (nonzero : ∀ c ∈ text, c ≠ nul)
    (goes : ∀ c ∈ text, ends c = false) (admits : ∀ c ∈ text, admitted c = true)
    (stops : Stops ends rest) :
    loop (hostRound ends admitted) () (text ++ rest) = some (some rest) := by
  induction text with
  | nil => exact hostLoop_stop stops
  | cons c text ih =>
      simp only [List.mem_cons, forall_eq_or_imp] at nonzero goes admits
      rw [List.cons_append, hostLoop_step nonzero.1 goes.1 admits.1]
      exact ih nonzero.2 goes.2 admits.2

theorem hostLoop_cases (text : List Char) (nonzero : ∀ c ∈ text, c ≠ nul) :
    loop (hostRound ends admitted) () text = some none ∨
      ∃ name rest, text = name ++ rest ∧ (∀ c ∈ name, admitted c) ∧
        loop (hostRound ends admitted) () text = some (some rest) := by
  induction text with
  | nil => exact .inr ⟨[], [], rfl, by simp, loop_leave rfl⟩
  | cons c text ih =>
      simp only [List.mem_cons, forall_eq_or_imp] at nonzero
      by_cases stops : ends c = true
      · refine .inr ⟨[], c :: text, rfl, by simp, hostLoop_stop ?_⟩
        rintro c after ⟨rfl, rfl⟩
        exact stops
      by_cases admits : admitted c = true
      · rw [hostLoop_step nonzero.1 (by simpa using stops) admits]
        rcases ih nonzero.2 with refused | ⟨name, rest, split, admitted, result⟩
        · exact .inl refused
        · refine .inr ⟨c :: name, rest, by rw [split, List.cons_append], ?_, result⟩
          simpa only [List.mem_cons, forall_eq_or_imp] using ⟨admits, admitted⟩
      · exact .inl (loop_leave (by simp [hostRound, nonzero.1, stops, admits]))

theorem scanHost_bracket (text : List Char) :
    scanHost ('[' :: text) =
      (loop (hostRound endsAddress inAddress) () text).bind fun found =>
        match found with
        | none => some none
        | some hostEnd => (read nul hostEnd 0).bind fun last =>
            if last ≠ ']' ∨ hostEnd = text then some none else (advance hostEnd 1).map some := by
  simp [scanHost]

theorem scanHost_plain {text : List Char} (plain : ∀ after, text ≠ '[' :: after) :
    scanHost text =
      (loop (hostRound endsName inName) () text).bind fun found =>
        match found with
        | none => some none
        | some hostEnd => if text = hostEnd then some none else some (some hostEnd) := by
  rcases text with _ | ⟨c, text⟩
  · have other : nul ≠ '[' := by decide
    simp [scanHost, other]
  · have other : c ≠ '[' := by
      rintro rfl
      exact plain text rfl
    simp [scanHost, other]

theorem scanHost_cases (text : List Char) (nonzero : ∀ c ∈ text, c ≠ nul) :
    scanHost text = some none ∨
      ∃ host rest, Host host ∧ text = host ++ rest ∧ scanHost text = some (some rest) := by
  by_cases bracket : ∃ after, text = '[' :: after
  · obtain ⟨text, rfl⟩ := bracket
    simp only [List.mem_cons, forall_eq_or_imp] at nonzero
    rw [scanHost_bracket]
    rcases @hostLoop_cases endsAddress inAddress text nonzero.2 with
      refused | ⟨name, rest, rfl, admitted, result⟩
    · exact .inl (by rw [refused]; rfl)
    · rw [result]
      rcases rest with _ | ⟨last, rest⟩
      · exact .inl rfl
      by_cases closes : last = ']' ∧ name ≠ []
      · obtain ⟨rfl, some⟩ := closes
        exact .inr ⟨_, rest, .address some admitted, by simp, by simp [some]⟩
      · refine .inl ?_
        simp only [not_and_or, not_not] at closes
        rcases closes with closes | rfl <;> simp [*]
  · rw [scanHost_plain (not_exists.1 bracket)]
    rcases @hostLoop_cases endsName inName text nonzero with
      refused | ⟨name, rest, rfl, admitted, result⟩
    · exact .inl (by rw [refused]; rfl)
    · rw [result]
      by_cases empty : name = []
      · exact .inl (by simp [empty])
      · exact .inr ⟨name, rest, .name empty admitted, rfl, by simp [empty]⟩

theorem scanHost_host {host rest : List Char} (form : Host host)
    (nonzero : ∀ c ∈ host, c ≠ nul) (stops : Stops endsName rest) :
    scanHost (host ++ rest) = some (some rest) := by
  induction form with
  | @address text some admits =>
      have goes : ∀ c ∈ text, endsAddress c = false := by
        intro c member
        have := admits c member
        rcases eq_or_ne c ']' with rfl | other
        · exact absurd this (by decide)
        · simp [endsAddress, other]
      have closes : Stops endsAddress (']' :: rest) := by
        rintro c after ⟨rfl, rfl⟩
        rfl
      have result := hostLoop_over (fun c member => nonzero c (by simp [member])) goes admits closes
      simp only [List.cons_append, List.append_assoc, List.nil_append, scanHost_bracket, result]
      simp [some]
  | @name text some admits =>
      have goes : ∀ c ∈ text, endsName c = false := by
        intro c member
        have := admits c member
        by_cases ended : endsName c = true
        · simp only [endsName, Bool.or_eq_true, decide_eq_true_eq] at ended
          rcases ended with (rfl | rfl) | rfl <;> exact absurd this (by decide)
        · simpa using ended
      have plain : ∀ after, text ++ rest ≠ '[' :: after := by
        rintro after equal
        rcases text with _ | ⟨c, text⟩
        · exact some rfl
        · obtain ⟨rfl, -⟩ := List.cons.inj equal
          exact absurd (admits '[' (by simp)) (by decide)
      rw [scanHost_plain plain, hostLoop_over nonzero goes admits stops]
      simp [some]

/-! The port. -/

theorem ofDigitChars_le (digits : List Char) (port : Nat) :
    port ≤ Nat.ofDigitChars 10 digits port := by
  rw [Nat.ofDigitChars_eq_ofDigitChars_zero]
  have : 1 * port ≤ 10 ^ digits.length * port :=
    Nat.mul_le_mul_right port (Nat.pos_of_ne_zero (by simp))
  omega

theorem digit_le {c : Char} (digit : c.isDigit = true) : c.toNat - '0'.toNat ≤ 9 := by
  rw [Char.isDigit_iff_toNat] at digit
  have nine : '9'.toNat = '0'.toNat + 9 := rfl
  omega

theorem portRound_digit {c : Char} (digit : c.isDigit = true) {port : Nat} (fits : port ≤ 65535)
    (rest : List Char) :
    portRound port (c :: rest) =
      if 65535 < port * 10 + (c.toNat - '0'.toNat) then some (.leave none)
      else some (.forward (port * 10 + (c.toNat - '0'.toNat)) 1) := by
  have bound := digit_le digit
  have long : checkedLong (port * 10 + (c.toNat - '0'.toNat)) =
      some (port * 10 + (c.toNat - '0'.toNat)) := by
    refine if_pos ?_
    simp only [longMax]
    omega
  have other : ¬(c = nul ∨ endsPort c = true) := by
    rintro (rfl | ends)
    · exact absurd digit (by decide)
    · simp only [endsPort, Bool.or_eq_true, decide_eq_true_eq] at ends
      rcases ends with rfl | rfl <;> exact absurd digit (by decide)
  simp only [portRound, read_cons_zero, Option.bind_eq_bind, Option.bind_some]
  rw [if_neg other, if_neg (not_not.2 digit), long]
  rfl

theorem portLoop_stop {rest : List Char} (stops : Stops endsPort rest) (port : Nat) :
    loop portRound port rest = some (some (port, rest)) := by
  apply loop_leave
  rcases rest with _ | ⟨c, rest⟩
  · rfl
  · simp [portRound, stops c rest rfl]

theorem ofDigitChars_digit (c : Char) (digits : List Char) (port : Nat) :
    Nat.ofDigitChars 10 (c :: digits) port =
      Nat.ofDigitChars 10 digits (port * 10 + (c.toNat - '0'.toNat)) := by
  rw [Nat.ofDigitChars_cons, Nat.mul_comm]

theorem portLoop_over {digits rest : List Char} (all : ∀ c ∈ digits, c.isDigit)
    (stops : Stops endsPort rest) {port : Nat} (fits : Nat.ofDigitChars 10 digits port ≤ 65535) :
    loop portRound port (digits ++ rest) = some (some (Nat.ofDigitChars 10 digits port, rest)) := by
  induction digits generalizing port with
  | nil => simpa using portLoop_stop stops port
  | cons c digits ih =>
      simp only [List.mem_cons, forall_eq_or_imp] at all
      rw [ofDigitChars_digit] at fits ⊢
      have least := ofDigitChars_le digits (port * 10 + (c.toNat - '0'.toNat))
      have went := @portRound_digit c all.1 port (by omega) (digits ++ rest)
      rw [if_neg (by omega)] at went
      rw [List.cons_append, loop_step went]
      exact ih all.2 fits

theorem portLoop_cases (text : List Char) (nonzero : ∀ c ∈ text, c ≠ nul) {port : Nat}
    (fits : port ≤ 65535) :
    loop portRound port text = some none ∨
      ∃ digits rest, text = digits ++ rest ∧ (∀ c ∈ digits, c.isDigit) ∧
        Nat.ofDigitChars 10 digits port ≤ 65535 ∧
        loop portRound port text = some (some (Nat.ofDigitChars 10 digits port, rest)) := by
  induction text generalizing port with
  | nil => exact .inr ⟨[], [], rfl, by simp, by simpa using fits, loop_leave rfl⟩
  | cons c text ih =>
      simp only [List.mem_cons, forall_eq_or_imp] at nonzero
      by_cases stops : endsPort c = true
      · refine .inr ⟨[], c :: text, rfl, by simp, by simpa using fits, ?_⟩
        refine (portLoop_stop ?_ port).trans (by simp)
        rintro c after ⟨rfl, rfl⟩
        exact stops
      by_cases digit : c.isDigit = true
      · have went := portRound_digit digit fits text
        by_cases exceeds : 65535 < port * 10 + (c.toNat - '0'.toNat)
        · rw [if_pos exceeds] at went
          exact .inl (loop_leave went)
        rw [if_neg exceeds] at went
        rw [loop_step went]
        rcases ih nonzero.2 (Nat.not_lt.1 exceeds) with
          refused | ⟨digits, rest, rfl, all, fits, result⟩
        · exact .inl refused
        · refine .inr ⟨c :: digits, rest, rfl, ?_, ?_, ?_⟩
          · simpa only [List.mem_cons, forall_eq_or_imp] using ⟨digit, all⟩
          · rwa [ofDigitChars_digit]
          · rwa [ofDigitChars_digit]
      · exact .inl (loop_leave (by simp [portRound, nonzero.1, stops, digit]))

theorem scanPort_cases (text : List Char) (nonzero : ∀ c ∈ text, c ≠ nul) :
    scanPort text = some none ∨
      ∃ port rest, Port port ∧ text = port ++ rest ∧ scanPort text = some (some rest) := by
  by_cases colon : ∃ after, text = ':' :: after
  · obtain ⟨text, rfl⟩ := colon
    simp only [List.mem_cons, forall_eq_or_imp] at nonzero
    rcases @portLoop_cases text nonzero.2 0 (by omega) with
      refused | ⟨digits, rest, rfl, all, fits, result⟩
    · exact .inl (by simp [scanPort, refused])
    by_cases empty : digits = [] ∨ Nat.ofDigitChars 10 digits 0 = 0
    · refine .inl ?_
      rcases empty with rfl | zero
      · simp only [List.nil_append] at result
        simp [scanPort, result]
      · simp [scanPort, result, zero]
    · rw [not_or] at empty
      refine .inr ⟨_, rest, .given empty.1 all (Nat.pos_of_ne_zero empty.2) fits, rfl, ?_⟩
      simp [scanPort, result, empty]
  · refine .inr ⟨[], text, .absent, rfl, ?_⟩
    rcases text with _ | ⟨c, text⟩
    · simp [scanPort, show nul ≠ ':' by decide]
    · have other : c ≠ ':' := by
        rintro rfl
        exact colon ⟨text, rfl⟩
      simp [scanPort, other]

theorem uriTail_stops {tail : List Char} (form : UriTail tail) : Stops endsPort tail := by
  rintro c after rfl
  cases form <;> rfl

theorem scanPort_port {port tail : List Char} (form : Port port) (tailForm : UriTail tail) :
    scanPort (port ++ tail) = some (some tail) := by
  induction form with
  | absent =>
      cases tailForm <;> simp [scanPort, show nul ≠ ':' by decide]
  | @given digits some all positive fits =>
      have result := portLoop_over all (uriTail_stops tailForm) fits
      have nonzero : Nat.ofDigitChars 10 digits 0 ≠ 0 := by omega
      simp [scanPort, result, some, nonzero]

/-! A whole URI. -/

theorem uriHost_scheme {scheme : List Char}
    (known : scheme = "ws://".toList ∨ scheme = "wss://".toList) (rest : List Char) :
    uriHost (scheme ++ rest) = some rest := by
  rcases known with rfl | rfl <;> simp [uriHost]

theorem exists_scheme {url hostStart : List Char} (found : uriHost url = some hostStart) :
    ∃ scheme, (scheme = "ws://".toList ∨ scheme = "wss://".toList) ∧ url = scheme ++ hostStart := by
  simp only [uriHost] at found
  split at found
  · next scheme =>
    refine ⟨_, .inl rfl, ?_⟩
    rw [← scheme, ← Option.some.inj found, List.take_append_drop]
  split at found
  · next scheme =>
    refine ⟨_, .inr rfl, ?_⟩
    rw [← scheme, ← Option.some.inj found, List.take_append_drop]
  · nomatch found

theorem uriTail_iff {rest : List Char} (nonzero : ∀ c ∈ rest, c ≠ nul) {c : Char}
    (here : read nul rest 0 = some c) : (c = nul || c = '/' || c = '?') = true ↔ UriTail rest := by
  rcases rest with _ | ⟨d, rest⟩
  · obtain rfl := Option.some.inj here
    exact iff_of_true (by simp) .absent
  · obtain rfl := Option.some.inj here
    simp only [List.mem_cons, forall_eq_or_imp] at nonzero
    constructor
    · intro accepted
      simp only [Bool.or_eq_true, decide_eq_true_eq, nonzero.1, false_or] at accepted
      rcases accepted with rfl | rfl
      · exact .path rest
      · exact .query rest
    · intro form
      cases form <;> simp

theorem stops_of_port {port tail : List Char} (form : Port port) (tailForm : UriTail tail) :
    Stops endsName (port ++ tail) := by
  rintro c after equal
  cases form with
  | absent =>
      rw [List.nil_append] at equal
      subst equal
      cases tailForm <;> rfl
  | given =>
      obtain ⟨rfl, -⟩ := List.cons.inj equal
      rfl

theorem scanUri_tail {url hostStart rest tail : List Char} {c : Char}
    (found : uriHost url = some hostStart) (scanned : scanHost hostStart = some (some rest))
    (portScanned : scanPort rest = some (some tail)) (here : read nul tail 0 = some c) :
    scanUri url = some (c = nul || c = '/' || c = '?') := by
  simp [scanUri, found, scanned, portScanned, here]

theorem scanUri_of_wsUri {url : List Char} (nonzero : ∀ c ∈ url, c ≠ nul) (form : WsUri url) :
    scanUri url = some true := by
  obtain ⟨scheme, host, port, tail, known, hostForm, portForm, tailForm, rfl⟩ := form
  have hostNonzero : ∀ c ∈ host, c ≠ nul := fun c member => nonzero c (by simp [member])
  have tailNonzero : ∀ c ∈ tail, c ≠ nul := fun c member => nonzero c (by simp [member])
  have scanned := scanHost_host hostForm hostNonzero (stops_of_port portForm tailForm)
  obtain ⟨c, here⟩ := exists_read nul tail
  rw [scanUri_tail (uriHost_scheme known _) scanned (scanPort_port portForm tailForm) here,
    (uriTail_iff tailNonzero here).2 tailForm]

theorem scanUri_cases {url : List Char} (nonzero : ∀ c ∈ url, c ≠ nul) :
    scanUri url = some false ∨ scanUri url = some true ∧ WsUri url := by
  rcases found : uriHost url with _ | hostStart
  · exact .inl (by simp [scanUri, found])
  obtain ⟨scheme, known, rfl⟩ := exists_scheme found
  have hostNonzero : ∀ c ∈ hostStart, c ≠ nul := fun c member => nonzero c (by simp [member])
  rcases scanHost_cases hostStart hostNonzero with refused | ⟨host, rest, hostForm, rfl, scanned⟩
  · exact .inl (by simp [scanUri, found, refused])
  have restNonzero : ∀ c ∈ rest, c ≠ nul := fun c member => hostNonzero c (by simp [member])
  rcases scanPort_cases rest restNonzero with refused | ⟨port, tail, portForm, rfl, portScanned⟩
  · exact .inl (by simp [scanUri, found, scanned, refused])
  have tailNonzero : ∀ c ∈ tail, c ≠ nul := fun c member => restNonzero c (by simp [member])
  obtain ⟨c, here⟩ := exists_read nul tail
  rw [scanUri_tail found scanned portScanned here]
  rcases accepted : (c = nul || c = '/' || c = '?') with _ | _
  · exact .inl rfl
  · have tailForm := (uriTail_iff tailNonzero here).1 accepted
    exact .inr ⟨rfl, scheme, host, port, tail, known, hostForm, portForm, tailForm, rfl⟩

/-- What the buffer holds after an accepted URI. -/
def copiedUri (url destination : List Char) : List Char :=
  url ++ nul :: destination.drop (url.length + 1)

theorem validateWsUri_accepts (url : CString Char nul) (destination : List Char)
    (form : WsUri url.contents) (fits : url.contents.length < destination.length) :
    validateWsUri (some url) (some destination) =
      some (true, some (copiedUri url.contents destination)) := by
  have some : destination.length ≠ 0 := by omega
  have copied : memcpy destination (url.contents ++ [nul]) =
      Option.some (copiedUri url.contents destination) := by
    simp [memcpy, copiedUri, Nat.succ_le_of_lt fits]
  simp [validateWsUri, some, scanUri_of_wsUri url.nonzero form, Nat.not_le.2 fits, copied]

theorem validateWsUri_rejects (url : CString Char nul) (destination : List Char)
    (other : ¬(WsUri url.contents ∧ url.contents.length < destination.length)) :
    validateWsUri (some url) (some destination) = some (false, some destination) := by
  by_cases empty : destination.length = 0
  · simp [validateWsUri, empty]
  rcases scanUri_cases url.nonzero with refused | ⟨accepted, form⟩
  · simp [validateWsUri, empty, refused]
  · have long : destination.length ≤ url.contents.length := by
      rw [not_and, Nat.not_lt] at other
      exact other form
    simp [validateWsUri, empty, accepted, long]

theorem validateWsUri_atomic (url : CString Char nul) (destination : List Char) :
    ∃ accepted after, validateWsUri (some url) (some destination) = some (accepted, some after) ∧
      (accepted = true ↔ WsUri url.contents ∧ url.contents.length < destination.length) ∧
      (accepted = true →
        after = url.contents ++ nul :: destination.drop (url.contents.length + 1)) ∧
      (accepted = false → after = destination) := by
  by_cases valid : WsUri url.contents ∧ url.contents.length < destination.length
  · refine ⟨true, _, validateWsUri_accepts url destination valid.1 valid.2, ?_, ?_, by simp⟩
    · exact iff_of_true rfl valid
    · exact fun _ => rfl
  · refine ⟨false, _, validateWsUri_rejects url destination valid, ?_, by simp, fun _ => rfl⟩
    exact iff_of_false (by simp) valid

end OpenaiAudioStream
