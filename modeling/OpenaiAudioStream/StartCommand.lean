import OpenaiAudioStream.WsUri

/-!
The start command: its dispatch, its tokens and its rates, up to the call of
`start_capture`. The channel is located and its lifecycle lock is held.
-/

namespace OpenaiAudioStream

open CString

abbrev Token : Type := CString Char nul

def streamMinSampling : Int := 8000

def streamMaxSampling : Int := 48000

def maxWsUri : Nat := 4096

def isSpace (c : Char) : Bool := c = ' ' || (9 ≤ c.toNat && c.toNat ≤ 13)

def isSign (c : Char) : Bool := c = '+' || c = '-'

/-- `strtol(str, &endptr, 10)`: its value, at a bound of `long` where it would pass it,
and `endptr`. -/
def strtol (str : List Char) : Int × List Char :=
  let start := str.dropWhile isSpace
  let unsigned := if start.head?.any isSign then start.tail else start
  let digits := unsigned.takeWhile Char.isDigit
  let value : Int := Nat.ofDigitChars 10 digits 0
  if digits = [] then (0, str)
  else if start.head? = some '-' then (max (-longMax - 1) (-value), unsigned.drop digits.length)
  else (min longMax value, unsigned.drop digits.length)

def parseSamplingRate (str : List Char) : Int :=
  if str = "16k".toList then 16000
  else if str = "8k".toList then 8000
  else if str = "24k".toList then 24000
  else
    let (value, endptr) := strtol str
    if endptr = str ∨ endptr ≠ [] ∨ value ≤ 0 ∨ value > streamMaxSampling then -1 else value

inductive StreamCommand where
  | unknown | start | stop | sendJson | pause | resume | mute | unmute
  deriving DecidableEq, Repr

def streamCommandFromString (name : List Char) : StreamCommand :=
  if name = [] then .unknown
  else if sameCaseless name "start".toList then .start
  else if sameCaseless name "stop".toList then .stop
  else if sameCaseless name "send_json".toList then .sendJson
  else if sameCaseless name "pause".toList then .pause
  else if sameCaseless name "resume".toList then .resume
  else if sameCaseless name "mute".toList then .mute
  else if sameCaseless name "unmute".toList then .unmute
  else .unknown

inductive MediaBugFlag where
  | readStream | writeReplace | oneOnly | writeStream | stereo
  deriving DecidableEq, Repr

structure StreamApiConfig where
  syntaxText : List Char
  forceRawAudioMode : Bool

structure StartCapture where
  flags : List MediaBugFlag
  wsUri : List Char
  sampling : Int
  playbackSampling : Int
  startMuted : Bool
  forceRawAudioMode : Bool
  deriving DecidableEq, Repr

inductive Execution where
  | started (call : StartCapture)
  -- the log line and what was written to the caller
  | refused (log written : List Char)
  | other (command : StreamCommand)
  deriving DecidableEq, Repr

def mixFlags (mix : List Char) : Option (List MediaBugFlag) :=
  let flags := [.readStream, .writeReplace, .oneOnly]
  if mix = "mixed".toList then some (flags ++ [.writeStream])
  else if mix = "stereo".toList then some (flags ++ [.writeStream, .stereo])
  else if mix ≠ "mono".toList then none
  else some flags

def isMuteUser (token : Token) : Prop := sameCaseless token.contents "mute_user".toList

instance (token : Token) : Decidable (isMuteUser token) :=
  inferInstanceAs (Decidable (sameCaseless _ _))

def takeRate : List Token → Option Token × List Token
  | [] => (none, [])
  | token :: rest => if isMuteUser token then (none, token :: rest) else (some token, rest)

def takeMute : List Token → Bool × List Token
  | [] => (false, [])
  | token :: rest => if isMuteUser token then (true, rest) else (false, token :: rest)

structure StartOptions where
  samplingStr : Option Token
  playbackSamplingStr : Option Token
  startMuted : Bool
  unexpected : List Token

def startOptions (argv : List Token) : StartOptions :=
  let (samplingStr, rest) := takeRate argv
  let (playbackSamplingStr, rest) := if samplingStr.isSome then takeRate rest else (none, rest)
  let (startMuted, rest) := takeMute rest
  ⟨samplingStr, playbackSamplingStr, startMuted, rest⟩

def samplingOf (str : Option Token) : Int :=
  match str with
  | none => 24000
  | some token => parseSamplingRate token.contents

def badSampling (sampling : Int) : Prop :=
  sampling < streamMinSampling ∨ sampling > streamMaxSampling ∨ sampling % 8000 ≠ 0

instance (sampling : Int) : Decidable (badSampling sampling) :=
  inferInstanceAs (Decidable (_ ∨ _ ∨ _))

def samplingError (kind : String) (str : Option Token) (sampling : Int) : List Char :=
  match str with
  | some token => "invalid ".toList ++ kind.toList ++ " sample rate: ".toList ++ token.contents ++
      " (must be a multiple of 8000 between 8000 and 48000)\n".toList
  | none => "invalid ".toList ++ kind.toList ++ " sample rate: ".toList ++
      (toString sampling).toList ++ "\n".toList

def failed : List Char := "-ERR Operation Failed\n".toList

/-- `case STREAM_CMD_START`; `buffer` is what the array `wsUri` holds before. -/
def startCase (config : StreamApiConfig) (buffer : Vector Char maxWsUri) (cmd : List Char)
    (argv : List Token) : Option Execution :=
  match argv with
  | _ :: _ :: uri :: mix :: rest =>
      match mixFlags mix.contents with
      | none => some (.refused ("invalid mix type: ".toList ++ mix.contents ++
          ", must be mono, mixed, or stereo\n".toList) failed)
      | some flags =>
          let options := startOptions rest
          let sampling := samplingOf options.samplingStr
          let playbackSampling := samplingOf options.playbackSamplingStr
          match options.unexpected with
          | token :: _ => some (.refused
              ("unexpected argument: ".toList ++ token.contents ++ "\n".toList)
              (config.syntaxText ++ "\n".toList ++ failed))
          | [] =>
              match validateWsUri (some uri) (some buffer.toList) with
              | some (true, some wsUri) =>
                  if badSampling sampling then
                    some (.refused (samplingError "send" options.samplingStr sampling) failed)
                  else if badSampling playbackSampling then
                    some (.refused (samplingError "playback" options.playbackSamplingStr
                      playbackSampling) failed)
                  else
                    some (.started ⟨flags, wsUri.takeWhile (· ≠ nul), sampling, playbackSampling,
                      options.startMuted, config.forceRawAudioMode⟩)
              | some (false, _) =>
                  some (.refused ("invalid websocket uri: ".toList ++ uri.contents ++ "\n".toList)
                    failed)
              | _ => none
  | _ => some (.refused ("Error with command ".toList ++ cmd ++ ".\n".toList)
      (config.syntaxText ++ "\n".toList ++ failed))

def streamApiExecute (config : StreamApiConfig) (buffer : Vector Char maxWsUri) (cmd : List Char)
    (argv : List Token) : Option Execution :=
  match argv with
  | _ :: verb :: _ =>
      match streamCommandFromString verb.contents with
      | .start => startCase config buffer cmd argv
      | command => some (.other command)
  | _ => some (.refused ("Error with command ".toList ++ cmd ++ ".\n".toList)
      (config.syntaxText ++ "\n".toList))

/-! The documented form. -/

inductive RateToken : List Char → Int → Prop
  | eight : RateToken "8k".toList 8000
  | sixteen : RateToken "16k".toList 16000
  | twentyFour : RateToken "24k".toList 24000
  | numeral {digits} : digits ≠ [] → (∀ c ∈ digits, c.isDigit) →
      8000 ∣ Nat.ofDigitChars 10 digits 0 → 8000 ≤ Nat.ofDigitChars 10 digits 0 →
      Nat.ofDigitChars 10 digits 0 ≤ 48000 → RateToken digits (Nat.ofDigitChars 10 digits 0)

inductive Rates : List (List Char) → Int → Int → Prop
  | absent : Rates [] 24000 24000
  | one {token sampling} : RateToken token sampling → Rates [token] sampling 24000
  | two {token other sampling playbackSampling} : RateToken token sampling →
      RateToken other playbackSampling → Rates [token, other] sampling playbackSampling

inductive Mute : List (List Char) → Bool → Prop
  | absent : Mute [] false
  | present {token} : sameCaseless token "mute_user".toList → Mute [token] true

inductive Mix : List Char → List MediaBugFlag → Prop
  | mono : Mix "mono".toList [.readStream, .writeReplace, .oneOnly]
  | mixed : Mix "mixed".toList [.readStream, .writeReplace, .oneOnly, .writeStream]
  | stereo : Mix "stereo".toList [.readStream, .writeReplace, .oneOnly, .writeStream, .stereo]

/-- The tokens of a start command and the call they ask for. -/
inductive Documented (config : StreamApiConfig) : List (List Char) → StartCapture → Prop
  | start {uuid verb uri mix rates mute flags sampling playbackSampling startMuted} :
      sameCaseless verb "start".toList → WsUri uri → uri.length < maxWsUri → Mix mix flags →
      Rates rates sampling playbackSampling → Mute mute startMuted →
      Documented config (uuid :: verb :: uri :: mix :: (rates ++ mute))
        ⟨flags, uri, sampling, playbackSampling, startMuted, config.forceRawAudioMode⟩

/-! What `strtol` tolerates in front of a numeral. -/

def Numeral (text : List Char) : Prop := text ≠ [] ∧ ∀ c ∈ text, c.isDigit

instance (text : List Char) : Decidable (Numeral text) :=
  @instDecidableAnd _ _ _ (List.decidableBAll _ text)

def unsigned (token : List Char) : List Char :=
  let start := token.dropWhile isSpace
  if start.head? = some '+' then start.tail else start

def bareRate (token : List Char) : List Char :=
  if Numeral (unsigned token) then unsigned token else token

/-- The tokens with white space and a plus sign taken off the numerals behind the mix type. -/
def bareRates : List (List Char) → List (List Char)
  | uuid :: verb :: uri :: mix :: rest => uuid :: verb :: uri :: mix :: rest.map bareRate
  | tokens => tokens

theorem digit_not_space {c : Char} (digit : c.isDigit = true) : isSpace c = false := by
  rw [Char.isDigit_iff_toNat] at digit
  have zero : '0'.toNat = 48 := rfl
  have other : c ≠ ' ' := by
    rintro rfl
    exact absurd digit (by decide)
  simp only [isSpace, other, decide_false, Bool.false_or, Bool.and_eq_false_iff,
    decide_eq_false_iff_not]
  omega

theorem unsigned_numeral {text : List Char} (numeral : Numeral text) : unsigned text = text := by
  rcases text with _ | ⟨c, text⟩
  · exact absurd rfl numeral.1
  · have digit := numeral.2 c (by simp)
    have other : c ≠ '+' := by
      rintro rfl
      exact absurd digit (by decide)
    simp [unsigned, digit_not_space digit, other]

theorem takeWhile_numeral {text : List Char} (numeral : Numeral text) :
    text.takeWhile Char.isDigit = text :=
  List.takeWhile_eq_self_iff.2 numeral.2

theorem drop_digits {text : List Char} (other : ¬Numeral text) :
    text.takeWhile Char.isDigit = [] ∨ text.drop (text.takeWhile Char.isDigit).length ≠ [] := by
  by_cases none : text.takeWhile Char.isDigit = []
  · exact .inl none
  · refine .inr fun ended => other ⟨?_, ?_⟩
    · rintro rfl
      exact none rfl
    · -- nothing is left behind the digits, so they are the whole text
      have whole := List.takeWhile_append_dropWhile (p := Char.isDigit) (l := text)
      have long : text.length ≤ (text.takeWhile Char.isDigit).length := List.drop_eq_nil_iff.1 ended
      have lengths := congrArg List.length whole
      rw [List.length_append] at lengths
      have empty : text.dropWhile Char.isDigit = [] := List.eq_nil_of_length_eq_zero (by omega)
      exact List.dropWhile_eq_nil_iff.1 empty

theorem strtol_numeral {str : List Char} (numeral : Numeral (unsigned str)) :
    strtol str = (min (longMax : Int) (Nat.ofDigitChars 10 (unsigned str) 0), []) := by
  simp only [strtol]
  simp only [unsigned] at numeral ⊢
  generalize str.dropWhile isSpace = start at numeral ⊢
  rcases start with _ | ⟨c, rest⟩
  · exact absurd rfl numeral.1
  by_cases plus : c = '+'
  · subst plus
    simp only [List.head?_cons, if_true, List.tail_cons] at numeral
    simp [isSign, takeWhile_numeral numeral, numeral.1]
  · simp only [List.head?_cons, Option.some.injEq, plus, if_false] at numeral
    have minus : c ≠ '-' := by
      rintro rfl
      exact absurd (numeral.2 '-' (by simp)) (by decide)
    simp [isSign, plus, minus, takeWhile_numeral numeral]

theorem strtol_other {str : List Char} (other : ¬Numeral (unsigned str)) :
    (strtol str).2 = str ∨ (strtol str).2 ≠ [] ∨ (strtol str).1 ≤ 0 := by
  simp only [strtol]
  simp only [unsigned] at other
  generalize str.dropWhile isSpace = start at other ⊢
  by_cases minus : start.head? = some '-'
  · generalize (if start.head?.any isSign then start.tail else start) = text
    by_cases none : text.takeWhile Char.isDigit = []
    · exact .inl (by rw [if_pos none])
    · rw [if_neg none, if_pos minus]
      exact .inr (.inr (by simp only [longMax]; omega))
  · have same : (if start.head?.any isSign then start.tail else start) =
        if start.head? = some '+' then start.tail else start := by
      rcases start with _ | ⟨c, rest⟩
      · rfl
      · simp only [List.head?_cons, Option.some.injEq] at minus
        simp [isSign, minus]
    rw [same]
    generalize (if start.head? = some '+' then start.tail else start) = text at other ⊢
    by_cases none : text.takeWhile Char.isDigit = []
    · exact .inl (by rw [if_pos none])
    · rw [if_neg none, if_neg minus]
      exact .inr (.inl ((drop_digits other).resolve_left none))

theorem parseSamplingRate_other {str : List Char} (eight : str ≠ "8k".toList)
    (sixteen : str ≠ "16k".toList) (twentyFour : str ≠ "24k".toList)
    (other : ¬Numeral (unsigned str)) : parseSamplingRate str = -1 := by
  have refused := strtol_other other
  simp only [parseSamplingRate, if_neg eight, if_neg sixteen, if_neg twentyFour]
  exact if_pos (by tauto)

theorem parseSamplingRate_numeral {str : List Char} (numeral : Numeral (unsigned str)) :
    parseSamplingRate str =
      if 0 < Nat.ofDigitChars 10 (unsigned str) 0 ∧ Nat.ofDigitChars 10 (unsigned str) 0 ≤ 48000
      then (Nat.ofDigitChars 10 (unsigned str) 0 : Int) else -1 := by
  have shortcut : ∀ token, ¬Numeral (unsigned token) → str ≠ token := by
    rintro token other rfl
    exact other numeral
  have some : str ≠ [] := shortcut [] (by decide)
  simp only [parseSamplingRate, if_neg (shortcut "16k".toList (by decide)),
    if_neg (shortcut "8k".toList (by decide)), if_neg (shortcut "24k".toList (by decide)),
    strtol_numeral numeral, some.symm, longMax, streamMaxSampling, ne_eq, not_true, false_or]
  split <;> split <;> omega

theorem badSampling_iff (sampling : Int) :
    ¬badSampling sampling ↔ 8000 ≤ sampling ∧ sampling ≤ 48000 ∧ sampling % 8000 = 0 := by
  simp only [badSampling, streamMinSampling, streamMaxSampling]
  omega

theorem rateToken_numeral {digits : List Char} (numeral : Numeral digits) (sampling : Int) :
    RateToken digits sampling ↔
      sampling = Nat.ofDigitChars 10 digits 0 ∧ ¬badSampling sampling := by
  rw [badSampling_iff]
  constructor
  · intro form
    cases form with
    | numeral some all divides low high => exact ⟨rfl, by omega⟩
    | _ => exact absurd numeral (by decide)
  · rintro ⟨rfl, low, high, divides⟩
    exact .numeral numeral.1 numeral.2 (by omega) (by omega) (by omega)

theorem rateToken_bare_iff (str : List Char) (sampling : Int) :
    RateToken (bareRate str) sampling ↔
      parseSamplingRate str = sampling ∧ ¬badSampling sampling := by
  by_cases numeral : Numeral (unsigned str)
  · rw [bareRate, if_pos numeral, rateToken_numeral numeral, parseSamplingRate_numeral numeral,
      badSampling_iff]
    split <;> omega
  rw [bareRate, if_neg numeral]
  have plain : ¬Numeral str := fun plain => numeral (by rwa [unsigned_numeral plain])
  by_cases shortcut : str = "8k".toList ∨ str = "16k".toList ∨ str = "24k".toList
  · constructor
    · intro form
      cases form with
      | numeral some all => exact absurd ⟨some, all⟩ plain
      | _ => exact ⟨rfl, by decide⟩
    · rintro ⟨rfl, -⟩
      rcases shortcut with rfl | rfl | rfl
      · exact .eight
      · exact .sixteen
      · exact .twentyFour
  · simp only [not_or] at shortcut
    rw [parseSamplingRate_other shortcut.1 shortcut.2.1 shortcut.2.2 numeral]
    constructor
    · intro form
      cases form with
      | eight => exact absurd rfl shortcut.1
      | sixteen => exact absurd rfl shortcut.2.1
      | twentyFour => exact absurd rfl shortcut.2.2
      | numeral some all => exact absurd ⟨some, all⟩ plain
    · rintro ⟨rfl, good⟩
      exact absurd (Or.inl (by decide)) good

/-! The tokens behind the mix type. -/

theorem mute_head {text : List Char} (mute : sameCaseless text "mute_user".toList) :
    ∃ c rest, text = c :: rest ∧ c.toLower = 'm' := by
  rcases text with _ | ⟨c, rest⟩
  · exact absurd mute (by decide)
  · exact ⟨c, rest, rfl, (List.cons.inj mute).1⟩

theorem numeral_not_mute {text : List Char} (numeral : Numeral text) :
    ¬sameCaseless text "mute_user".toList := by
  intro mute
  obtain ⟨c, rest, rfl, letter⟩ := mute_head mute
  have digit := numeral.2 c (by simp)
  rw [Char.isDigit_iff_toNat] at digit
  rw [toLower_below (Nat.lt_of_le_of_lt digit.2 (by decide))] at letter
  subst letter
  exact absurd digit (by decide)

theorem unsigned_mute {text : List Char} (mute : sameCaseless text "mute_user".toList) :
    unsigned text = text := by
  obtain ⟨c, rest, rfl, letter⟩ := mute_head mute
  have plus : c ≠ '+' := by
    rintro rfl
    exact absurd letter (by decide)
  have space : isSpace c = false := by
    refine Bool.eq_false_iff.2 fun space => ?_
    have below : c.toNat < 'A'.toNat := by
      simp only [isSpace, Bool.or_eq_true, Bool.and_eq_true, decide_eq_true_eq] at space
      rcases space with rfl | range
      · decide
      · exact Nat.lt_of_le_of_lt range.2 (by decide)
    rw [toLower_below below] at letter
    subst letter
    exact absurd space (by decide)
  simp [unsigned, plus, space]

theorem mute_bare {text : List Char} :
    sameCaseless (bareRate text) "mute_user".toList ↔ sameCaseless text "mute_user".toList := by
  by_cases numeral : Numeral (unsigned text)
  · rw [bareRate, if_pos numeral]
    refine iff_of_false (numeral_not_mute numeral) fun mute => ?_
    rw [unsigned_mute mute] at numeral
    exact numeral_not_mute numeral mute
  · rw [bareRate, if_neg numeral]

theorem rateToken_not_mute {token : List Char} {sampling : Int}
    (form : RateToken (bareRate token) sampling) : ¬sameCaseless token "mute_user".toList := by
  rw [← mute_bare]
  generalize bareRate token = bare at form
  cases form with
  | numeral some all => exact numeral_not_mute ⟨some, all⟩
  | _ => decide

def parsedOptions (samplingStr playbackSamplingStr : Option Token) (mute : List Token) :
    StartOptions :=
  ⟨samplingStr, playbackSamplingStr, (takeMute mute).1, (takeMute mute).2⟩

theorem takeRate_rate {token : Token} (rate : ¬isMuteUser token) (rest : List Token) :
    takeRate (token :: rest) = (some token, rest) :=
  if_neg rate

theorem startOptions_absent {mute : List Token} (form : takeRate mute = (none, mute)) :
    startOptions mute = parsedOptions none none mute := by
  simp [startOptions, parsedOptions, form]

theorem startOptions_one {token : Token} {mute : List Token} (rate : ¬isMuteUser token)
    (form : takeRate mute = (none, mute)) :
    startOptions (token :: mute) = parsedOptions (some token) none mute := by
  simp [startOptions, parsedOptions, takeRate_rate rate, form]

theorem startOptions_two {token other : Token} {mute : List Token} (rate : ¬isMuteUser token)
    (otherRate : ¬isMuteUser other) :
    startOptions (token :: other :: mute) = parsedOptions (some token) (some other) mute := by
  simp [startOptions, parsedOptions, takeRate_rate rate, takeRate_rate otherRate]

theorem takeRate_cases (rest : List Token) :
    takeRate rest = (none, rest) ∨ ∃ token after, rest = token :: after ∧ ¬isMuteUser token := by
  rcases rest with _ | ⟨token, after⟩
  · exact .inl rfl
  by_cases mute : isMuteUser token
  · exact .inl (if_pos mute)
  · exact .inr ⟨token, after, rfl, mute⟩

theorem takeMute_whole {mute : List Token} (whole : (takeMute mute).2 = []) :
    Mute (mute.map (bareRate ·.contents)) (takeMute mute).1 := by
  rcases mute with _ | ⟨token, after⟩
  · exact .absent
  by_cases present : isMuteUser token
  · simp only [takeMute, if_pos present] at whole ⊢
    subst whole
    exact .present (mute_bare.2 present)
  · simp [takeMute, present] at whole

theorem takeMute_bare {mute : List Token} {startMuted : Bool}
    (form : Mute (mute.map (bareRate ·.contents)) startMuted) :
    takeRate mute = (none, mute) ∧ takeMute mute = (startMuted, []) := by
  generalize bareEq : mute.map (bareRate ·.contents) = bare at form
  cases form with
  | absent =>
      rw [List.map_eq_nil_iff] at bareEq
      subst bareEq
      exact ⟨rfl, rfl⟩
  | present present =>
      obtain ⟨token, rfl, rfl⟩ := List.map_eq_singleton_iff.1 bareEq
      have mute : isMuteUser token := mute_bare.1 present
      exact ⟨if_pos mute, if_pos mute⟩

theorem startOptions_rates {rest : List Token} {rates mute : List (List Char)}
    {sampling playbackSampling : Int} {startMuted : Bool}
    (bare : rest.map (bareRate ·.contents) = rates ++ mute)
    (ratesForm : Rates rates sampling playbackSampling) (muteForm : Mute mute startMuted) :
    (startOptions rest).unexpected = [] ∧ (startOptions rest).startMuted = startMuted ∧
      samplingOf (startOptions rest).samplingStr = sampling ∧ ¬badSampling sampling ∧
      samplingOf (startOptions rest).playbackSamplingStr = playbackSampling ∧
      ¬badSampling playbackSampling := by
  have usual : ¬badSampling 24000 := by decide
  obtain ⟨rateTokens, muteTokens, rfl, ratesEq, rfl⟩ := List.map_eq_append_iff.1 bare
  obtain ⟨noRate, taken⟩ := takeMute_bare muteForm
  cases ratesForm with
  | absent =>
      rw [List.map_eq_nil_iff] at ratesEq
      subst ratesEq
      rw [List.nil_append, startOptions_absent noRate]
      simp [parsedOptions, taken, samplingOf, usual]
  | one rate =>
      obtain ⟨token, rfl, rfl⟩ := List.map_eq_singleton_iff.1 ratesEq
      have parsed := (rateToken_bare_iff _ _).1 rate
      rw [List.singleton_append, startOptions_one (rateToken_not_mute rate) noRate]
      simp [parsedOptions, taken, samplingOf, usual, parsed]
  | two rate otherRate =>
      obtain ⟨token, after, rfl, rfl, afterEq⟩ := List.map_eq_cons_iff.1 ratesEq
      obtain ⟨other, rfl, rfl⟩ := List.map_eq_singleton_iff.1 afterEq
      have parsed := (rateToken_bare_iff _ _).1 rate
      have otherParsed := (rateToken_bare_iff _ _).1 otherRate
      rw [List.cons_append, List.singleton_append,
        startOptions_two (rateToken_not_mute rate) (rateToken_not_mute otherRate)]
      simp [parsedOptions, taken, samplingOf, parsed, otherParsed]

theorem rates_startOptions {rest : List Token} (whole : (startOptions rest).unexpected = [])
    (good : ¬badSampling (samplingOf (startOptions rest).samplingStr))
    (playbackGood : ¬badSampling (samplingOf (startOptions rest).playbackSamplingStr)) :
    ∃ rates mute, rest.map (bareRate ·.contents) = rates ++ mute ∧
      Rates rates (samplingOf (startOptions rest).samplingStr)
        (samplingOf (startOptions rest).playbackSamplingStr) ∧
      Mute mute (startOptions rest).startMuted := by
  rcases takeRate_cases rest with noRate | ⟨token, after, rfl, rate⟩
  · rw [startOptions_absent noRate] at whole ⊢
    exact ⟨[], _, rfl, .absent, takeMute_whole whole⟩
  rcases takeRate_cases after with noRate | ⟨other, mute, rfl, otherRate⟩
  · rw [startOptions_one rate noRate] at whole good ⊢
    exact ⟨[bareRate token.contents], _, rfl, .one ((rateToken_bare_iff _ _).2 ⟨rfl, good⟩),
      takeMute_whole whole⟩
  · rw [startOptions_two rate otherRate] at whole good playbackGood ⊢
    exact ⟨[bareRate token.contents, bareRate other.contents], _, rfl,
      .two ((rateToken_bare_iff _ _).2 ⟨rfl, good⟩)
        ((rateToken_bare_iff _ _).2 ⟨rfl, playbackGood⟩), takeMute_whole whole⟩

/-! The whole command. -/

theorem mixFlags_iff (mix : List Char) (flags : List MediaBugFlag) :
    mixFlags mix = some flags ↔ Mix mix flags := by
  constructor
  · intro found
    simp only [mixFlags] at found
    split at found
    · next mixed =>
      obtain rfl := Option.some.inj found
      exact mixed ▸ .mixed
    split at found
    · next stereo =>
      obtain rfl := Option.some.inj found
      exact stereo ▸ .stereo
    split at found
    · nomatch found
    · next mono =>
      obtain rfl := Option.some.inj found
      exact not_not.1 mono ▸ .mono
  · intro form
    cases form <;> rfl

theorem command_start_iff (verb : List Char) :
    streamCommandFromString verb = .start ↔ sameCaseless verb "start".toList := by
  constructor
  · intro start
    simp only [streamCommandFromString] at start
    split at start
    · nomatch start
    split at start
    · assumption
    · split_ifs at start
  · intro same
    have some : verb ≠ [] := by
      rintro rfl
      exact absurd same (by decide)
    rw [streamCommandFromString, if_neg some, if_pos same]

theorem copiedUri_takeWhile (uri : CString Char nul) (destination : List Char) :
    (copiedUri uri.contents destination).takeWhile (· ≠ nul) = uri.contents := by
  rw [copiedUri, List.takeWhile_append_of_pos]
  · simp
  · simpa using uri.nonzero

def executes (config : StreamApiConfig) (buffer : Vector Char maxWsUri) (cmd : List Char)
    (argv : List Token) (call : StartCapture) : Prop :=
  streamApiExecute config buffer cmd argv = some (.started call)

variable {config : StreamApiConfig} {buffer : Vector Char maxWsUri} {cmd : List Char}

theorem startCase_started {uuid verb uri mix : Token} {rest : List Token}
    {flags : List MediaBugFlag} (mixed : mixFlags mix.contents = some flags)
    (whole : (startOptions rest).unexpected = []) (form : WsUri uri.contents)
    (fits : uri.contents.length < maxWsUri)
    (good : ¬badSampling (samplingOf (startOptions rest).samplingStr))
    (playbackGood : ¬badSampling (samplingOf (startOptions rest).playbackSamplingStr)) :
    startCase config buffer cmd (uuid :: verb :: uri :: mix :: rest) =
      some (.started ⟨flags, uri.contents, samplingOf (startOptions rest).samplingStr,
        samplingOf (startOptions rest).playbackSamplingStr, (startOptions rest).startMuted,
        config.forceRawAudioMode⟩) := by
  have accepted := validateWsUri_accepts uri buffer.toList form (by simpa using fits)
  simp only [startCase, mixed, whole, accepted, if_neg good, if_neg playbackGood,
    copiedUri_takeWhile]

theorem started_startCase {uuid verb uri mix : Token} {rest : List Token} {call : StartCapture}
    (started : startCase config buffer cmd (uuid :: verb :: uri :: mix :: rest) =
      some (.started call)) :
    ∃ flags, mixFlags mix.contents = some flags ∧ (startOptions rest).unexpected = [] ∧
      WsUri uri.contents ∧ uri.contents.length < maxWsUri ∧
      ¬badSampling (samplingOf (startOptions rest).samplingStr) ∧
      ¬badSampling (samplingOf (startOptions rest).playbackSamplingStr) := by
  rcases mixed : mixFlags mix.contents with _ | flags
  · simp [startCase, mixed] at started
  rcases whole : (startOptions rest).unexpected with _ | ⟨token, after⟩
  · by_cases valid : WsUri uri.contents ∧ uri.contents.length < buffer.toList.length
    · by_cases good : badSampling (samplingOf (startOptions rest).samplingStr)
      · simp [startCase, mixed, whole, validateWsUri_accepts uri _ valid.1 valid.2, good] at started
      by_cases playbackGood : badSampling (samplingOf (startOptions rest).playbackSamplingStr)
      · simp [startCase, mixed, whole, validateWsUri_accepts uri _ valid.1 valid.2, good,
          playbackGood] at started
      · exact ⟨flags, rfl, rfl, valid.1, by simpa using valid.2, good, playbackGood⟩
    · simp [startCase, mixed, whole, validateWsUri_rejects uri _ valid] at started
  · simp [startCase, mixed, whole] at started

theorem executes_of_documented {argv : List Token} {call : StartCapture}
    (form : Documented config (bareRates (argv.map (·.contents))) call) :
    executes config buffer cmd argv call := by
  generalize bareEq : bareRates (argv.map (·.contents)) = bare at form
  cases form with
  | @start uuid verb uri mix rates mute flags sampling playbackSampling startMuted
      verbForm uriForm fits mixForm ratesForm muteForm =>
      rcases argv with _ | ⟨uuid, _ | ⟨verb, _ | ⟨uri, _ | ⟨mix, rest⟩⟩⟩⟩ <;>
        simp only [bareRates, List.map_cons, List.map_nil, List.cons.injEq, reduceCtorEq,
          and_false, List.map_map, Function.comp_def] at bareEq
      obtain ⟨rfl, rfl, rfl, rfl, bare⟩ := bareEq
      obtain ⟨whole, rfl, rfl, good, rfl, playbackGood⟩ :=
        startOptions_rates bare ratesForm muteForm
      have started := @startCase_started config buffer cmd uuid verb uri mix rest _
        ((mixFlags_iff _ _).2 mixForm) whole uriForm fits good playbackGood
      simp only [executes, streamApiExecute, (command_start_iff _).2 verbForm, started]

theorem documented_of_executes {argv : List Token} {call : StartCapture}
    (started : executes config buffer cmd argv call) :
    Documented config (bareRates (argv.map (·.contents))) call := by
  rcases argv with _ | ⟨uuid, _ | ⟨verb, rest⟩⟩
  · simp [executes, streamApiExecute] at started
  · simp [executes, streamApiExecute] at started
  by_cases verbForm : streamCommandFromString verb.contents = .start
  · simp only [executes, streamApiExecute, verbForm] at started
    rcases rest with _ | ⟨uri, _ | ⟨mix, rest⟩⟩
    · simp [startCase] at started
    · simp [startCase] at started
    obtain ⟨flags, mixed, whole, uriForm, fits, good, playbackGood⟩ := started_startCase started
    rw [startCase_started mixed whole uriForm fits good playbackGood] at started
    obtain rfl := Execution.started.inj (Option.some.inj started)
    obtain ⟨rates, mute, bare, ratesForm, muteForm⟩ := rates_startOptions whole good playbackGood
    simp only [bareRates, List.map_cons, List.map_map, Function.comp_def, bare]
    exact .start ((command_start_iff _).1 verbForm) uriForm fits ((mixFlags_iff _ _).1 mixed)
      ratesForm muteForm
  · simp [executes, streamApiExecute] at started

theorem rateToken_bare {token : List Char} {sampling : Int} (form : RateToken token sampling) :
    bareRate token = token := by
  cases form with
  | numeral some all => rw [bareRate, unsigned_numeral ⟨some, all⟩, ite_self]
  | _ => decide

theorem mute_bareRate {token : List Char} (mute : sameCaseless token "mute_user".toList) :
    bareRate token = token := by
  rw [bareRate, unsigned_mute mute, ite_self]

theorem documented_bare {tokens : List (List Char)} {call : StartCapture}
    (form : Documented config tokens call) : bareRates tokens = tokens := by
  cases form with
  | start _ _ _ _ ratesForm muteForm =>
      have rates : ∀ {rates sampling playbackSampling}, Rates rates sampling playbackSampling →
          rates.map bareRate = rates := by
        intro rates sampling playbackSampling form
        cases form with
        | absent => rfl
        | one rate => simp [rateToken_bare rate]
        | two rate other => simp [rateToken_bare rate, rateToken_bare other]
      have mute : ∀ {mute startMuted}, Mute mute startMuted → mute.map bareRate = mute := by
        intro mute startMuted form
        cases form with
        | absent => rfl
        | present present => simp [mute_bareRate present]
      simp only [bareRates, List.map_append, rates ratesForm, mute muteForm]

/-- The command is taken as documented, except where a rate that `strtol` reads is not a
plain numeral in a command that is in order otherwise. -/
theorem start_documented_iff (argv : List Token) :
    (∀ call, executes config buffer cmd argv call ↔
        Documented config (argv.map (·.contents)) call) ↔
      bareRates (argv.map (·.contents)) = argv.map (·.contents) ∨
        ∀ call, ¬Documented config (bareRates (argv.map (·.contents))) call := by
  constructor
  · intro exact
    by_cases plain : bareRates (argv.map (·.contents)) = argv.map (·.contents)
    · exact .inl plain
    · refine .inr fun call form => plain (documented_bare ((exact call).1 ?_))
      exact executes_of_documented form
  · rintro (plain | refused) call
    · constructor
      · intro started
        rw [← plain]
        exact documented_of_executes started
      · intro form
        rw [← plain] at form
        exact executes_of_documented form
    · constructor
      · exact fun started => absurd (documented_of_executes started) (refused call)
      · intro form
        have plain := documented_bare form
        rw [← plain] at form
        exact absurd form (refused call)

/-- `start ws://h mono +8000` -/
def signedRate : List Token :=
  [⟨"u".toList, by simp [nul]⟩, ⟨"start".toList, by simp [nul]⟩, ⟨"ws://h".toList, by simp [nul]⟩,
    ⟨"mono".toList, by simp [nul]⟩, ⟨"+8000".toList, by simp [nul]⟩]

theorem signedRate_started :
    ∃ call, executes ⟨[], false⟩ (Vector.replicate maxWsUri nul) [] signedRate call ∧
      ¬Documented ⟨[], false⟩ (signedRate.map (·.contents)) call := by
  have uri : WsUri "ws://h".toList :=
    ⟨_, "h".toList, [], [], .inl rfl, .name (by decide) (by simp; decide), .absent, .absent,
      by decide⟩
  have rate : RateToken "8000".toList 8000 :=
    .numeral (by decide) (by simp) (by decide) (by decide) (by decide)
  have bare : Documented ⟨[], false⟩ (bareRates (signedRate.map (·.contents)))
      ⟨[.readStream, .writeReplace, .oneOnly], "ws://h".toList, 8000, 24000, false, false⟩ :=
    @Documented.start _ "u".toList "start".toList _ "mono".toList ["8000".toList] [] _ _ _ _ rfl
      uri (by decide) .mono (.one rate) .absent
  refine ⟨_, executes_of_documented bare, fun form => ?_⟩
  exact absurd (documented_bare form) (by decide)

end OpenaiAudioStream
