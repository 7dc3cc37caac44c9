import OpenaiAudioStream.CJson
import OpenaiAudioStream.SetoidMap

/-!
The request headers: `stream_session_init` merges the API key into the configured extra
headers, the `AudioStreamer` constructor reads them back into a map.
-/

namespace OpenaiAudioStream

open CString

structure HeaderName where
  text : List Char

instance : Setoid HeaderName where
  r left right := sameCaseless left.text right.text
  iseqv := ⟨fun _ => rfl, Eq.symm, Eq.trans⟩

instance : DecidableRel ((· ≈ ·) : HeaderName → HeaderName → Prop) :=
  fun left right => inferInstanceAs (Decidable (sameCaseless left.text right.text))

abbrev WebSocketHttpHeaders : Type := SetoidMap HeaderName (List Char)

def authorization : List Char := "Authorization".toList

def bearer (openaiApiKey : List Char) : List Char := "Bearer ".toList ++ openaiApiKey

def configuredObject (cjson : CJsonText) (configuredExtra : Option (List Char)) : CJson :=
  match configuredExtra with
  | none => .createObject
  | some text =>
      match cjson.parse text with
      | none => .createObject
      | some object => if object.type ≠ .object then .createObject else object

def headersObj (cjson : CJsonText) (openaiApiKey : List Char)
    (configuredExtra : Option (List Char)) : CJson :=
  ((configuredObject cjson configuredExtra).deleteItemFromObject authorization).addStringToObject
    authorization (bearer openaiApiKey)

/-- The `extra_headers` argument; `none` inside the result is the null pointer, outside
the failure of `stream_session_init`. -/
def extraHeaders (cjson : CJsonText) (openaiApiKey configuredExtra : Option (List Char)) :
    Option (Option (List Char)) :=
  match openaiApiKey with
  | none => some configuredExtra
  | some key =>
      match cjson.printUnformatted (headersObj cjson key configuredExtra) with
      | none => none
      | some printed => some (some printed)

def headerOf (member : CJson) : Option (HeaderName × List Char) :=
  match member.type, member.valuestring, member.name with
  | .string, some value, some name => if name ≠ [] then some (⟨name⟩, value) else none
  | _, _, _ => none

def constructorHeaders (cjson : CJsonText) (extraHeaders : Option (List Char)) :
    WebSocketHttpHeaders :=
  match extraHeaders with
  | none => .empty
  | some text =>
      match cjson.parse text with
      | none => .empty
      | some headersJson =>
          if headersJson.type ≠ .object then .empty
          else SetoidMap.assignAll (headersJson.child.filterMap headerOf)

def installedHeaders (cjson : CJsonText) (openaiApiKey configuredExtra : Option (List Char)) :
    Option WebSocketHttpHeaders :=
  match extraHeaders cjson openaiApiKey configuredExtra with
  | none => none
  | some extra =>
      let headers := constructorHeaders cjson extra
      if headers.entries.isEmpty then none else some headers

def stringMember (member : CJson) : Option (List Char) × Option (List Char) :=
  (member.name, if member.type = .string then member.valuestring else none)

/-- Printing an object and parsing it gives back the strings of its members, in order. -/
def RoundTrips (cjson : CJsonText) (object : CJson) : Prop :=
  ∃ printed again, cjson.printUnformatted object = some printed ∧
    cjson.parse printed = some again ∧ again.type = .object ∧
    again.child.map stringMember = object.child.map stringMember

def headersOf (object : CJson) : List (HeaderName × List Char) := object.child.filterMap headerOf

/-- The value of the last member of a name that is a string. -/
def lastString (object : CJson) (name : HeaderName) : Option (List Char) :=
  ((headersOf object).filter fun header => header.1 ≈ name).getLast?.map Prod.snd

theorem headerOf_stringMember (member : CJson) :
    headerOf member =
      match stringMember member with
      | (some name, some value) => if name ≠ [] then some (⟨name⟩, value) else none
      | _ => none := by
  obtain ⟨type, valuestring, name, child⟩ := member
  cases type <;> cases valuestring <;> cases name <;> rfl

theorem headersOf_roundTrip {object again : CJson}
    (same : again.child.map stringMember = object.child.map stringMember) :
    headersOf again = headersOf object := by
  have through : ∀ object : CJson, headersOf object =
      (object.child.map stringMember).filterMap fun member =>
        match member with
        | (some name, some value) => if name ≠ [] then some (⟨name⟩, value) else none
        | _ => none := by
    intro object
    rw [List.filterMap_map]
    exact congrArg (object.child.filterMap ·) (funext headerOf_stringMember)
  rw [through, same, ← through]

theorem headerOf_isNamed {member : CJson} {name : List Char} {header : HeaderName × List Char}
    (named : member.isNamed name = true) (found : headerOf member = some header) :
    header.1 ≈ ⟨name⟩ := by
  obtain ⟨type, valuestring, own, child⟩ := member
  rcases own with _ | own
  · simp [CJson.isNamed, CJson.name] at named
  cases type <;> cases valuestring <;> simp [headerOf, CJson.type, CJson.valuestring,
    CJson.name] at found
  obtain ⟨-, rfl⟩ := found
  exact of_decide_eq_true named

theorem filter_eraseP (members : List CJson) {name : List Char} {other : HeaderName}
    (apart : ¬other ≈ ⟨name⟩) :
    (((members.eraseP (CJson.isNamed name)).filterMap headerOf).filter
        fun header => header.1 ≈ other) =
      (members.filterMap headerOf).filter fun header => header.1 ≈ other := by
  induction members with
  | nil => rfl
  | cons member members ih =>
      by_cases named : member.isNamed name = true
      · rw [List.eraseP_cons_of_pos named]
        rcases found : headerOf member with _ | header
        · rw [List.filterMap_cons_none found]
        · rw [List.filterMap_cons_some found, List.filter_cons_of_neg]
          have own := headerOf_isNamed named found
          simpa using fun same => apart (Setoid.trans (Setoid.symm same) own)
      · rw [List.eraseP_cons_of_neg named]
        rcases found : headerOf member with _ | header
        · rw [List.filterMap_cons_none found, List.filterMap_cons_none found, ih]
        · rw [List.filterMap_cons_some found, List.filterMap_cons_some found, List.filter_cons,
            List.filter_cons, ih]

theorem headersOf_headersObj (cjson : CJsonText) (key : List Char)
    (configuredExtra : Option (List Char)) :
    headersOf (headersObj cjson key configuredExtra) =
      ((configuredObject cjson configuredExtra).child.eraseP
          (CJson.isNamed authorization)).filterMap headerOf ++ [(⟨authorization⟩, bearer key)] := by
  rw [headersOf, headersObj, CJson.child_addStringToObject, CJson.child_deleteItemFromObject,
    List.filterMap_append]
  rfl

theorem get_headersObj (cjson : CJsonText) (key : List Char) (configuredExtra : Option (List Char))
    (name : HeaderName) :
    (SetoidMap.assignAll (headersOf (headersObj cjson key configuredExtra))).get name =
      if name ≈ ⟨authorization⟩ then some (bearer key)
      else lastString (configuredObject cjson configuredExtra) name := by
  rw [SetoidMap.get_assignAll, headersOf_headersObj, List.filter_append]
  by_cases own : name ≈ ⟨authorization⟩
  · have last : (⟨authorization⟩ : HeaderName) ≈ name := Setoid.symm own
    simp [own, last]
  · have apart : ¬(⟨authorization⟩ : HeaderName) ≈ name := fun same => own (Setoid.symm same)
    rw [if_neg own, filter_eraseP _ own, lastString, headersOf]
    simp [apart]

theorem installedHeaders_authorization (cjson : CJsonText) (key : List Char)
    (configuredExtra : Option (List Char))
    (roundTrip : RoundTrips cjson (headersObj cjson key configuredExtra)) :
    ∃ headers, installedHeaders cjson (some key) configuredExtra = some headers ∧
      ∀ name : HeaderName, headers.get name =
        if name ≈ ⟨authorization⟩ then some (bearer key)
        else lastString (configuredObject cjson configuredExtra) name := by
  obtain ⟨printed, again, print, parse, object, same⟩ := roundTrip
  have extra : extraHeaders cjson (some key) configuredExtra = some (some printed) := by
    simp [extraHeaders, print]
  have headers : constructorHeaders cjson (some printed) =
      SetoidMap.assignAll (headersOf (headersObj cjson key configuredExtra)) := by
    rw [← headersOf_roundTrip same]
    simp [constructorHeaders, parse, object, headersOf]
  have assigned := get_headersObj cjson key configuredExtra
  refine ⟨_, ?_, assigned⟩
  have there : (SetoidMap.assignAll
      (headersOf (headersObj cjson key configuredExtra))).entries.isEmpty = false := by
    refine Bool.eq_false_iff.2 fun empty => ?_
    have found := assigned ⟨authorization⟩
    rw [if_pos (Setoid.refl _), SetoidMap.get, List.isEmpty_iff.1 empty] at found
    nomatch found
  simp [installedHeaders, extra, headers, there]

/-! A configured text with two properties for the key, one of which the deletion leaves. -/

def configuredText : List Char :=
  "\x7b\"authorization\":\"x\",\"A\":\"1\",\"AUTHORIZATION\":\"y\",\"a\":\"2\"\x7d".toList

def printedText : List Char :=
  "\x7b\"A\":\"1\",\"AUTHORIZATION\":\"y\",\"a\":\"2\",\"Authorization\":\"Bearer k\"\x7d".toList

def property (name value : String) : CJson :=
  .item .string (some value.toList) (some name.toList) []

def configuredProperties : List CJson :=
  [property "authorization" "x", property "A" "1", property "AUTHORIZATION" "y",
    property "a" "2"]

def printedProperties : List CJson :=
  [property "A" "1", property "AUTHORIZATION" "y", property "a" "2",
    property "Authorization" "Bearer k"]

def cjsonTable : CJsonText where
  parse text :=
    if text = configuredText then some (.item .object none none configuredProperties)
    else if text = printedText then some (.item .object none none printedProperties)
    else none
  printUnformatted _ := some printedText

theorem cjsonTable_headersObj :
    headersObj cjsonTable "k".toList (some configuredText) =
      .item .object none none printedProperties := by
  have configured : configuredObject cjsonTable (some configuredText) =
      .item .object none none configuredProperties := by
    simp [configuredObject, cjsonTable, CJson.type]
  rw [headersObj, configured]
  rfl

theorem installedHeaders_configuredText :
    ∃ headers, installedHeaders cjsonTable (some "k".toList) (some configuredText) = some headers ∧
      headers.get ⟨"authorization".toList⟩ = some "Bearer k".toList ∧
      headers.get ⟨"a".toList⟩ = some "2".toList := by
  have other : printedText ≠ configuredText := by decide
  have roundTrip : RoundTrips cjsonTable
      (headersObj cjsonTable "k".toList (some configuredText)) := by
    rw [cjsonTable_headersObj]
    exact ⟨printedText, .item .object none none printedProperties, rfl,
      by simp [cjsonTable, other], rfl, rfl⟩
  obtain ⟨headers, installed, assigned⟩ :=
    installedHeaders_authorization cjsonTable "k".toList (some configuredText) roundTrip
  refine ⟨headers, installed, ?_, ?_⟩
  · rw [assigned, if_pos (by decide)]
    rfl
  · rw [assigned, if_neg (by decide)]
    rfl

end OpenaiAudioStream
