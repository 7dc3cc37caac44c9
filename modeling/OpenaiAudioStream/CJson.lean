import OpenaiAudioStream.CString

/-!
Items of cJSON and the accessors that the module calls. Strings end at their NUL, so they
are lists of characters; names are looked up without regard to case.
-/

namespace OpenaiAudioStream

open CString

inductive CJsonType where
  | false | true | null | number | string | array | object
  deriving DecidableEq, Repr

inductive CJson where
  | item (type : CJsonType) (valuestring name : Option (List Char)) (child : List CJson)

/-- `cJSON_Parse` and `cJSON_PrintUnformatted`; the null pointer is `none`. -/
structure CJsonText where
  parse : List Char → Option CJson
  printUnformatted : CJson → Option (List Char)

namespace CJson

def type : CJson → CJsonType
  | item type _ _ _ => type

def valuestring : CJson → Option (List Char)
  | item _ valuestring _ _ => valuestring

def name : CJson → Option (List Char)
  | item _ _ name _ => name

def child : CJson → List CJson
  | item _ _ _ child => child

def createObject : CJson := item .object none none []

def createString (text : List Char) : CJson := item .string (some text) none []

def isNamed (name : List Char) (member : CJson) : Bool :=
  member.name.any fun own => sameCaseless own name

def getObjectItem (object : CJson) (name : List Char) : Option CJson :=
  object.child.find? (isNamed name)

def getObjectCstr (object : CJson) (name : List Char) : Option (List Char) :=
  match object.getObjectItem name with
  | none => none
  | some member => if member.type = .string then member.valuestring else none

def withChild (object : CJson) (child : List CJson) : CJson :=
  item object.type object.valuestring object.name child

def deleteItemFromObject (object : CJson) (name : List Char) : CJson :=
  object.withChild (object.child.eraseP (isNamed name))

def addItemToObject (object : CJson) (name : List Char) (member : CJson) : CJson :=
  object.withChild (object.child ++ [item member.type member.valuestring (some name) member.child])

def addStringToObject (object : CJson) (name text : List Char) : CJson :=
  object.addItemToObject name (createString text)

theorem child_deleteItemFromObject (object : CJson) (name : List Char) :
    (object.deleteItemFromObject name).child = object.child.eraseP (isNamed name) := rfl

theorem child_addStringToObject (object : CJson) (name text : List Char) :
    (object.addStringToObject name text).child =
      object.child ++ [item .string (some text) (some name) []] := rfl

end CJson

end OpenaiAudioStream
