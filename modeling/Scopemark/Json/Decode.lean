import Scopemark.Json.Reader
import Scopemark.KeyList

namespace Scopemark.Json

inductive Fault
  | malformed
  | tooDeep
  | unexpected (wanted : String)
  | missing (field : String)
  | repeated (field : String)
  | tooMany
  | noVariant
deriving DecidableEq, Repr

def Fault.message : Fault → String
  | .malformed => "malformed document"
  | .tooDeep => "nested too deeply"
  | .unexpected wanted => "expected " ++ wanted
  | .missing field => "missing field `" ++ field ++ "`"
  | .repeated field => "duplicate field `" ++ field ++ "`"
  | .tooMany => "too many fields"
  | .noVariant => "no variant matches"

abbrev Fields := List (String × Json)

def knownFields (names : List String) : List (Option String × Json) → Fields → Except Fault Fields
  | [], found => .ok found
  | (none, _) :: _, _ => .error .malformed
  | (some key, value) :: rest, found =>
    if !names.contains key then knownFields names rest found
    else if (found.lookup key).isSome then .error (.repeated key)
    else knownFields names rest ((key, value) :: found)

def fieldsOf (names : List String) : Json → Except Fault Fields
  | .object fields => knownFields names fields []
  | .array elements => if names.length < elements.length then .error .tooMany else .ok (names.zip elements)
  | _ => .error (.unexpected "a record")

def enter (depth : Nat) : Except Fault Nat :=
  match depth with
  | 0 => .error .tooDeep
  | depth + 1 => .ok depth

def toText : Json → Except Fault String
  | .string (some s) => .ok s
  | _ => .error (.unexpected "a string")

def toBool : Json → Except Fault Bool
  | .bool b => .ok b
  | _ => .error (.unexpected "a boolean")

def toOption {α : Type} (read : Json → Except Fault α) : Json → Except Fault (Option α)
  | .null => .ok none
  | value => (read value).map some

def toList {α : Type} (read : Json → Except Fault α) : Json → Except Fault (List α)
  | .array elements => elements.mapM read
  | _ => .error (.unexpected "an array")

/-- The entries of an object. The last one of a name counts. -/
def toTable {α : Type} (read : Json → Except Fault α) : Json → Except Fault (List (String × α))
  | .object fields => do
    let entries ← fields.mapM fun (key, value) =>
      match key with
      | none => .error .malformed
      | some key => (read value).map fun v => (key, v)
    return KeyList.ofList entries
  | _ => .error (.unexpected "an object")

def required {α : Type} (fields : Fields) (name : String) (read : Json → Except Fault α) :
    Except Fault α :=
  match fields.lookup name with
  | none => .error (.missing name)
  | some value => read value

def withDefault {α : Type} (fields : Fields) (name : String) (default : α)
    (read : Json → Except Fault α) : Except Fault α :=
  match fields.lookup name with
  | none => .ok default
  | some value => read value

def optionalText (fields : Fields) (name : String) : Except Fault (Option String) :=
  withDefault fields name none (toOption toText)

def decode {α : Type} (read : Json → Except Fault α) (text : String) : Except Fault α :=
  match read? text.toList with
  | none => .error .malformed
  | some value => read value

end Scopemark.Json
