import Mathlib.Algebra.Order.Ring.Int
import Mathlib.Data.List.Basic

/-!
# JSON values and structures read from them

A JSON value as a parser leaves it, the access to its parts, and the derived
reading of a structure whose fields are all optional texts.
-/

namespace Valqeron
namespace Foundation

/-- `serde_json::Value`; an object holds each of its keys once. -/
inductive Json where
  | null
  | bool (value : Bool)
  | number (text : String)
  | string (text : String)
  | array (items : List Json)
  | object (entries : List (String × Json))

namespace Json

def get (key : String) : Json -> Json
  | object entries => (entries.lookup key).getD null
  | _ => null

def asArray : Json -> Option (List Json)
  | array items => some items
  | _ => none

def asStr : Json -> Option String
  | string text => some text
  | _ => none

/-!
## A structure of optional texts

`derive(Deserialize)` with `deny_unknown_fields`: an object gives the fields by
name, and an array gives them in their order.
-/

inductive DecodeError where
  | invalidType
  | invalidLength
  | unknownField (name : String)
  | duplicateField (name : String)
deriving DecidableEq, Repr

def optionalString : Json -> Except DecodeError (Option String)
  | null => .ok none
  | string text => .ok (some text)
  | _ => .error .invalidType

def visitMap (fields : List String) :
    (seen : List (String × Option String)) -> List (String × Json) ->
      Except DecodeError (List (String × Option String))
  | seen, [] => .ok seen
  | seen, (name, value) :: rest =>
      if name ∉ fields then
        .error (.unknownField name)
      else if (seen.lookup name).isSome then
        .error (.duplicateField name)
      else
        match optionalString value with
        | .error e => .error e
        | .ok field => visitMap fields ((name, field) :: seen) rest

def visitSeq : (fields : List String) -> List Json ->
    Except DecodeError (List (String × Option String))
  | [], [] => .ok []
  | name :: fields, value :: rest =>
      match optionalString value with
      | .error e => .error e
      | .ok field => (visitSeq fields rest).map ((name, field) :: ·)
  | _, _ => .error .invalidLength

/-- The fields that the value gives; the others are none. -/
def decodeFields (fields : List String) :
    Json -> Except DecodeError (List (String × Option String))
  | object entries => visitMap fields [] entries
  | array items => visitSeq fields items
  | _ => .error .invalidType

end Json
end Foundation
end Valqeron
