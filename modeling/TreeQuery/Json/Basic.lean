import TreeQuery.Json.Number

set_option autoImplicit false

/-! # JSON values

Objects keep their members in the order in which they are written, repeated keys included; of equal
keys the last one counts. -/

namespace TreeQuery

/-- A JSON value. -/
inductive Json
  | null
  | bool (value : Bool)
  | number (value : Json.Number)
  | string (value : String)
  | array (items : List Json)
  | object (members : List (String × Json))
  deriving Inhabited, Repr

namespace Json

/-- An integer as a JSON value. -/
def int (i : Int) : Json := number (.integer i)

/-- A natural number as a JSON value. -/
def nat (n : Nat) : Json := int n

/-- The member of a key: of equal keys the last. -/
def lookup (members : List (String × Json)) (key : String) : Option Json :=
  members.foldl (fun found m => if m.1 = key then some m.2 else found) none

/-- The keys of an object, each once. -/
def keys (members : List (String × Json)) : List String := (members.map Prod.fst).eraseDups

/-- The member of a key, if the value is an object that has the key. -/
def get? : Json → String → Option Json
  | object members, key => lookup members key
  | _, _ => none

end Json

end TreeQuery
