import ClusterHub.Json.Escaped
import ClusterHub.Json.Numeral

/-!
# JSON values

JSON values whose leaves keep their spelling.  Members keep their order, and a
key may occur more than once: what that means is for the reader of the value to
say.
-/

namespace ClusterHub

/-- A JSON value. -/
inductive Json
  | null
  | bool (value : Bool)
  | number (spelling : Json.Numeral)
  | string (spelling : Json.Escaped)
  | array (items : List Json)
  | object (members : List (Json.Escaped × Json))
deriving Inhabited

namespace Json

/-- The value of a text. -/
def ofText (s : String) : Json := .string (.ofString s)

/-- The value of a natural number. -/
def ofNat (n : Nat) : Json := .number (.ofNat n)

/-- The value of an integer. -/
def ofInt (n : Int) : Json := .number (.ofInt n)

/-- An object with the given keys in order. -/
def ofMembers (members : List (String × Json)) : Json :=
  .object (members.map fun member => (.ofString member.1, member.2))

/-- The value of an optional value; absence is `null`. -/
def ofOption {α : Type} (write : α → Json) : Option α → Json
  | none => .null
  | some a => write a

/-- The value of a list. -/
def ofList {α : Type} (write : α → Json) (items : List α) : Json :=
  .array (items.map write)

end Json

end ClusterHub
