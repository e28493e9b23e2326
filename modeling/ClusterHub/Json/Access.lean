import ClusterHub.Json.Basic

/-!
# Taking documents apart

What a JSON value holds, where its type is not fixed in advance.
-/

namespace ClusterHub

/-- The member of an object with a given key. -/
def Json.member? (key : String) : Json → Option Json
  | .object members => members.findSome? fun member =>
      if member.1.text? = some key then some member.2 else none
  | _ => none

/-- The text of a string. -/
def Json.text? : Json → Option String
  | .string spelling => spelling.text?
  | _ => none

/-- The value of a number that is spelled as an integer. -/
def Json.integer? : Json → Option Int
  | .number n =>
      if n.fraction.isSome || n.exponent.isSome then none
      else some (if n.negative then -(n.whole : Int) else n.whole)
  | _ => none

/-- The items of an array; anything else has none. -/
def Json.items : Json → List Json
  | .array items => items
  | _ => []

end ClusterHub
