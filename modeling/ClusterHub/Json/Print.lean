import ClusterHub.Json.Basic

/-!
# Writing JSON

The compact form: no blanks, members in order.
-/

namespace ClusterHub.Json

/-- A spelling between its quotes. -/
def Escaped.quoted (e : Escaped) : List UInt8 :=
  quote :: e.octets ++ [quote]

mutual

/-- The octets of a value. -/
def print : Json → List UInt8
  | .null => [0x6E, 0x75, 0x6C, 0x6C]
  | .bool true => [0x74, 0x72, 0x75, 0x65]
  | .bool false => [0x66, 0x61, 0x6C, 0x73, 0x65]
  | .number n => n.octets
  | .string e => e.quoted
  | .array [] => [0x5B, 0x5D]
  | .array (item :: items) => 0x5B :: print item ++ printItems items
  | .object [] => [0x7B, 0x7D]
  | .object ((key, value) :: members) =>
      0x7B :: key.quoted ++ 0x3A :: print value ++ printMembers members

/-- The octets of the items that follow another one, and the bracket. -/
def printItems : List Json → List UInt8
  | [] => [0x5D]
  | item :: items => 0x2C :: print item ++ printItems items

/-- The octets of the members that follow another one, and the brace. -/
def printMembers : List (Escaped × Json) → List UInt8
  | [] => [0x7D]
  | (key, value) :: members =>
      0x2C :: key.quoted ++ 0x3A :: print value ++ printMembers members

end

/-- The octets of a value as an array of octets. -/
def toOctets (value : Json) : ByteArray :=
  ⟨value.print.toArray⟩

end ClusterHub.Json
