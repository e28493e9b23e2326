import ClusterHub.Json.Basic

/-!
# Reading JSON

A value is read off the front of a text of octets, with what follows it left
over; a whole text may have blanks around its value and nothing else.  Strings
are checked for complete escapes only.
-/

namespace ClusterHub.Json

/-- Whether an octet may stand between the tokens of a value. -/
def isBlank (b : UInt8) : Bool :=
  b == 0x20 || b == 0x09 || b == 0x0A || b == 0x0D

/-- Drop the blanks that a text starts with. -/
def skipBlanks (s : List UInt8) : List UInt8 :=
  s.dropWhile isBlank

mutual

/-- Read a value.  Each step uses an octet, so `fuel` need not be more than the
number of octets and one. -/
def parseValue : Nat → List UInt8 → Option (Json × List UInt8)
  | 0, _ => none
  | fuel + 1, s =>
      match skipBlanks s with
      | 0x6E :: 0x75 :: 0x6C :: 0x6C :: rest => some (.null, rest)
      | 0x74 :: 0x72 :: 0x75 :: 0x65 :: rest => some (.bool true, rest)
      | 0x66 :: 0x61 :: 0x6C :: 0x73 :: 0x65 :: rest => some (.bool false, rest)
      | 0x22 :: rest => do
          let (body, rest) ← Escaped.scan rest
          return (.string ⟨body⟩, rest)
      | 0x5B :: rest =>
          match skipBlanks rest with
          | 0x5D :: rest => some (.array [], rest)
          | rest => do
              let (item, rest) ← parseValue fuel rest
              let (items, rest) ← parseItems fuel rest
              return (.array (item :: items), rest)
      | 0x7B :: rest =>
          match skipBlanks rest with
          | 0x7D :: rest => some (.object [], rest)
          | rest => do
              let (member, rest) ← parseMember fuel rest
              let (members, rest) ← parseMembers fuel rest
              return (.object (member :: members), rest)
      | rest => do
          let (n, rest) ← Numeral.scan rest
          return (.number n, rest)

/-- Read the items that follow another one, and the bracket. -/
def parseItems : Nat → List UInt8 → Option (List Json × List UInt8)
  | 0, _ => none
  | fuel + 1, s =>
      match skipBlanks s with
      | 0x5D :: rest => some ([], rest)
      | 0x2C :: rest => do
          let (item, rest) ← parseValue fuel rest
          let (items, rest) ← parseItems fuel rest
          return (item :: items, rest)
      | _ => none

/-- Read a key, its colon and its value. -/
def parseMember : Nat → List UInt8 → Option ((Escaped × Json) × List UInt8)
  | 0, _ => none
  | fuel + 1, s =>
      match skipBlanks s with
      | 0x22 :: rest => do
          let (key, rest) ← Escaped.scan rest
          match skipBlanks rest with
          | 0x3A :: rest =>
              let (value, rest) ← parseValue fuel rest
              return ((⟨key⟩, value), rest)
          | _ => none
      | _ => none

/-- Read the members that follow another one, and the brace. -/
def parseMembers : Nat → List UInt8 → Option (List (Escaped × Json) × List UInt8)
  | 0, _ => none
  | fuel + 1, s =>
      match skipBlanks s with
      | 0x7D :: rest => some ([], rest)
      | 0x2C :: rest => do
          let (member, rest) ← parseMember fuel rest
          let (members, rest) ← parseMembers fuel rest
          return (member :: members, rest)
      | _ => none

end

/-- Read a value that fills a text. -/
def parse? (s : List UInt8) : Option Json := do
  let (value, rest) ← parseValue (s.length + 1) s
  if (skipBlanks rest).isEmpty then return value else none

end ClusterHub.Json
