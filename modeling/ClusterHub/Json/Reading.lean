import ClusterHub.Json.Basic
import ClusterHub.Time.Rfc3339
import Std.Data.ExtTreeMap

/-!
# Reading typed values

What a JSON value means as a value of a given type.  Integers must be spelled
as integers, only optional values may be `null`, a structure is an object or
the array of its fields in order, and a choice is its name or an object with
the name as its only key.

A value is read `direct`ly from its text, or is first `held` in memory because
a later member decides its type.  Holding it requires every string in it to
be text, every number to be finite and the nesting to be bounded; after that
an empty object passes for nothing at all, and integer keys are no longer
recognised.
-/

namespace ClusterHub.Json

/-- How a value reaches its reader. -/
inductive Source
  | direct
  | held
deriving DecidableEq, Repr

/-- A reader of values of a type. -/
abbrev Reading (α : Type) := Source → Json → Option α

mutual

/-- Whether a value can be held: its strings are text, its numbers finite, and
it is nested at most `depth` levels. -/
def canHold (depth : Nat) : Json → Bool
  | .null => true
  | .bool _ => true
  | .number n => n.isFinite
  | .string e => e.text?.isSome
  | .array items => 0 < depth && canHoldItems (depth - 1) items
  | .object members => 0 < depth && canHoldMembers (depth - 1) members

/-- Whether all items can be held. -/
def canHoldItems (depth : Nat) : List Json → Bool
  | [] => true
  | item :: items => canHold depth item && canHoldItems depth items

/-- Whether all members can be held. -/
def canHoldMembers (depth : Nat) : List (Escaped × Json) → Bool
  | [] => true
  | (key, value) :: members =>
      key.text?.isSome && canHold depth value && canHoldMembers depth members

end

/-- The levels of nesting that a value may have inside an envelope. -/
def maxDepth : Nat := 126

/-- Read a text. -/
def text : Reading String
  | _, .string e => e.text?
  | _, _ => none

/-- Read a truth value. -/
def flag : Reading Bool
  | _, .bool b => some b
  | _, _ => none

/-- Read a natural number below a bound. -/
def natBelow (bound : Nat) : Reading Nat
  | _, .number n => n.nat?.filter fun value => value < bound
  | _, _ => none

/-- Read a number of 32 bits. -/
def uint32 : Reading UInt32 := fun source value =>
  (natBelow UInt32.size source value).map UInt32.ofNat

/-- Read a number of 64 bits. -/
def uint64 : Reading UInt64 := fun source value =>
  (natBelow UInt64.size source value).map UInt64.ofNat

/-- Read nothing: `null`, or an empty object that was held. -/
def nothing : Reading Unit
  | _, .null => some ()
  | .held, .object [] => some ()
  | _, _ => none

/-- Read a timestamp. -/
def timestamp : Reading Timestamp := fun source value =>
  (text source value).bind Timestamp.ofText?

/-- Read a value that may be absent. -/
def optional {α : Type} (read : Reading α) : Reading (Option α)
  | _, .null => some none
  | source, value => (read source value).map some

/-- Read a list. -/
def list {α : Type} (read : Reading α) : Reading (List α)
  | source, .array items => items.mapM (read source)
  | _, _ => none

/-- Read one of several named choices. -/
def choice {α : Type} (choices : List (String × α)) : Reading α
  | _, .string e => e.text?.bind fun name => choices.lookup name
  | source, .object [(key, value)] => do
      let name ← key.text?
      let _ ← nothing source value
      choices.lookup name
  | _, _ => none

/-! ## Structures -/

/-- The fields that a value gives to a structure. -/
structure Fields where
  /-- Whether they were given as a list of values, without names. -/
  listed : Bool
  source : Source
  given : List (String × Json)

/-- The members of an object with their keys read; every key must be text. -/
def namedMembers? (members : List (Escaped × Json)) : Option (List (String × Json)) :=
  members.mapM fun (key, value) => key.text?.map fun name => (name, value)

/-- The fields of a structure with the given field names.  Other keys are
ignored, but a field must not be given twice. -/
def fields? (names : List String) : Reading Fields
  | source, .array items =>
      if items.length ≤ names.length then some ⟨true, source, names.zip items⟩ else none
  | source, .object members => do
      let named ← namedMembers? members
      let known := named.filter fun member => names.contains member.1
      if (known.map Prod.fst).Nodup then return ⟨false, source, known⟩ else none
  | _, _ => none

namespace Fields

variable {α : Type}

/-- Read a field that must be given. -/
def required (fields : Fields) (read : Reading α) (name : String) : Option α :=
  (fields.given.lookup name).bind (read fields.source)

/-- Read a field that has a value when it is not given. -/
def withDefault (fields : Fields) (read : Reading α) (default : α) (name : String) :
    Option α :=
  match fields.given.lookup name with
  | some value => read fields.source value
  | none => some default

/-- Read a field that may be `null`, and may be left out of an object. -/
def nullable (fields : Fields) (read : Reading α) (name : String) : Option (Option α) :=
  match fields.given.lookup name with
  | some value => optional read fields.source value
  | none => if fields.listed then none else some none

end Fields

/-- Put pairs into a map; of two with one key the later one stays. -/
def mapOfPairs {κ β : Type} [Ord κ] [Std.TransOrd κ] (pairs : List (κ × β)) :
    Std.ExtTreeMap κ β :=
  pairs.foldl (fun map pair => map.insert pair.1 pair.2) ∅

/-- Read a map whose keys are text. -/
def textMap {β : Type} (read : Reading β) : Reading (Std.ExtTreeMap String β)
  | source, .object members => do
      let pairs ← members.mapM fun (key, value) => do
        let name ← key.text?
        let item ← read source value
        return (name, item)
      return mapOfPairs pairs
  | _, _ => none

/-- The number of 32 bits that a key spells, without signs, leading zeros or
escapes. -/
def keyNumber? (key : Escaped) : Option UInt32 :=
  match Numeral.scan key.octets with
  | some (n, []) => uint32 .direct (.number n)
  | _ => none

/-- Read a map whose keys are numbers of 32 bits.  A held map has no such
keys. -/
def numberMap {β : Type} (read : Reading β) : Reading (Std.ExtTreeMap UInt32 β)
  | .direct, .object members => do
      let pairs ← members.mapM fun (key, value) => do
        let number ← keyNumber? key
        let item ← read .direct value
        return (number, item)
      return mapOfPairs pairs
  | .held, .object [] => some ∅
  | _, _ => none

/-- Write a map with text keys, in ascending order of the keys. -/
def ofTextMap {β : Type} (write : β → Json) (map : Std.ExtTreeMap String β) : Json :=
  .object (map.toList.map fun pair => (.ofString pair.1, write pair.2))

/-- Write a map with number keys, in ascending order of the keys. -/
def ofNumberMap {β : Type} (write : β → Json) (map : Std.ExtTreeMap UInt32 β) : Json :=
  .object (map.toList.map fun pair =>
    (⟨(Numeral.ofNat pair.1.toNat).octets⟩, write pair.2))

/-- Write a timestamp. -/
def ofTimestamp (t : Timestamp) : Json := ofText (t.text .exact)

end ClusterHub.Json
