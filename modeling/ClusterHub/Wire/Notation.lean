import ClusterHub.Json.Access
import ClusterHub.Wire.Message

/-!
# Frames in documents

How frames are written in JSON documents for people: as a string if they are
text, and otherwise by their octets in hexadecimal.  A long text may also be
given as a part and a number of repetitions.
-/

namespace ClusterHub

namespace Frame

/-- The hexadecimal digits of octets. -/
def hexText (frame : Frame) : String :=
  String.ofList (frame.data.toList.flatMap fun octet =>
    [Char.ofUInt8 (Json.Escaped.hexDigit (octet.toNat / 16)),
     Char.ofUInt8 (Json.Escaped.hexDigit (octet.toNat % 16))])

/-- The octets of hexadecimal digits, up to the first pair that is none. -/
def hexOctets : List Char → List UInt8
  | a :: b :: rest =>
      match Json.Escaped.hexValue? a.toUInt8, Json.Escaped.hexValue? b.toUInt8 with
      | some x, some y => UInt8.ofNat (16 * x + y) :: hexOctets rest
      | _, _ => []
  | _ => []

/-- The frame that a document writes; anything else stands for an empty one. -/
def ofNotation (value : Json) : Frame :=
  match value.text?, (value.member? "hex").bind Json.text?, value.member? "fill" with
  | some text, _, _ => .ofText text
  | none, some digits, _ => ⟨(hexOctets digits.toList).toArray⟩
  | none, none, some (.array [part, count]) =>
      .ofText (String.join (List.replicate ((count.integer?).getD 0).toNat (part.text?.getD "")))
  | none, none, _ => .empty

/-- How a document writes a frame. -/
def toNotation (frame : Frame) : Json :=
  match String.fromUTF8? frame with
  | some s => .ofText s
  | none => .ofMembers [("hex", .ofText frame.hexText)]

end Frame

/-- The message that a document writes. -/
def Message.ofNotation (frames : List Json) : Message := ⟨frames.map Frame.ofNotation⟩

/-- How a document writes a message. -/
def Message.toNotation (m : Message) : Json := .ofList Frame.toNotation m.frames

end ClusterHub
