import SmppReplay.Batch.CompileError
import SmppReplay.Pdu.Value
import SmppReplay.Script.Element

/-!
# Field values in scripts

How the content of an element becomes the value of a field.

* Texts and numbers are the element's own text without blanks at the ends.
* A short message and a payload of octets are the lines of the element, each followed by a
  line feed, or its own text if it has no lines; a short message may be one segment of
  several.
* A list of destinations takes type of number and numbering plan of a destination from the
  destination itself, else from the message's elements.
-/

namespace SmppReplay
namespace Batch

open Script (Element)

/-- The number that a text writes, or the fault of the field. -/
def numberOr {α : Type} (field raw : String) : Option α → Except CompileError α
  | some n => .ok n
  | none => .error (.invalidValue field raw)

/-- A number of one octet. -/
def readUInt8 (field raw : String) : Except CompileError UInt8 :=
  numberOr field raw (Text.Numeral.uint8? raw)

/-- A number of two octets. -/
def readUInt16 (field raw : String) : Except CompileError UInt16 :=
  numberOr field raw (Text.Numeral.uint16? raw)

/-- A number of four octets. -/
def readUInt32 (field raw : String) : Except CompileError UInt32 :=
  numberOr field raw (Text.Numeral.uint32? raw)

/-- The lines of an element, each followed by a line feed, or its own text if it has no
lines. -/
def linesOrText (e : Element) : String :=
  match e.childrenNamed "line" with
  | [] => e.trimmedText
  | lines => String.join (lines.map fun l => l.text ++ "\n")

/-- The name of the element that makes a short message one segment of several. -/
def segmentHeaderName : String := "UserDataHeader"

/-- An attribute of the segment header that must be a number of one octet if it is there. -/
def segmentNumber (header : Element) (key : String) : Except CompileError (Option UInt8) :=
  match header.attribute? key with
  | some raw => (readUInt8 (segmentHeaderName ++ "@" ++ key) raw).map some
  | none => .ok none

/-- The octets in front of a segment: reference number, number of segments and position, if
all three are given and the position lies among the segments. -/
def segmentHeader (e : Element) : Except CompileError (List UInt8) :=
  match e.child? segmentHeaderName with
  | none => .ok []
  | some header => do
      let ref ← segmentNumber header "ref"
      let index ← segmentNumber header "index"
      let total ← segmentNumber header "total"
      match ref, index, total with
      | some r, some i, some t =>
          return if 1 ≤ i ∧ i ≤ t then [5, 0, 3, r, t, i] else []
      | _, _, _ => return []

/-- The octets of a short message. -/
def shortMessage (e : Element) : Except CompileError (List UInt8) :=
  (segmentHeader e).map fun header => header ++ Text.Utf8.encode (linesOrText e)

/-- The number in the first child of the message that bears one of the names, in the order
of the names, else zero. -/
def inheritedNumber (message : Element) : List String → Except CompileError UInt8
  | [] => .ok 0
  | n :: ns =>
      match message.child? n with
      | some c => readUInt8 n c.trimmedText
      | none => inheritedNumber message ns

/-- The number in a child of the given name, else the default. -/
def numberIn (e : Element) (n : String) (default : UInt8) : Except CompileError UInt8 :=
  match e.child? n with
  | some c => readUInt8 n c.trimmedText
  | none => .ok default

/-- One destination, with the type of number and the numbering plan that it has by default. -/
def destination (ton npi : UInt8) (e : Element) : Except CompileError Destination :=
  match e.child? "DestAddr" with
  | none => .error (.missingField e.name "DestAddr")
  | some address => do
      let ton ← numberIn e "DestAddrTON" ton
      let npi ← numberIn e "DestAddrNPI" npi
      return .address ton npi address.trimmedText

/-- The destinations in the list element of a message. -/
def destinations (message list : Element) : Except CompileError (List Destination) := do
  let ton ← inheritedNumber message ["DestAddrTON", "SourceAddrTON", "AddrTON"]
  let npi ← inheritedNumber message ["DestAddrNPI", "SourceAddrNPI", "AddrNPI"]
  let ds ← (list.childrenNamed "Destination").mapM (destination ton npi)
  if ds.isEmpty then throw (.missingField list.name "Destination")
  return ds

/-- The value of a mandatory field in the child element of a message. -/
def mandatoryValue (f : FieldSpec) (message child : Element) :
    Except CompileError FieldValue :=
  match f.kind with
  | .text _ => .ok (.text child.trimmedText)
  | .integer _ => (readUInt8 child.name child.trimmedText).map .u8
  | .shortMessage => (shortMessage child).map .octets
  | .destinations => (destinations message child).map .destinations
  | .unsuccessful => .error (.unsupported (.element child.name))

/-- The text says yes: it opens with the letter y in either case. -/
def saysYes (s : String) : Bool :=
  match s.toList with
  | c :: _ => c == 'Y' || c == 'y'
  | [] => false

/-- The value of an optional field in the child element of a message; none if the field
stays away. -/
def optionalValue (t : TlvSpec) (child : Element) : Except CompileError (Option FieldValue) :=
  let raw := child.trimmedText
  match t.kind with
  | .u8 => (readUInt8 t.element raw).map fun n => some (.u8 n)
  | .u16 => (readUInt16 t.element raw).map fun n => some (.u16 n)
  | .u32 => (readUInt32 t.element raw).map fun n => some (.u32 n)
  | .text => .ok (some (.text raw))
  | .octets => .ok (some (.octets (Text.Utf8.encode (linesOrText child))))
  | .flag => .ok (if saysYes raw then some .flag else none)
  | .networkError => do
      let networkType ← match child.attribute? "NetworkType" with
        | some s => readUInt8 "NetworkType" s
        | none => pure 0
      let code ← readUInt16 t.element raw
      return some (.networkError networkType code)

end Batch
end SmppReplay
