import SmppReplay.Pdu.Header
import SmppReplay.Pdu.Message

/-!
# Messages as octets

**Input.**  A message.

**Algorithm.** The mandatory fields in layout order, then the optional fields that have a
value in layout order, then the raw ones in the order in which they were added; in front of
them the header, whose length counts everything.  The first field that has no wire form
decides the fault.

**Limits.** A mandatory text with its NUL takes at most the octets that its field allows; a
short message at most 254 octets; a list at most 254 destinations, each text of at most 20
octets; the value of an optional field at most 65535 octets.
-/

namespace SmppReplay
namespace Pdu

/-- The most octets of a short message. -/
def maxShortMessage : Nat := 254

/-- The most destinations of a message. -/
def maxDestinations : Nat := 254

/-- The most octets of a destination's text, with its NUL. -/
def maxDestinationText : Nat := 21

/-- The most octets of an optional field's value. -/
def maxTlvValue : Nat := 65535

/-- A text and its NUL, in at most `max` octets. -/
def encodeText (label : String) (s : String) (max : Nat) : Except Error (List UInt8) :=
  let bs := Text.Utf8.encode s
  if max < bs.length + 1 then .error (.fieldTooLong label bs.length (max - 1))
  else if bs.contains 0 then .error (.malformed (.embeddedNul label))
  else .ok (bs ++ [0])

/-- The length of an optional field's value. -/
def encodeTlvLength (label : String) (size : Nat) : Except Error (List UInt8) :=
  if maxTlvValue < size then .error (.fieldTooLong label size maxTlvValue)
  else .ok (octets16 (UInt16.ofNat size))

/-- One destination of a list. -/
def encodeDestination (label : String) : Destination → Except Error (List UInt8)
  | .address ton npi address =>
      (encodeText label address maxDestinationText).map fun bs => 1 :: ton :: npi :: bs
  | .distributionList name =>
      (encodeText "DistributionList" name maxDestinationText).map fun bs => 2 :: bs

/-- A mandatory field. -/
def encodeMandatory (f : FieldSpec) (v : FieldValue) : Except Error (List UInt8) :=
  match f.kind, v with
  | .text max, .text s => encodeText f.label s max
  | .integer _, .u8 n => .ok [n]
  | .shortMessage, .octets bs =>
      if maxShortMessage < bs.length then
        .error (.fieldTooLong f.label bs.length maxShortMessage)
      else .ok (UInt8.ofNat bs.length :: bs)
  | .destinations, .destinations ds =>
      if maxDestinations < ds.length then
        .error (.fieldTooLong f.label ds.length maxDestinations)
      else
        (ds.mapM (encodeDestination f.label)).map fun parts =>
          UInt8.ofNat ds.length :: parts.flatten
  | .unsuccessful, .unsuccessful _ => .error (.unsupported .unsuccessfulList)
  | _, _ => .error (.valueMismatch f.label)

/-- The value of an optional field behind its length. -/
def encodeTlvValue (t : TlvSpec) (v : FieldValue) : Except Error (List UInt8) :=
  match t.kind, v with
  | .u8, .u8 n => .ok (octets16 1 ++ [n])
  | .u16, .u16 n => .ok (octets16 2 ++ octets16 n)
  | .u32, .u32 n => .ok (octets16 4 ++ octets32 n)
  | .text, .text s =>
      let bs := Text.Utf8.encode s
      (encodeTlvLength t.label (bs.length + 1)).map fun len => len ++ bs ++ [0]
  | .octets, .octets bs => (encodeTlvLength t.label bs.length).map fun len => len ++ bs
  | .flag, .flag => .ok (octets16 0)
  | .networkError, .networkError n c => .ok (octets16 3 ++ n :: octets16 c)
  | _, _ => .error (.valueMismatch t.label)

/-- An optional field: tag, length and value. -/
def encodeOptional (t : TlvSpec) (v : FieldValue) : Except Error (List UInt8) :=
  if t.implemented then (encodeTlvValue t v).map fun bs => octets16 t.tag ++ bs
  else .error (.unsupported (.optionalField t.label))

/-- An optional field that is kept as raw octets. -/
def encodeUnknown (t : RawTlv) : Except Error (List UInt8) :=
  (encodeTlvLength "Tlv" t.value.length).map fun len => octets16 t.tag ++ len ++ t.value

/-- Everything after the header. -/
def encodeBody (m : Message) : Except Error (List UInt8) := do
  let mandatory ← m.layout.mandatory.mapM fun f =>
    match m.mandatory.get? f.id with
    | some v => encodeMandatory f v
    | none => .error (.valueMismatch f.label)
  let optional ← m.optionalFields.mapM fun e => encodeOptional e.1 e.2
  let unknown ← m.unknown.mapM encodeUnknown
  return mandatory.flatten ++ optional.flatten ++ unknown.flatten

/-- The octets of a message.  A length that does not fit into its word is reduced modulo
2^32. -/
def encode (m : Message) : Except Error (List UInt8) :=
  match m.layout.unsupported with
  | some reason => .error (.unsupported (.messageType reason))
  | none =>
      (encodeBody m).map fun body =>
        let length := UInt32.ofNat (headerSize + body.length)
        (Header.mk length m.type.id m.status m.sequence).encode ++ body

end Pdu
end SmppReplay
