import SmppReplay.Pdu.Field
import SmppReplay.Text.Hex
import SmppReplay.Text.Utf8

/-!
# Field values

The values that fields hold, which kinds of field they fit, and how they are shown.
-/

namespace SmppReplay

/-- A destination of a message to many. -/
inductive Destination where
  /-- One address with its type of number and numbering plan. -/
  | address (ton npi : UInt8) (address : String)
  /-- A distribution list by name. -/
  | distributionList (name : String)
  deriving DecidableEq, Repr

/-- A destination that a message did not reach. -/
structure FailedDestination where
  ton : UInt8
  npi : UInt8
  address : String
  status : UInt32
  deriving DecidableEq, Repr

/-- The value of a field. -/
inductive FieldValue where
  | u8 (n : UInt8)
  | u16 (n : UInt16)
  | u32 (n : UInt32)
  | text (s : String)
  | octets (bs : List UInt8)
  | flag
  | networkError (networkType : UInt8) (errorCode : UInt16)
  | destinations (ds : List Destination)
  | unsuccessful (fs : List FailedDestination)
  deriving DecidableEq, Repr

namespace FieldValue

/-- The number of a value of one octet. -/
def u8? : FieldValue → Option UInt8
  | u8 n => some n
  | _ => none

/-- The text of a text value. -/
def text? : FieldValue → Option String
  | text s => some s
  | _ => none

/-- The octets of an octet value. -/
def octets? : FieldValue → Option (List UInt8)
  | octets bs => some bs
  | _ => none

/-- The value has the form that a mandatory field of the kind needs. -/
def fits : FieldKind → FieldValue → Bool
  | .text _, .text _ => true
  | .integer _, .u8 _ => true
  | .shortMessage, .octets _ => true
  | .destinations, .destinations _ => true
  | .unsuccessful, .unsuccessful _ => true
  | _, _ => false

/-- The value has the form that an optional field of the kind needs. -/
def fitsTlv : TlvKind → FieldValue → Bool
  | .u8, .u8 _ => true
  | .u16, .u16 _ => true
  | .u32, .u32 _ => true
  | .text, .text _ => true
  | .octets, .octets _ => true
  | .flag, .flag => true
  | .networkError, .networkError _ _ => true
  | _, _ => false

/-- The value of the field in a new message. -/
def default : FieldKind → FieldValue
  | .text _ => .text ""
  | .integer d => .u8 d
  | .shortMessage => .octets []
  | .destinations => .destinations []
  | .unsuccessful => .unsuccessful []

/-- Octets as upper-case hexadecimal digits after `0x`. -/
def hexOctets (bs : List UInt8) : String :=
  "0x" ++ Text.Hex.upper bs

/-- A control character: U+0000 to U+001F and U+007F to U+009F. -/
def isControl (c : Char) : Bool :=
  c.toNat < 0x20 || (0x7F ≤ c.toNat && c.toNat < 0xA0)

/-- A control character other than a line feed, a carriage return or a tab. -/
def isBinary (c : Char) : Bool :=
  isControl c && c != '\n' && c != '\r' && c != '\t'

/-- A character of a text that must stay on one line. -/
def onOneLine (c : Char) : List Char :=
  if c = '\n' then ['\\', 'n']
  else if c = '\r' then ['\\', 'r']
  else if c = '\t' then ['\\', 't']
  else [c]

/-- Octets as a text on one line where they are a text without other control characters,
else in hexadecimal. -/
def showOctets (bs : List UInt8) : String :=
  match Text.Utf8.decode? bs with
  | some s =>
      if s.toList.any isBinary then hexOctets bs
      else String.ofList (s.toList.flatMap onOneLine)
  | none => hexOctets bs

/-- The value as transcripts show it. -/
def render : FieldValue → String
  | u8 n => toString n.toNat
  | u16 n => toString n.toNat
  | u32 n => toString n.toNat
  | text s => s
  | octets bs => showOctets bs
  | flag => "set"
  | networkError t c => s!"type={t.toNat}, code={c.toNat}"
  | destinations ds => s!"{ds.length} destination(s)"
  | unsuccessful fs => s!"{fs.length} unsuccessful"

end FieldValue

end SmppReplay
