import SmppReplay.InPlace
import SmppReplay.Pdu.Error
import SmppReplay.Pdu.FieldMap
import SmppReplay.Pdu.Layout
import SmppReplay.Pdu.StatusCode

/-!
# Messages

A message has a type, a sequence number, a status, a value for each mandatory field of its
type, and values for some of the optional ones.  Optional fields that the type does not know
are kept as raw octets.

* `Message.new` fills the mandatory fields with their defaults.
* `Message.putMandatory` and `Message.putOptional` check the field against the layout and
  the value against the field's kind, and leave every other part alone.
* `Message.fieldLines` lists the message for a transcript.
-/

namespace SmppReplay

/-- An optional field as raw octets. -/
structure RawTlv where
  tag : UInt16
  value : List UInt8
  deriving DecidableEq, Repr

/-- A protocol message. -/
structure Message where
  type : MessageType
  sequence : UInt32
  status : UInt32
  mandatory : FieldMap
  optional : FieldMap
  unknown : List RawTlv
  deriving DecidableEq, Repr

namespace Message

/-- The message of a type with sequence number 0, status 0 and default fields. -/
def new (type : MessageType) : Message where
  type := type
  sequence := 0
  status := StatusCode.ok.code
  mandatory := FieldMap.ofList (type.layout.mandatory.map fun f => (f.id, .default f.kind))
  optional := .empty
  unknown := []

/-- The message with another sequence number. -/
def withSequence (m : Message) (n : UInt32) : Message :=
  { m with sequence := n }

/-- The message with another status. -/
def withStatus (m : Message) (n : UInt32) : Message :=
  { m with status := n }

/-- The layout of the message's type. -/
def layout (m : Message) : Layout :=
  m.type.layout

/-- The defined status code that the message carries, if it is one. -/
def statusCode? (m : Message) : Option StatusCode :=
  StatusCode.ofCode? m.status

/-- Sets a mandatory field in place. -/
def putMandatory (id : FieldId) (v : FieldValue) : InPlace Pdu.Error Message Unit := do
  let m ← get
  match m.layout.mandatoryField? id with
  | none => throw (.fieldNotInLayout m.type id)
  | some f =>
      if v.fits f.kind then set { m with mandatory := m.mandatory.insert id v }
      else throw (.valueMismatch f.label)

/-- Sets an optional field in place. -/
def putOptional (id : FieldId) (v : FieldValue) : InPlace Pdu.Error Message Unit := do
  let m ← get
  match m.layout.optionalField? id with
  | none => throw (.fieldNotInLayout m.type id)
  | some t =>
      if v.fitsTlv t.kind then set { m with optional := m.optional.insert id v }
      else throw (.valueMismatch t.label)

/-- The message with a mandatory field set. -/
def setMandatory (m : Message) (id : FieldId) (v : FieldValue) : Except Pdu.Error Message :=
  (putMandatory id v).result m

/-- The message with an optional field set. -/
def setOptional (m : Message) (id : FieldId) (v : FieldValue) : Except Pdu.Error Message :=
  (putOptional id v).result m

/-- Takes an optional field away. -/
def clearOptional (m : Message) (id : FieldId) : Message :=
  { m with optional := m.optional.erase id }

/-- The value of a field, mandatory or optional. -/
def get? (m : Message) (id : FieldId) : Option FieldValue :=
  (m.mandatory.get? id).or (m.optional.get? id)

/-- Adds an optional field as raw octets. -/
def pushUnknown (m : Message) (tag : UInt16) (value : List UInt8) : Message :=
  { m with unknown := m.unknown ++ [⟨tag, value⟩] }

/-- The successful answer to a request, with the request's sequence number. -/
def response? (m : Message) : Option Message :=
  m.type.response?.map fun t => (new t).withSequence m.sequence

/-- The mandatory fields with their values, in layout order. -/
def mandatoryFields (m : Message) : List (FieldSpec × FieldValue) :=
  m.layout.mandatory.filterMap fun f => (m.mandatory.get? f.id).map fun v => (f, v)

/-- The optional fields that have a value, in layout order. -/
def optionalFields (m : Message) : List (TlvSpec × FieldValue) :=
  m.layout.optional.filterMap fun t => (m.optional.get? t.id).map fun v => (t, v)

/-- Sequence number, type and status on one line. -/
def summary (m : Message) : String :=
  s!"seq={m.sequence.toNat}, type={m.type.name}, status={StatusCode.label m.status}"

/-- The lines of a destination. -/
def destinationLines (label : String) : Destination → List (String × String)
  | .address ton npi address =>
      [("DestAddrTON", toString ton.toNat), ("DestAddrNPI", toString npi.toNat),
        (label, address)]
  | .distributionList name => [("DistributionList", name)]

/-- The lines of a failed destination. -/
def failedDestinationLines (label : String) (d : FailedDestination) :
    List (String × String) :=
  [("UnsuccessAddrTON", toString d.ton.toNat), ("UnsuccessAddrNPI", toString d.npi.toNat),
    (label, d.address), ("ErrorStatusCode", StatusCode.label d.status)]

/-- The lines of a mandatory field: one, but for lists some for each item. -/
def mandatoryLines (f : FieldSpec) : FieldValue → List (String × String)
  | .destinations ds => ds.flatMap (destinationLines f.label)
  | .unsuccessful fs => fs.flatMap (failedDestinationLines f.label)
  | v => [(f.label, v.render)]

/-- The message as keys and values: sequence number and status, the mandatory fields and the
optional fields in layout order, then the raw ones. -/
def fieldLines (m : Message) : List (String × String) :=
  [("Sequence", toString m.sequence.toNat), ("CommandStatus", StatusCode.label m.status)] ++
    m.mandatoryFields.flatMap (fun e => mandatoryLines e.1 e.2) ++
    m.optionalFields.map (fun e => (e.1.label, e.2.render)) ++
    m.unknown.map fun t =>
      ("Tlv0x" ++ Text.Numeral.hexPadded 4 t.tag.toNat, FieldValue.hexOctets t.value)

end Message

end SmppReplay
