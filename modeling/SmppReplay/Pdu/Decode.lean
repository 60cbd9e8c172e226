import SmppReplay.Pdu.Header
import SmppReplay.Pdu.Message

/-!
# Octets as messages

**Input.**  One frame.

**Algorithm.** The header must give the frame's own length and a known command number.  The
mandatory fields are read in layout order; what is left must be a sequence of optional
fields, each a tag, a length and as many octets.  An optional field of the layout whose
octets fit its kind becomes a field of the message, a later one in place of an earlier one;
every other one is kept as raw octets.  A response without a body is the response with
default fields.

Texts may hold any octets: what is not UTF-8 is replaced by U+FFFD.
-/

namespace SmppReplay
namespace Pdu

/-- A reader takes what it needs from the front of the octets and leaves the rest. -/
abbrev Reader (α : Type) := StateT (List UInt8) (Except Error) α

/-- One octet. -/
def readOctet (label : String) : Reader UInt8 := fun bs =>
  match bs with
  | b :: rest => .ok (b, rest)
  | [] => .error (.malformed (.missing label))

/-- Splits off the first `n` octets, if there are as many. -/
def splitOctets? (n : Nat) (bs : List UInt8) : Option (List UInt8 × List UInt8) :=
  let taken := bs.take n
  if taken.length = n then some (taken, bs.drop n) else none

/-- A text up to its NUL, which is taken too. -/
def readText (label : String) : Reader String := fun bs =>
  match bs.span (· != 0) with
  | (text, _ :: rest) => .ok (Text.Utf8.decodeLossy text, rest)
  | (_, []) => .error (.malformed (.unterminated label))

/-- A word of thirty-two bits, the status of a failed destination. -/
def readStatus : Reader UInt32 := fun bs =>
  match bs with
  | a :: b :: c :: d :: rest => .ok (word32 a b c d, rest)
  | _ => .error (.malformed .truncatedStatus)

/-- A length octet and as many octets. -/
def readShortMessage (label : String) : Reader (List UInt8) := do
  let n ← readOctet label
  fun bs =>
    match splitOctets? n.toNat bs with
    | some r => .ok r
    | none => .error (.malformed (.shortMessageOverrun n.toNat bs.length))

/-- One destination of a list. -/
def readDestination (label : String) : Reader Destination := do
  let flag ← readOctet "dest_flag"
  if flag = 1 then
    let ton ← readOctet "dest_addr_ton"
    let npi ← readOctet "dest_addr_npi"
    let address ← readText label
    return .address ton npi address
  else if flag = 2 then
    let name ← readText "dl_name"
    return .distributionList name
  else
    throw (.malformed (.unknownDestinationFlag flag))

/-- One failed destination of a list. -/
def readFailedDestination (label : String) : Reader FailedDestination := do
  let ton ← readOctet "dest_addr_ton"
  let npi ← readOctet "dest_addr_npi"
  let address ← readText label
  let status ← readStatus
  return ⟨ton, npi, address, status⟩

/-- As many items as asked for. -/
def readItems {α : Type} (item : Reader α) : Nat → Reader (List α)
  | 0 => pure []
  | n + 1 => do
      let a ← item
      let as ← readItems item n
      return a :: as

/-- The value of a mandatory field. -/
def readMandatory (f : FieldSpec) : Reader FieldValue :=
  match f.kind with
  | .text _ => .text <$> readText f.label
  | .integer _ => .u8 <$> readOctet f.label
  | .shortMessage => .octets <$> readShortMessage f.label
  | .destinations => do
      let n ← readOctet f.label
      .destinations <$> readItems (readDestination f.label) n.toNat
  | .unsuccessful => do
      let n ← readOctet f.label
      .unsuccessful <$> readItems (readFailedDestination f.label) n.toNat

/-- The values of the mandatory fields, in the order of the list. -/
def readFields (fs : List FieldSpec) : Reader (List (FieldId × FieldValue)) :=
  fs.mapM fun f => do
    let v ← readMandatory f
    return (f.id, v)

/-- One optional field as raw octets, and the octets after it. -/
def splitTlv (bs : List UInt8) : Except Error (RawTlv × List UInt8) :=
  match bs with
  | t₀ :: t₁ :: l₀ :: l₁ :: rest =>
      let tag := word16 t₀ t₁
      let size := (word16 l₀ l₁).toNat
      match splitOctets? size rest with
      | some (value, rest') => .ok (⟨tag, value⟩, rest')
      | none => .error (.malformed (.tlvOverrun tag size rest.length))
  | _ => .error (.malformed .truncatedTlvHeader)

theorem length_lt_of_splitTlv {bs rest : List UInt8} {t : RawTlv}
    (h : splitTlv bs = .ok (t, rest)) : rest.length < bs.length := by
  unfold splitTlv at h
  split at h
  · next t₀ t₁ l₀ l₁ r =>
    simp only [splitOctets?] at h
    split at h
    · next value rest' heq =>
      split at heq
      · simp only [Option.some.injEq, Prod.mk.injEq] at heq
        simp only [Except.ok.injEq, Prod.mk.injEq] at h
        rw [← h.2, ← heq.2]
        simp only [List.length_drop, List.length_cons]
        omega
      · exact absurd heq (by simp)
    · exact absurd h (by simp)
  · exact absurd h (by simp)

/-- The optional fields up to the end of the octets. -/
def splitTlvs (bs : List UInt8) : Except Error (List RawTlv) :=
  if bs.isEmpty then .ok []
  else
    match _h : splitTlv bs with
    | .error e => .error e
    | .ok (t, rest) => (splitTlvs rest).map fun ts => t :: ts
termination_by bs.length
decreasing_by exact length_lt_of_splitTlv _h

/-- The value that the octets have for an optional field, if they fit its kind. -/
def tlvValue? (t : TlvSpec) (value : List UInt8) : Option FieldValue :=
  if t.implemented then
    match t.kind, value with
    | .u8, [a] => some (.u8 a)
    | .u16, [a, b] => some (.u16 (word16 a b))
    | .u32, [a, b, c, d] => some (.u32 (word32 a b c d))
    | .text, a :: r => some (.text (Text.Utf8.decodeLossy ((a :: r).takeWhile (· != 0))))
    | .octets, bs => some (.octets bs)
    | .flag, [] => some .flag
    | .networkError, [n, a, b] => some (.networkError n (word16 a b))
    | _, _ => none
  else none

/-- The message with one more optional field: a field of the layout if the octets fit, else
raw. -/
def addTlv (m : Message) (t : RawTlv) : Except Error Message :=
  match (m.layout.byTag? t.tag).bind fun spec =>
    (tlvValue? spec t.value).map fun v => (spec, v) with
  | some (spec, v) => m.setOptional spec.id v
  | none => .ok (m.pushUnknown t.tag t.value)

/-- The message with the fields of a body added. -/
def readBody (m : Message) (body : List UInt8) : Except Error Message := do
  let (fields, rest) ← (readFields m.layout.mandatory).run body
  let m ← fields.foldlM (fun m e => m.setMandatory e.1 e.2) m
  let tlvs ← splitTlvs rest
  tlvs.foldlM addTlv m

/-- The message that a frame writes. -/
def decode (frame : List UInt8) : Except Error Message := do
  let (header, body) ← Header.split frame
  if header.length.toNat ≠ frame.length then
    throw (.malformed (.lengthMismatch header.length frame.length))
  match MessageType.ofId? header.commandId with
  | none => throw (.unknownCommandId header.commandId)
  | some type =>
      let m := ((Message.new type).withSequence header.sequence).withStatus header.status
      if body.isEmpty && type.isResponse then return m
      else readBody m body

end Pdu
end SmppReplay
