import SmppReplay.Batch.Event
import SmppReplay.Batch.FieldContent
import SmppReplay.Pdu.Encode
import SmppReplay.Script.Xml.Document

/-!
# Compilation

**Input.**  The root element of a script and the defaults for what the script leaves open.

**Algorithm.** The children of the root become events in document order; children with
unknown names become nothing.  Messages without a sequence number are numbered from one, in
order.  A message takes its fields from its child elements, the last one of a field
counting, over the account defaults and the defaults of the layout.  Each message must have
a wire form.

**Result.**  All events, or the first fault in document order.
-/

namespace SmppReplay
namespace Batch

open Script (Element)

/-- What a script may leave open. -/
structure Defaults where
  host : String := "localhost"
  port : UInt16 := 2775
  systemId : String := ""
  password : String := ""
  systemType : String := ""
  deriving DecidableEq, Repr

/-- The name of the element with a message's sequence number. -/
def sequenceName : String := "SequenceNumber"

/-- The name of the element with a message's status. -/
def statusName : String := "CommandStatus"

/-- A status by number or by name. -/
def readStatus (raw : String) : Except CompileError UInt32 :=
  match Text.Numeral.uint32? raw with
  | some n => .ok n
  | none => numberOr statusName raw ((StatusCode.ofName? raw).map StatusCode.code)

/-- The messages that open a session and carry an account. -/
def isLogin : MessageType → Bool
  | .bindReceiver | .bindTransmitter | .bindTransceiver | .outbind => true
  | _ => false

/-- A fault of a message as a fault of compilation. -/
def ofPdu {α : Type} (r : Except Pdu.Error α) : Except CompileError α :=
  r.mapError .pdu

/-- Sets a mandatory field if the layout has it. -/
def setIfPresent (m : Message) (id : FieldId) (s : String) : Except CompileError Message :=
  if (m.layout.mandatoryField? id).isSome then ofPdu (m.setMandatory id (.text s)) else .ok m

/-- The message with the account of the defaults. -/
def withAccount (d : Defaults) (m : Message) : Except CompileError Message := do
  let m ← setIfPresent m .systemId d.systemId
  let m ← setIfPresent m .password d.password
  setIfPresent m .systemType d.systemType

/-- A child that does not set a field: sequence number, status, and the defaults for
destinations. -/
def isAside (type : MessageType) (name : String) : Bool :=
  name == sequenceName || name == statusName ||
    (type == .submitMulti && (name == "DestAddrTON" || name == "DestAddrNPI"))

/-- The message with the field of one more child. -/
def applyChild (pdu : Element) (m : Message) (child : Element) :
    Except CompileError Message :=
  if isAside m.type child.name then .ok m
  else
    match m.layout.mandatory.find? fun f => f.accepts child.name with
    | some f => do
        let v ← mandatoryValue f pdu child
        ofPdu (m.setMandatory f.id v)
    | none =>
        match m.layout.optional.find? fun t => t.element == child.name with
        | some t =>
            if t.implemented then do
              match ← optionalValue t child with
              | some v => ofPdu (m.setOptional t.id v)
              | none => return m
            else .error (.unsupported (.optionalField m.type t.element))
        | none => .error (.unknownField m.type child.name)

/-- Every field that a script must give is among the children. -/
def checkRequired (type : MessageType) (pdu : Element) : Except CompileError Unit :=
  match type.layout.mandatory.find? fun f =>
      f.required && !pdu.children.any fun c => f.accepts c.name with
  | some f => .error (.missingField type.name f.element)
  | none => .ok ()

/-- The type of a message element. -/
def messageType (pdu : Element) : Except CompileError MessageType :=
  match pdu.attribute? "type" with
  | none => .error (.missingAttribute pdu.name "type")
  | some s =>
      match MessageType.ofName? s with
      | none => .error (.unknownMessageType s)
      | some type =>
          match type.layout.unsupported with
          | some reason => .error (.unsupported (.messageType reason))
          | none => .ok type

/-- The sequence number that a message element gives. -/
def explicitSequence (pdu : Element) : Except CompileError (Option UInt32) :=
  match pdu.child? sequenceName with
  | some c => (readUInt32 sequenceName c.trimmedText).map some
  | none => .ok none

/-- The status that a message element gives. -/
def givenStatus (pdu : Element) : Except CompileError UInt32 :=
  match pdu.child? statusName with
  | some c => readStatus c.trimmedText
  | none => .ok StatusCode.ok.code

/-- The message of an element; `next` is its number if it gives none. -/
def message (d : Defaults) (next : UInt32) (pdu : Element) : Except CompileError Message := do
  let type ← messageType pdu
  let sequence ← explicitSequence pdu
  let status ← givenStatus pdu
  let m := ((Message.new type).withSequence (sequence.getD next)).withStatus status
  let m ← if isLogin type then withAccount d m else pure m
  let m ← pdu.children.foldlM (applyChild pdu) m
  checkRequired type pdu
  let _ ← ofPdu (Pdu.encode m)
  return m

/-- The endpoint of a connect element. -/
def endpoint (d : Defaults) (e : Element) : Except CompileError Transport.Endpoint :=
  match e.child? "Server" with
  | none => .error (.missingField e.name "Server")
  | some server => do
      let host := if server.trimmedText = "" then d.host else server.trimmedText
      let port ← match server.attribute? "port" with
        | some raw => readUInt16 "port" raw
        | none => pure d.port
      return ⟨host, port⟩

/-- The length of a pause element. -/
def pauseLength (e : Element) : Except CompileError Millis :=
  match e.attribute? "millis" with
  | none => .error (.invalidPause "")
  | some raw =>
      match (Text.Numeral.integer? raw).bind Millis.ofUInt64? with
      | some n => .ok n
      | none => .error (.invalidPause raw)

/-- The parts of a text between commas. -/
def commaParts (s : String) : List String :=
  (s.toList.splitOnP (· == ',')).map String.ofList

/-- The settings that an attribute of a settings element lists. -/
def switches (e : Element) (key : String) (enabled : Bool) : Except CompileError Batch :=
  match e.attribute? key with
  | none => .ok []
  | some s =>
      (((commaParts s).map Text.trim).filter fun n => n != "").mapM fun n =>
        match MessageType.ofName? n with
        | some type => .ok (.setAutoReply type enabled)
        | none => .error (.unknownMessageType n)

/-- The events of a settings element: what is switched on, then what is switched off. -/
def settings (e : Element) : Except CompileError Batch := do
  let on ← switches e "autoResponse" true
  let off ← switches e "noAutoResponse" false
  return on ++ off

/-- The number for the next message without one, after an element. -/
def nextAfter (next : UInt32) (e : Element) : UInt32 :=
  if e.isNamed "PDU" && (e.child? sequenceName).isNone then next + 1 else next

/-- The events of one child of the root. -/
def element (d : Defaults) (next : UInt32) (e : Element) : Except CompileError Batch :=
  if e.isNamed "PDU" then (message d next e).map fun m => [.send m]
  else if e.isNamed "Connect" then (endpoint d e).map fun p => [.connect p]
  else if e.isNamed "Disconnect" then .ok [.disconnect]
  else if e.isNamed "Pause" then (pauseLength e).map fun n => [.pause n]
  else if e.isNamed "Settings" then settings e
  else .ok []

/-- The events of the children of the root; `next` numbers the first message without a
number. -/
def elements (d : Defaults) (next : UInt32) : List Element → Except CompileError Batch
  | [] => .ok []
  | e :: es => do
      let events ← element d next e
      let rest ← elements d (nextAfter next e) es
      return events ++ rest

/-- The batch of a script's root element. -/
def compile (d : Defaults) (root : Element) : Except CompileError Batch :=
  elements d 1 root.children

/-- The batch of a script. -/
def compileXml (d : Defaults) (s : String) : Except CompileError Batch := do
  let root ← (Element.ofXml s).mapError .script
  compile d root

/-- The content of a script file, or why there is none. -/
inductive Source where
  | missing
  | octets (bs : List UInt8)
  /-- The file cannot be read; the system's words. -/
  | unreadable (text : String)
  deriving DecidableEq, Repr

/-- The text of a script file. -/
def Source.read : Source → Except Script.Error String
  | .missing => .error (.io "No such file or directory (os error 2)")
  | .unreadable text => .error (.io text)
  | .octets bs =>
      match Text.Utf8.decode? bs with
      | some s => .ok s
      | none => .error (.io "stream did not contain valid UTF-8")

/-- The batch of a script file. -/
def compileFile (d : Defaults) (source : Source) : Except CompileError Batch := do
  let s ← source.read.mapError .script
  compileXml d s

end Batch
end SmppReplay
