import SmppReplay.AutoReply.Responder
import SmppReplay.Batch.Compile
import SmppReplay.ExecutionError
import SmppReplay.Transport.Framing

/-!
# Settings

What a user may set, with the defaults, and the conditions that settings meet before a run.

* `Settings.fault?` tells the first condition that settings do not meet.
* `Settings.setup` is what a run takes from them.
-/

namespace SmppReplay

/-- The peer of connections that name none. -/
structure ServerSettings where
  host : String := "localhost"
  port : UInt16 := 2775
  deriving DecidableEq, Repr

/-- The account of messages that name none. -/
structure AccountSettings where
  systemId : String := ""
  systemType : String := ""
  password : String := ""
  deriving DecidableEq, Repr

/-- How connections are used. -/
structure ConnectionSettings where
  framing : Transport.Framing := {}
  /-- Octets are sent without waiting for more. -/
  noDelay : Bool := true
  deriving DecidableEq, Repr

/-- All settings. -/
structure Settings where
  server : ServerSettings := {}
  account : AccountSettings := {}
  /-- The transcript is shown on the console too. -/
  echo : Bool := true
  /-- The names of the types that are answered on a new connection. -/
  autoReply : List String := AutoReply.standardTypes.map MessageType.name
  connection : ConnectionSettings := {}
  deriving DecidableEq, Repr

namespace Settings

/-- What scripts may leave open. -/
def defaults (s : Settings) : Batch.Defaults where
  host := s.server.host
  port := s.server.port
  systemId := s.account.systemId
  password := s.account.password
  systemType := s.account.systemType

/-- The type with a name. -/
def typeOfName (name : String) : Except ExecutionError MessageType :=
  match MessageType.ofName? name with
  | some t => .ok t
  | none => .error (.config ("auto_response 中未知的消息类型: " ++ name))

/-- The types that are answered on a new connection. -/
def autoTypes (s : Settings) : Except ExecutionError (List MessageType) :=
  s.autoReply.mapM typeOfName

end Settings

/-- Frames must be able to hold a header. -/
def ConnectionSettings.fault? (c : ConnectionSettings) : Option Transport.Error :=
  if c.framing.maxFrame < Pdu.headerSize then
    some (.config s!"max_frame_len 不能小于头部长度 {Pdu.headerSize}")
  else none

/-- What keeps settings from being used. -/
inductive SettingsFault where
  | emptyHost
  | zeroPort
  | autoReply (e : ExecutionError)
  | connection (e : Transport.Error)
  deriving DecidableEq, Repr

/-- The wording of a fault of settings. -/
def SettingsFault.message : SettingsFault → String
  | .emptyHost => "Server host cannot be empty"
  | .zeroPort => "Server port cannot be 0"
  | .autoReply e => e.message
  | .connection e => e.message

/-- What a run takes from the settings. -/
structure Setup where
  connection : ConnectionSettings
  autoTypes : List MessageType
  deriving DecidableEq, Repr

namespace Settings

/-- The first condition that the settings do not meet. -/
def fault? (s : Settings) : Option SettingsFault :=
  if s.server.host = "" then some .emptyHost
  else if s.server.port = 0 then some .zeroPort
  else
    match s.autoTypes with
    | .error e => some (.autoReply e)
    | .ok _ => s.connection.fault?.map .connection

/-- What a run takes from the settings, if they allow one. -/
def setup (s : Settings) : Except ExecutionError Setup :=
  match s.connection.fault? with
  | some e => .error (.transport e)
  | none => s.autoTypes.map fun types => ⟨s.connection, types⟩

end Settings
end SmppReplay
