import SmppReplay.Document.Json.Reader
import SmppReplay.Document.Reading
import SmppReplay.Document.Toml.Reader
import SmppReplay.Document.Yaml.Node
import SmppReplay.Settings.Basic

/-!
# Settings in files

A file holds settings as a record of records, each of which may leave out what keeps its
default.  The extension of the file's name tells what the file is written in.
-/

namespace SmppReplay
namespace Settings

open Document (Positional)

/-- What a file is written in. -/
inductive Format where
  | toml
  | yaml
  | json
  deriving DecidableEq, Repr

/-- The name of a format. -/
def Format.name : Format → String
  | .toml => "TOML"
  | .yaml => "YAML"
  | .json => "JSON"

/-- The format with an extension; the case of letters matters. -/
def Format.ofExtension? (extension : String) : Option Format :=
  if extension = "toml" then some .toml
  else if extension = "yaml" ∨ extension = "yml" then some .yaml
  else if extension = "json" then some .json
  else none

/-- The document of a text. -/
def Format.read? : Format → String → Option Document
  | .toml => Document.Toml.read?
  | .yaml => Document.Yaml.read?
  | .json => Document.Json.read?

/-- How a list may stand for a record. -/
def Format.positional : Format → Positional
  | .toml => .lenient
  | .yaml => .refused
  | .json => .exact

/-- The peer that a document sets. -/
def serverOf? (p : Positional) (d : Document) : Option ServerSettings := do
  let fs ← d.asFields p ["host", "port"]
  let host ← fs.withDefault "host" Document.asText "localhost"
  let port ← fs.withDefault "port" (Document.asNatural UInt16.size) 2775
  return { host, port := UInt16.ofNat port }

/-- The account that a document sets. -/
def accountOf? (p : Positional) (d : Document) : Option AccountSettings := do
  let fs ← d.asFields p ["system_id", "system_type", "password"]
  let systemId ← fs.withDefault "system_id" Document.asText ""
  let systemType ← fs.withDefault "system_type" Document.asText ""
  let password ← fs.withDefault "password" Document.asText ""
  return { systemId, systemType, password }

/-- Whether a document asks for the transcript on the console. -/
def echoOf? (p : Positional) (d : Document) : Option Bool := do
  let fs ← d.asFields p ["echo_console"]
  fs.withDefault "echo_console" Document.asBool true

/-- The names of answered types that a document sets. -/
def autoReplyOf? (p : Positional) (d : Document) : Option (List String) := do
  let fs ← d.asFields p ["defaults"]
  fs.withDefault "defaults" (fun v => do (← v.asList).mapM Document.asText)
    (AutoReply.standardTypes.map MessageType.name)

/-- The use of connections that a document sets. -/
def connectionOf? (p : Positional) (d : Document) : Option ConnectionSettings := do
  let fs ← d.asFields p ["max_frame_len", "tcp_nodelay"]
  let maxFrame ← fs.withDefault "max_frame_len" (Document.asNatural UInt64.size) 65536
  let noDelay ← fs.withDefault "tcp_nodelay" Document.asBool true
  return { framing := { maxFrame }, noDelay }

/-- The settings that a document sets. -/
def ofDocument? (p : Positional) (d : Document) : Option Settings := do
  let fs ← d.asFields p ["server", "account", "transcript", "auto_response", "transport"]
  let server ← fs.withDefault "server" (serverOf? p) {}
  let account ← fs.withDefault "account" (accountOf? p) {}
  let echo ← fs.withDefault "transcript" (echoOf? p) true
  let autoReply ← fs.withDefault "auto_response" (autoReplyOf? p)
    (AutoReply.standardTypes.map MessageType.name)
  let connection ← fs.withDefault "transport" (connectionOf? p) {}
  return { server, account, echo, autoReply, connection }

/-- The settings that a text sets. -/
def ofText? (f : Format) (s : String) : Option Settings :=
  (f.read? s).bind (ofDocument? f.positional)

end Settings
end SmppReplay
