import SmppReplay.Settings.Document
import SmppReplay.Text.Quoted
import SmppReplay.Text.Utf8

/-!
# Loading settings

**Input.** The variables and the files of the system, and perhaps the path of a settings
file.

**Rules.** The file is the given one; else the one that the variable `SMPP_HARNESS_CONFIG`
names, if it is there; else `harness.toml` in the working directory; else
`.config/smpp-harness/config.toml` in the home directory.  Without a file the defaults hold.
Variables overrule the file.

**Result.**  The settings, or why there are none.
-/

namespace SmppReplay
namespace Settings

/-- What the system tells. -/
structure Surroundings where
  /-- The values of the variables that are set. -/
  environment : String → Option String
  /-- There is something at the path. -/
  isPresent : String → Bool
  /-- The octets of the file at the path, if they can be read. -/
  octets? : String → Option (List UInt8)
  /-- The home directory. -/
  home? : Option String

/-- Why settings cannot be loaded. -/
inductive LoadError where
  | unreadable (path : String)
  | malformed (format : Format) (path : String)
  | unknownFormat (path : String)
  | invalidPort
  deriving DecidableEq, Repr

/-- The wording of a fault of loading. -/
def LoadError.message : LoadError → String
  | .unreadable path => "Failed to read config file: " ++ Text.quotedPath path
  | .malformed format path =>
      "Failed to parse " ++ format.name ++ " config: " ++ Text.quotedPath path
  | .unknownFormat path => "Unsupported config file format: " ++ Text.quotedPath path
  | .invalidPort => "Invalid SMPP_PORT value"

/-- The extension of the file's name in a path: what follows its last point, unless that is
its first character. -/
def extension? (path : String) : Option String :=
  let name := (path.toList.reverse.takeWhile (· != '/')).reverse
  match name with
  | [] => none
  | _ :: r =>
      if r.contains '.' then
        some (String.ofList (r.reverse.takeWhile (· != '.')).reverse)
      else none

/-- The settings in the file at a path. -/
def ofFile (surroundings : Surroundings) (path : String) : Except LoadError Settings :=
  match (surroundings.octets? path).bind Text.Utf8.decode? with
  | none => .error (.unreadable path)
  | some s =>
      match (extension? path).bind Format.ofExtension? with
      | none => .error (.unknownFormat path)
      | some f =>
          match ofText? f s with
          | none => .error (.malformed f path)
          | some settings => .ok settings

/-- Where a settings file may lie when no path is given, in the order of search. -/
def candidates (surroundings : Surroundings) : List String :=
  (surroundings.environment "SMPP_HARNESS_CONFIG").toList ++ ["./harness.toml"] ++
    (surroundings.home?.map (· ++ "/.config/smpp-harness/config.toml")).toList

/-- The path of the settings file, if there is one. -/
def path? (surroundings : Surroundings) (given : Option String) : Option String :=
  given <|> (candidates surroundings).find? surroundings.isPresent

/-- The variables that settings depend on. -/
def variableNames : List String :=
  ["SMPP_HARNESS_CONFIG", "SMPP_SERVER", "SMPP_PORT", "SMPP_SYSTEM_ID", "SMPP_SYSTEM_TYPE",
    "SMPP_PASSWORD"]

/-- The settings with the values of variables in place of their own. -/
def overrule (surroundings : Surroundings) (s : Settings) : Except LoadError Settings :=
  let text (name old : String) : String := (surroundings.environment name).getD old
  let host := text "SMPP_SERVER" s.server.host
  let account : AccountSettings := {
    systemId := text "SMPP_SYSTEM_ID" s.account.systemId
    systemType := text "SMPP_SYSTEM_TYPE" s.account.systemType
    password := text "SMPP_PASSWORD" s.account.password }
  match surroundings.environment "SMPP_PORT" with
  | none => .ok { s with server := { s.server with host }, account }
  | some raw =>
      match Text.Numeral.decimal? UInt16.size raw with
      | none => .error .invalidPort
      | some port => .ok { s with server := { host, port := UInt16.ofNat port }, account }

/-- The settings for the surroundings and a given path. -/
def load (surroundings : Surroundings) (given : Option String) :
    Except LoadError Settings := do
  let s ← match path? surroundings given with
    | some path => ofFile surroundings path
    | none => .ok {}
  overrule surroundings s

end Settings
end SmppReplay
