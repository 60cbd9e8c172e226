/-!
# Arguments of the command

The command takes two paths, the script's and the transcript's, and two options: `-c` or
`--config` with the path of a settings file, and `-l` or `--log-level` with a level.  An
option's value follows it as the next argument, or behind an equals sign, or right behind
the short form.  Behind `--` there are only paths.

`Request.ofArguments` reads the arguments in order; the first one that is wrong, or that
asks for help, decides.
-/

namespace SmppReplay
namespace Command

/-- An option with a value. -/
inductive Choice where
  | config
  | logLevel
  deriving DecidableEq, Repr

/-- What the arguments say, once they are complete. -/
structure Arguments where
  script : String
  transcript : String
  config : Option String := none
  logLevel : String := "info"
  deriving DecidableEq, Repr

/-- What the arguments ask for. -/
inductive Request where
  | run (a : Arguments)
  | help
  | version
  /-- The arguments are wrong. -/
  | misuse
  deriving DecidableEq, Repr

/-- The arguments so far. -/
structure Given where
  /-- The paths, the last one first. -/
  paths : List String := []
  config : Option String := none
  logLevel : Option String := none
  deriving DecidableEq, Repr

namespace Given

/-- One more path; there are at most two, and none is empty. -/
def addPath? (g : Given) (path : String) : Option Given :=
  if path = "" || 2 ≤ g.paths.length then none else some { g with paths := path :: g.paths }

/-- The value of an option; it is given once, and a path is not empty. -/
def choose? (g : Given) (choice : Choice) (value : String) : Option Given :=
  match choice with
  | .config =>
      if g.config.isSome || value = "" then none else some { g with config := some value }
  | .logLevel => if g.logLevel.isSome then none else some { g with logLevel := some value }

/-- The request of complete arguments. -/
def request (g : Given) : Request :=
  match g.paths with
  | [transcript, script] =>
      .run { script, transcript, config := g.config, logLevel := g.logLevel.getD "info" }
  | _ => .misuse

end Given

/-- What one argument is. -/
inductive Word where
  | path (s : String)
  /-- An option without its value. -/
  | choice (c : Choice)
  /-- An option with its value. -/
  | chosen (c : Choice) (value : String)
  | help
  | version
  /-- Only paths follow. -/
  | pathsOnly
  | unknown
  deriving DecidableEq, Repr

/-- The option with a long name. -/
def longChoice? (name : List Char) : Option Choice :=
  if name = "config".toList then some .config
  else if name = "log-level".toList then some .logLevel
  else none

/-- The argument behind two dashes. -/
def longWord (cs : List Char) : Word :=
  if cs.contains '=' then
    match longChoice? (cs.takeWhile (· != '=')) with
    | some c => .chosen c (String.ofList ((cs.dropWhile (· != '=')).drop 1))
    | none => .unknown
  else if cs = "help".toList then .help
  else if cs = "version".toList then .version
  else
    match longChoice? cs with
    | some c => .choice c
    | none => .unknown

/-- The argument behind one dash. -/
def shortWord (c : Char) (r : List Char) : Word :=
  if c = 'h' then .help
  else if c = 'V' then .version
  else if c = 'c' ∨ c = 'l' then
    let choice := if c = 'c' then Choice.config else .logLevel
    match r with
    | [] => .choice choice
    | '=' :: value => .chosen choice (String.ofList value)
    | value => .chosen choice (String.ofList value)
  else .unknown

/-- What an argument is, where options may stand. -/
def Word.ofArgument (s : String) : Word :=
  match s.toList with
  | ['-', '-'] => .pathsOnly
  | '-' :: '-' :: r => longWord r
  | '-' :: c :: r => shortWord c r
  | _ => .path s

/-- Reads the arguments behind `--`. -/
def parsePaths (g : Given) : List String → Request
  | [] => g.request
  | path :: r =>
      match g.addPath? path with
      | some g => parsePaths g r
      | none => .misuse

/-- Reads the arguments; `pending` is an option that waits for its value. -/
def parseFrom (g : Given) (pending : Option Choice) : List String → Request
  | [] => if pending.isSome then .misuse else g.request
  | s :: r =>
      match Word.ofArgument s, pending with
      | .path value, some c =>
          match g.choose? c value with
          | some g => parseFrom g none r
          | none => .misuse
      | _, some _ => .misuse
      | .path path, none =>
          match g.addPath? path with
          | some g => parseFrom g none r
          | none => .misuse
      | .choice c, none => parseFrom g (some c) r
      | .chosen c value, none =>
          match g.choose? c value with
          | some g => parseFrom g none r
          | none => .misuse
      | .help, none => .help
      | .version, none => .version
      | .pathsOnly, none => parsePaths g r
      | .unknown, none => .misuse

/-- What the arguments ask for. -/
def Request.ofArguments (args : List String) : Request :=
  parseFrom {} none args

end Command
end SmppReplay
