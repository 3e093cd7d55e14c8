import ChunkArena.Text.Quoted
import ChunkArena.Failure
import ChunkArena.Log.Disk
import ChunkArena.Log.Escape
import ChunkArena.Log.LevelGrammar

/-!
Loggers. A logger writes every message at or above its least level to each of its targets in turn,
as one line with the time, the logger's label and the level. Of the two console streams the output
stream takes the levels below `error` and the error stream the others. A file that fails is
reported on the error stream, and the remaining targets are served. A console stream that takes
nothing stops the call, and the targets behind it get nothing.

How a time is written is a parameter: a format either has a text at the present time, or there is
no such format.
-/

namespace ChunkArena

inductive Target
  | stdout
  | stderr
  | file (path : String)
  deriving DecidableEq

namespace Target

def shown : Target → String
  | stdout => "Stdout"
  | stderr => "Stderr"
  | file path => "File(" ++ quoted path ++ ")"

/-- The console streams come before the files, and files are ordered by their paths. -/
def order : Target → Target → Ordering
  | stdout, stdout | stderr, stderr => .eq
  | stdout, _ => .lt
  | stderr, stdout => .gt
  | stderr, file _ => .lt
  | file a, file b => compare a b
  | file _, _ => .gt

def max (a b : Target) : Target := if a.order b = .gt then a else b

end Target

/-- The text of the present time in a format; none if there is no such format. -/
abbrev TimeText := String → Option String

structure Outputs where
  out : String
  err : String
  disk : Disk
  /-- Why a console stream takes nothing, if it takes nothing. -/
  fault : Console → Option FileFault

namespace Outputs

def empty : Outputs := ⟨"", "", .empty, fun _ => none⟩

def put (outputs : Outputs) (line : String) : Console → Outputs
  | .stdout => { outputs with out := outputs.out ++ line ++ "\n" }
  | .stderr => { outputs with err := outputs.err ++ line ++ "\n" }

def print (outputs : Outputs) (console : Console) (line : String) : Except Panic Outputs :=
  match outputs.fault console with
  | none => .ok (outputs.put line console)
  | some fault => .error (.printFailed console fault)

end Outputs

structure Logger where
  minLevel : Level
  label : String
  targets : List Target
  timeFormat : String

namespace Logger

def default : Logger := ⟨.debug, "System", [.stdout, .stderr], "%H:%M:%S%.3f"⟩

/-- What a logger is built from: the default, but with one target. -/
def blank : Logger := { default with targets := [.stdout] }

def coreVariable : String := "LINKBUMP_LOG"

/-- The least level that the value of the variable stands for: `warn` if it is unset, not text, or
not a level. -/
def coreLevel (setting : Option (List UInt8)) : Level :=
  match setting.bind fun bytes => String.fromUTF8? ⟨bytes.toArray⟩ with
  | none => .warn
  | some text =>
      match Level.parse text with
      | .ok level => level
      | .error _ => .warn

/-- The logger that the library itself writes to, unless another one is registered for it. -/
def core (setting : Option (List UInt8)) : Logger :=
  { default with label := "Core", minLevel := coreLevel setting }

def accepts (logger : Logger) (level : Level) : Bool := logger.minLevel ≤ level

def line (logger : Logger) (level : Level) (time message : String) : String :=
  s!"{time} - {logger.label} [{level.name}]: {message}"

def coloredLine (logger : Logger) (level : Level) (time message : String) : String :=
  Escape.text level.codes ++ logger.line level time message ++ Escape.text [Escape.reset]

def serve (logger : Logger) (level : Level) (time message : String) (outputs : Outputs) :
    Target → Except Panic Outputs
  | .stdout =>
      if .error ≤ level then .ok outputs
      else outputs.print .stdout (logger.coloredLine level time message)
  | .stderr =>
      if .error ≤ level then outputs.print .stderr (logger.coloredLine level time message)
      else .ok outputs
  | .file path =>
      match outputs.disk.append path (logger.line level time message ++ "\n") with
      | .ok disk => .ok { outputs with disk := disk }
      | .error failure => outputs.print .stderr failure.message

/-- Serves one target after the other, up to the first that panics. -/
def serveAll (logger : Logger) (level : Level) (time message : String) :
    List Target → Outputs → Option Panic × Outputs
  | [], outputs => (none, outputs)
  | target :: rest, outputs =>
      match logger.serve level time message outputs target with
      | .ok after => logger.serveAll level time message rest after
      | .error cause => (some cause, outputs)

/-- Writes a message to the targets if its level is accepted; the panic that stopped it, if any, and
what was written until then. The time is read first, so an invalid format stops the call before
anything is written. -/
def log (logger : Logger) (now : TimeText) (level : Level) (message : String)
    (outputs : Outputs) : Option Panic × Outputs :=
  if logger.accepts level then
    match now logger.timeFormat with
    | none => (some .timeFormat, outputs)
    | some time => logger.serveAll level time message logger.targets outputs
  else (none, outputs)

def shown (logger : Logger) : String :=
  "Logger \x7b min_level: " ++ logger.minLevel.word ++ ", label: " ++ quoted logger.label ++
    ", targets: [" ++ ", ".intercalate (logger.targets.map Target.shown) ++
    "], time_format: " ++ quoted logger.timeFormat ++ " \x7d"

end Logger

end ChunkArena
