import ChunkArena.Log.Clock
import ChunkArena.Log.Logger

/-!
Named loggers, and everything that logging calls can see and change. A name is registered once and
for all. A call that sends a message forms the message only if the named logger exists and accepts
the level; the calls made while forming it come before the message itself.
-/

namespace ChunkArena

structure Registry where
  loggers : List (String × Logger)

namespace Registry

def empty : Registry := ⟨[]⟩

def find? (registry : Registry) (name : String) : Option Logger := registry.loggers.lookup name

def init (registry : Registry) (name : String) (logger : Logger) : Except LogError Registry :=
  match registry.find? name with
  | some _ => .error (.alreadyInitialized name)
  | none => .ok ⟨registry.loggers ++ [(name, logger)]⟩

def enabled (registry : Registry) (name : String) (level : Level) : Bool :=
  match registry.find? name with
  | some logger => logger.accepts level
  | none => false

theorem find?_init_same {registry after : Registry} {name : String} {logger : Logger}
    (done : registry.init name logger = .ok after) : after.find? name = some logger := by
  unfold init at done
  split at done
  · cases done
  · next absent =>
    cases done
    rw [find?, List.lookup_append, show registry.loggers.lookup name = none from absent]
    simp

theorem find?_init_other {registry after : Registry} {name other : String} {logger : Logger}
    (done : registry.init name logger = .ok after) (different : other ≠ name) :
    after.find? other = registry.find? other := by
  unfold init at done
  split at done
  · cases done
  · cases done
    have apart : (other == name) = false := by simpa using different
    simp [find?, List.lookup_append, List.lookup_cons, apart]

end Registry

structure Logs where
  now : TimeText
  setting : Option (List UInt8)
  registry : Registry
  outputs : Outputs

namespace Logs

def empty (setting : Option (List UInt8)) : Logs := ⟨Clock.sample.format?, setting, .empty, .empty⟩

def coreName : String := "core"

def logTo (logs : Logs) (name : String) (level : Level) (message : String) :
    Option Panic × Logs :=
  match logs.registry.find? name with
  | none => (none, logs)
  | some logger =>
      let (stopped, outputs) := logger.log logs.now level message logs.outputs
      (stopped, { logs with outputs := outputs })

/-- Whether, and how, writing to the core logger at that level panics. -/
def complaint (logs : Logs) (level : Level) : Option Panic := (logs.logTo coreName level "").1

end Logs

inductive Call
  | init (name : String) (logger : Logger)
  | initCore (logger : Option Logger)
  | enabled (name : String) (level : Level)
  | logTo (name : String) (level : Level) (message : String)
  /-- Sends a message that is formed only if it will be written; `during` are the calls made while
  it is formed. -/
  | send (name : String) (level : Level) (during : List Call) (message : String)

inductive CallAnswer
  | done
  | flag (value : Bool)
  | nothing
  | formed (count : Nat)

inductive CallFailure
  | error (cause : LogError)
  | panic (cause : Panic)

namespace Logs

def init (logs : Logs) (name : String) (logger : Logger) :
    Except CallFailure CallAnswer × Logs :=
  match logs.registry.init name logger with
  | .ok registry => (.ok .done, { logs with registry := registry })
  | .error cause => (.error (.error cause), logs)

mutual

def call : Call → Logs → Except CallFailure CallAnswer × Logs
  | .init name logger, logs => logs.init name logger
  | .initCore logger, logs => logs.init coreName (logger.getD (.core logs.setting))
  | .enabled name level, logs => (.ok (.flag (logs.registry.enabled name level)), logs)
  | .logTo name level message, logs =>
      match logs.logTo name level message with
      | (none, after) => (.ok .nothing, after)
      | (some cause, after) => (.error (.panic cause), after)
  | .send name level during message, logs =>
      if logs.registry.enabled name level then
        match callAll during logs with
        | (some cause, formed) => (.error (.panic cause), formed)
        | (none, formed) =>
            match formed.logTo name level message with
            | (none, after) => (.ok (.formed 1), after)
            | (some cause, after) => (.error (.panic cause), after)
      else (.ok (.formed 0), logs)

def callAll : List Call → Logs → Option Panic × Logs
  | [], logs => (none, logs)
  | first :: rest, logs =>
      match call first logs with
      | (.error (.panic cause), after) => (some cause, after)
      | (_, after) => callAll rest after

end

end Logs

end ChunkArena
