import ChunkArena.Log.LogError

/-!
Every way in which an operation can stop.

A memory error is an answer: the call returned it. A panic is a stop in the middle of a call, after
which the state holds whatever was done before it. A refusal means that the call was not made at
all, because the holder of the arenas may not make it. The wording of errors and panics is fixed
here, in one function each.
-/

namespace ChunkArena

inductive MemoryError
  | outOfMemory (requested : Nat)
  | invalidAlignment (align : Nat)
  | sizeOverflow (requested align : Nat)
  | invalidLayout
  | notFromAllocator
  deriving DecidableEq

def MemoryError.message : MemoryError → String
  | outOfMemory requested => s!"Not enough memory to allocate {requested} bytes"
  | invalidAlignment align => s!"Alignment {align} is not a power of two"
  | sizeOverflow requested align =>
      s!"Cannot lay out {requested} bytes aligned to {align} in a single chunk"
  | invalidLayout => "invalid parameters to Layout::from_size_align"
  | notFromAllocator => "Trying to deallocate a pointer that was not allocated by this allocator"

inductive Panic
  | disabled (label : String)
  | refused (label : String) (cause : MemoryError)
  | arrayTooLong (label : String) (length : Nat) (element : String)
  | staleSnapshot (label : String) (index : Nat)
  | foreignSnapshot (label : String)
  /-- The client's own code: a clone, a default, a constructor, a destructor, a guarded scope. -/
  | cloneRefused
  | defaultRefused
  | constructorFailed
  | destructorFailed
  | scopeFailed
  | timeFormat
  | printFailed (console : Console) (fault : FileFault)
  | columnLimit
  /-- The remaining causes are internal checks: word arithmetic, assertions, unreachable code. -/
  | addOverflow
  | subOverflow
  | assertionFailed (text : String)
  | assertionUnequal (left right : String)
  | unreachable (text : String)
  deriving DecidableEq

def Panic.message : Panic → String
  | disabled label => s!"allocator \"{label}\" used while disabled"
  | refused label cause => s!"allocator \"{label}\": {cause.message}"
  | arrayTooLong label length element =>
      s!"allocator \"{label}\": array of {length} x {element} overflows"
  | staleSnapshot label index =>
      s!"stale rewind state for allocator \"{label}\": chunk #{index} was discarded by an earlier rewind"
  | foreignSnapshot label => s!"rewind state does not belong to allocator \"{label}\""
  | cloneRefused => "clone refused"
  | defaultRefused => "default refused"
  | constructorFailed => "constructor failed"
  | destructorFailed => "destructor failed"
  | scopeFailed => "scope failed"
  | timeFormat => "a Display implementation returned an error unexpectedly: Error"
  | printFailed console fault => s!"failed printing to {console.name}: {fault.message}"
  | columnLimit => "Formatting argument out of range"
  | addOverflow => "attempt to add with overflow"
  | subOverflow => "attempt to subtract with overflow"
  | assertionFailed text => text
  | assertionUnequal left right =>
      "assertion \x60left == right\x60 failed\n  left: " ++ left ++ "\n right: " ++ right
  | unreachable text => s!"internal error: entered unreachable code: {text}"

inductive Refusal
  | badInput
  | dropped
  | borrowed
  | consumed
  | noGuard
  | freed
  | dead
  | bounds
  | foreign
  | untyped
  | noChunk
  deriving DecidableEq

inductive Failure
  | error (cause : MemoryError)
  | panic (cause : Panic)
  | refused (cause : Refusal)
  deriving DecidableEq

end ChunkArena
