import ChunkArena.Profile
import ChunkArena.Arena.Chunk
import ChunkArena.Arena.Report

/-!
Arenas, and the form in which their operations answer.

An arena holds a stack of chunks, newest first, and a cursor into the newest one. Its operations are
functions of the arena and of its environment; they never look at memory. What they do to the world
outside is the list of effects in their reply, in the order in which they happen: blocks obtained
and given back, bytes filled, reports made. A call that stops keeps the changes made before the
stop, so a reply always carries an arena and effects, whatever its result.
-/

namespace ChunkArena

def allocatedByte : UInt8 := 0xAB

def discardedByte : UInt8 := 0xCD

structure Arena where
  label : String
  chunkCapacity : Nat
  /-- Newest first. -/
  chunks : List Chunk
  cursor : Cursor
  nextSerial : Nat
  generation : Nat
  /-- The number of disable guards alive; always 0 in release builds. -/
  disabled : Nat
  deriving DecidableEq

structure Env where
  profile : Profile
  site : Layout → Nat
  /-- The panic that writing a report of that level raises, if any. -/
  complaint : Level → Option Panic

inductive Effect
  | obtain (chunk : Chunk)
  | giveBack (chunk : Chunk)
  | fill (start count : Nat) (byte : UInt8)
  | report (label : String) (entry : Report)
  deriving DecidableEq

structure Reply (α : Type) where
  result : Except Failure α
  arena : Arena
  effects : List Effect

def Profile.mark (profile : Profile) (byte : UInt8) (start count : Nat) : List Effect :=
  if profile.checks then [.fill start count byte] else []

def Profile.handOut (profile : Profile) : Nat → Nat → List Effect := profile.mark allocatedByte

def Profile.discard (profile : Profile) : Nat → Nat → List Effect := profile.mark discardedByte

def Env.afterReport (env : Env) (level : Level) : Except Failure Unit :=
  match env.complaint level with
  | none => .ok ()
  | some cause => .error (.panic cause)

/-- Ends an operation with a report; the report may panic, but what was done before it stays. -/
def Env.conclude (env : Env) (arena : Arena) (effects : List Effect) (entry : Report) :
    Reply Unit :=
  ⟨env.afterReport entry.level, arena, effects ++ [.report arena.label entry]⟩

structure Builder where
  label : String
  chunkCapacity : Nat
  deriving DecidableEq

namespace Builder

def default : Builder := ⟨"LinkedBumpAllocator", defaultCapacity⟩

def withLabel (builder : Builder) (label : String) : Builder := { builder with label := label }

def withChunkCapacity (builder : Builder) (capacity : Nat) : Builder :=
  { builder with chunkCapacity := max capacity 1 }

def build (builder : Builder) : Arena :=
  ⟨builder.label, builder.chunkCapacity, [], .empty, 0, 0, 0⟩

end Builder

namespace Arena

def new (label : String) : Arena := (Builder.default.withLabel label).build

def chunkCount (arena : Arena) : Nat := arena.chunks.length

def remaining (arena : Arena) : Nat := arena.cursor.remaining

/-- The chunk at a position, counted from the oldest. -/
def chunkAt? (arena : Arena) (index : Nat) : Option Chunk := arena.chunks.reverse[index]?

/-- Whether an address lies in some chunk or directly after one. -/
def owns (arena : Arena) (address : Nat) : Bool := arena.chunks.any (·.contains address)

def isDisabled (arena : Arena) : Bool := 0 < arena.disabled

def locate? (arena : Arena) (address : Nat) : Option (Nat × Nat) :=
  (arena.chunks.find? (·.contains address)).map fun chunk =>
    (chunk.serial, address - chunk.start)

def chunkOfSerial? (arena : Arena) (serial : Nat) : Option Chunk :=
  arena.chunks.find? (·.serial == serial)

end Arena

end ChunkArena
