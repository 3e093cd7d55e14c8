import ChunkArena.World.Placement

/-!
Borrows of the chunks.

An arena keeps its chunks in a cell whose borrows are checked when they begin: there may be any
number for reading or one for writing, and a borrow that is refused is a panic. Here the calls that
borrow are written once more, each with what it does to the cell and with the moments at which code
of others runs, in the order of the statements. The cursor and the counters are values that are
copied in and out, and calls that own the arena reach the chunks past the cell: others come in at
their reports only.
-/

namespace ChunkArena

/-- Something that happens to a cell. -/
inductive Access
  | beginRead
  | endRead
  | beginWrite
  | endWrite
  /-- Code of others runs: the logger's, or that of clients. It may call the arena again. -/
  | outside
  deriving DecidableEq

inductive Cell
  | reading (borrows : Nat)
  | writing
  deriving DecidableEq

namespace Cell

def free : Cell := reading 0

/-- A cell after an access; none if the borrow is refused, if there is nothing to end, or if others
come in while a borrow is alive. -/
def access : Cell → Access → Option Cell
  | reading borrows, .beginRead => some (reading (borrows + 1))
  | reading (borrows + 1), .endRead => some (reading borrows)
  | reading 0, .beginWrite => some writing
  | writing, .endWrite => some free
  | reading 0, .outside => some free
  | _, _ => none

def follow : Cell → List Access → Option Cell
  | cell, [] => some cell
  | cell, access :: rest => (cell.access access).bind fun next => next.follow rest

end Cell

/-- A value, and what happened to the cell while it was computed. -/
structure Traced (α : Type) where
  accesses : List Access
  value : α

namespace Traced

instance : Monad Traced where
  pure value := ⟨[], value⟩
  bind first next := ⟨first.accesses ++ (next first.value).accesses, (next first.value).value⟩

def note (access : Access) : Traced Unit := ⟨[access], ()⟩

end Traced

def Env.concludeTraced (env : Env) (arena : Arena) (effects : List Effect) (entry : Report) :
    Traced (Reply Unit) := do
  Traced.note .outside
  return env.conclude arena effects entry

def Reply.owning {α : Type} (reply : Reply α) : Traced (Reply α) where
  accesses := reply.effects.flatMap fun
    | .report .. => [.outside]
    | .obtain _ | .giveBack _ | .fill .. => []
  value := reply

namespace Arena

def chunkCountTraced (arena : Arena) : Traced Nat := do
  Traced.note .beginRead
  let count := arena.chunks.length
  Traced.note .endRead
  return count

def ownsTraced (arena : Arena) (address : Nat) : Traced Bool := do
  Traced.note .beginRead
  let own := arena.chunks.any (·.contains address)
  Traced.note .endRead
  return own

def chunkAtTraced (arena : Arena) (index : Nat) : Traced (Option Chunk) := do
  Traced.note .beginRead
  let found := arena.chunks.reverse[index]?
  Traced.note .endRead
  return found

def appendTraced (arena : Arena) (env : Env) (size align : Nat) : Traced (Reply Unit) :=
  let capacity := max arena.chunkCapacity size
  match Layout.ofSizeAlign? (max capacity 1) (max align chunkAlign) with
  | none => return ⟨.error (.error (.sizeOverflow capacity align)), arena, []⟩
  | some layout =>
      let chunk : Chunk := ⟨arena.cursor.chunk, arena.nextSerial, env.site layout, layout⟩
      match env.profile.add arena.nextSerial 1 with
      | .error cause => return ⟨.error (.panic cause), arena, [.obtain chunk, .giveBack chunk]⟩
      | .ok serial => do
          Traced.note .beginWrite
          let index := arena.chunks.length
          let chunks := chunk :: arena.chunks
          -- The borrow ends before the logger is called.
          Traced.note .endWrite
          let extended : Arena := { arena with
            chunks := chunks
            cursor := ⟨some ⟨index, chunk.serial⟩, chunk.start, chunk.finish⟩
            nextSerial := serial }
          env.concludeTraced extended [.obtain chunk] (.appended index chunk.capacity)

def reserveTraced (arena : Arena) (env : Env) (size align : Nat) : Traced (Reply Nat) :=
  match arena.bump env.profile size align with
  | .error cause => return ⟨.error (.panic cause), arena, []⟩
  | .ok (some (start, cursor)) =>
      return ⟨.ok start, { arena with cursor := cursor }, env.profile.handOut start size⟩
  | .ok none => do
      let appended ← arena.appendTraced env size align
      match appended.result with
      | .error failure => return ⟨.error failure, appended.arena, appended.effects⟩
      | .ok () =>
          match appended.arena.bump env.profile size align with
          | .error cause => return ⟨.error (.panic cause), appended.arena, appended.effects⟩
          | .ok none =>
              return ⟨.error (.panic (.unreachable
                "a fresh chunk always fits the request it was sized for")),
                appended.arena, appended.effects⟩
          | .ok (some (start, cursor)) =>
              return ⟨.ok start, { appended.arena with cursor := cursor },
                appended.effects ++ env.profile.handOut start size⟩

def tryAllocateTraced (arena : Arena) (env : Env) (size align : Nat) : Traced (Reply Nat) :=
  if env.profile.checks && arena.isDisabled then
    return ⟨.error (.panic (.disabled arena.label)), arena, []⟩
  else if isPowerOfTwo align then arena.reserveTraced env size align
  else return ⟨.error (.error (.invalidAlignment align)), arena, []⟩

def allocateTraced (arena : Arena) (env : Env) (size align : Nat) : Traced (Reply Nat) := do
  let reply ← arena.tryAllocateTraced env size align
  match reply.result with
  | .error (.error cause) =>
      return { reply with result := .error (.panic (.refused arena.label cause)) }
  | _ => return reply

def growTraced (arena : Arena) (env : Env) (start old new elementSize : Nat) :
    Traced (Reply Bool) :=
  let refused : Reply Bool := ⟨.ok false, arena, []⟩
  if env.profile.checks && arena.isDisabled then
    return ⟨.error (.panic (.disabled arena.label)), arena, []⟩
  else if new < old then return refused
  else if wordLimit ≤ old * elementSize ∨ wordLimit ≤ new * elementSize then return refused
  else match arena.cursor.chunk with
    | none => return refused
    | some handle => do
        match ← arena.chunkAtTraced handle.index with
        | none => return refused
        | some chunk =>
            if start < chunk.start ∨ wordLimit ≤ start + old * elementSize ∨
                start + old * elementSize ≠ arena.cursor.next then return refused
            else
              match env.profile.sub (new * elementSize) (old * elementSize) with
              | .error cause => return ⟨.error (.panic cause), arena, []⟩
              | .ok extra =>
                  match env.profile.sub arena.cursor.limit arena.cursor.next with
                  | .error cause => return ⟨.error (.panic cause), arena, []⟩
                  | .ok free =>
                      if free < extra then return refused
                      else
                        return ⟨.ok true,
                          { arena with
                            cursor := { arena.cursor with next := arena.cursor.next + extra } },
                          env.profile.handOut arena.cursor.next extra⟩

def disownsTraced (arena : Arena) (profile : Profile) (address : Nat) : Traced Bool :=
  if profile.checks then do
    let own ← arena.ownsTraced address
    return !own
  else return false

def deallocateTraced (arena : Arena) (env : Env) (address : Nat) (layout : Layout) :
    Traced (Reply Unit) := do
  if ← arena.disownsTraced env.profile address then
    return ⟨.error (.error .notFromAllocator), arena, []⟩
  else return ⟨.ok (), arena, env.profile.discard address layout.size⟩

def allocateArrayTraced (arena : Arena) (env : Env) (kind : Kind) (count : Nat) :
    Traced (Reply Nat) :=
  match kind.layout.array? count with
  | none => return ⟨.error (.panic (.arrayTooLong arena.label count kind.name)), arena, []⟩
  | some layout => arena.allocateTraced env layout.size layout.align

end Arena

end ChunkArena
