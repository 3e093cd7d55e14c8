import ChunkArena.Memory.Layout

/-!
Chunks, and positions inside them.

A chunk is one block of memory. Each chunk knows the chunk below it by a handle: its position in the
stack of chunks together with its serial number. Serial numbers are never reused, so the handle of a
chunk that was given back never fits a later chunk at the same position. A cursor is the place that
the next allocation comes from; it names no chunk, and both of its addresses are null, while there
are no chunks.
-/

namespace ChunkArena

def chunkAlign : Nat := 8

def defaultCapacity : Nat := 4040

structure Handle where
  index : Nat
  serial : Nat
  deriving DecidableEq

structure Chunk where
  previous : Option Handle
  serial : Nat
  start : Nat
  layout : Layout
  deriving DecidableEq

namespace Chunk

def capacity (chunk : Chunk) : Nat := chunk.layout.size

def finish (chunk : Chunk) : Nat := chunk.start + chunk.capacity

/-- Whether an address lies in the chunk or directly after it. -/
def contains (chunk : Chunk) (address : Nat) : Bool :=
  chunk.start ≤ address && address ≤ chunk.finish

end Chunk

structure Cursor where
  chunk : Option Handle
  next : Nat
  limit : Nat
  deriving DecidableEq

namespace Cursor

def empty : Cursor := ⟨none, 0, 0⟩

def remaining (cursor : Cursor) : Nat := cursor.limit - cursor.next

end Cursor

structure Snapshot where
  cursor : Cursor
  generation : Nat
  deriving DecidableEq

end ChunkArena
