import ChunkArena.World.Basic

/-!
The operations of a session, and their answers.

A session works with arenas, allocations, snapshots and guards by number, in the order in which they
came into being. An answer names a place in memory by its chunk and the offset in it.
-/

namespace ChunkArena

inductive BuilderCall
  | label (label : String)
  | chunkCapacity (capacity : Nat)

inductive Creation
  | new (label : String)
  | default
  | builder (calls : List BuilderCall)

def BuilderCall.apply (builder : Builder) : BuilderCall → Builder
  | .label text => builder.withLabel text
  | .chunkCapacity capacity => builder.withChunkCapacity capacity

def Creation.toBuilder : Creation → Builder
  | .new label => Builder.default.withLabel label
  | .default => .default
  | .builder calls => calls.foldl BuilderCall.apply .default

inductive Pointer
  | allotment (id skip : Nat)
  | chunk (serial offset : Nat)
  | dangling
  | highest
  | null

inductive Op
  | create (creation : Creation) (skew : Nat)
  | allocate (size align : Nat)
  | tryAllocate (size align : Nat)
  | raw (size align : Nat)
  | object (kind : Kind) (value : Literal)
  | objectCopy (kind : Kind) (value : Literal) (refused : Bool)
  | objectWith (kind : Kind) (value : Literal) (inner : List (Nat × Nat)) (stops : Bool)
  /-- `stop` is the position of the first clone that panics. -/
  | objects (kind : Kind) (values : List Literal) (stop : Option Nat)
  | slice (kind : Kind) (number : Nat)
  | uninitialized (kind : Kind) (number : Nat)
  | construct (kind : Kind) (value : Literal)
  | constructSlice (kind : Kind) (values : List Literal) (stop : Option Nat)
  | grow (pointer : Pointer) (kind : Option Kind) (old new : Nat)
  | read (id : Nat)
  | write (id index : Nat) (value : Literal)
  | peek (serial offset : Nat) (length : Option Nat)
  | deallocateRaw (id : Nat) (size align : Option Nat)
  | deallocate (id : Nat)
  | deallocateSlice (id : Nat)
  | owns (pointer : Pointer) (kind : Option Kind) (plus minus : Nat)
  | snapshot
  | rewind (state : Nat)
  | guard
  | unguard
  | unwind
  | disable
  | enable (hold : Nat)
  | leakDisable
  | release
  | drop
  | describe (lines : Bool)
  | info
  | counts
  /-- An operation that could not be read; `onArena` tells whether it needs its arena. -/
  | unreadable (onArena : Bool)

structure Step where
  source : Source
  op : Op

inductive Location
  | chunk (serial offset : Nat)
  | system (remainder : Nat)
  | dangling (address : Nat)
  deriving DecidableEq

inductive Answer
  | done
  | doneBefore
  | number (n : Nat)
  | flag (value : Bool)
  | allotted (id : Nat) (location : Location) (length : Option Nat)
  | elements (length : Nat) (values : List Literal)
  | runs (runs : List (UInt8 × Nat))
  | saved (state : Nat) (text : String)
  | text (text : String)
  | info (label : String) (capacity : Nat) (disabled : Option Bool) (guardIsEmpty : Bool)
  | counts (clones drops defaults : Nat)

/-- The answer to an operation. Allocations made by a constructor are listed even if it stops. -/
structure Outcome where
  result : Except Failure Answer
  nested : List (Nat × Location)

def Outcome.ofResult (result : Except Failure Answer) : Outcome := ⟨result, []⟩

def Outcome.refuse (cause : Refusal) : Outcome := ⟨.error (.refused cause), []⟩

structure StepReport where
  outcome : Outcome
  after : Option (Nat × Nat)
  traffic : List Traffic
  log : String

structure EndReport where
  owner : Nat
  traffic : List Traffic
  log : String
  panics : List Failure

end ChunkArena
