import ChunkArena.World.Basic

/-!
Placing values in memory.

A value that is moved into a call belongs to the call: if the call stops before the value is stored,
the value is destroyed. Copies are made by cloning, and new slices by the type's default, one
element after the other; if that panics, the elements before it stay where they are. Nothing here
destroys a value that has been stored, except the calls that give its storage up.

Clones, defaults, constructors and destructors are the client's own code. Whether it panics, and at
which element, is an argument of the call, so equal values need not fare alike.
-/

namespace ChunkArena

def Arena.allocateArray (arena : Arena) (env : Env) (kind : Kind) (count : Nat) : Reply Nat :=
  match kind.layout.array? count with
  | none => ⟨.error (.panic (.arrayTooLong arena.label count kind.name)), arena, []⟩
  | some layout => arena.allocate env layout.size layout.align

/-- The first default elements of a slice. Those that have no bytes and are not counted leave no
trace. -/
def Kind.defaults (kind : Kind) (make : Nat → Value) (number : Nat) : List Value :=
  if kind.tracked = false ∧ kind.size = 0 then [] else (List.range number).map make

theorem Kind.length_defaults (kind : Kind) (make : Nat → Value) (number : Nat) :
    (kind.defaults make number).length ≤ number := by
  unfold defaults
  split <;> simp

namespace World

def allocate (world : World) (owner size align : Nat) : Except Failure Nat × World :=
  world.onArena owner fun arena env => arena.allocate env size align

def allocateArray (world : World) (owner : Nat) (kind : Kind) (count : Nat) :
    Except Failure Nat × World :=
  world.onArena owner fun arena env => arena.allocateArray env kind count

def count (world : World) (kind : Kind) (change : Tally → Tally) : World :=
  if kind.tracked then { world with tally := change world.tally } else world

def moveIn (world : World) (kind : Kind) : World :=
  world.count kind fun tally => { tally with moves := tally.moves + 1 }

def abandon (world : World) (kind : Kind) : World :=
  world.count kind fun tally => { tally with abandoned := tally.abandoned + 1 }

def destroy (world : World) (kind : Kind) (number : Nat) : World :=
  world.count kind fun tally => { tally with destroyed := tally.destroyed + number }

def clone (world : World) (kind : Kind) (value : Value) (refused : Bool) :
    Except Failure Value × World :=
  if refused then (.error (.panic .cloneRefused), world)
  else
    (.ok value, world.count kind fun tally => { tally with clones := tally.clones + 1 })

def store (world : World) (kind : Kind) (start : Nat) (values : List Value) : World :=
  { world with memory := world.memory.store start (values.flatMap kind.encode) }
    |>.count kind fun tally => { tally with stores := tally.stores + values.length }

def settle (kind : Kind) (value : Value) :
    Except Failure Nat × World → Except Failure Nat × World
  | (.ok start, world) => (.ok start, world.store kind start [value])
  | (.error failure, world) => (.error failure, world.abandon kind)

def newObject (world : World) (owner : Nat) (kind : Kind) (value : Value) :
    Except Failure Nat × World :=
  settle kind value ((world.moveIn kind).allocate owner kind.size kind.align)

def newObjectCopy (world : World) (owner : Nat) (kind : Kind) (value : Value)
    (refused : Bool) : Except Failure Nat × World :=
  match world.clone kind value refused with
  | (.error failure, world) => (.error failure, world)
  | (.ok copy, world) => settle kind copy (world.allocate owner kind.size kind.align)

/-- Allocates for each request in turn, up to the first that fails. -/
def allocateEach (world : World) (owner : Nat) :
    List (Nat × Nat) → Except Failure Unit × List Nat × World
  | [] => (.ok (), [], world)
  | (size, align) :: rest =>
      match world.allocate owner size align with
      | (.error failure, world) => (.error failure, [], world)
      | (.ok start, world) =>
          let (result, starts, world) := world.allocateEach owner rest
          (result, start :: starts, world)

/-- Reserves memory in an arena, then runs a constructor that allocates from the same arena and
either stops or makes the value. The second part of the answer holds the addresses of the
constructor's allocations. -/
def newObjectWith (world : World) (owner : Nat) (kind : Kind) (inner : List (Nat × Nat))
    (stops : Bool) (value : Value) : Except Failure Nat × List Nat × World :=
  match world.allocate owner kind.size kind.align with
  | (.error failure, world) => (.error failure, [], world)
  | (.ok start, world) =>
      match world.allocateEach owner inner with
      | (.error failure, starts, world) => (.error failure, starts, world)
      | (.ok (), starts, world) =>
          if stops then (.error (.panic .constructorFailed), starts, world)
          else (.ok start, starts, (world.moveIn kind).store kind start [value])

def madeUntil (stop : Option Nat) (number : Nat) : Nat := min number (stop.getD number)

/-- Fills reserved memory with elements that the client's code makes one after the other. `first`
gives the elements up to a number, and `change` counts them. -/
def fillSlots (world : World) (kind : Kind) (start number : Nat) (first : Nat → List Value)
    (stop : Option Nat) (change : Nat → Tally → Tally) (cause : Panic) :
    Except Failure Nat × World :=
  let made := madeUntil stop number
  let filled := (world.store kind start (first made)).count kind (change made)
  if made = number then (.ok start, filled) else (.error (.panic cause), filled)

def cloneInto (world : World) (kind : Kind) (start : Nat) (values : List Value)
    (stop : Option Nat) : Except Failure Nat × World :=
  world.fillSlots kind start values.length values.take stop
    (fun made tally => { tally with clones := tally.clones + made }) .cloneRefused

def newObjectsCopy (world : World) (owner : Nat) (kind : Kind) (values : List Value)
    (stop : Option Nat) : Except Failure Nat × World :=
  match world.allocateArray owner kind values.length with
  | (.error failure, world) => (.error failure, world)
  | (.ok start, world) => world.cloneInto kind start values stop

def newSlice (world : World) (owner : Nat) (kind : Kind) (number : Nat) (make : Nat → Value)
    (stop : Option Nat) : Except Failure Nat × World :=
  match world.allocateArray owner kind number with
  | (.error failure, world) => (.error failure, world)
  | (.ok start, world) =>
      world.fillSlots kind start number (kind.defaults make) stop
        (fun made tally => { tally with defaults := tally.defaults + made }) .defaultRefused

/-- The answer of a call that returned an error and dropped a value on its way out. -/
def dropped {α : Type} (dropPanics : Bool) : Except Failure α × World → Except Failure α × World
  | (.error (.error cause), world) =>
      (.error (if dropPanics then .panic .destructorFailed else .error cause), world)
  | answer => answer

def construct (world : World) (source : Source) (kind : Kind) (value : Value)
    (dropPanics : Bool) : Except Failure Nat × World :=
  dropped dropPanics (settle kind value ((world.moveIn kind).allocateRaw source kind.layout))

def constructSlice (world : World) (source : Source) (kind : Kind) (values : List Value)
    (stop : Option Nat) : Except Failure Nat × World :=
  match kind.layout.array? values.length with
  | none => (.error (.error .invalidLayout), world)
  | some layout =>
      match world.allocateRaw source layout with
      | (.error failure, world) => (.error failure, world)
      | (.ok start, world) => world.cloneInto kind start values stop

/-- Destroys values and gives their storage up, unless a destructor panics. The other values are
destroyed all the same. -/
def demolish (world : World) (source : Source) (kind : Kind) (number address : Nat)
    (layout : Layout) (dropPanics : Bool) : Except Failure Unit × World :=
  if dropPanics = true ∧ 0 < number then
    (.error (.panic .destructorFailed), world.destroy kind number)
  else (world.destroy kind number).deallocateRaw source address layout

def deallocate (world : World) (source : Source) (kind : Kind) (address : Nat)
    (dropPanics : Bool) : Except Failure Unit × World :=
  world.demolish source kind 1 address kind.layout dropPanics

def deallocateSlice (world : World) (source : Source) (kind : Kind) (address number : Nat)
    (dropPanics : Bool) : Except Failure Unit × World :=
  match kind.layout.array? number with
  | none => (.error (.error .invalidLayout), world)
  | some layout => world.demolish source kind number address layout dropPanics

def elements (world : World) (kind : Kind) (address number : Nat) : List Value :=
  (List.range number).map fun i =>
    kind.decode (world.memory.load (address + i * kind.size) kind.size)

end World

end ChunkArena
