import ChunkArena.Arena.Disable
import ChunkArena.World.Placement

/-!
Everything that clients can do with arenas. A request asks an arena for memory in one of the ways
that there are, and what it is granted is an array of elements, of which the first may be stored
already. Bytes without a type are arrays of single bytes. An action is one call with any arguments
whatever, and a run is a list of actions; nothing here keeps clients from passing addresses and
snapshots that are not theirs.
-/

namespace ChunkArena

def Kind.token : Kind := { Kind.u32 with name := "Token", tracked := true }

/-- An array that an arena handed out. -/
structure Grant where
  kind : Kind
  align : Nat
  start : Nat
  length : Nat
  /-- The elements stored by the call itself. -/
  values : List Value

def granted (kind : Kind) (align length : Nat) (values : List Value) :
    Except Failure Nat × World → List Grant × World
  | (.ok start, world) => ([⟨kind, align, start, length, values⟩], world)
  | (.error _, world) => ([], world)

def grantedEach (requests : List (Nat × Nat)) (starts : List Nat) : List Grant :=
  List.zipWith (fun request start => ⟨.u8, request.2, start, request.1, []⟩) requests starts

def Source.nested (owner : Nat) : Nat → Source
  | 0 => .arena owner
  | depth + 1 => .through (nested owner depth)

inductive Request
  | bytes (size align : Nat)
  | tryBytes (size align : Nat)
  | raw (depth : Nat) (layout : Layout)
  | array (kind : Kind) (number : Nat)
  | object (kind : Kind) (value : Value)
  | objectCopy (kind : Kind) (value : Value) (refused : Bool)
  | objectWith (kind : Kind) (inner : List (Nat × Nat)) (stops : Bool) (value : Value)
  | objects (kind : Kind) (values : List Value) (stop : Option Nat)
  | slice (kind : Kind) (number : Nat) (make : Nat → Value) (stop : Option Nat)
  | construct (depth : Nat) (kind : Kind) (value : Value) (dropPanics : Bool)
  | constructSlice (depth : Nat) (kind : Kind) (values : List Value) (stop : Option Nat)

/-- Makes the call and lists the arrays it handed out. -/
def Request.serve (world : World) (owner : Nat) : Request → List Grant × World
  | bytes size align => granted .u8 align size [] (world.allocate owner size align)
  | tryBytes size align =>
      granted .u8 align size []
        (world.onArena owner fun arena env => arena.tryAllocate env size align)
  | raw depth layout =>
      granted .u8 layout.align layout.size [] (world.allocateRaw (.nested owner depth) layout)
  | array kind number =>
      granted kind kind.align number [] (world.allocateArray owner kind number)
  | object kind value => granted kind kind.align 1 [value] (world.newObject owner kind value)
  | objectCopy kind value refused =>
      granted kind kind.align 1 [value] (world.newObjectCopy owner kind value refused)
  | objectWith kind inner stops value =>
      let (result, starts, after) := world.newObjectWith owner kind inner stops value
      let (outer, after) := granted kind kind.align 1 [value] (result, after)
      (grantedEach inner starts ++ outer, after)
  | objects kind values stop =>
      granted kind kind.align values.length values (world.newObjectsCopy owner kind values stop)
  | slice kind number make stop =>
      granted kind kind.align number ((List.range number).map make)
        (world.newSlice owner kind number make stop)
  | construct depth kind value dropPanics =>
      granted kind kind.align 1 [value]
        (world.construct (.nested owner depth) kind value dropPanics)
  | constructSlice depth kind values stop =>
      granted kind kind.align values.length values
        (world.constructSlice (.nested owner depth) kind values stop)

inductive Disposal
  | bytes (layout : Layout)
  | object (kind : Kind) (dropPanics : Bool)
  | slice (kind : Kind) (number : Nat) (dropPanics : Bool)

def Disposal.dispose (world : World) (source : Source) (address : Nat) :
    Disposal → Except Failure Unit × World
  | bytes layout => world.deallocateRaw source address layout
  | object kind dropPanics => world.deallocate source kind address dropPanics
  | slice kind number dropPanics => world.deallocateSlice source kind address number dropPanics

namespace World

def grow (world : World) (owner start old new elementSize : Nat) : Except Failure Bool × World :=
  world.onArena owner fun arena env => arena.grow env start old new elementSize

def rewind (world : World) (owner : Nat) (snapshot : Snapshot) : Except Failure Unit × World :=
  world.onArena owner fun arena env => arena.rewind env snapshot

def disable (world : World) (owner : Nat) : Except Failure Unit × World :=
  world.onArena owner fun arena env => arena.disable env.profile

def enable (world : World) (owner : Nat) : Except Failure Unit × World :=
  world.onArena owner fun arena env => arena.enable env.profile

def release (world : World) (owner : Nat) : Except Failure Unit × World :=
  world.onArena owner Arena.release

def write (world : World) (start : Nat) (bytes : List UInt8) : World :=
  { world with memory := world.memory.store start bytes }

def log (world : World) (call : Call) : World :=
  { world with logs := (Logs.call call world.logs).2 }

end World

/-- One call, with any arguments. A rewind guard is a snapshot when it is made and a rewind to it
when it is dropped. -/
inductive Action
  | create (builder : Builder) (skew : Nat)
  | place (owner : Nat) (request : Request)
  | grow (owner start old new elementSize : Nat)
  | dispose (owner depth address : Nat) (disposal : Disposal)
  | write (start : Nat) (bytes : List UInt8)
  | rewind (owner : Nat) (snapshot : Snapshot)
  | disable (owner : Nat)
  | enable (owner : Nat)
  | release (owner : Nat)
  | drop (owner : Nat)
  | log (call : Call)

def Action.owner? : Action → Option Nat
  | create .. | write .. | log .. => none
  | place owner _ | grow owner .. | dispose owner .. | rewind owner _ | disable owner
  | enable owner | release owner | drop owner => some owner

namespace World

def act (world : World) : Action → World
  | .create builder skew => world.addArena builder.build skew
  | .place owner request => (request.serve world owner).2
  | .grow owner start old new elementSize => (world.grow owner start old new elementSize).2
  | .dispose owner depth address disposal =>
      (disposal.dispose world (.nested owner depth) address).2
  | .write start bytes => world.write start bytes
  | .rewind owner snapshot => (world.rewind owner snapshot).2
  | .disable owner => (world.disable owner).2
  | .enable owner => (world.enable owner).2
  | .release owner => (world.release owner).2
  | .drop owner => (world.drop owner).2
  | .log call => world.log call

def run (world : World) (actions : List Action) : World := actions.foldl act world

end World

end ChunkArena
