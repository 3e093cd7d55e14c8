import ChunkArena.Memory.Bytes
import ChunkArena.Memory.Value
import ChunkArena.Arena.Allocate
import ChunkArena.Arena.Release
import ChunkArena.Log.Registry

/-!
The world that arenas live in: memory, the system that provides blocks of it, the logs, and any
number of arenas. Here the effects in an arena's reply take place.

Where the system puts a block and which blocks it has room for are parameters of the world; the
place may depend on all blocks that went from and to the system before. In worlds with paged sites
the system gives every block an address of its own, above all earlier ones and at a distance from
them, and never gives an address twice. There the start of a block within a page of 65536 bytes is
decided by the arena's skew and by the alignment alone, so that padding depends on nothing else.
-/

namespace ChunkArena

def pageSize : Nat := 65536

/-- All blocks lie above this address. It is halfway between two powers of two, so that no block is
met at the address of an empty block, which is its alignment. -/
def systemFloor : Nat := 3 * Nat.pow 2 45

inductive Passage
  | obtained
  /-- Given back, and whether every byte was marked as discarded at that moment. -/
  | returned (discarded : Bool)
  deriving DecidableEq

/-- One block going from or to the system. Blocks that belong to no arena have no owner and the
serial number 0. -/
structure Traffic where
  owner : Option Nat
  serial : Nat
  start : Nat
  layout : Layout
  passage : Passage
  deriving DecidableEq

/-- No block of the traffic reaches above this address. -/
def frontier : List Traffic → Nat
  | [] => systemFloor
  | entry :: older => max (frontier older) (entry.start + entry.layout.size)

structure Site where
  /-- Where a block is put, given the traffic so far and the skew of the arena that asks. -/
  place : List Traffic → Nat → Layout → Nat
  serves : Layout → Bool

/-- Starts every block at least a page above the frontier. Outside of arenas, a block has a limit of
its own; and as an aligned block is cut out of a stretch that exceeds it by the alignment, size and
alignment together have another. -/
def pagedSite : Site where
  place traffic skew layout :=
    roundUp (frontier traffic + pageSize) (max pageSize layout.align) +
      roundUp (skew % pageSize) layout.align
  serves layout :=
    layout.size ≤ Nat.pow 2 30 && layout.size + layout.align ≤ Nat.pow 2 35

/-- Counts over the values of tracked types: how many came into being by cloning, by default and
by being moved in, how many were stored in memory, and how many were destroyed, either because the
call that should have stored them stopped or because their storage was given up. -/
structure Tally where
  clones : Nat
  defaults : Nat
  moves : Nat
  stores : Nat
  abandoned : Nat
  destroyed : Nat
  deriving DecidableEq

def Tally.zero : Tally := ⟨0, 0, 0, 0, 0, 0⟩

def Tally.drops (tally : Tally) : Nat := tally.abandoned + tally.destroyed

/-- An arena with what is borrowed from it: its rewind guards, newest first, and its disable guards,
in the order of their creation, each with whether it is alive. A dropped arena leaves its place
empty. -/
structure Tenant where
  skew : Nat
  arena : Option Arena
  guards : List Snapshot
  holds : List Bool

structure World where
  profile : Profile
  site : Site
  memory : Memory
  traffic : List Traffic
  tally : Tally
  logs : Logs
  tenants : List Tenant

namespace World

def new (profile : Profile) (site : Site) (logs : Logs) : World :=
  ⟨profile, site, .blank, [], .zero, logs, []⟩

def empty (profile : Profile) (logs : Logs) : World := .new profile pagedSite logs

def env (world : World) (skew : Nat) : Env where
  profile := world.profile
  site := world.site.place world.traffic skew
  complaint := world.logs.complaint

def perform (owner : Nat) (world : World) : Effect → World
  | .obtain chunk =>
      { world with
        traffic := ⟨some owner, chunk.serial, chunk.start, chunk.layout, .obtained⟩ ::
          world.traffic }
  | .giveBack chunk =>
      let discarded := world.memory.allEqual chunk.start discardedByte chunk.capacity
      { world with
        traffic := ⟨some owner, chunk.serial, chunk.start, chunk.layout, .returned discarded⟩ ::
          world.traffic }
  | .fill start count byte => { world with memory := world.memory.fill start count byte }
  | .report label entry =>
      { world with logs := (world.logs.logTo Logs.coreName entry.level (entry.text label)).2 }

def arena? (world : World) (owner : Nat) : Option Arena :=
  world.tenants[owner]?.bind Tenant.arena

def commit {α : Type} (world : World) (owner : Nat) (tenant : Tenant) (reply : Reply α) :
    Except Failure α × World :=
  let settled :=
    { world with tenants := world.tenants.set owner { tenant with arena := some reply.arena } }
  (reply.result, reply.effects.foldl (perform owner) settled)

def onArena {α : Type} (world : World) (owner : Nat) (call : Arena → Env → Reply α) :
    Except Failure α × World :=
  match world.tenants[owner]? with
  | none => (.error (.refused .badInput), world)
  | some tenant =>
      match tenant.arena with
      | none => (.error (.refused .dropped), world)
      | some arena => world.commit owner tenant (call arena (world.env tenant.skew))

def addArena (world : World) (arena : Arena) (skew : Nat) : World :=
  { world with tenants := world.tenants ++ [⟨skew, some arena, [], []⟩] }

def drop (world : World) (owner : Nat) : Except Failure Unit × World :=
  let (result, released) := world.onArena owner Arena.release
  (result,
    { released with
      tenants := released.tenants.modify owner fun tenant =>
        { tenant with arena := none, guards := [], holds := [] } })

end World

/-- A block from the system, outside of arenas. Empty blocks are addresses that need no memory. -/
def World.systemAllocate (world : World) (layout : Layout) : Except Failure Nat × World :=
  if layout.size = 0 then (.ok layout.align, world)
  else if world.site.serves layout then
    let start := world.site.place world.traffic 0 layout
    (.ok start,
      { world with traffic := ⟨none, 0, start, layout, .obtained⟩ :: world.traffic })
  else (.error (.error (.outOfMemory layout.size)), world)

def World.systemDeallocate (world : World) (address : Nat) (layout : Layout) :
    Except Failure Unit × World :=
  if layout.size = 0 then (.ok (), world)
  else
    (.ok (),
      { world with traffic := ⟨none, 0, address, layout, .returned false⟩ :: world.traffic })

inductive Source
  | arena (owner : Nat)
  | system
  | through (target : Source)
  deriving DecidableEq

namespace Source

def owner : Source → Option Nat
  | arena owner => some owner
  | system => none
  | through target => target.owner

end Source

namespace World

def allocateRaw (world : World) : Source → Layout → Except Failure Nat × World
  | .arena owner, layout =>
      world.onArena owner fun arena env => arena.tryAllocate env layout.size layout.align
  | .system, layout => world.systemAllocate layout
  | .through target, layout => world.allocateRaw target layout

def deallocateRaw (world : World) : Source → Nat → Layout → Except Failure Unit × World
  | .arena owner, address, layout =>
      world.onArena owner fun arena env => arena.deallocate env address layout
  | .system, address, layout => world.systemDeallocate address layout
  | .through target, address, layout => world.deallocateRaw target address layout

end World

end ChunkArena
