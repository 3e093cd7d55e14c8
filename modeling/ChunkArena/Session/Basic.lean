import ChunkArena.World.Placement
import ChunkArena.Arena.Disable
import ChunkArena.Arena.Shown
import ChunkArena.Session.Op

/-!
The state of a session: the world, and what its client holds.
-/

namespace ChunkArena

structure Allotment where
  owner : Option Nat
  location : Location
  address : Nat
  kind : Kind
  raw : Bool
  length : Nat
  layout : Layout
  dead : Bool

structure Session where
  world : World
  allotments : List Allotment
  /-- Snapshots, each with whether it was used. -/
  states : List (Snapshot × Bool)

namespace Session

def start (profile : Profile) (logs : Logs) : Session := ⟨.empty profile logs, [], []⟩

def logFile : String := "core.log"

def ownLogs : Logs :=
  let logs := Logs.empty none
  { logs with registry := ⟨[(Logs.coreName, ⟨.debug, "Core", [.file logFile], "T"⟩)]⟩ }

def withWorld (session : Session) (world : World) : Session := { session with world := world }

def logText (session : Session) : String :=
  (session.world.logs.outputs.disk.workingFiles.lookup logFile).getD ""

def chunkIsLive (session : Session) (owner serial : Nat) : Bool :=
  ((session.world.arena? owner).bind (·.chunkOfSerial? serial)).isSome

def chunkStart? (session : Session) (owner serial : Nat) : Option Nat :=
  (session.world.traffic.find? fun entry =>
    entry.owner == some owner && entry.serial == serial).map (·.start)

def isFreed (session : Session) (allotment : Allotment) : Bool :=
  match allotment.owner, allotment.location with
  | some owner, .chunk serial _ => !session.chunkIsLive owner serial
  | _, _ => allotment.dead

def isHeld (session : Session) (owner : Nat) : Bool :=
  (session.world.tenants[owner]?.map fun tenant => tenant.holds.any id).getD false

def guards (session : Session) (owner : Nat) : List Snapshot :=
  (session.world.tenants[owner]?.map Tenant.guards).getD []

def modifyTenant (session : Session) (owner : Nat) (change : Tenant → Tenant) : Session :=
  session.withWorld
    { session.world with tenants := session.world.tenants.modify owner change }

def locate (session : Session) (owner : Option Nat) (layout : Layout) (address : Nat) :
    Location :=
  match owner with
  | some owner =>
      match (session.world.arena? owner).bind (·.locate? address) with
      | some (serial, offset) => .chunk serial offset
      | none => .dangling address
  | none => if layout.size = 0 then .dangling address else .system (address % layout.align)

def remember (session : Session) (owner : Option Nat) (kind : Kind) (raw : Bool)
    (length : Nat) (layout : Layout) (address : Nat) : Nat × Location × Session :=
  let location := session.locate owner layout address
  (session.allotments.length, location,
    { session with
      allotments := session.allotments ++
        [⟨owner, location, address, kind, raw, length, layout, false⟩] })

def rememberEach (session : Session) (owner : Nat) :
    List (Nat × Nat × Nat) → List (Nat × Location) × Session
  | [] => ([], session)
  | (address, size, align) :: rest =>
      let (id, location, session) :=
        session.remember (some owner) .u8 true size ⟨size, align⟩ address
      let (others, session) := session.rememberEach owner rest
      ((id, location) :: others, session)

end Session

end ChunkArena
