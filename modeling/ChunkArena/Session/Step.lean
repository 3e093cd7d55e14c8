import ChunkArena.Session.Basic

/-!
One step of a session. A call that the client may not make is refused and changes nothing; any
other call is made, and what it does stays even if it stops with a panic.
-/

namespace ChunkArena

def runLengths : List UInt8 → List (UInt8 × Nat)
  | [] => []
  | byte :: rest =>
      match runLengths rest with
      | (next, count) :: runs =>
          if next = byte then (byte, count + 1) :: runs else (byte, 1) :: (next, count) :: runs
      | [] => [(byte, 1)]

def Kind.ofLiterals? (kind : Kind) : List Literal → Option (List Value)
  | [] => some []
  | literal :: rest =>
      match kind.ofLiteral? literal, kind.ofLiterals? rest with
      | some value, some values => some (value :: values)
      | _, _ => none

namespace Session

abbrev Result := Outcome × Session

def refuse (session : Session) (cause : Refusal) : Result := (.refuse cause, session)

def finish {α : Type} (session : Session) (answer : α → Answer) :
    Except Failure α × World → Result
  | (.ok value, world) => (.ofResult (.ok (answer value)), session.withWorld world)
  | (.error failure, world) => (.ofResult (.error failure), session.withWorld world)

def finishAllocation (session : Session) (owner : Option Nat) (kind : Kind) (raw : Bool)
    (length : Nat) (shown : Option Nat) (layout : Layout) :
    Except Failure Nat × World → Result
  | (.error failure, world) => (.ofResult (.error failure), session.withWorld world)
  | (.ok address, world) =>
      let (id, location, session) :=
        (session.withWorld world).remember owner kind raw length layout address
      (.ofResult (.ok (.allotted id location shown)), session)

def finishRaw (session : Session) (owner : Option Nat) (size align : Nat) :
    Except Failure Nat × World → Result :=
  session.finishAllocation owner .u8 true size none ⟨size, align⟩

def finishObject (session : Session) (owner : Option Nat) (kind : Kind) :
    Except Failure Nat × World → Result :=
  session.finishAllocation owner kind false 1 none kind.layout

def finishSlice (session : Session) (owner : Option Nat) (kind : Kind) (length : Nat) :
    Except Failure Nat × World → Result :=
  session.finishAllocation owner kind false length (some length)
    ⟨kind.size * length, kind.align⟩

def withValue (session : Session) (kind : Kind) (literal : Literal) (next : Value → Result) :
    Result :=
  match kind.ofLiteral? literal with
  | some value => next value
  | none => session.refuse .badInput

def withValues (session : Session) (kind : Kind) (literals : List Literal)
    (next : List Value → Result) : Result :=
  match kind.ofLiterals? literals with
  | some values => next values
  | none => session.refuse .badInput

def withAllotment (session : Session) (id : Nat) (next : Allotment → Result) : Result :=
  match session.allotments[id]? with
  | some allotment => next allotment
  | none => session.refuse .badInput

def withArena (session : Session) (owner : Nat) (next : Arena → Result) : Result :=
  match session.world.tenants[owner]? with
  | none => session.refuse .badInput
  | some tenant =>
      match tenant.arena with
      | none => session.refuse .dropped
      | some arena => next arena

def unlessHeld (session : Session) (owner : Nat) (next : Result) : Result :=
  if session.isHeld owner then session.refuse .borrowed else next

def unlessBorrowed (session : Session) (owner : Nat) (next : Result) : Result :=
  if session.isHeld owner ∨ session.guards owner ≠ [] then session.refuse .borrowed else next

/-- The address that a pointer stands for in an arena. Elements of an allocation are of its own type
unless another one is given; where an empty array lies depends on the type. -/
def address? (session : Session) (owner : Nat) (kind : Option Kind) : Pointer → Option Nat
  | .allotment id skip =>
      session.allotments[id]?.map fun allotment =>
        (allotment.address + skip * (kind.getD allotment.kind).size) % wordLimit
  | .chunk serial offset =>
      (session.chunkStart? owner serial).map fun start => (start + offset) % wordLimit
  | .dangling => kind.map (·.align)
  | .highest => some (wordLimit - 1)
  | .null => some 0

def isPlaced (session : Session) : Pointer → Bool
  | .allotment id _ =>
      match session.allotments[id]?.map Allotment.location with
      | some (.chunk _ _) => true
      | _ => false
  | .chunk _ _ => true
  | .dangling | .highest | .null => false

/-- The address at which arenas look for a pointer that was moved to `address`. Where their memory
lies is not for clients to know, so a pointer that was not made from it never leads there; address
0, which is in no arena, stands for it. -/
def soughtAddress (session : Session) (pointer : Pointer) (address : Nat) : Nat :=
  if session.isPlaced pointer then address else 0

/-- The type of the array that a pointer points to: the one given, or the allocation's own. No array
is at the null pointer. -/
def arrayKind? (session : Session) (pointer : Pointer) (kind : Option Kind) : Option Kind :=
  match pointer, kind with
  | .null, _ => none
  | _, some kind => some kind
  | .allotment id _, none => session.allotments[id]?.map (·.kind)
  | _, none => none

/-- The default elements of a slice: zero, but a tracked type has the number of its earlier
defaults. -/
def defaultOf (session : Session) (kind : Kind) (index : Nat) : Value :=
  kind.widths.map fun width =>
    if kind.tracked then (session.world.tally.defaults + index) % Nat.pow 256 width else 0

def objectWith (session : Session) (owner : Nat) (kind : Kind) (value : Value)
    (inner : List (Nat × Nat)) (stops : Bool) : Result :=
  let (result, starts, world) := session.world.newObjectWith owner kind inner stops value
  let session := session.withWorld world
  let pieces := starts.zip inner
  match result with
  | .error failure =>
      let (nested, session) := session.rememberEach owner pieces
      (⟨.error failure, nested⟩, session)
  | .ok address =>
      let (id, location, session) :=
        session.remember (some owner) kind false 1 kind.layout address
      let (nested, session) := session.rememberEach owner pieces
      (⟨.ok (.allotted id location none), nested⟩, session)

def grow (session : Session) (owner : Nat) (pointer : Pointer) (kind : Option Kind)
    (old new : Nat) : Result :=
  match session.arrayKind? pointer kind with
  | none => session.refuse .badInput
  | some kind =>
      match session.address? owner (some kind) pointer with
      | none => session.refuse .badInput
      | some address =>
          let (outcome, after) := session.finish .flag
            (session.world.onArena owner fun arena env =>
              arena.grow env (session.soughtAddress pointer address) old new kind.size)
          match outcome.result, pointer with
          | .ok (.flag true), .allotment id skip =>
              -- The allocation now ends where the array ends.
              (outcome,
                { after with
                  allotments := after.allotments.modify id fun allotment =>
                    if allotment.kind = kind then
                      { allotment with length := (skip + new) % wordLimit }
                    else allotment })
          | _, _ => (outcome, after)

def readLimit : Nat := 64

def read (session : Session) (id : Nat) : Result :=
  session.withAllotment id fun allotment =>
    if allotment.owner = none ∧ (allotment.dead ∨ allotment.raw) then session.refuse .dead
    else if session.isFreed allotment then session.refuse .freed
    else
      let values := session.world.elements allotment.kind allotment.address
        (min allotment.length readLimit)
      (.ofResult (.ok (.elements allotment.length (values.map allotment.kind.toLiteral))), session)

def write (session : Session) (id index : Nat) (literal : Literal) : Result :=
  session.withAllotment id fun allotment =>
    if session.isFreed allotment then session.refuse .freed
    else if allotment.length ≤ index then session.refuse .bounds
    else
      session.withValue allotment.kind literal fun value =>
        let start := allotment.address + index * allotment.kind.size
        let memory := session.world.memory.store start (allotment.kind.encode value)
        (.ofResult (.ok .done), session.withWorld { session.world with memory := memory })

def peek (session : Session) (owner serial offset : Nat) (length : Option Nat) : Result :=
  session.withArena owner fun arena =>
    match arena.chunkOfSerial? serial with
    | some chunk =>
        let skipped := min offset chunk.capacity
        let shown := min (length.getD chunk.capacity) (chunk.capacity - skipped)
        let bytes := session.world.memory.load (chunk.start + skipped) shown
        (.ofResult (.ok (.runs (runLengths bytes))), session)
    | none =>
        match session.chunkStart? owner serial with
        | some _ => session.refuse .freed
        | none => session.refuse .noChunk

def bury (source : Source) (id : Nat) (result : Result) : Result :=
  match source.owner with
  | some _ => result
  | none =>
      (result.1,
        { result.2 with
          allotments := result.2.allotments.modify id fun allotment =>
            { allotment with dead := true } })

def withLiving (session : Session) (source : Source) (id : Nat) (next : Allotment → Result) :
    Result :=
  session.withAllotment id fun allotment =>
    if source.owner = none ∧ allotment.owner ≠ none then session.refuse .foreign
    else if allotment.dead then session.refuse .dead
    else next allotment

def exceedsChunk (session : Session) (allotment : Allotment) (size : Nat) : Bool :=
  match allotment.owner, allotment.location with
  | some owner, .chunk serial offset =>
      match (session.world.arena? owner).bind (·.chunkOfSerial? serial) with
      | some chunk => chunk.capacity < offset + size
      | none => false
  | _, _ => false

def deallocateRaw (session : Session) (source : Source) (id : Nat) (size align : Option Nat) :
    Result :=
  session.withLiving source id fun allotment =>
    let own := source.owner = none
    let size := if own then allotment.layout.size else size.getD allotment.layout.size
    let align := if own then allotment.layout.align else align.getD allotment.layout.align
    if ¬ own ∧ session.exceedsChunk allotment size then session.refuse .bounds
    else match Layout.ofSizeAlign? size align with
      | none => (.ofResult (.error (.error .invalidLayout)), session)
      | some layout =>
          bury source id (session.finish (fun _ => .done)
            (session.world.deallocateRaw source allotment.address layout))

def deallocate (session : Session) (source : Source) (id : Nat) : Result :=
  session.withLiving source id fun allotment =>
    if allotment.raw ∨ allotment.length ≠ 1 then session.refuse .untyped
    else
      bury source id (session.finish (fun _ => .done)
        (session.world.deallocate source allotment.kind allotment.address false))

def deallocateSlice (session : Session) (source : Source) (id : Nat) : Result :=
  session.withLiving source id fun allotment =>
    if allotment.raw then session.refuse .untyped
    else
      bury source id (session.finish (fun _ => .done)
        (session.world.deallocateSlice source allotment.kind allotment.address allotment.length
          false))

def owns (session : Session) (owner : Nat) (pointer : Pointer) (kind : Option Kind)
    (plus minus : Nat) : Result :=
  match session.address? owner kind pointer with
  | none => session.refuse .badInput
  | some address =>
      session.withArena owner fun arena =>
        let moved := (address + plus + (wordLimit - minus % wordLimit)) % wordLimit
        (.ofResult (.ok (.flag (arena.owns (session.soughtAddress pointer moved)))), session)

def saveState (session : Session) (owner : Nat) : Result :=
  session.withArena owner fun arena =>
    let snapshot := arena.snapshot
    (.ofResult (.ok (.saved session.states.length (arena.shownSnapshot snapshot))),
      { session with states := session.states ++ [(snapshot, false)] })

def rewindTo (session : Session) (owner : Nat) (snapshot : Snapshot) : Result :=
  session.finish (fun _ => .done)
    (session.world.onArena owner fun arena env => arena.rewind env snapshot)

def rewind (session : Session) (owner state : Nat) : Result :=
  match session.states[state]? with
  | none => session.refuse .badInput
  | some (snapshot, used) =>
      session.unlessHeld owner <|
        if used then session.refuse .consumed
        else
          rewindTo { session with states := session.states.set state (snapshot, true) }
            owner snapshot

def openGuard (session : Session) (owner : Nat) : Result :=
  session.unlessHeld owner <| session.withArena owner fun arena =>
    (.ofResult (.ok (.number ((session.guards owner).length + 1))),
      session.modifyTenant owner fun tenant =>
        { tenant with guards := arena.snapshot :: tenant.guards })

def closeGuard (session : Session) (owner : Nat) : Result :=
  session.unlessHeld owner <|
    match session.guards owner with
    | [] => session.refuse .noGuard
    | newest :: older =>
        (session.modifyTenant owner fun tenant => { tenant with guards := older }).rewindTo
          owner newest

def unwindGuard (session : Session) (owner : Nat) : Result :=
  let (outcome, after) := session.closeGuard owner
  match outcome.result with
  | .ok _ => (.ofResult (.error (.panic .scopeFailed)), after)
  | .error _ => (outcome, after)

def disable (session : Session) (owner : Nat) : Result :=
  let index := (session.world.tenants[owner]?.map (·.holds.length)).getD 0
  let (outcome, after) := session.finish (fun _ => .number index)
    (session.world.onArena owner fun arena env => arena.disable env.profile)
  match outcome.result with
  | .ok _ =>
      (outcome, after.modifyTenant owner fun tenant =>
        { tenant with holds := tenant.holds ++ [true] })
  | .error _ => (outcome, after)

def enable (session : Session) (owner hold : Nat) : Result :=
  match session.world.tenants[owner]?.bind (·.holds[hold]?) with
  | none => session.refuse .badInput
  | some false => (.ofResult (.ok .doneBefore), session)
  | some true =>
      let opened := session.modifyTenant owner fun tenant =>
        { tenant with holds := tenant.holds.set hold false }
      opened.finish (fun _ => .done)
        (opened.world.onArena owner fun arena env => arena.enable env.profile)

def info (session : Session) (owner : Nat) : Result :=
  session.withArena owner fun arena =>
    let checks := session.world.profile.checks
    (.ofResult (.ok (.info arena.label arena.chunkCapacity
      (if checks then some arena.isDisabled else none) (!checks))), session)

def genericStep (session : Session) (source : Source) : Op → Option Result
  | .raw size align => some <|
      match Layout.ofSizeAlign? size align with
      | none => (.ofResult (.error (.error .invalidLayout)), session)
      | some layout =>
          session.finishRaw source.owner size align (session.world.allocateRaw source layout)
  | .construct kind literal => some <|
      session.withValue kind literal fun value =>
        session.finishObject source.owner kind (session.world.construct source kind value false)
  | .constructSlice kind literals stop => some <|
      session.withValues kind literals fun values =>
        session.finishSlice source.owner kind values.length
          (session.world.constructSlice source kind values stop)
  | .deallocateRaw id size align => some (session.deallocateRaw source id size align)
  | .deallocate id => some (session.deallocate source id)
  | .deallocateSlice id => some (session.deallocateSlice source id)
  | _ => none

def arenaStep (session : Session) (owner : Nat) : Op → Result
  | .allocate size align =>
      session.finishRaw (some owner) size align (session.world.allocate owner size align)
  | .tryAllocate size align =>
      session.finishRaw (some owner) size align
        (session.world.onArena owner fun arena env => arena.tryAllocate env size align)
  | .object kind literal =>
      session.withValue kind literal fun value =>
        session.finishObject (some owner) kind (session.world.newObject owner kind value)
  | .objectCopy kind literal refused =>
      session.withValue kind literal fun value =>
        session.finishObject (some owner) kind
          (session.world.newObjectCopy owner kind value refused)
  | .objectWith kind literal inner stops =>
      session.withValue kind literal fun value =>
        session.objectWith owner kind value inner stops
  | .objects kind literals stop =>
      session.withValues kind literals fun values =>
        session.finishSlice (some owner) kind values.length
          (session.world.newObjectsCopy owner kind values stop)
  | .slice kind number =>
      session.finishSlice (some owner) kind number
        (session.world.newSlice owner kind number (session.defaultOf kind) none)
  | .uninitialized kind number =>
      session.finishSlice (some owner) kind number
        (session.world.allocateArray owner kind number)
  | .grow pointer kind old new => session.grow owner pointer kind old new
  | .peek serial offset length => session.peek owner serial offset length
  | .owns pointer kind plus minus => session.owns owner pointer kind plus minus
  | .snapshot => session.saveState owner
  | .rewind state => session.rewind owner state
  | .guard => session.openGuard owner
  | .unguard => session.closeGuard owner
  | .unwind => session.unwindGuard owner
  | .disable => session.disable owner
  | .enable hold => session.enable owner hold
  | .leakDisable =>
      session.finish (fun _ => .done)
        (session.world.onArena owner fun arena env => arena.disable env.profile)
  | .release =>
      session.unlessBorrowed owner <|
        session.finish (fun _ => .done) (session.world.onArena owner Arena.release)
  | .drop =>
      session.unlessBorrowed owner <|
        session.finish (fun _ => .done) (session.world.drop owner)
  | .describe lines =>
      session.withArena owner fun arena =>
        (.ofResult (.ok (.text (if lines then arena.shownLines else arena.shown))), session)
  | .info => session.info owner
  | _ => session.refuse .badInput

def step (session : Session) (step : Step) : Option Nat × Result :=
  match step.op with
  | .create creation skew =>
      let index := session.world.tenants.length
      (some index, (.ofResult (.ok (.number index)),
        session.withWorld (session.world.addArena creation.toBuilder.build skew)))
  | .read id => (step.source.owner, session.read id)
  | .write id index literal => (step.source.owner, session.write id index literal)
  | .unreadable false => (step.source.owner, session.refuse .badInput)
  | .counts =>
      let tally := session.world.tally
      (step.source.owner,
        (.ofResult (.ok (.counts tally.clones tally.drops tally.defaults)), session))
  | op =>
      (step.source.owner,
        match step.source.owner with
        | none => (session.genericStep step.source op).getD (session.refuse .badInput)
        | some owner =>
            session.withArena owner fun _ =>
              (session.genericStep step.source op).getD (session.arenaStep owner op))

def changes (before after : Session) (owner : Nat) : List Traffic × String :=
  let fresh := after.world.traffic.take
    (after.world.traffic.length - before.world.traffic.length)
  (fresh.reverse.filter fun entry => entry.owner == some owner,
    (after.logText.drop before.logText.length).toString)

def report (before : Session) (concerned : Option Nat) (result : Result) : StepReport :=
  match concerned with
  | none => ⟨result.1, none, [], ""⟩
  | some owner =>
      let (traffic, log) := before.changes result.2 owner
      ⟨result.1,
        (result.2.world.arena? owner).map fun arena => (arena.chunkCount, arena.remaining),
        traffic, log⟩

def advance (session : Session) (step : Step) : StepReport × Session :=
  let (concerned, result) := session.step step
  (session.report concerned result, result.2)

/-- Drops the guards of an arena, newest first, then the arena; the failures on the way. -/
def dropGuards (session : Session) (owner : Nat) : List Snapshot → List Failure × Session
  | [] => ([], session)
  | newest :: older =>
      let (outcome, session) := session.rewindTo owner newest
      let (failures, session) := session.dropGuards owner older
      match outcome.result with
      | .ok _ => (failures, session)
      | .error failure => (failure :: failures, session)

def dropHolds (session : Session) (owner : Nat) : List Bool → Session
  | [] => session
  | alive :: rest =>
      let session :=
        if alive then
          session.withWorld
            (session.world.onArena owner fun arena env => arena.enable env.profile).2
        else session
      session.dropHolds owner rest

def tearDown (session : Session) (owner : Nat) (tenant : Tenant) : EndReport × Session :=
  let (failures, unguarded) :=
    (session.dropHolds owner tenant.holds).dropGuards owner tenant.guards
  let (result, world) := unguarded.world.drop owner
  let after := unguarded.withWorld world
  let (traffic, log) := session.changes after owner
  let last := match result with
    | .ok _ => []
    | .error failure => [failure]
  (⟨owner, traffic, log, failures ++ last⟩, after)

def close (session : Session) : List EndReport × Session :=
  (List.range session.world.tenants.length).foldl
    (fun (reports, session) owner =>
      match session.world.tenants[owner]? with
      | some tenant =>
          if tenant.arena.isSome then
            let (report, session) := session.tearDown owner tenant
            (reports ++ [report], session)
          else (reports, session)
      | none => (reports, session))
    ([], session)

end Session

end ChunkArena
