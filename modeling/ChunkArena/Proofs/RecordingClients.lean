import ChunkArena.Proofs.HoldingBytes
import ChunkArena.Proofs.ClientHoldings

/-!
Clients that keep to the rules and write down every answer. Such a client asks for no memory of an
arena while a disable guard of it is alive or leaked, writes only inside of what it holds, and gives
up only what it holds, as it is and once. Everything else it may do as it likes: grow any array by
any length it claims, rewind to snapshots that are stale or another arena's, and use any number of
arenas. What it holds is followed byte by byte.
-/

namespace ChunkArena

/-- What a call answered, or that it was against the rules and not made. -/
inductive Verdict
  | placed (result : Except Failure Nat) (nested : List Nat)
  | grew (result : Except Failure Bool)
  | done (result : Except Failure Unit)
  | saved (snapshot : Snapshot)
  | told (result : Except CallFailure CallAnswer)
  | refused

def Verdict.flag? : Verdict → Option Bool
  | .told (.ok (.flag value)) => some value
  | _ => none

def alone (answer : Except Failure Nat × World) : (Except Failure Nat × List Nat) × World :=
  ((answer.1, []), answer.2)

namespace Request

def ask (world : World) (owner : Nat) : Request → (Except Failure Nat × List Nat) × World
  | bytes size align => alone (world.allocate owner size align)
  | tryBytes size align =>
      alone (world.onArena owner fun arena env => arena.tryAllocate env size align)
  | raw depth layout => alone (world.allocateRaw (.nested owner depth) layout)
  | array kind number => alone (world.allocateArray owner kind number)
  | object kind value => alone (world.newObject owner kind value)
  | objectCopy kind value refused => alone (world.newObjectCopy owner kind value refused)
  | objectWith kind inner stops value =>
      let answer := world.newObjectWith owner kind inner stops value
      ((answer.1, answer.2.1), answer.2.2)
  | objects kind values stop => alone (world.newObjectsCopy owner kind values stop)
  | slice kind number make stop => alone (world.newSlice owner kind number make stop)
  | construct depth kind value dropPanics =>
      alone (world.construct (.nested owner depth) kind value dropPanics)
  | constructSlice depth kind values stop =>
      alone (world.constructSlice (.nested owner depth) kind values stop)

def offered (kind : Kind) (align length : Nat) (values : List Value) :
    Except Failure Nat → List Grant
  | .ok start => [⟨kind, align, start, length, values⟩]
  | .error _ => []

def grants (answer : Except Failure Nat × List Nat) : Request → List Grant
  | bytes size align | tryBytes size align => offered .u8 align size [] answer.1
  | raw _ layout => offered .u8 layout.align layout.size [] answer.1
  | array kind number => offered kind kind.align number [] answer.1
  | object kind value | objectCopy kind value _ | construct _ kind value _ =>
      offered kind kind.align 1 [value] answer.1
  | objectWith kind inner _ value =>
      grantedEach inner answer.2 ++ offered kind kind.align 1 [value] answer.1
  | objects kind values _ | constructSlice _ kind values _ =>
      offered kind kind.align values.length values answer.1
  | slice kind number make _ =>
      offered kind kind.align number ((List.range number).map make) answer.1

theorem granted_eq (kind : Kind) (align length : Nat) (values : List Value)
    (answer : Except Failure Nat × World) :
    granted kind align length values answer =
      (offered kind align length values answer.1, answer.2) := by
  obtain ⟨result, world⟩ := answer
  cases result <;> rfl

theorem serve_eq (world : World) (owner : Nat) (request : Request) :
    request.serve world owner =
      (request.grants (request.ask world owner).1, (request.ask world owner).2) := by
  cases request with
  | objectWith kind inner stops value =>
    simp only [serve, granted_eq]
    rfl
  | _ =>
    simp only [serve, granted_eq]
    rfl

end Request

structure RecordingClient where
  world : World
  holdings : List Holding
  saves : List Saved
  /-- The arenas of the disable guards that are alive or leaked. -/
  guards : List Nat
  verdicts : List Verdict
  clock : Nat

inductive Command
  | create (builder : Builder) (skew : Nat)
  | place (owner : Nat) (request : Request)
  /-- Grows an array of its own through a pointer that many bytes into it. -/
  | grow (which skip old new elementSize : Nat)
  /-- Grows whatever it claims to have, and keeps none of the new bytes. -/
  | stretch (owner start old new elementSize : Nat)
  | write (which offset : Nat) (bytes : List UInt8)
  | giveUp (which depth : Nat) (disposal : Disposal)
  | save (owner : Nat)
  /-- Rewinds an arena to a state that was saved, perhaps of another arena. -/
  | rewind (owner which : Nat)
  | disable (owner : Nat)
  | enable (owner : Nat)
  | release (owner : Nat)
  | drop (owner : Nat)
  | log (call : Call)

def Holding.lengthened (holding : Holding) (clock size : Nat) : Except Failure Bool → Holding
  | .ok true => holding.bytewise.grown clock size
  | _ => holding

namespace RecordingClient

def start (profile : Profile) (site : Site) (logs : Logs) : RecordingClient :=
  ⟨.new profile site logs, [], [], [], [], 0⟩

def refuse (client : RecordingClient) : Verdict × RecordingClient := (.refused, client)

def place (client : RecordingClient) (owner : Nat) (request : Request) :
    Verdict × RecordingClient :=
  let answer := request.ask client.world owner
  (.placed answer.1.1 answer.1.2,
    { client with
      world := answer.2
      holdings := (request.grants answer.1).map (·.holding owner client.clock) ++
        client.holdings })

/-- An array has grown if what was claimed to be its end was its end. -/
def grow (client : RecordingClient) (which skip old new elementSize : Nat) (holding : Holding) :
    Verdict × RecordingClient :=
  let answer := client.world.grow holding.owner (holding.start + skip) old new elementSize
  (.grew answer.1,
    { client with
      world := answer.2
      holdings :=
        if skip + old * elementSize = holding.size ∧ (skip = 0 ∨ skip < holding.size) then
          client.holdings.modify which
            (·.lengthened client.clock (skip + new * elementSize) answer.1)
        else client.holdings })

def stretch (client : RecordingClient) (owner start old new elementSize : Nat) :
    Verdict × RecordingClient :=
  let answer := client.world.grow owner start old new elementSize
  (.grew answer.1, { client with world := answer.2 })

def write (client : RecordingClient) (which offset : Nat) (bytes : List UInt8) (holding : Holding) :
    Verdict × RecordingClient :=
  if offset + bytes.length ≤ holding.size then
    (.done (.ok ()),
      { client with
        world := client.world.write (holding.start + offset) bytes
        holdings := client.holdings.modify which (·.overwritten offset bytes) })
  else client.refuse

def giveUp (client : RecordingClient) (which depth : Nat) (disposal : Disposal)
    (holding : Holding) :
    Verdict × RecordingClient :=
  if disposal.size ≤ holding.size then
    let answer := disposal.dispose client.world (.nested holding.owner depth) holding.start
    (.done answer.1,
      { client with
        world := answer.2
        holdings :=
          if answer.1.isOk = true then client.holdings.eraseIdx which else client.holdings })
  else client.refuse

/-- A rewind to another arena's snapshot that takes effect may take anything of this arena back. -/
def rewind (client : RecordingClient) (owner : Nat) (saved : Saved) : Verdict × RecordingClient :=
  let answer := client.world.rewind owner saved.snapshot
  (.done answer.1,
    { client with
      world := answer.2
      holdings :=
        if Client.Effective client.world owner answer then
          if saved.owner = owner then client.holdings.filterMap (Holding.undo owner saved.time)
          else client.holdings.filter (·.owner ≠ owner)
        else client.holdings })

def disable (client : RecordingClient) (owner : Nat) : Verdict × RecordingClient :=
  let answer := client.world.disable owner
  (.done answer.1,
    { client with
      world := answer.2
      guards := if answer.1.isOk = true then owner :: client.guards else client.guards })

def enable (client : RecordingClient) (owner : Nat) : Verdict × RecordingClient :=
  let answer := client.world.enable owner
  (.done answer.1, { client with world := answer.2, guards := client.guards.erase owner })

def make (client : RecordingClient) : Command → Verdict × RecordingClient
  | .create builder skew =>
      (.done (.ok ()), { client with world := client.world.addArena builder.build skew })
  | .place owner request =>
      if owner ∈ client.guards then client.refuse else client.place owner request
  | .grow which skip old new elementSize =>
      (client.holdings[which]?).elim client.refuse fun holding =>
        if holding.owner ∈ client.guards then client.refuse
        else client.grow which skip old new elementSize holding
  | .stretch owner start old new elementSize =>
      if owner ∈ client.guards then client.refuse
      else client.stretch owner start old new elementSize
  | .write which offset bytes =>
      (client.holdings[which]?).elim client.refuse (client.write which offset bytes)
  | .giveUp which depth disposal =>
      (client.holdings[which]?).elim client.refuse (client.giveUp which depth disposal)
  | .save owner =>
      (client.world.arena? owner).elim client.refuse fun arena =>
        (.saved arena.snapshot,
          { client with saves := ⟨owner, arena.snapshot, client.clock⟩ :: client.saves })
  | .rewind owner which => (client.saves[which]?).elim client.refuse (client.rewind owner)
  | .disable owner => client.disable owner
  | .enable owner => if owner ∈ client.guards then client.enable owner else client.refuse
  | .release owner =>
      let answer := client.world.release owner
      (.done answer.1, { client with world := answer.2 })
  | .drop owner =>
      let answer := client.world.drop owner
      (.done answer.1, { client with world := answer.2 })
  | .log call =>
      (.told (Logs.call call client.world.logs).1, { client with world := client.world.log call })

def step (client : RecordingClient) (command : Command) : RecordingClient :=
  let made := client.make command
  { made.2 with
    holdings := remaining made.2.world made.2.holdings
    verdicts := made.1 :: made.2.verdicts
    clock := made.2.clock + 1 }

def run (client : RecordingClient) (commands : List Command) : RecordingClient :=
  commands.foldl step client

end RecordingClient

theorem Arena.Rewinds.beyond {arena : Arena} {env : Env} {snapshot : Snapshot}
    {reply : Reply Unit} (rewinds : arena.Rewinds env snapshot reply)
    (consistent : arena.Consistent) {effect : Effect} (member : effect ∈ reply.effects)
    {address : Nat} (fills : effect.Fills address) : arena.Beyond 0 0 address := by
  cases rewinds with
  | refused cause same =>
    rw [same] at member
    cases member
  | unwarned handle cause names gone later loud same =>
    rw [same] at member
    rw [List.mem_singleton.mp member] at fills
    exact fills.elim
  | bare names closes => exact beyond_of_empty (closes.fills member fills) fills
  | live handle chunk names live limit low high closes =>
    obtain ⟨q, home, place, bottom, top, _⟩ :=
      beyond_of_fallBack consistent live limit low (closes.fills member fills) fills
    exact ⟨q, home, place, bottom, top, by omega⟩
  | released handle names gone later closes =>
    rcases List.mem_cons.mp (closes.fills member fills) with told | surrendered
    · rw [told] at fills
      exact fills.elim
    · exact beyond_of_empty surrendered fills

namespace Keeps

variable {world : World} {holdings : List Holding} {saves : List Saved} {clock : Nat}

theorem extend {holding : Holding} (keeps : Keeps world (holding :: holdings) saves clock)
    {skip old elementSize : Nat} (ends : skip + old * elementSize = holding.size)
    (inside : skip = 0 ∨ skip < holding.size) (new : Nat) :
    Keeps (world.grow holding.owner (holding.start + skip) old new elementSize).2
      (holding.lengthened clock (skip + new * elementSize)
          (world.grow holding.owner (holding.start + skip) old new elementSize).1 :: holdings)
      saves clock := by
  refine keeps.onArena holding.owner _
    (fun answer => holding.lengthened clock (skip + new * elementSize) answer.1 :: holdings)
    (fun _ => List.Sublist.refl _) ?_
  intro arena env found profile kept _ provided
  have consistent := (kept.settled.sound holding.owner arena found).consistent
  rcases Arena.grow_cases consistent env (holding.start + skip) old new elementSize with
    ⟨result, other, refused⟩ | ⟨stretches, done⟩
  · rw [refused] at provided ⊢
    have same : holding.lengthened clock (skip + new * elementSize) result = holding := by
      cases result with
      | error failure => rfl
      | ok grew =>
        cases grew with
        | true => exact absurd rfl other
        | false => rfl
    simp only [same]
    exact kept.steady found (.refl arena) provided rfl rfl (by simp)
  · rw [done, profile] at provided ⊢
    exact kept.extend found stretches ends inside provided

theorem misrewind (keeps : Keeps world holdings saves clock) (owner : Nat)
    (snapshot : Snapshot) :
    Keeps (world.rewind owner snapshot).2
      (if Client.Effective world owner (world.rewind owner snapshot) then
        holdings.filter (·.owner ≠ owner)
      else holdings) saves clock := by
  apply keeps.rewinds owner snapshot fun _ => holdings.filter (·.owner ≠ owner)
  intro arena env found profile kept rewinds provided _
  have consistent := (kept.settled.sound owner arena found).consistent
  refine kept.leave found ?_ provided List.filter_sublist ?_ ?_
  · rw [← profile]
    exact rewinds.changes
  · intro holding member
    simpa using (List.mem_filter.mp member).2
  · exact fun effect member address fills => rewinds.beyond consistent member fills

end Keeps

namespace RecordingClient

/-- Whether everything that a client holds is where it should be, byte by byte. -/
def HoldingsKept (client : RecordingClient) : Prop :=
  Keeps client.world client.holdings client.saves client.clock

theorem start_holdingsKept (profile : Profile) (site : Site) (logs : Logs) :
    (start profile site logs).HoldingsKept := Client.start_holdingsKept profile site logs

variable {client : RecordingClient}

theorem HoldingsKept.remaining (holdingsKept : client.HoldingsKept) :
    Keeps client.world (ChunkArena.remaining client.world client.holdings) client.saves
      client.clock :=
  Keeps.sublist holdingsKept List.filter_sublist

theorem HoldingsKept.place (holdingsKept : client.HoldingsKept) (owner : Nat) (request : Request) :
    (client.place owner request).2.HoldingsKept := by
  have served := Keeps.serve holdingsKept owner request
  rw [request.serve_eq] at served
  exact served

theorem HoldingsKept.grow (holdingsKept : client.HoldingsKept) {which : Nat} {holding : Holding}
    (found : client.holdings[which]? = some holding) (skip old new elementSize : Nat) :
    (client.grow which skip old new elementSize holding).2.HoldingsKept := by
  unfold HoldingsKept RecordingClient.grow
  dsimp only
  split
  · rename_i proper
    obtain ⟨rest, front, changed⟩ := perm_modify found
    have extended := (Keeps.perm holdingsKept front).extend proper.1 proper.2 new
    exact extended.perm (changed fun holding => holding.lengthened client.clock _ _).symm
  · exact Keeps.stretch holdingsKept holding.owner (holding.start + skip) old new elementSize

theorem HoldingsKept.write (holdingsKept : client.HoldingsKept) {which : Nat} {holding : Holding}
    (found : client.holdings[which]? = some holding) (offset : Nat) (bytes : List UInt8) :
    (client.write which offset bytes holding).2.HoldingsKept := by
  unfold RecordingClient.write
  split
  · rename_i within
    obtain ⟨rest, front, changed⟩ := perm_modify found
    have written : Keeps (client.world.write (holding.start + offset) bytes)
        (holding.overwritten offset bytes :: rest) client.saves client.clock :=
      fun provided => ((holdingsKept provided).perm front).overwrite within
    exact written.perm (changed fun holding => holding.overwritten offset bytes).symm
  · exact holdingsKept

theorem HoldingsKept.giveUp (holdingsKept : client.HoldingsKept) {which : Nat} {holding : Holding}
    (found : client.holdings[which]? = some holding) (depth : Nat) (disposal : Disposal) :
    (client.giveUp which depth disposal holding).2.HoldingsKept := by
  unfold RecordingClient.giveUp
  split
  · rename_i proper
    unfold HoldingsKept
    dsimp only
    split
    · obtain ⟨inside, same⟩ := List.getElem?_eq_some_iff.mp found
      have front : client.holdings.Perm (holding :: client.holdings.eraseIdx which) := by
        rw [← same]
        exact (List.getElem_cons_eraseIdx_perm inside).symm
      have given := (Keeps.perm holdingsKept front).giveUp depth proper
      exact given.sublist (List.sublist_cons_self _ _)
    · rename_i refused
      refine Keeps.dispose holdingsKept holding.owner depth holding.start disposal rfl ?_
      intro kept other member
      refine (kept.intact other member).of_read fun _ _ _ _ => ?_
      exact read_dispose _ _ _ _ _ fun done => absurd done refused
  · exact holdingsKept

theorem HoldingsKept.rewind (holdingsKept : client.HoldingsKept) (owner : Nat) {saved : Saved}
    (listed : saved ∈ client.saves) :
    Keeps (client.rewind owner saved).2.world
      (ChunkArena.remaining (client.rewind owner saved).2.world
        (client.rewind owner saved).2.holdings)
      (client.rewind owner saved).2.saves (client.rewind owner saved).2.clock := by
  unfold RecordingClient.rewind
  dsimp only
  by_cases own : saved.owner = owner
  · subst own
    have kept := Keeps.rewind holdingsKept listed
    rw [if_pos rfl]
    split
    · rename_i effective
      rw [if_pos effective] at kept
      exact kept
    · rename_i idle
      rw [if_neg idle] at kept
      exact kept.sublist List.filter_sublist
  · simp only [if_neg own]
    have kept := Keeps.misrewind holdingsKept owner saved.snapshot
    exact kept.sublist List.filter_sublist

theorem HoldingsKept.make (holdingsKept : client.HoldingsKept) (command : Command) :
    Keeps (client.make command).2.world
      (ChunkArena.remaining (client.make command).2.world (client.make command).2.holdings)
      (client.make command).2.saves (client.make command).2.clock := by
  cases command with
  | create builder skew =>
    exact HoldingsKept.remaining fun provided => (holdingsKept provided).addArena builder skew
  | place owner request =>
    simp only [RecordingClient.make]
    split
    · exact holdingsKept.remaining
    · exact (holdingsKept.place owner request).remaining
  | grow which skip old new elementSize =>
    simp only [RecordingClient.make]
    cases found : client.holdings[which]? with
    | none => exact holdingsKept.remaining
    | some holding =>
      simp only [Option.elim_some]
      split
      · exact holdingsKept.remaining
      · exact (holdingsKept.grow found skip old new elementSize).remaining
  | stretch owner start old new elementSize =>
    simp only [RecordingClient.make]
    split
    · exact holdingsKept.remaining
    · exact HoldingsKept.remaining (Keeps.stretch holdingsKept owner start old new elementSize)
  | write which offset bytes =>
    simp only [RecordingClient.make]
    cases found : client.holdings[which]? with
    | none => exact holdingsKept.remaining
    | some holding => exact (holdingsKept.write found offset bytes).remaining
  | giveUp which depth disposal =>
    simp only [RecordingClient.make]
    cases found : client.holdings[which]? with
    | none => exact holdingsKept.remaining
    | some holding => exact (holdingsKept.giveUp found depth disposal).remaining
  | save owner =>
    simp only [RecordingClient.make]
    cases found : client.world.arena? owner with
    | none => exact holdingsKept.remaining
    | some arena => exact HoldingsKept.remaining fun provided => (holdingsKept provided).save found
  | rewind owner which =>
    simp only [RecordingClient.make]
    cases found : client.saves[which]? with
    | none => exact holdingsKept.remaining
    | some saved => exact holdingsKept.rewind owner (List.mem_of_getElem? found)
  | disable owner =>
    exact HoldingsKept.remaining (Keeps.hold holdingsKept owner fun arena env =>
      Arena.disable_holds arena env.profile)
  | enable owner =>
    simp only [RecordingClient.make]
    split
    · exact HoldingsKept.remaining (Keeps.hold holdingsKept owner fun arena env =>
        Arena.enable_holds arena env.profile)
    · exact holdingsKept.remaining
  | release owner => exact Keeps.release holdingsKept owner
  | drop owner => exact Keeps.drop holdingsKept owner
  | log call =>
    exact HoldingsKept.remaining fun provided =>
      (holdingsKept provided).congr (fun _ => rfl) rfl rfl rfl

theorem HoldingsKept.step (holdingsKept : client.HoldingsKept) (command : Command) :
    (client.step command).HoldingsKept :=
  (holdingsKept.make command).later

theorem HoldingsKept.run (holdingsKept : client.HoldingsKept) (commands : List Command) :
    (client.run commands).HoldingsKept := by
  induction commands generalizing client with
  | nil => exact holdingsKept
  | cons command rest ih => exact ih (holdingsKept.step command)

end RecordingClient

end ChunkArena
