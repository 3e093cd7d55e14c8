import ChunkArena.Proofs.LedgerCalls

/-!
Clients that keep to the rules, over any number of arenas. A client uses only snapshots and arrays
of its own: it grows arrays by their true length, writes inside them, and gives up no more bytes
than an array has. What it holds follows from its calls and their answers alone. An array is held
from the call that handed it out until a rewind to an earlier snapshot takes effect, or until its
arena has no chunks left; a growth is held until a rewind to a snapshot from before takes effect. A
rewind takes effect if it returns, and also if it stops after it has changed the arena.
-/

namespace ChunkArena

def Request.Typed : Request → Prop
  | object kind value | objectCopy kind value _ | objectWith kind _ _ value
  | construct _ kind value _ => Kind.Fits kind.widths value
  | objects kind values _ | constructSlice _ kind values _ =>
      ∀ value ∈ values, Kind.Fits kind.widths value
  | slice kind number make _ => ∀ i < number, Kind.Fits kind.widths (make i)
  | bytes .. | tryBytes .. | raw .. | array .. => True

instance (request : Request) : Decidable request.Typed := by
  cases request <;> unfold Request.Typed <;> infer_instance

def Disposal.size (disposal : Disposal) : Nat :=
  match disposal.layout? with
  | some layout => layout.size
  | none => 0

structure Client where
  world : World
  holdings : List Holding
  saves : List Saved
  clock : Nat

inductive Move
  | create (builder : Builder) (skew : Nat)
  | place (owner : Nat) (request : Request)
  | grow (which new : Nat)
  | write (which index : Nat) (value : Value)
  | giveUp (which depth : Nat) (disposal : Disposal)
  /-- A disposal of anything at all; what was stored there is no longer known. -/
  | dispose (owner depth address : Nat) (disposal : Disposal)
  | save (owner : Nat)
  | rewind (which : Nat)
  | disable (owner : Nat)
  | enable (owner : Nat)
  | release (owner : Nat)
  | drop (owner : Nat)
  | log (call : Call)

namespace Client

def start (profile : Profile) (site : Site) (logs : Logs) : Client :=
  ⟨.new profile site logs, [], [], 0⟩

def grow (client : Client) (which new : Nat) (holding : Holding) : Client :=
  let answer := client.world.grow holding.owner holding.start holding.length new holding.kind.size
  { client with
    world := answer.2
    holdings := client.holdings.modify which (·.enlarged client.clock new answer.1) }

def write (client : Client) (which index : Nat) (value : Value) (holding : Holding) : Client :=
  if index < holding.length ∧ Kind.Fits holding.kind.widths value then
    { client with
      world := client.world.write (holding.start + index * holding.kind.size)
        (holding.kind.encode value)
      holdings := client.holdings.modify which (·.written index value) }
  else client

def giveUp (client : Client) (which depth : Nat) (disposal : Disposal) (holding : Holding) :
    Client :=
  if disposal.size ≤ holding.length * holding.kind.size then
    { client with
      world := (disposal.dispose client.world (.nested holding.owner depth) holding.start).2
      holdings := client.holdings.modify which Holding.forgotten }
  else client

/-- Whether a rewind took effect. -/
def Effective (before : World) (owner : Nat) (answer : Except Failure Unit × World) : Prop :=
  answer.1.isOk = true ∨ answer.2.arena? owner ≠ before.arena? owner

instance (before : World) (owner : Nat) (answer : Except Failure Unit × World) :
    Decidable (Effective before owner answer) := inferInstanceAs (Decidable (_ ∨ _))

def rewind (client : Client) (saved : Saved) : Client :=
  let answer := client.world.rewind saved.owner saved.snapshot
  if Effective client.world saved.owner answer then
    { client with
      world := answer.2
      holdings := client.holdings.filterMap (Holding.undo saved.owner saved.time) }
  else { client with world := answer.2 }

def make (client : Client) : Move → Client
  | .create builder skew => { client with world := client.world.addArena builder.build skew }
  | .place owner request =>
      if request.Typed then
        let (grants, world) := request.serve client.world owner
        { client with
          world := world
          holdings := grants.map (·.holding owner client.clock) ++ client.holdings }
      else client
  | .grow which new => (client.holdings[which]?).elim client (client.grow which new)
  | .write which index value =>
      (client.holdings[which]?).elim client (client.write which index value)
  | .giveUp which depth disposal =>
      (client.holdings[which]?).elim client (client.giveUp which depth disposal)
  | .dispose owner depth address disposal =>
      { client with
        world := (disposal.dispose client.world (.nested owner depth) address).2
        holdings := client.holdings.map (·.spoiled address disposal.size) }
  | .save owner =>
      (client.world.arena? owner).elim client fun arena =>
        { client with saves := ⟨owner, arena.snapshot, client.clock⟩ :: client.saves }
  | .rewind which => (client.saves[which]?).elim client client.rewind
  | .disable owner => { client with world := (client.world.disable owner).2 }
  | .enable owner => { client with world := (client.world.enable owner).2 }
  | .release owner => { client with world := (client.world.release owner).2 }
  | .drop owner => { client with world := (client.world.drop owner).2 }
  | .log call => { client with world := client.world.log call }

/-- Makes one call and forgets the holdings of arenas without chunks. -/
def step (client : Client) (move : Move) : Client :=
  let made := client.make move
  { made with holdings := remaining made.world made.holdings, clock := made.clock + 1 }

def run (client : Client) (moves : List Move) : Client := moves.foldl step client

end Client

theorem read_dispose (world : World) (owner depth address : Nat) (disposal : Disposal) {x : Nat}
    (spared : (disposal.dispose world (.nested owner depth) address).1.isOk = true →
      ¬ (address ≤ x ∧ x < address + disposal.size)) :
    (disposal.dispose world (.nested owner depth) address).2.memory.read x =
      world.memory.read x := by
  obtain ⟨kind, change, ⟨failure, _, stopped⟩ | ⟨layout, shape, done⟩⟩ :=
    dispose_cases world owner depth address disposal
  · rw [stopped, World.count_eq]
  · have size : disposal.size = layout.size := by simp only [Disposal.size, shape]
    rw [done] at spared ⊢
    have memory : (world.count kind change).memory = world.memory := by rw [World.count_eq]
    rw [size] at spared
    rw [← memory]
    generalize world.count kind change = counted at spared ⊢
    cases found : counted.arena? owner with
    | none =>
      obtain ⟨cause, same⟩ := World.onArena_none found fun arena env =>
        arena.deallocate env address layout
      rw [same]
    | some arena =>
      obtain ⟨skew, same⟩ := World.onArena_some found fun arena env =>
        arena.deallocate env address layout
      rw [same] at spared ⊢
      apply World.read_after
      intro effect member fills
      rcases Arena.deallocate_cases arena (counted.env skew) address layout with failed | marked
      · rw [failed] at member
        cases member
      · rw [marked] at member spared
        exact spared rfl (Profile.fills_of_mem_mark member fills)

namespace Keeps

variable {world : World} {holdings : List Holding} {saves : List Saved} {clock : Nat}

theorem stretch (keeps : Keeps world holdings saves clock)
    (owner start old new elementSize : Nat) :
    Keeps (world.grow owner start old new elementSize).2 holdings saves clock := by
  refine keeps.onArena owner _ (fun _ => holdings) (fun _ => List.Sublist.refl _) ?_
  intro arena env found profile kept _ provided
  have consistent := (kept.settled.sound owner arena found).consistent
  rcases Arena.grow_cases consistent env start old new elementSize with
    ⟨result, _, refused⟩ | ⟨stretches, done⟩
  · rw [refused] at provided ⊢
    exact kept.steady found (.refl arena) provided rfl rfl (by simp)
  · rw [done, profile] at provided ⊢
    exact kept.stretch found stretches provided

theorem grow {holding : Holding} (keeps : Keeps world (holding :: holdings) saves clock)
    (new : Nat) :
    Keeps (world.grow holding.owner holding.start holding.length new holding.kind.size).2
      (holding.enlarged clock new
          (world.grow holding.owner holding.start holding.length new holding.kind.size).1 ::
        holdings) saves clock := by
  refine keeps.onArena holding.owner _
    (fun answer => holding.enlarged clock new answer.1 :: holdings)
    (fun _ => List.Sublist.refl _) ?_
  intro arena env found profile kept _ provided
  have consistent := (kept.settled.sound holding.owner arena found).consistent
  rcases Arena.grow_cases consistent env holding.start holding.length new holding.kind.size with
    ⟨result, other, refused⟩ | ⟨stretches, done⟩
  · rw [refused] at provided ⊢
    have same : holding.enlarged clock new result = holding := by
      cases result with
      | error failure => rfl
      | ok grew =>
        cases grew with
        | true => exact absurd rfl other
        | false => rfl
    simp only
    rw [same]
    exact kept.steady found (.refl arena) provided rfl rfl (by simp)
  · rw [done] at provided ⊢
    rw [profile] at provided ⊢
    exact kept.grow found stretches provided

theorem dispose (keeps : Keeps world holdings saves clock) (owner depth address : Nat)
    (disposal : Disposal) {known : List Holding}
    (plots : known.map Holding.toPlot = holdings.map Holding.toPlot)
    (intact : Kept world holdings saves clock → ∀ holding ∈ known,
      holding.Intact (disposal.dispose world (.nested owner depth) address).2.memory) :
    Keeps (disposal.dispose world (.nested owner depth) address).2 known saves clock := by
  intro provided
  have before := provided_of_suffix provided
    (world.act_traffic_suffix (.dispose owner depth address disposal))
  have kept := keeps before
  refine ⟨?_, intact kept⟩
  rw [plots]
  obtain ⟨kind, change, ⟨failure, _, stopped⟩ | ⟨layout, _, done⟩⟩ :=
    dispose_cases world owner depth address disposal
  · rw [stopped]
    exact (kept.count kind change).settled
  · rw [done] at provided ⊢
    have counted := (kept.count kind change).settled
    cases found : (world.count kind change).arena? owner with
    | none =>
      obtain ⟨cause, same⟩ := World.onArena_none found fun arena env =>
        arena.deallocate env address layout
      rw [same]
      exact counted
    | some arena =>
      obtain ⟨skew, same⟩ := World.onArena_some found fun arena env =>
        arena.deallocate env address layout
      rw [same] at provided ⊢
      have changes := Arena.deallocate_changes arena ((world.count kind change).env skew) address
        layout
      apply counted.change found changes provided
      intro plot _ _ e _ position secured
      rcases Arena.deallocate_cases arena _ address layout with failed | marked
      · rw [failed]
        exact secured.holds
      · rw [marked]
        exact secured.holds

theorem rewinds (keeps : Keeps world holdings saves clock) (owner : Nat) (snapshot : Snapshot)
    (left : World → List Holding)
    (kept : ∀ arena env, world.arena? owner = some arena → env.profile = world.profile →
      Kept world holdings saves clock → arena.Rewinds env snapshot (arena.rewind env snapshot) →
      Provided (world.after owner (arena.rewind env snapshot).effects
        (arena.rewind env snapshot).arena).traffic →
      (∀ cause effects, arena.rewind env snapshot ≠ ⟨.error (.panic cause), arena, effects⟩) →
      Kept (world.after owner (arena.rewind env snapshot).effects (arena.rewind env snapshot).arena)
        (left (world.after owner (arena.rewind env snapshot).effects
          (arena.rewind env snapshot).arena)) saves clock) :
    Keeps (world.rewind owner snapshot).2
      (if Client.Effective world owner (world.rewind owner snapshot) then
        left (world.rewind owner snapshot).2
      else holdings) saves clock := by
  refine keeps.onArena owner (fun arena env => arena.rewind env snapshot)
    (fun answer => if Client.Effective world owner answer then left answer.2 else holdings) ?_ ?_
  · intro failure
    have idle : ¬ Client.Effective world owner (.error failure, world) := by
      rintro (returned | changed)
      · cases returned
      · exact changed rfl
    simp only [if_neg idle]
    exact List.Sublist.refl _
  · intro arena env found profile here before provided
    have sound := here.settled.sound
    have rewinds := Arena.rewind_rewinds (sound owner arena found).consistent
      (sound.small before found) env snapshot
    have after := kept arena env found profile here rewinds provided
    generalize arena.rewind env snapshot = reply at *
    have own := world.arena?_after_self owner found reply.effects reply.arena
    by_cases effective : Client.Effective world owner
        (reply.result, world.after owner reply.effects reply.arena)
    · simp only [if_pos effective]
      apply after
      intro cause effects answer
      rw [answer] at effective own
      rcases effective with returned | changed
      · cases returned
      · exact changed (own.trans found.symm)
    · simp only [if_neg effective]
      have unchanged : reply.arena = arena := by
        by_contra changed
        refine effective (Or.inr ?_)
        rw [own, found]
        exact fun same => changed (Option.some.inj same)
      have changes : Arena.Changes world.profile arena reply.effects reply.arena := by
        rw [← profile]
        exact rewinds.changes
      exact here.steady found changes provided (congrArg Arena.chunks unchanged)
        (congrArg Arena.cursor unchanged) fun effect member => rewinds.not_fills unchanged member

theorem rewind (keeps : Keeps world holdings saves clock) {saved : Saved}
    (listed : saved ∈ saves) :
    Keeps (world.rewind saved.owner saved.snapshot).2
      (if Client.Effective world saved.owner (world.rewind saved.owner saved.snapshot) then
        remaining (world.rewind saved.owner saved.snapshot).2
          (holdings.filterMap (Holding.undo saved.owner saved.time))
      else holdings) saves clock := by
  apply keeps.rewinds saved.owner saved.snapshot fun after =>
    remaining after (holdings.filterMap (Holding.undo saved.owner saved.time))
  intro arena env found profile kept rewinds provided accepted
  exact kept.rewound listed found profile rewinds provided accepted

theorem release (keeps : Keeps world holdings saves clock) (owner : Nat) :
    Keeps (world.release owner).2 (remaining (world.release owner).2 holdings) saves clock := by
  refine keeps.onArena owner Arena.release (fun answer => remaining answer.2 holdings)
    (fun _ => List.filter_sublist) ?_
  intro arena env found profile kept before provided
  have sound := kept.settled.sound
  have closes := Arena.release_closes (sound owner arena found).consistent
    (sound.small before found) env
  have changes : Arena.Changes world.profile arena (arena.release env).effects
      (arena.release env).arena := by
    rw [← profile]
    exact closes.changes (Arena.Change.empty arena _).single
  refine kept.empty found changes provided (by rw [closes.arena_eq]; rfl) ?_
  rw [← profile]
  exact fun effect member address fills => closes.fills member fills

theorem drop (keeps : Keeps world holdings saves clock) (owner : Nat) :
    Keeps (world.drop owner).2 (remaining (world.drop owner).2 holdings) saves clock := by
  intro provided
  rw [World.drop_eq] at provided ⊢
  have kept := keeps.release owner provided
  generalize (world.release owner).2 = released at *
  have gone : (released.vacated owner).hasChunks owner = false := by
    rw [World.hasChunks, World.arena?_vacated_self]
  have fewer : (remaining (released.vacated owner) holdings).Sublist
      (remaining released holdings) := by
    apply List.monotone_filter_right holdings
    intro holding chunks
    by_cases own : holding.owner = owner
    · rw [own, gone] at chunks
      cases chunks
    · rwa [World.hasChunks, World.arena?_vacated_other released own] at chunks
  have left := kept.sublist fewer
  refine ⟨⟨left.settled.sound.vacated owner, ?_, left.settled.aligned, left.settled.apart,
    left.settled.past⟩, left.intact⟩
  intro plot member
  obtain ⟨holding, present, rfl⟩ := List.mem_map.mp member
  obtain ⟨home, found, everywhere⟩ := left.settled.secured _ member
  refine ⟨home, ?_, everywhere⟩
  by_cases own : holding.owner = owner
  · have chunks := (List.mem_filter.mp present).2
    rw [own, gone] at chunks
    cases chunks
  · rw [World.arena?_vacated_other released own]
    exact found

theorem giveUp {holding : Holding} (keeps : Keeps world (holding :: holdings) saves clock)
    (depth : Nat) {disposal : Disposal}
    (proper : disposal.size ≤ holding.length * holding.kind.size) :
    Keeps (disposal.dispose world (.nested holding.owner depth) holding.start).2
      (holding.forgotten :: holdings) saves clock := by
  refine keeps.dispose holding.owner depth holding.start disposal rfl ?_
  intro kept other member
  rcases List.mem_cons.mp member with first | older
  · rw [first]
    intro e _ i _ value known
    cases known
  · have apart := (List.pairwise_cons.mp kept.settled.apart).1
    refine (kept.intact other (List.mem_cons_of_mem _ older)).of_read ?_
    intro e inside address covered
    apply read_dispose
    intro _ given
    refine apart other.toPlot (List.mem_map_of_mem older) holding.extent List.mem_cons_self e
      inside address ⟨given.1, ?_⟩ covered
    simp only [Plot.finish]
    change address < holding.start + holding.length * holding.kind.size
    omega

theorem hold (keeps : Keeps world holdings saves clock) (owner : Nat)
    {call : Arena → Env → Reply Unit}
    (holds : ∀ arena env, ∃ count result,
      call arena env = ⟨result, { arena with disabled := count }, []⟩) :
    Keeps (world.onArena owner call).2 holdings saves clock := by
  refine keeps.onArena owner call (fun _ => holdings) (fun _ => List.Sublist.refl _) ?_
  intro arena env found profile kept before provided
  obtain ⟨count, result, same⟩ := holds arena env
  rw [same] at provided ⊢
  exact kept.steady found (Arena.Change.hold arena count).single provided rfl rfl (by simp)

end Keeps

theorem Holding.Intact.written {holding : Holding} {memory : Memory}
    (intact : holding.Intact memory) (index : Nat) (value : Value) :
    (holding.written index value).Intact
      (memory.store (holding.start + index * holding.kind.size) (holding.kind.encode value)) := by
  have size := holding.kind.length_encode value
  intro e inside i bound stored known
  simp only [Holding.written] at known ⊢
  by_cases same : i = index
  · rw [if_pos same] at known
    cases known
    have within : 0 + holding.kind.size ≤ (holding.kind.encode value).length := by omega
    have whole := memory.load_store (holding.start + index * holding.kind.size) _ within
    rw [Nat.add_zero, List.drop_zero, List.take_of_length_le (by omega)] at whole
    rw [same]
    exact whole
  · rw [if_neg same] at known
    rw [← intact e inside i bound stored known]
    apply Memory.load_congr
    intro address low high
    apply Memory.read_store_outside
    rcases Nat.lt_or_gt_of_ne same with before | after
    · have below : (i + 1) * holding.kind.size ≤ index * holding.kind.size :=
        Nat.mul_le_mul_right _ before
      rw [Nat.add_mul, Nat.one_mul] at below
      omega
    · have above : (index + 1) * holding.kind.size ≤ i * holding.kind.size :=
        Nat.mul_le_mul_right _ after
      rw [Nat.add_mul, Nat.one_mul] at above
      omega

theorem Holding.Intact.spoiled {holding : Holding} {memory other : Memory}
    (intact : holding.Intact memory) {start count : Nat}
    (same : ∀ x, ¬ (start ≤ x ∧ x < start + count) → other.read x = memory.read x) :
    (holding.spoiled start count).Intact other := by
  intro e inside i bound value known
  simp only [Holding.spoiled] at known ⊢
  split at known
  · cases known
  · rename_i apart
    rw [← intact e inside i bound value known]
    rw [Nat.add_mul, Nat.one_mul] at apart
    apply Memory.load_congr
    intro address low high
    exact same address (by omega)

namespace Client

def HoldingsKept (client : Client) : Prop :=
  Keeps client.world client.holdings client.saves client.clock

theorem start_holdingsKept (profile : Profile) (site : Site) (logs : Logs) :
    (start profile site logs).HoldingsKept := by
  intro provided
  exact ⟨⟨World.new_soundIfProvided profile site logs provided, by simp [start], by simp [start],
    List.Pairwise.nil, by simp [start]⟩, by simp [start]⟩

variable {client : Client}

theorem HoldingsKept.remaining (holdingsKept : client.HoldingsKept) :
    Keeps client.world (ChunkArena.remaining client.world client.holdings) client.saves
      client.clock :=
  Keeps.sublist holdingsKept List.filter_sublist

theorem HoldingsKept.grow (holdingsKept : client.HoldingsKept) {which : Nat} {holding : Holding}
    (found : client.holdings[which]? = some holding) (new : Nat) :
    (client.grow which new holding).HoldingsKept := by
  obtain ⟨rest, front, changed⟩ := perm_modify found
  exact ((Keeps.perm holdingsKept front).grow new).perm
    (changed fun holding => holding.enlarged client.clock new _).symm

theorem HoldingsKept.write (holdingsKept : client.HoldingsKept) {which : Nat} {holding : Holding}
    (found : client.holdings[which]? = some holding) (index : Nat) (value : Value) :
    (client.write which index value holding).HoldingsKept := by
  unfold Client.write
  split
  · rename_i proper
    obtain ⟨rest, front, changed⟩ := perm_modify found
    have size := holding.kind.length_encode value
    have below : (index + 1) * holding.kind.size ≤ holding.length * holding.kind.size :=
      Nat.mul_le_mul_right _ proper.1
    rw [Nat.add_mul, Nat.one_mul] at below
    refine Keeps.perm ?_ (changed _).symm
    intro provided
    have kept := (holdingsKept provided).perm front
    refine kept.write_first (by omega) ?_ _
      ((kept.intact holding List.mem_cons_self).written index value)
    simp only [Plot.finish]
    rw [size]
    change _ ≤ holding.start + holding.length * holding.kind.size
    omega
  · exact holdingsKept

theorem HoldingsKept.giveUp (holdingsKept : client.HoldingsKept) {which : Nat} {holding : Holding}
    (found : client.holdings[which]? = some holding) (depth : Nat) (disposal : Disposal) :
    (client.giveUp which depth disposal holding).HoldingsKept := by
  unfold Client.giveUp
  split
  · rename_i proper
    obtain ⟨rest, front, changed⟩ := perm_modify found
    exact ((Keeps.perm holdingsKept front).giveUp depth proper).perm (changed _).symm
  · exact holdingsKept

theorem HoldingsKept.rewind (holdingsKept : client.HoldingsKept) {saved : Saved}
    (listed : saved ∈ client.saves) :
    Keeps (client.rewind saved).world
      (ChunkArena.remaining (client.rewind saved).world (client.rewind saved).holdings)
      (client.rewind saved).saves (client.rewind saved).clock := by
  have kept := Keeps.rewind holdingsKept listed
  simp only [Client.rewind]
  split
  · rename_i effective
    rw [if_pos effective] at kept
    exact kept
  · rename_i idle
    rw [if_neg idle] at kept
    exact HoldingsKept.remaining kept

/-- A release loses the arena's holdings together with its chunks, so they are kept only in so far
as they remain. -/
theorem HoldingsKept.make (holdingsKept : client.HoldingsKept) (move : Move) :
    Keeps (client.make move).world
      (ChunkArena.remaining (client.make move).world (client.make move).holdings)
      (client.make move).saves (client.make move).clock := by
  cases move with
  | create builder skew =>
    exact HoldingsKept.remaining fun provided => (holdingsKept provided).addArena builder skew
  | place owner request =>
    simp only [Client.make]
    split
    · exact HoldingsKept.remaining (Keeps.serve holdingsKept owner request)
    · exact holdingsKept.remaining
  | grow which new =>
    simp only [Client.make]
    cases found : client.holdings[which]? with
    | none => exact holdingsKept.remaining
    | some holding => exact (holdingsKept.grow found new).remaining
  | write which index value =>
    simp only [Client.make]
    cases found : client.holdings[which]? with
    | none => exact holdingsKept.remaining
    | some holding => exact (holdingsKept.write found index value).remaining
  | giveUp which depth disposal =>
    simp only [Client.make]
    cases found : client.holdings[which]? with
    | none => exact holdingsKept.remaining
    | some holding => exact (holdingsKept.giveUp found depth disposal).remaining
  | dispose owner depth address disposal =>
    refine HoldingsKept.remaining (Keeps.dispose holdingsKept owner depth address disposal
      List.map_map ?_)
    intro kept holding member
    obtain ⟨before, present, rfl⟩ := List.mem_map.mp member
    exact (kept.intact before present).spoiled fun x outside =>
      read_dispose client.world owner depth address disposal fun _ => outside
  | save owner =>
    simp only [Client.make]
    cases found : client.world.arena? owner with
    | none => exact holdingsKept.remaining
    | some arena => exact HoldingsKept.remaining fun provided => (holdingsKept provided).save found
  | rewind which =>
    simp only [Client.make]
    cases found : client.saves[which]? with
    | none => exact holdingsKept.remaining
    | some saved => exact holdingsKept.rewind (List.mem_of_getElem? found)
  | disable owner =>
    exact HoldingsKept.remaining (Keeps.hold holdingsKept owner fun arena env =>
      Arena.disable_holds arena env.profile)
  | enable owner =>
    exact HoldingsKept.remaining (Keeps.hold holdingsKept owner fun arena env =>
      Arena.enable_holds arena env.profile)
  | release owner => exact Keeps.release holdingsKept owner
  | drop owner => exact Keeps.drop holdingsKept owner
  | log call =>
    exact HoldingsKept.remaining fun provided =>
      (holdingsKept provided).congr (fun _ => rfl) rfl rfl rfl

theorem HoldingsKept.step (holdingsKept : client.HoldingsKept) (move : Move) :
    (client.step move).HoldingsKept :=
  (holdingsKept.make move).later

theorem HoldingsKept.run (holdingsKept : client.HoldingsKept) (moves : List Move) :
    (client.run moves).HoldingsKept := by
  induction moves generalizing client with
  | nil => exact holdingsKept
  | cons move rest ih => exact ih (holdingsKept.step move)

end Client

end ChunkArena
