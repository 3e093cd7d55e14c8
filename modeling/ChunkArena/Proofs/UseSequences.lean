import ChunkArena.Proofs.ArenaUses

/-!
Uses of an arena one after the other, with what was answered and what the world was like after each.
Between uses the system may do as it likes with all bytes that are in no block. The same uses of two
arenas that reflect each other show the same, one by one.
-/

namespace ChunkArena

/-- What the system puts into the memory that is in no block, given the traffic so far. -/
abbrev Supply := List Traffic → Memory

def cleared : Supply := fun _ => .blank

def Memory.keeping (memory other : Memory) : List Traffic → Memory
  | [] => other
  | block :: rest =>
      (memory.keeping other rest).store block.start (memory.load block.start block.layout.size)

theorem Memory.read_keeping (memory other : Memory) {blocks : List Traffic} {block : Traffic}
    (member : block ∈ blocks) {address : Nat} (low : block.start ≤ address)
    (high : address < block.start + block.layout.size) :
    (memory.keeping other blocks).read address = memory.read address := by
  induction blocks with
  | nil => cases member
  | cons first rest ih =>
    have whole := memory.length_load first.start first.layout.size
    rw [Memory.keeping]
    by_cases inside : first.start ≤ address ∧ address < first.start + first.layout.size
    · obtain ⟨above, below⟩ := inside
      have place : first.start + (address - first.start) = address := by omega
      rw [Memory.read_store_inside _ above (by omega), List.get_eq_getElem,
        Memory.getElem_load, place]
    · rw [Memory.read_store_outside _ (by omega)]
      rcases List.mem_cons.mp member with same | later
      · rw [same] at low high
        exact absurd ⟨low, high⟩ inside
      · exact ih later

namespace World

def supplied (world : World) (supply : Supply) : World :=
  { world with memory := world.memory.keeping (supply world.traffic) (held world.traffic) }

theorem Sound.supplied_read {world : World} (sound : world.Sound) (supply : Supply) {owner : Nat}
    {chunk : Chunk} (member : chunk ∈ world.chunks owner) {offset : Nat}
    (below : offset < chunk.capacity) :
    (world.supplied supply).memory.read (chunk.start + offset) =
      world.memory.read (chunk.start + offset) := by
  cases found : world.arena? owner with
  | none =>
    rw [chunks_of_none found] at member
    cases member
  | some arena =>
    rw [chunks_of_some found] at member
    have booked := (sound owner arena found).booked chunk member
    exact Memory.read_keeping _ _ booked (Nat.le_add_right _ _) (Nat.add_lt_add_left below _)

variable {frame : Frame} {couples : List Couple} {world twin : World}

theorem Reflects.supplied (reflects : Reflects frame couples world twin)
    (supply supply' : Supply) :
    Reflects frame couples (world.supplied supply) (twin.supplied supply') := by
  have bytes : (world.supplied supply).memory.Echoes (twin.supplied supply').memory couples := by
    intro couple member offset below
    obtain ⟨inside, inside'⟩ := reflects.inside member
    have capacity := (reflects.apart.2 couple member).capacity
    rw [reflects.sound.supplied_read supply inside below,
      reflects.sound'.supplied_read supply' inside' (by omega)]
    exact reflects.echoes.bytes couple member offset below
  exact reflects.outside bytes

end World

/-- What an arena shows of itself. -/
structure View where
  label : String
  chunkCapacity : Nat
  chunkCount : Nat
  remaining : Nat
  disabled : Nat
  deriving DecidableEq

def Arena.view (arena : Arena) : View :=
  ⟨arena.label, arena.chunkCapacity, arena.chunkCount, arena.remaining, arena.disabled⟩

/-- Whether two arenas look the same. They show the same, they have chunks with the same bytes in
the same places, serial numbers differ by a constant, and they dealt with the system alike. -/
structure World.Resembles (frame : Frame) (couples : List Couple) (world twin : World) : Prop where
  view : (twin.arena? frame.other).map Arena.view = (world.arena? frame.owner).map Arena.view
  chunks : world.chunks frame.owner = couples.map Couple.here
  chunks' : twin.chunks frame.other = couples.map Couple.there
  fits : ∀ couple ∈ couples, couple.Fits frame.shift
  bytes : ∀ couple ∈ couples, twin.memory.load couple.there.start couple.there.capacity =
    world.memory.load couple.here.start couple.here.capacity
  dealings : ∃ recent, dealings frame.owner world.traffic = recent ++ frame.before ∧
    List.Forall₂ (Traffic.Mirrors frame.shift) recent (dealings frame.other twin.traffic)
  logs : frame.logged → twin.logs = world.logs

theorem World.Reflects.resembles {frame : Frame} {couples : List Couple} {world twin : World}
    (reflects : World.Reflects frame couples world twin) :
    World.Resembles frame couples world twin := by
  obtain ⟨chunks, chunks'⟩ := reflects.chunks
  have fits := reflects.apart.2
  refine ⟨?_, chunks, chunks', fits, ?_, reflects.echoes.dealings, reflects.echoes.logs⟩
  · rcases reflects.cases with ⟨gone, gone', _⟩ | ⟨arena, image, found, found', mirrors⟩
    · rw [gone, gone', Option.map_none]
    · obtain ⟨length, length'⟩ := mirrors.length_eq
      rw [found, found', Option.map_some, Option.map_some, Arena.view, Arena.view,
        Arena.chunkCount, Arena.chunkCount, mirrors.label, mirrors.chunkCapacity, mirrors.remaining,
        mirrors.disabled, length, length']
  · intro couple member
    rw [(fits couple member).capacity]
    exact reflects.echoes.bytes.load member

namespace ArenaUser

def supplied (user : ArenaUser) (supply : Supply) : ArenaUser :=
  { user with world := user.world.supplied supply }

def observe (target : ArenaSince) (supply : Supply) : ArenaUser → List Use → List (Verdict × World)
  | _, [] => []
  | user, use :: rest =>
      let made := (user.supplied supply).use target use
      (made.1, made.2.world) :: observe target supply made.2 rest

variable {frame : Frame} {couples : List Couple} {user twin : ArenaUser}

theorem Reflects.supplied (reflects : Reflects frame couples user twin) (supply supply' : Supply) :
    Reflects frame couples (user.supplied supply) (twin.supplied supply') :=
  ⟨reflects.worlds.supplied supply supply', reflects.saves⟩

end ArenaUser

/-- Whether all blocks of an arena have room between them, those that were given back included. -/
def Scattered (owner : Nat) (traffic : List Traffic) : Prop :=
  (obtained owner traffic).Pairwise fun a b =>
    a.start + a.layout.size < b.start ∨ b.start + b.layout.size < a.start

instance (owner : Nat) (traffic : List Traffic) : Decidable (Scattered owner traffic) :=
  inferInstanceAs (Decidable (List.Pairwise _ _))

namespace World

def Room (world : World) (target : ArenaSince) (spot : Spot) (size : Nat) : Prop :=
  ∀ block ∈ (obtained target.owner world.traffic)[target.past + spot.number]?,
    spot.offset + size ≤ block.layout.size

def Keeps (world : World) (target : ArenaSince) : Use → Prop
  | .owns spot => world.Room target spot 0
  | .grow spot _ _ _ => world.Room target spot 0
  | .dispose spot _ disposal => ∀ layout ∈ disposal.layout?, world.Room target spot layout.size
  | _ => True

variable {world : World} {owner past : Nat}

section Spread

variable (conserved : world.BlocksConserved owner)
    (few : obtainedBy owner world.traffic < wordLimit)
  (scattered : Scattered owner world.traffic)

include conserved few scattered

theorem BlocksConserved.away {number : Nat} {block : Traffic}
    (came : (obtained owner world.traffic)[number]? = some block) {chunk : Chunk}
    (member : chunk ∈ world.chunks owner) (other : chunk.serial ≠ number) {address : Nat}
    (low : block.start ≤ address) (high : address ≤ block.start + block.layout.size) :
    address < chunk.start ∨ chunk.finish < address := by
  obtain ⟨below, same⟩ := List.getElem?_eq_some_iff.mp came
  obtain ⟨below', same'⟩ := List.getElem?_eq_some_iff.mp (conserved.block few member)
  have split := List.pairwise_iff_getElem.mp scattered
  rcases Nat.lt_or_gt_of_ne other with earlier | later
  · have aside := split _ _ below' below earlier
    rw [same, same'] at aside
    simp only [Chunk.entry, Chunk.finish, Chunk.capacity] at aside ⊢
    omega
  · have aside := split _ _ below below' later
    rw [same, same'] at aside
    simp only [Chunk.entry, Chunk.finish, Chunk.capacity] at aside ⊢
    omega

theorem BlocksConserved.clear {spot : Spot} {size : Nat}
    (room : world.Room ⟨owner, past⟩ spot size) :
    world.Clear ⟨owner, past⟩ spot size := by
  intro address place arena found
  obtain ⟨block, came, at_spot⟩ := block_of_spot place
  have within := room block came
  have stack : world.chunks owner = arena.chunks := chunks_of_some found
  by_cases there : ∃ chunk ∈ arena.chunks, chunk.serial = past + spot.number
  · obtain ⟨chunk, member, serial⟩ := there
    left
    refine ⟨chunk, member, serial, ?_⟩
    have booked := conserved.block few (stack ▸ member)
    rw [serial, came] at booked
    rw [Option.some.inj booked] at within
    exact within
  · right
    apply Bool.eq_false_iff.mpr
    intro owned
    obtain ⟨chunk, member, contains⟩ := List.any_eq_true.mp owned
    have other : chunk.serial ≠ past + spot.number := fun serial => there ⟨chunk, member, serial⟩
    have away := conserved.away few scattered came (stack ▸ member) other
      (Nat.le_add_right block.start spot.offset) (by omega)
    simp only [Chunk.contains, Bool.and_eq_true, decide_eq_true_eq] at contains
    omega

theorem BlocksConserved.givesWithin {use : Use} (keeps : world.Keeps ⟨owner, past⟩ use) :
    world.GivesWithin ⟨owner, past⟩ use := by
  cases use with
  | dispose spot depth disposal =>
    intro layout shape
    exact conserved.clear few scattered (keeps layout shape)
  | _ => trivial

theorem BlocksConserved.distinct (sound : world.Sound) {use : Use}
    (keeps : world.Keeps ⟨owner, past⟩ use) : world.Distinct ⟨owner, past⟩ use := by
  cases use with
  | owns spot => exact conserved.clear few scattered keeps
  | grow spot old new elementSize =>
    intro address place arena found
    obtain ⟨block, came, at_spot⟩ := block_of_spot place
    have within := keeps block came
    have consistent := (sound owner arena found).consistent
    cases stack : arena.chunks with
    | nil => simp [Arena.Meets, stack]
    | cons newest rest =>
      by_cases own : newest.serial = past + spot.number
      · exact Or.inl ⟨newest, rfl, own⟩
      · have member : newest ∈ world.chunks owner := by
          rw [chunks_of_some found, stack]
          exact List.mem_cons_self
        have away := conserved.away few scattered came member own
          (Nat.le_add_right block.start spot.offset) (by omega)
        have seated := consistent.seated
        rw [stack] at seated
        obtain ⟨_, _, _, high⟩ := seated
        right
        right
        rintro ⟨top, newer, low, tight⟩
        rw [stack] at newer
        cases newer
        omega
  | _ => trivial

end Spread

end World

namespace Frame

variable (frame : Frame)

def Sees (seen image : Verdict × World) : Prop :=
  ∃ couples, seen.1.Mirrors frame.shift couples image.1 ∧
    World.Resembles frame couples seen.2 image.2

/-- What one use of both arenas counts on: alignments divide the modulus, no pointer is mistaken for
one into another chunk, and the system does the same in both worlds. -/
structure Fair (user twin : ArenaUser) (use : Use) : Prop where
  suits : use.Suits frame.shift.modulus
  givesWithin : user.world.GivesWithin frame.target use
  givesWithin' : twin.world.GivesWithin frame.target' use
  distinct : user.world.Distinct frame.target use
  distinct' : twin.world.Distinct frame.target' use
  systemAlike : frame.SystemAlike (obtainedBy frame.other twin.world.traffic) user.world.memory
    twin.world.memory (user.use frame.target use).2.world.traffic
    (twin.use frame.target' use).2.world.traffic

instance (owner : Nat) (traffic : List Traffic) : Decidable (Roomy owner traffic) :=
  decidable_of_iff (Provided traffic ∧ obtainedBy owner traffic + 1 < wordLimit)
    ⟨fun both => ⟨both.1, both.2⟩, fun roomy => ⟨roomy.provided, roomy.few⟩⟩

instance (known : Nat) (memory image : Memory) (traffic traffic' : List Traffic) :
    Decidable (frame.SystemAlike known memory image traffic traffic') :=
  decidable_of_iff
    (Roomy frame.owner traffic ∧ Roomy frame.other traffic' ∧
      ∀ number < obtainedBy frame.other traffic',
        ∀ block ∈ (obtained frame.owner traffic)[frame.shift.serials + number]?,
        ∀ block' ∈ (obtained frame.other traffic')[number]?,
          block'.start ≡ block.start [MOD frame.shift.modulus] ∧
            (known ≤ number → image.load block'.start block'.layout.size =
              memory.load block.start block.layout.size))
    ⟨fun all => ⟨all.1, all.2.1, all.2.2⟩,
      fun systemAlike => ⟨systemAlike.roomy, systemAlike.roomy', systemAlike.agree⟩⟩

instance (user twin : ArenaUser) (use : Use) : Decidable (frame.Fair user twin use) :=
  decidable_of_iff
    (use.Suits frame.shift.modulus ∧ user.world.GivesWithin frame.target use ∧
      twin.world.GivesWithin frame.target' use ∧ user.world.Distinct frame.target use ∧
      twin.world.Distinct frame.target' use ∧
      frame.SystemAlike (obtainedBy frame.other twin.world.traffic) user.world.memory
        twin.world.memory (user.use frame.target use).2.world.traffic
        (twin.use frame.target' use).2.world.traffic)
    ⟨fun ⟨suits, givesWithin, givesWithin', distinct, distinct', systemAlike⟩ =>
        ⟨suits, givesWithin, givesWithin', distinct, distinct', systemAlike⟩,
      fun fair => ⟨fair.suits, fair.givesWithin, fair.givesWithin', fair.distinct, fair.distinct',
        fair.systemAlike⟩⟩

def FairUses (supply supply' : Supply) : ArenaUser → ArenaUser → List Use → Prop
  | _, _, [] => True
  | user, twin, use :: rest =>
      frame.Fair (user.supplied supply) (twin.supplied supply') use ∧
        FairUses supply supply' ((user.supplied supply).use frame.target use).2
          ((twin.supplied supply').use frame.target' use).2 rest

instance decidableFairVisits (supply supply' : Supply) :
    (user twin : ArenaUser) → (uses : List Use) →
      Decidable (frame.FairUses supply supply' user twin uses)
  | _, _, [] => isTrue trivial
  | user, twin, use :: rest =>
      have := decidableFairVisits supply supply' ((user.supplied supply).use frame.target use).2
        ((twin.supplied supply').use frame.target' use).2 rest
      inferInstanceAs (Decidable (_ ∧ _))

end Frame

theorem World.Reflects.fair {frame : Frame} {couples : List Couple} {user twin : ArenaUser}
    (reflects : World.Reflects frame couples user.world twin.world)
    (scattered : Scattered frame.owner user.world.traffic)
    (scattered' : Scattered frame.other twin.world.traffic) {use : Use}
    (suits : use.Suits frame.shift.modulus) (keeps : user.world.Keeps frame.target use)
    (keeps' : twin.world.Keeps frame.target' use)
    (systemAlike : frame.SystemAlike (obtainedBy frame.other twin.world.traffic) user.world.memory
      twin.world.memory (user.use frame.target use).2.world.traffic
      (twin.use frame.target' use).2.world.traffic) : frame.Fair user twin use := by
  have few := systemAlike.roomy.small (user.use_suffix frame.target use)
  have few' := systemAlike.roomy'.small (twin.use_suffix frame.target' use)
  exact
    { suits := suits
      givesWithin := reflects.conserved.givesWithin few scattered keeps
      givesWithin' := reflects.conserved'.givesWithin few' scattered' keeps'
      distinct := reflects.conserved.distinct few scattered reflects.sound keeps
      distinct' := reflects.conserved'.distinct few' scattered' reflects.sound' keeps'
      systemAlike := systemAlike }

namespace ArenaUser

variable {frame : Frame} {couples : List Couple} {user twin : ArenaUser}

theorem Reflects.step (reflects : Reflects frame couples user twin) {use : Use}
    (fair : frame.Fair user twin use) :
    (∃ after, Reflects frame after (user.use frame.target use).2 (twin.use frame.target' use).2) ∧
      frame.Sees ((user.use frame.target use).1, (user.use frame.target use).2.world)
        ((twin.use frame.target' use).1, (twin.use frame.target' use).2.world) := by
  have few := fair.systemAlike.roomy.small (user.use_suffix frame.target use)
  have few' := fair.systemAlike.roomy'.small (twin.use_suffix frame.target' use)
  have evenly := reflects.worlds.evenly few few' fair.distinct fair.distinct'
  obtain ⟨after, mirrors, follows, saves⟩ :=
    reflects.use use fair.suits fair.givesWithin fair.givesWithin' evenly fair.systemAlike
  constructor
  · exact ⟨after, follows.reflects, saves⟩
  · exact ⟨after, mirrors, follows.reflects.resembles⟩

/-- The same uses of arenas that reflect each other show the same. -/
theorem Reflects.observe (reflects : Reflects frame couples user twin) {supply supply' : Supply}
    {uses : List Use} (fair : frame.FairUses supply supply' user twin uses) :
    List.Forall₂ frame.Sees (user.observe frame.target supply uses)
      (twin.observe frame.target' supply' uses) := by
  induction uses generalizing user twin couples with
  | nil => exact .nil
  | cons use rest ih =>
    obtain ⟨now, later⟩ := fair
    obtain ⟨⟨after, next⟩, sees⟩ := (reflects.supplied supply supply').step now
    exact .cons sees (ih next later)

end ArenaUser

end ChunkArena
