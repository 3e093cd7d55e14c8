import ChunkArena.Proofs.BlockConservation
import ChunkArena.Proofs.HoldingLedger

/-!
Which bytes are occupied, and what becomes of those that are not. An arena occupies the bytes of its
older chunks and those of the newest one below the cursor; whatever it handed out and did not take
back is among them. In a debug build a change either leaves a byte alone, or marks it as handed out
and occupies it, or marks it as discarded; and no byte ceases to be occupied without that last mark.
So a byte that is not occupied is discarded, or was never touched at all.
-/

namespace ChunkArena

namespace Arena

/-- Whether an address is in an older chunk, or in the newest one below the cursor. -/
def Occupies (arena : Arena) (address : Nat) : Prop :=
  ∃ position, arena.Holds position address (address + 1)

theorem Holds.occupies {arena : Arena} {position start finish address : Nat}
    (holds : arena.Holds position start finish) (low : start ≤ address) (high : address < finish) :
    arena.Occupies address := by
  obtain ⟨chunk, found, bottom, top⟩ := holds.inside
  refine ⟨position, ⟨chunk, found, by omega, by omega⟩, ?_⟩
  intro newest
  have below := holds.below newest
  omega

instance (arena : Arena) (position start finish : Nat) :
    Decidable (arena.Holds position start finish) :=
  decidable_of_iff
    ((∃ chunk ∈ arena.chunks.reverse[position]?, chunk.start ≤ start ∧ finish ≤ chunk.finish) ∧
      (position + 1 = arena.chunks.length → finish ≤ arena.cursor.next))
    ⟨fun ⟨inside, below⟩ => ⟨inside, below⟩, fun holds => ⟨holds.inside, holds.below⟩⟩

instance (arena : Arena) (address : Nat) : Decidable (arena.Occupies address) :=
  decidable_of_iff (∃ position < arena.chunks.length, arena.Holds position address (address + 1))
    ⟨fun ⟨position, _, holds⟩ => ⟨position, holds⟩,
      fun ⟨position, holds⟩ => ⟨position, holds.lt_length, holds⟩⟩

theorem Occupies.in_chunk {arena : Arena} {address : Nat} (occupies : arena.Occupies address) :
    ∃ chunk ∈ arena.chunks, chunk.start ≤ address ∧ address < chunk.finish := by
  obtain ⟨position, holds⟩ := occupies
  obtain ⟨chunk, found, low, high⟩ := holds.inside
  exact ⟨chunk, List.mem_reverse.mp (List.mem_of_getElem? found), low, high⟩

theorem not_occupies_above {arena : Arena} (consistent : arena.Consistent)
    (apart : arena.chunks.Pairwise Chunk.Apart) (some_chunk : arena.chunks ≠ []) {address : Nat}
    (low : arena.cursor.next ≤ address) (high : address < arena.cursor.limit) :
    ¬ arena.Occupies address := by
  rintro ⟨position, holds⟩
  obtain ⟨chunk, found, bottom, limit⟩ := top_of_ne_nil consistent some_chunk
  have beyond : arena.Beyond (arena.chunks.length - 1) arena.cursor.next address :=
    ⟨_, chunk, found, by omega, by omega, Or.inr ⟨rfl, low⟩⟩
  exact holds.not_beyond apart holds.below_cursor beyond ⟨Nat.le_refl _, Nat.lt_succ_self _⟩

end Arena

def Effect.Discards (address : Nat) : Effect → Prop
  | fill start count byte => start ≤ address ∧ address < start + count ∧ byte = discardedByte
  | _ => False

theorem Effect.Discards.fills {address : Nat} {effect : Effect}
    (discards : effect.Discards address) : effect.Fills address := by
  cases effect with
  | obtain | giveBack | report => exact discards
  | fill start count byte => exact ⟨discards.1, discards.2.1⟩

namespace Arena

section Changes

variable {profile : Profile} {arena next : Arena} {effects : List Effect} {address : Nat}

theorem discards_of_mem_discard {start count : Nat} {effect : Effect}
    (member : effect ∈ profile.discard start count) (fills : effect.Fills address) :
    effect.Discards address := by
  rw [Profile.eq_of_mem_mark member] at fills ⊢
  exact ⟨fills.1, fills.2, rfl⟩

theorem discards_of_mem_surrender {gone : List Chunk} {effect : Effect}
    (member : effect ∈ gone.flatMap profile.surrender) (fills : effect.Fills address) :
    effect.Discards address := by
  obtain ⟨chunk, _, inside⟩ := List.mem_flatMap.mp member
  rcases List.mem_append.mp inside with marked | back
  · exact discards_of_mem_discard marked fills
  · rw [List.mem_singleton.mp back] at fills
    exact fills.elim

theorem exists_discard (strict : profile.checks = true) {start count : Nat} (low : start ≤ address)
    (high : address < start + count) : ∃ effect ∈ profile.discard start count,
      effect.Discards address := by
  rw [Profile.discard, Profile.mark, if_pos strict]
  exact ⟨_, List.mem_singleton_self _, low, high, rfl⟩

theorem exists_surrender (strict : profile.checks = true) {gone : List Chunk} {chunk : Chunk}
    (member : chunk ∈ gone) (low : chunk.start ≤ address) (high : address < chunk.finish) :
    ∃ effect ∈ gone.flatMap profile.surrender, effect.Discards address := by
  obtain ⟨effect, inside, discards⟩ := exists_discard strict low high
  exact ⟨effect, List.mem_flatMap.mpr ⟨chunk, member, List.mem_append_left _ inside⟩, discards⟩

theorem mem_above {position height : Nat} {chunk : Chunk}
    (found : arena.chunks.reverse[position]? = some chunk) (high : height ≤ position) :
    chunk ∈ arena.above height := by
  have inside := lt_of_reverse_getElem? found
  rw [List.getElem?_reverse inside] at found
  have taken : (arena.above height)[arena.chunks.length - 1 - position]? = some chunk := by
    rw [above, List.getElem?_take_of_lt (by omega)]
    exact found
  exact List.mem_of_getElem? taken

theorem Change.discards (change : Change profile arena effects next)
    (consistent : arena.Consistent) {effect : Effect} (member : effect ∈ effects)
    (fills : effect.Fills address) : effect.Discards address ∨ next.Occupies address := by
  cases change with
  | report =>
    rw [List.mem_singleton.mp member] at fills
    exact fills.elim
  | hold => cases member
  | mark start count => exact Or.inl (discards_of_mem_discard member fills)
  | bounce chunk =>
    rcases List.mem_cons.mp member with first | second
    · rw [first] at fills
      exact fills.elim
    · rw [List.mem_singleton.mp second] at fills
      exact fills.elim
  | extend chunk =>
    rw [List.mem_singleton.mp member] at fills
    exact fills.elim
  | advance start size some_chunk low high =>
    have bounds := Profile.fills_of_mem_mark member fills
    have offers : arena.Offers start size 1 := ⟨some_chunk, low, high, Nat.one_dvd start⟩
    exact Or.inr ((offers.holds consistent).occupies bounds.1 bounds.2)
  | fallBack saved handle chunk names live limit low high =>
    rcases List.mem_append.mp member with cleared | surrendered
    · obtain ⟨used, marked, _⟩ := mem_clearing cleared
      exact Or.inl (discards_of_mem_discard marked fills)
    · exact Or.inl (discards_of_mem_surrender surrendered fills)
  | empty => exact Or.inl (discards_of_mem_surrender member fills)

theorem exists_clearing (strict : profile.checks = true) (consistent : arena.Consistent)
    {saved : Cursor} {handle : Handle} {chunk : Chunk} (live : arena.liveChunk? handle = some chunk)
    (limit : saved.limit = chunk.finish) (holds : arena.Holds handle.index address (address + 1))
    (above : saved.next ≤ address) :
    ∃ effect ∈ arena.clearing profile saved handle, effect.Discards address := by
  obtain ⟨found, serial, height⟩ := liveChunk?_eq_some live
  obtain ⟨home, place, _, high⟩ := holds.inside
  cases found.symm.trans place
  have names := consistent.chunk_eq
  have used : address < if arena.cursor.chunk = some handle then arena.cursor.next
      else saved.limit := by
    split
    · rename_i newest
      have below := holds.below
      cases stack : arena.chunks with
      | nil =>
        rw [stack] at height
        exact absurd height (Nat.not_lt_zero _)
      | cons top rest =>
        rw [stack, topHandle_cons, newest] at names
        rw [stack] at below
        cases names
        have under := below rfl
        omega
    · omega
  unfold clearing
  rw [if_pos (by omega)]
  exact exists_discard strict above (by omega)

/-- A byte ceases to be occupied only by being discarded. -/
theorem Change.occupies (change : Change profile arena effects next)
    (strict : profile.checks = true) (consistent : arena.Consistent)
    (occupies : arena.Occupies address) :
    next.Occupies address ∨ ∃ effect ∈ effects, effect.Discards address := by
  cases change with
  | report | mark | bounce => exact Or.inl occupies
  | hold =>
    obtain ⟨position, holds⟩ := occupies
    exact Or.inl ⟨position, holds.inside, holds.below⟩
  | extend chunk =>
    obtain ⟨position, holds⟩ := occupies
    exact Or.inl ⟨position, holds.extended chunk⟩
  | advance start size some_chunk low high =>
    obtain ⟨position, holds⟩ := occupies
    exact Or.inl ⟨position, holds.movedTo (by omega)⟩
  | fallBack saved handle chunk names live limit low high =>
    obtain ⟨position, holds⟩ := occupies
    rcases Nat.lt_trichotomy position handle.index with below | same | above
    · exact Or.inl ⟨position, holds.fallenBack live (Or.inl below)⟩
    · by_cases under : address + 1 ≤ saved.next
      · exact Or.inl ⟨position, holds.fallenBack live (Or.inr ⟨same, under⟩)⟩
      · rw [same] at holds
        obtain ⟨effect, member, discards⟩ :=
          exists_clearing strict consistent live limit holds (by omega)
        exact Or.inr ⟨effect, List.mem_append_left _ member, discards⟩
    · obtain ⟨home, place, bottom, top⟩ := holds.inside
      have gone : home ∈ arena.above (handle.index + 1) := mem_above place above
      obtain ⟨effect, member, discards⟩ := exists_surrender strict gone bottom top
      exact Or.inr ⟨effect, List.mem_append_right _ member, discards⟩
  | empty =>
    obtain ⟨chunk, member, low, high⟩ := occupies.in_chunk
    exact Or.inr (exists_surrender strict member low high)

end Changes

end Arena

namespace World

def Occupied (world : World) (address : Nat) : Prop :=
  ∃ owner arena, world.arena? owner = some arena ∧ arena.Occupies address

instance (world : World) (address : Nat) : Decidable (world.Occupied address) :=
  decidable_of_iff (∃ owner < world.tenants.length, ∃ arena ∈ world.arena? owner,
      arena.Occupies address)
    ⟨fun ⟨owner, _, arena, found, occupies⟩ => ⟨owner, arena, found, occupies⟩,
      fun ⟨owner, arena, found, occupies⟩ => ⟨owner, arena?_lt found, arena, found, occupies⟩⟩

theorem Sound.not_occupied {world : World} (sound : world.Sound) (provided : Provided world.traffic)
    {owner : Nat} {arena : Arena} (found : world.arena? owner = some arena)
    (some_chunk : arena.chunks ≠ []) {address : Nat} (low : arena.cursor.next ≤ address)
    (high : address < arena.cursor.limit) : ¬ world.Occupied address := by
  rintro ⟨other, home, present, occupies⟩
  have backed := sound owner arena found
  by_cases own : other = owner
  · subst own
    rw [found] at present
    cases present
    exact Arena.not_occupies_above backed.consistent backed.apart some_chunk low high occupies
  · obtain ⟨chunk, place, bottom, limit⟩ := Arena.top_of_ne_nil backed.consistent some_chunk
    have member := List.mem_reverse.mp (List.mem_of_getElem? place)
    obtain ⟨foreign, inside, lower, upper⟩ := occupies.in_chunk
    have apart := sound.foreign_apart provided own present found inside member
    simp only [Chunk.Apart] at apart
    omega

theorem read_perform_discards (owner : Nat) (world : World) {effect : Effect} {address : Nat}
    (discards : effect.Discards address) :
    (perform owner world effect).memory.read address = discardedByte := by
  cases effect with
  | obtain | giveBack | report => exact discards.elim
  | fill start count byte =>
    obtain ⟨low, high, same⟩ := discards
    rw [same]
    exact world.memory.read_fill_inside discardedByte low high

theorem read_foldl_discards {owner : Nat} {effects : List Effect} {address : Nat}
    (only : ∀ effect ∈ effects, effect.Fills address → effect.Discards address) (start : World)
    (reached : start.memory.read address = discardedByte ∨
      ∃ effect ∈ effects, effect.Fills address) :
    (effects.foldl (perform owner) start).memory.read address = discardedByte := by
  induction effects generalizing start with
  | nil =>
    rcases reached with done | ⟨effect, member, _⟩
    · exact done
    · cases member
  | cons effect rest ih =>
    rw [List.foldl_cons]
    apply ih fun e member => only e (List.mem_cons_of_mem _ member)
    by_cases fills : effect.Fills address
    · exact Or.inl (read_perform_discards owner start (only effect List.mem_cons_self fills))
    · rw [read_perform owner start fills]
      rcases reached with done | ⟨other, member, filled⟩
      · exact Or.inl done
      · rcases List.mem_cons.mp member with same | later
        · rw [same] at filled
          exact absurd filled fills
        · exact Or.inr ⟨other, later, filled⟩

/-- Whether every byte that ceased to be occupied since, or never was, is discarded or was left
alone. -/
def Sweeps (first last : World) : Prop :=
  ∀ address, ¬ last.Occupied address → last.memory.read address = discardedByte ∨
    last.memory.read address = first.memory.read address ∧ ¬ first.Occupied address

namespace Sweeps

theorem refl (world : World) : Sweeps world world :=
  fun _ free => Or.inr ⟨rfl, free⟩

theorem trans {first next last : World} (head : Sweeps first next) (tail : Sweeps next last) :
    Sweeps first last := by
  intro address free
  rcases tail address free with discarded | ⟨same, before⟩
  · exact Or.inl discarded
  · rcases head address before with discarded | ⟨same', before'⟩
    · exact Or.inl (same.trans discarded)
    · exact Or.inr ⟨same.trans same', before'⟩

theorem change {world : World} (strict : world.profile.checks = true) {owner : Nat}
    {arena next : Arena} (found : world.arena? owner = some arena) (consistent : arena.Consistent)
    {effects : List Effect} (change : Arena.Change world.profile arena effects next) :
    Sweeps world (world.after owner effects next) := by
  intro address free
  have here : ¬ next.Occupies address :=
    fun occupies => free ⟨owner, next, world.arena?_after_self owner found effects next, occupies⟩
  have only (effect : Effect) (member : effect ∈ effects) (fills : effect.Fills address) :
      effect.Discards address := (change.discards consistent member fills).resolve_right here
  by_cases filled : ∃ effect ∈ effects, effect.Fills address
  · exact Or.inl (read_foldl_discards only _ (Or.inr filled))
  · have spared (effect : Effect) (member : effect ∈ effects) : ¬ effect.Fills address :=
      fun fills => filled ⟨effect, member, fills⟩
    refine Or.inr ⟨world.read_after owner spared next, ?_⟩
    rintro ⟨other, home, present, occupies⟩
    by_cases own : other = owner
    · subst own
      rw [found] at present
      cases present
      rcases change.occupies strict consistent occupies with still | ⟨effect, member, discards⟩
      · exact here still
      · exact spared effect member discards.fills
    · have still := (world.arena?_after_other owner own effects next).trans present
      exact free ⟨other, home, still, occupies⟩

theorem changes {world : World} (strict : world.profile.checks = true) {owner : Nat}
    {arena last : Arena} (found : world.arena? owner = some arena) (consistent : arena.Consistent)
    {effects : List Effect} (changes : Arena.Changes world.profile arena effects last) :
    Sweeps world (world.after owner effects last) := by
  generalize same : world.profile = profile at changes
  induction changes generalizing world with
  | refl arena =>
    have still : world.after owner [] arena = world := replace_self found
    rw [still]
    exact .refl world
  | @step first next last effects more head tail ih =>
    subst same
    have profile := world.after_profile owner effects next
    have rest := ih (profile ▸ strict) (world.arena?_after_self owner found effects next)
      (head.consistent consistent) profile
    rw [after_after] at rest
    exact (Sweeps.change strict found consistent head).trans rest

theorem onArena {world : World} (strict : world.profile.checks = true) (sound : world.Sound)
    (provided : Provided world.traffic) (owner : Nat) {α : Type} {call : Arena → Env → Reply α}
    (changes : ∀ arena : Arena, arena.Consistent → totalCapacity arena.chunks < wordLimit →
      ∀ env : Env, Arena.Changes env.profile arena (call arena env).effects
        (call arena env).arena) :
    Sweeps world (world.onArena owner call).2 := by
  cases found : world.arena? owner with
  | none =>
    obtain ⟨cause, same⟩ := onArena_none found call
    rw [same]
    exact .refl world
  | some arena =>
    obtain ⟨skew, same⟩ := onArena_some found call
    rw [same]
    have consistent := (sound owner arena found).consistent
    exact Sweeps.changes strict found consistent
      (changes arena consistent (sound.small provided found) (world.env skew))

end Sweeps

end World

end ChunkArena
