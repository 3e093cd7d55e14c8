import ChunkArena.Proofs.RewindGuardScopes
import ChunkArena.Proofs.OccupiedBytes
import ChunkArena.Proofs.RewindRestoration

/-!
Rewinds absorb each other. A rewind to a state, and one to an older state after it, end as the one
to the older state would have ended alone. Each of them clears the newest chunk that stays, up to
the cursor if it stands there and up to the end of the chunk if it does not, and gives back all
chunks above. Both ways clear the same bytes and give the same chunks back in the same order; only
the lines in the log tell them apart.
-/

namespace ChunkArena

namespace Arena

variable {arena newer base : Arena} {address : Nat}

theorem Consistent.limit_eq (consistent : arena.Consistent) :
    arena.cursor.limit = arena.chunks.head?.elim 0 Chunk.finish := by
  have seated := consistent.seated
  cases stack : arena.chunks with
  | nil =>
    rw [stack] at seated
    rw [seated]
    rfl
  | cons chunk rest =>
    rw [stack] at seated
    exact seated.2.1

theorem Over.trans (higher : arena.Over newer) (between : newer.Over base) : arena.Over base := by
  obtain ⟨_, upper⟩ := higher
  obtain ⟨_, lower⟩ := between
  refine ⟨arena.disabled, upper.label.trans lower.label,
    upper.chunkCapacity.trans lower.chunkCapacity, upper.generation.trans lower.generation, rfl,
    lower.stack.trans upper.stack, ?_⟩
  intro same
  have most := upper.stack.length_le
  have least := lower.stack.length_le
  have reached := upper.level
  have passed := lower.level
  simp only at same most least reached passed ⊢
  have top := reached (by omega)
  have middle := passed (by omega)
  omega

def clearLimit (arena base : Arena) : Nat :=
  if arena.chunks.length = base.chunks.length then arena.cursor.next else base.cursor.limit

def retreat (arena base : Arena) (profile : Profile) : List Effect :=
  (if base.cursor.next < arena.clearLimit base then
      profile.discard base.cursor.next (arena.clearLimit base - base.cursor.next)
    else []) ++
    (arena.above base.chunks.length).flatMap profile.surrender

def Clears (arena base : Arena) (address : Nat) : Prop :=
  base.cursor.next ≤ address ∧ address < arena.clearLimit base ∨
    ∃ chunk ∈ arena.above base.chunks.length, chunk.start ≤ address ∧ address < chunk.finish

def regained (arena base : Arena) : Arena :=
  { base with nextSerial := arena.nextSerial, disabled := arena.disabled }

theorem Over.regain (between : newer.Over base) (arena : Arena) :
    (arena.regained newer).Over base := by
  obtain ⟨_, upon⟩ := between
  exact ⟨arena.disabled, upon.label, upon.chunkCapacity, upon.generation, rfl, upon.stack,
    upon.level⟩

theorem Over.chunks_eq (higher : arena.Over base) :
    arena.chunks = arena.above base.chunks.length ++ base.chunks := by
  obtain ⟨_, upon⟩ := higher
  have below := upon.chunks_eq
  simp only at below
  conv_lhs => rw [← List.take_append_drop (arena.chunks.length - base.chunks.length) arena.chunks]
  rw [below]
  rfl

theorem Over.rewind_arena (higher : arena.Over base) (settled : base.Consistent)
    (consistent : arena.Consistent) (small : totalCapacity arena.chunks < wordLimit) (env : Env) :
    (arena.rewind env base.snapshot).arena = arena.regained base := by
  obtain ⟨count, upon⟩ := higher
  have disabled : arena.disabled = count := upon.disabled
  obtain ⟨back, _⟩ := upon.rewind_back (settled.held count) consistent small env
  rw [regained, disabled]
  exact back

theorem Over.clearing_eq (higher : arena.Over base) (consistent : arena.Consistent)
    {chunk : Chunk} {rest : List Chunk} (stack : base.chunks = chunk :: rest) (profile : Profile) :
    arena.clearing profile base.cursor ⟨rest.length, chunk.serial⟩ =
      if base.cursor.next < arena.clearLimit base then
        profile.discard base.cursor.next (arena.clearLimit base - base.cursor.next)
      else [] := by
  have whole := higher.chunks_eq
  have names := consistent.chunk_eq
  have newest : arena.cursor.chunk = some ⟨rest.length, chunk.serial⟩ ↔
      arena.chunks.length = base.chunks.length := by
    rw [names]
    cases above : arena.above base.chunks.length with
    | nil =>
      rw [above, List.nil_append] at whole
      rw [whole, stack, topHandle_cons]
      simp
    | cons top between =>
      rw [above, stack] at whole
      rw [whole, stack, List.cons_append, topHandle_cons]
      simp only [Option.some.injEq, Handle.mk.injEq, List.length_append, List.length_cons]
      omega
  by_cases same : arena.chunks.length = base.chunks.length
  · simp only [clearing, clearLimit, if_pos same, if_pos (newest.mpr same)]
  · simp only [clearing, clearLimit, if_neg same, if_neg (same ∘ newest.mp)]

theorem Over.rewind_closes (higher : arena.Over base) (settled : base.Consistent)
    (consistent : arena.Consistent) (small : totalCapacity arena.chunks < wordLimit) (env : Env) :
    env.Closes (arena.regained base) (arena.retreat base env.profile)
      (arena.rewind env base.snapshot) := by
  have back := higher.rewind_arena settled consistent small env
  have whole := higher.chunks_eq
  have seated := settled.seated
  cases stack : base.chunks with
  | nil =>
    rw [stack] at whole seated
    have names : base.snapshot.cursor.chunk = none := congrArg Cursor.chunk seated
    have closes := env.closes_ite (arena.emptied arena.generation)
      (arena.chunks.flatMap env.profile.surrender) (.emptied arena.chunks.length)
      (arena.chunks.length = 0)
    rw [← rewind_of_bare consistent small env names] at closes
    have same : arena.emptied arena.generation = arena.regained base :=
      closes.arena_eq.symm.trans back
    have nothing : ¬ base.cursor.next < arena.clearLimit base := by
      have reached := consistent.seated
      have blank : base.cursor = .empty := seated
      have start : base.cursor.next = 0 ∧ base.cursor.limit = 0 := by simp [blank, Cursor.empty]
      unfold clearLimit
      split
      · rename_i bare
        rw [stack] at bare
        rw [List.eq_nil_of_length_eq_zero bare] at reached
        rw [reached, start.1]
        exact Nat.lt_irrefl 0
      · omega
    have effects : arena.retreat base env.profile = arena.chunks.flatMap env.profile.surrender := by
      rw [retreat, if_neg nothing, List.nil_append, stack]
      rw [List.append_nil] at whole
      exact congrArg (List.flatMap env.profile.surrender) whole.symm
    rw [effects, ← same]
    exact closes
  | cons chunk rest =>
    rw [stack] at seated
    obtain ⟨names, limit, low, _⟩ := seated
    have names : base.snapshot.cursor.chunk = some ⟨rest.length, chunk.serial⟩ := names
    have height : base.chunks.length = rest.length + 1 := by rw [stack, List.length_cons]
    have live : arena.liveChunk? ⟨rest.length, chunk.serial⟩ = some chunk := by
      apply live_of_suffix
      rw [← stack, whole]
      exact List.suffix_append _ _
    have closes : env.Closes (arena.fallenBack base.cursor (rest.length + 1))
        (arena.clearing env.profile base.cursor ⟨rest.length, chunk.serial⟩ ++
          (arena.above (rest.length + 1)).flatMap env.profile.surrender)
        (arena.rewind env base.snapshot) := by
      rw [rewind_of_live consistent small env names live limit low settled.limit_bound]
      exact env.closes_ite _ _ _ _
    have same : arena.fallenBack base.cursor (rest.length + 1) = arena.regained base :=
      closes.arena_eq.symm.trans back
    rw [same, higher.clearing_eq consistent stack, ← height] at closes
    exact closes

theorem Over.clearLimit_bounds (higher : arena.Over newer) (settled : newer.Consistent)
    (consistent : arena.Consistent) :
    newer.cursor.next ≤ arena.clearLimit newer ∧ arena.clearLimit newer ≤ newer.cursor.limit := by
  obtain ⟨_, upon⟩ := higher
  have below := settled.limit_bound
  have bound := consistent.limit_bound
  unfold clearLimit
  split
  · rename_i same
    have level : newer.cursor.next ≤ arena.cursor.next := upon.level same
    have chunks : newer.chunks = arena.chunks := upon.stack.eq_of_length same.symm
    have limit := consistent.limit_eq
    rw [← chunks, ← settled.limit_eq] at limit
    omega
  · exact ⟨below, Nat.le_refl _⟩

theorem above_of_head {height : Nat} {chunk : Chunk} (newest : arena.chunks.head? = some chunk)
    (high : height < arena.chunks.length) : chunk ∈ arena.above height := by
  have top : arena.chunks.reverse[arena.chunks.length - 1]? = some chunk := by
    rw [reverse_getElem?_head]
    exact newest
  exact mem_above top (by omega)

section Placement

variable (higher : arena.Over newer) (between : newer.Over base)

include higher between

theorem above_append :
    arena.above base.chunks.length =
      arena.above newer.chunks.length ++ newer.above base.chunks.length := by
  have whole : (arena.above newer.chunks.length ++ newer.above base.chunks.length) ++ base.chunks =
      arena.above base.chunks.length ++ base.chunks := by
    rw [List.append_assoc, ← between.chunks_eq, ← higher.chunks_eq]
    exact (higher.trans between).chunks_eq
  exact (List.append_cancel_right whole).symm

theorem clears_iff (consistent : arena.Consistent) (settled : newer.Consistent)
    (lowest : base.Consistent) :
    arena.Clears base address ↔ arena.Clears newer address ∨ newer.Clears base address := by
  have append := above_append higher between
  obtain ⟨reached, within⟩ := higher.clearLimit_bounds settled consistent
  obtain ⟨past, inside⟩ := between.clearLimit_bounds lowest settled
  obtain ⟨_, upper⟩ := higher
  obtain ⟨_, lower⟩ := between
  have taller : newer.chunks.length ≤ arena.chunks.length := upper.stack.length_le
  have tall : base.chunks.length ≤ newer.chunks.length := lower.stack.length_le
  unfold Clears
  rw [append]
  by_cases same : newer.chunks.length = base.chunks.length
  · -- Both go back to one chunk, so the one clears it up to where the other cleared from.
    have chunks : newer.chunks = base.chunks := (lower.stack.eq_of_length same.symm).symm
    have limit : newer.cursor.limit = base.cursor.limit := by
      rw [settled.limit_eq, lowest.limit_eq, chunks]
    have none_between : newer.above base.chunks.length = [] := by
      rw [above, same, Nat.sub_self, List.take_zero]
    have joint : newer.clearLimit base = newer.cursor.next := if_pos same
    have outer : arena.clearLimit base = arena.clearLimit newer := by
      rw [clearLimit, clearLimit, same, limit]
    rw [none_between, joint, outer, List.append_nil]
    rw [joint] at past
    constructor
    · rintro (⟨low, high⟩ | gone)
      · by_cases upper : newer.cursor.next ≤ address
        · exact Or.inl (Or.inl ⟨upper, high⟩)
        · exact Or.inr (Or.inl ⟨low, Nat.lt_of_not_le upper⟩)
      · exact Or.inl (Or.inr gone)
    · rintro ((⟨low, high⟩ | gone) | (⟨low, high⟩ | ⟨_, nowhere, _⟩))
      · exact Or.inl ⟨Nat.le_trans past low, high⟩
      · exact Or.inr gone
      · exact Or.inl ⟨low, Nat.lt_of_lt_of_le high reached⟩
      · cases nowhere
  · -- The newer state's chunk goes as a whole when the older state is gone back to.
    have joint : newer.clearLimit base = base.cursor.limit := if_neg same
    have outer : arena.clearLimit base = base.cursor.limit := if_neg (by omega)
    rw [joint, outer]
    constructor
    · rintro (below | ⟨chunk, gone, covers⟩)
      · exact Or.inr (Or.inl below)
      · rcases List.mem_append.mp gone with first | second
        · exact Or.inl (Or.inr ⟨chunk, first, covers⟩)
        · exact Or.inr (Or.inr ⟨chunk, second, covers⟩)
    · rintro ((⟨low, high⟩ | ⟨chunk, gone, covers⟩) | (below | ⟨chunk, gone, covers⟩))
      · have seated := settled.seated
        cases stack : newer.chunks with
        | nil =>
          rw [stack, List.length_nil] at tall same
          omega
        | cons chunk rest =>
          rw [stack] at seated
          obtain ⟨_, limit, bottom, _⟩ := seated
          have top : chunk ∈ newer.above base.chunks.length :=
            above_of_head (by rw [stack]; rfl) (by omega)
          exact Or.inr ⟨chunk, List.mem_append_right _ top, by omega, by omega⟩
      · exact Or.inr ⟨chunk, List.mem_append_left _ gone, covers⟩
      · exact Or.inl below
      · exact Or.inr ⟨chunk, List.mem_append_right _ gone, covers⟩

end Placement

end Arena

namespace World

def exit (world : World) (owner : Nat) (chunk : Chunk) : Traffic :=
  ⟨some owner, chunk.serial, chunk.start, chunk.layout, .returned (world.profile.checks ||
    world.memory.allEqual chunk.start discardedByte chunk.capacity)⟩

theorem exit_congr {first last : World} (owner : Nat) (profile : last.profile = first.profile)
    (memory : first.profile.checks = false → last.memory = first.memory) :
    last.exit owner = first.exit owner := by
  funext chunk
  unfold exit
  rw [profile]
  cases strict : first.profile.checks with
  | true => rfl
  | false => rw [memory strict]

section Retreats

variable {owner : Nat} {arena base : Arena} {address : Nat}

theorem foldl_surrender_chunk (world : World) (owner : Nat) (chunk : Chunk) :
    ((world.profile.surrender chunk).foldl (perform owner) world).traffic =
        world.exit owner chunk :: world.traffic ∧
      (world.profile.checks = false →
        ((world.profile.surrender chunk).foldl (perform owner) world).memory = world.memory) := by
  cases strict : world.profile.checks with
  | true =>
    have marked : (world.memory.fill chunk.start chunk.capacity discardedByte).allEqual chunk.start
        discardedByte chunk.capacity = true := by
      rw [Memory.allEqual_iff]
      exact fun address low high => Memory.read_fill_inside _ discardedByte low high
    simp [Profile.surrender, Profile.discard, Profile.mark, strict, perform, exit, marked]
  | false => simp [Profile.surrender, Profile.discard, Profile.mark, strict, perform, exit]

theorem foldl_surrender (world : World) (owner : Nat) (gone : List Chunk) :
    ((gone.flatMap world.profile.surrender).foldl (perform owner) world).traffic =
        (gone.map (world.exit owner)).reverse ++ world.traffic ∧
      (world.profile.checks = false →
        ((gone.flatMap world.profile.surrender).foldl (perform owner) world).memory =
          world.memory) := by
  induction gone generalizing world with
  | nil => exact ⟨rfl, fun _ => rfl⟩
  | cons chunk rest ih =>
    obtain ⟨first, still⟩ := foldl_surrender_chunk world owner chunk
    have profile := (foldl_perform_frame owner world (world.profile.surrender chunk)).2.1
    obtain ⟨more, rests⟩ := ih ((world.profile.surrender chunk).foldl (perform owner) world)
    rw [profile] at more rests
    rw [List.flatMap_cons, List.foldl_append, more, first, exit_congr owner profile still]
    refine ⟨by simp, ?_⟩
    intro lax
    rw [rests lax, still lax]

theorem foldl_retreat (world : World) (owner : Nat) (arena base : Arena) :
    ((arena.retreat base world.profile).foldl (perform owner) world).traffic =
        ((arena.above base.chunks.length).map (world.exit owner)).reverse ++ world.traffic ∧
      (world.profile.checks = false →
        ((arena.retreat base world.profile).foldl (perform owner) world).memory =
        world.memory) := by
  unfold Arena.retreat
  by_cases used : base.cursor.next < arena.clearLimit base
  · cases strict : world.profile.checks with
    | true =>
      let cleared : World := { world with
        memory := world.memory.fill base.cursor.next (arena.clearLimit base - base.cursor.next)
          discardedByte }
      have same : cleared.exit owner = world.exit owner := by
        apply exit_congr owner
        · rfl
        · exact fun lax => absurd (strict.symm.trans lax) nofun
      obtain ⟨traffic, _⟩ := foldl_surrender cleared owner (arena.above base.chunks.length)
      rw [same] at traffic
      rw [if_pos used, Profile.discard, Profile.mark, if_pos strict]
      exact ⟨traffic, nofun⟩
    | false =>
      obtain ⟨traffic, memory⟩ := foldl_surrender world owner (arena.above base.chunks.length)
      rw [if_pos used, Profile.discard, Profile.mark, if_neg (by simp [strict])]
      exact ⟨traffic, fun _ => memory strict⟩
  · rw [if_neg used]
    exact foldl_surrender world owner _

theorem retreat_discards {profile : Profile} {effect : Effect}
    (member : effect ∈ arena.retreat base profile) (fills : effect.Fills address) :
    effect.Discards address ∧ profile.checks = true ∧ arena.Clears base address := by
  have strict : profile.checks = true := by
    by_contra lax
    simp only [Arena.retreat, Profile.surrender, Profile.discard, Profile.mark, if_neg lax,
      ite_self, List.nil_append, List.mem_flatMap, List.mem_singleton] at member
    obtain ⟨chunk, _, same⟩ := member
    rw [same] at fills
    exact fills
  rcases List.mem_append.mp member with cleared | surrendered
  · split at cleared
    · obtain ⟨low, high⟩ := Profile.fills_of_mem_mark cleared fills
      exact ⟨Arena.discards_of_mem_discard cleared fills, strict, Or.inl ⟨low, by omega⟩⟩
    · cases cleared
  · obtain ⟨chunk, gone, covers⟩ := Profile.fills_of_mem_surrender surrendered fills
    exact ⟨Arena.discards_of_mem_surrender surrendered fills, strict, Or.inr ⟨chunk, gone, covers⟩⟩

theorem exists_retreat {profile : Profile} (strict : profile.checks = true)
    (clears : arena.Clears base address) :
    ∃ effect ∈ arena.retreat base profile, effect.Fills address := by
  rcases clears with ⟨low, high⟩ | ⟨chunk, gone, low, high⟩
  · have covered : address <
      base.cursor.next + (arena.clearLimit base - base.cursor.next) := by omega
    obtain ⟨effect, member, discards⟩ := Arena.exists_discard strict low covered
    refine ⟨effect, List.mem_append_left _ ?_, discards.fills⟩
    rw [if_pos (by omega)]
    exact member
  · obtain ⟨effect, member, discards⟩ := Arena.exists_surrender strict gone low high
    exact ⟨effect, List.mem_append_right _ member, discards.fills⟩

theorem read_retreat (arena base : Arena) (world : World) (owner : Nat) (next : Arena)
    (address : Nat) :
    (world.profile.checks = true → arena.Clears base address →
        (world.after owner (arena.retreat base world.profile) next).memory.read address =
          discardedByte) ∧
      (¬ (world.profile.checks = true ∧ arena.Clears base address) →
        (world.after owner (arena.retreat base world.profile) next).memory.read address =
          world.memory.read address) := by
  constructor
  · intro strict clears
    apply read_foldl_discards (fun effect member fills => (retreat_discards member fills).1)
    exact Or.inr (exists_retreat strict clears)
  · intro spared
    apply world.read_after owner
    exact fun effect member fills => spared (retreat_discards member fills).2

end Retreats

/-- A rewind to a state that the arena stands upon is a retreat there, up to the log. -/
theorem rewind_retreats {world : World} {owner : Nat} {arena base : Arena} (sound : world.Sound)
    (provided : Provided world.traffic) (found : world.arena? owner = some arena)
    (higher : arena.Over base) (settled : base.Consistent) :
    ∃ logs, (world.rewind owner base.snapshot).2 =
      { world.after owner (arena.retreat base world.profile) (arena.regained base) with
        logs := logs } := by
  obtain ⟨skew, same⟩ := onArena_some found fun arena env => arena.rewind env base.snapshot
  have closes := higher.rewind_closes settled (sound owner arena found).consistent
    (sound.small provided found) (world.env skew)
  have done : (world.rewind owner base.snapshot).2 = _ := congrArg Prod.snd same
  rw [done]
  have profile : (world.env skew).profile = world.profile := rfl
  rw [profile] at closes
  generalize arena.rewind (world.env skew) base.snapshot = reply at closes
  cases closes with
  | silent => exact ⟨_, rfl⟩
  | told entry | failed entry =>
    simp only [after, List.foldl_append, List.foldl_cons, List.foldl_nil, perform]
    exact ⟨_, rfl⟩

/-- Whether two worlds have the same arenas, bytes and blocks, and the same blocks came and went in
the same order. -/
structure Coincide (first last : World) : Prop where
  tenants : last.tenants = first.tenants
  traffic : last.traffic = first.traffic
  bytes : ∀ address, last.memory.read address = first.memory.read address

section Both

variable {world middle once twice : World} {owner : Nat} {arena newer base : Arena}

theorem retreat_traffic {last : World} {logs : Logs} {next : Arena}
    (retreated : last = { world.after owner (arena.retreat base world.profile) next with
      logs := logs }) :
    last.traffic =
        ((arena.above base.chunks.length).map (world.exit owner)).reverse ++ world.traffic ∧
      (world.profile.checks = false → last.memory = world.memory) ∧
      last.profile = world.profile := by
  obtain ⟨traffic, memory⟩ := foldl_retreat (world.replace owner next) owner arena base
  rw [retreated]
  exact ⟨traffic, memory, world.after_profile owner _ _⟩

/-- Two retreats, one after the other, are one. -/
theorem retreats_coincide (higher : arena.Over newer) (between : newer.Over base)
    (consistent : arena.Consistent) (settled : newer.Consistent) (lowest : base.Consistent)
    {logs logs' logs'' : Logs}
    (first : middle = { world.after owner (arena.retreat newer world.profile)
      (arena.regained newer) with logs := logs })
    (second : twice = { middle.after owner (newer.retreat base middle.profile)
      (arena.regained base) with logs := logs' })
    (direct : once = { world.after owner (arena.retreat base world.profile)
      (arena.regained base) with logs := logs'' }) : once.Coincide twice := by
  obtain ⟨upper, still, profile⟩ := retreat_traffic first
  obtain ⟨lower, _, _⟩ := retreat_traffic second
  obtain ⟨whole, _, _⟩ := retreat_traffic direct
  have exits := exit_congr owner profile still
  refine ⟨?_, ?_, ?_⟩
  · have place (start : World) (effects : List Effect) (next : Arena) :
        (start.after owner effects next).tenants = (start.replace owner next).tenants :=
      (foldl_perform_frame owner _ effects).1
    have replaced := world.replace_replace owner (arena.regained newer) (arena.regained base)
    have tenants : middle.tenants = (world.replace owner (arena.regained newer)).tenants := by
      rw [first]
      exact place _ _ _
    rw [second, direct]
    simp only [place, ← replaced]
    simp only [replace, tenants]
  · rw [lower, upper, whole, exits, Arena.above_append higher between, List.map_append,
      List.reverse_append, List.append_assoc]
  · intro address
    have joint : arena.Clears base address ↔ arena.Clears newer address ∨
        newer.Clears base address :=
      Arena.clears_iff higher between consistent settled lowest
    obtain ⟨marked, spared⟩ :=
      read_retreat arena newer world owner (arena.regained newer) address
    obtain ⟨marked', spared'⟩ :=
      read_retreat newer base middle owner (arena.regained base) address
    obtain ⟨marked'', spared''⟩ :=
      read_retreat arena base world owner (arena.regained base) address
    have before : middle.memory = (world.after owner (arena.retreat newer world.profile)
        (arena.regained newer)).memory := by rw [first]
    rw [second, direct]
    simp only
    by_cases cleared : world.profile.checks = true ∧ arena.Clears base address
    · obtain ⟨strict, clears⟩ := cleared
      rw [marked'' strict clears]
      by_cases later : newer.Clears base address
      · exact marked' (by rw [profile]; exact strict) later
      · rw [spared' fun again => later again.2, before]
        exact marked strict ((joint.mp clears).resolve_right later)
    · rw [spared'' cleared, spared', before, spared]
      · exact fun sooner => cleared ⟨sooner.1, joint.mpr (Or.inl sooner.2)⟩
      · rintro ⟨strict, later⟩
        rw [profile] at strict
        exact cleared ⟨strict, joint.mpr (Or.inr later)⟩

end Both

end World

/-- What is done with an arena between two of its states, and the snapshots taken meanwhile, newest
first. -/
structure StateInterval where
  world : World
  taken : List Snapshot

namespace StateInterval

def start (world : World) : StateInterval := ⟨world, []⟩

/-- Anything may happen but the arena's own release or end, and rewinds of it to other states than
those taken meanwhile. -/
def turn (owner : Nat) (interval : StateInterval) : Turn → StateInterval
  | .save =>
      (interval.world.arena? owner).elim interval fun arena =>
        { interval with taken := arena.snapshot :: interval.taken }
  | .rewind which =>
      (interval.taken[which]?).elim interval fun snapshot =>
        { interval with world := (interval.world.rewind owner snapshot).2 }
  | .act action =>
      if action.Inside owner then { interval with world := interval.world.act action } else interval

def run (owner : Nat) (interval : StateInterval) (turns : List Turn) : StateInterval :=
  turns.foldl (turn owner) interval

variable {owner : Nat} {base : Arena}

theorem turn_world (owner : Nat) (interval : StateInterval) (turn : Turn) :
    (interval.turn owner turn).world = interval.world ∨
      ∃ action, (interval.turn owner turn).world = interval.world.act action := by
  cases turn with
  | save =>
    simp only [StateInterval.turn]
    cases interval.world.arena? owner <;> exact Or.inl rfl
  | rewind which =>
    simp only [StateInterval.turn]
    cases interval.taken[which]? with
    | none => exact Or.inl rfl
    | some snapshot => exact Or.inr ⟨.rewind owner snapshot, rfl⟩
  | act action =>
    simp only [StateInterval.turn]
    split
    · exact Or.inr ⟨action, rfl⟩
    · exact Or.inl rfl

theorem turn_traffic_suffix (owner : Nat) (interval : StateInterval) (turn : Turn) :
    interval.world.traffic <:+ (interval.turn owner turn).world.traffic := by
  rcases interval.turn_world owner turn with same | ⟨action, acted⟩
  · rw [same]
  · rw [acted]
    exact interval.world.act_traffic_suffix action

theorem run_traffic_suffix (owner : Nat) (interval : StateInterval) (turns : List Turn) :
    interval.world.traffic <:+ (interval.run owner turns).world.traffic :=
  suffix_foldl (fun interval => interval.world.traffic) (turn_traffic_suffix owner) interval turns

structure AllUpon (interval : StateInterval) (owner : Nat) (base : Arena) : Prop where
  sound : interval.world.Sound
  higher : ∃ arena, interval.world.arena? owner = some arena ∧ arena.Over base
  since : ∀ snapshot ∈ interval.taken, snapshot.Upon base

theorem AllUpon.start {world : World} (sound : world.Sound)
    (found : world.arena? owner = some base) : (StateInterval.start world).AllUpon owner base :=
  ⟨sound, ⟨base, found, .refl base⟩, by simp [StateInterval.start]⟩

theorem AllUpon.turn {interval : StateInterval} (allUpon : interval.AllUpon owner base)
    (settled : base.Consistent) (turn : Turn)
    (provided : Provided (interval.turn owner turn).world.traffic) :
    (interval.turn owner turn).AllUpon owner base := by
  have soundIf : interval.world.SoundIfProvided := fun _ => allUpon.sound
  have before := provided_of_suffix provided (interval.turn_traffic_suffix owner turn)
  obtain ⟨arena, found, higher⟩ := allUpon.higher
  cases turn with
  | save =>
    simp only [StateInterval.turn, found, Option.elim_some]
    refine ⟨allUpon.sound, ⟨arena, found, higher⟩, ?_⟩
    intro snapshot listed
    rcases List.mem_cons.mp listed with same | older
    · rw [same]
      exact higher.snapshot (allUpon.sound owner arena found).consistent
    · exact allUpon.since snapshot older
  | rewind which =>
    simp only [StateInterval.turn] at provided ⊢
    cases listed : interval.taken[which]? with
    | none => exact allUpon
    | some snapshot =>
      rw [listed] at provided
      obtain ⟨after, present, rises⟩ := World.rewind_over allUpon.sound before found snapshot
      have since := allUpon.since snapshot (List.mem_of_getElem? listed)
      exact ⟨soundIf.act (.rewind owner snapshot) provided,
        ⟨after, present, rises base settled since higher⟩, allUpon.since⟩
  | act action =>
    simp only [StateInterval.turn] at provided ⊢
    split
    · rename_i inside
      rw [if_pos inside] at provided
      obtain ⟨after, present, rises⟩ := World.act_over soundIf inside provided found
      exact ⟨soundIf.act action provided, ⟨after, present, rises base higher⟩, allUpon.since⟩
    · exact allUpon

theorem AllUpon.run {interval : StateInterval} (allUpon : interval.AllUpon owner base)
    (settled : base.Consistent) (turns : List Turn)
    (provided : Provided (interval.run owner turns).world.traffic) :
    (interval.run owner turns).AllUpon owner base :=
  foldl_keeps (P := fun interval : StateInterval => interval.AllUpon owner base)
    (fun interval => interval.world.traffic) (turn_traffic_suffix owner)
    (fun _ turn allUpon between => allUpon.turn settled turn between) allUpon turns provided

end StateInterval

def World.through (world : World) (owner : Nat) (turns : List Turn) : World :=
  ((StateInterval.start world).run owner turns).world

theorem World.through_traffic_suffix (world : World) (owner : Nat) (turns : List Turn) :
    world.traffic <:+ (world.through owner turns).traffic :=
  (StateInterval.start world).run_traffic_suffix owner turns

theorem World.through_allUpon {world : World} {owner : Nat} {base : Arena} (sound : world.Sound)
    (found : world.arena? owner = some base) (turns : List Turn)
    (provided : Provided (world.through owner turns).traffic) :
    (world.through owner turns).Sound ∧
      ∃ arena, (world.through owner turns).arena? owner = some arena ∧ arena.Over base := by
  have allUpon :=
    (StateInterval.AllUpon.start sound found).run (sound owner base found).consistent turns
      provided
  exact ⟨allUpon.sound, allUpon.higher⟩

/-- With two intervals one after the other, the rewind to where the second one began changes nothing
about where the rewind to the beginning of the first one leads. -/
theorem rewinds_absorb (profile : Profile) (site : Site) (logs : Logs) (earlier : List Action)
    {owner : Nat} {base : Arena} {before middle last : World}
    (reached : before = (World.new profile site logs).run earlier)
    (found : before.arena? owner = some base) (first second : List Turn)
    (onward : middle = before.through owner first) (through : last = middle.through owner second)
    (provided : Provided last.traffic) :
    ∃ newer arena, middle.arena? owner = some newer ∧ last.arena? owner = some arena ∧
      (last.rewind owner base.snapshot).2.arena? owner = some (arena.regained base) ∧
      (last.rewind owner base.snapshot).2.Coincide
        ((last.rewind owner newer.snapshot).2.rewind owner base.snapshot).2 := by
  have between : Provided middle.traffic := by
    rw [through] at provided
    exact provided_of_suffix provided (middle.through_traffic_suffix owner second)
  have beginning : Provided before.traffic := by
    rw [onward] at between
    exact provided_of_suffix between (before.through_traffic_suffix owner first)
  have sound : before.Sound := by
    rw [reached] at beginning ⊢
    exact (World.new_soundIfProvided profile site logs).run earlier beginning
  obtain ⟨sound', newer, found', lower⟩ : middle.Sound ∧
      ∃ newer, middle.arena? owner = some newer ∧ newer.Over base := by
    rw [onward] at between ⊢
    exact World.through_allUpon sound found first between
  obtain ⟨sound'', arena, found'', upper⟩ : last.Sound ∧
      ∃ arena, last.arena? owner = some arena ∧ arena.Over newer := by
    rw [through] at provided ⊢
    exact World.through_allUpon sound' found' second provided
  have lowest := (sound owner base found).consistent
  have settled := (sound' owner newer found').consistent
  have consistent := (sound'' owner arena found'').consistent
  refine ⟨newer, arena, found', found'', ?_⟩
  -- Both rewinds from the last world are retreats, and so is the one that comes second.
  obtain ⟨_, direct⟩ :=
    World.rewind_retreats sound'' provided found'' (upper.trans lower) lowest
  obtain ⟨_, back⟩ := World.rewind_retreats sound'' provided found'' upper settled
  have present : (last.rewind owner newer.snapshot).2.arena? owner =
      some (arena.regained newer) :=
    (World.rewind_back sound'' provided found'' settled upper).1
  have lower' := lower.regain arena
  have soundIf : last.SoundIfProvided := fun _ => sound''
  have given := World.rewind_provided sound'' provided found'' newer.snapshot
  obtain ⟨_, again⟩ :=
    World.rewind_retreats (soundIf.act (.rewind owner newer.snapshot) given) given
      present lower' lowest
  exact ⟨(World.rewind_back sound'' provided found'' lowest (upper.trans lower)).1,
    World.retreats_coincide upper lower consistent settled lowest back again direct⟩

def firstInterval : List Turn :=
  [.save, .act (.place 0 (.bytes 3 1)), .save,
    .act (.place 0 (.slice .u16 40 (fun _ => [0]) none)), .rewind 0,
    .act (.place 0 (.bytes 8 8)), .rewind 0, .act (.place 0 (.bytes 4 1)), .act (.disable 0),
    .act (.drop 1)]

def secondInterval : List Turn :=
  [.act (.enable 0), .act (.place 0 (.bytes 2 2)), .save, .act (.place 0 (.bytes 100 64)),
    .rewind 0, .act (.place 0 (.bytes 64 1)), .act (.place 0 (.bytes 24 8))]

theorem secondInterval_absorbed :
    ∃ before middle last, before = (World.new .debug pagedSite (Logs.empty none)).run settling ∧
      middle = before.through 0 firstInterval ∧ last = middle.through 0 secondInterval ∧
      (last.arena? 0).map Arena.chunkCount = some 3 ∧
      ∃ base newer arena, before.arena? 0 = some base ∧ middle.arena? 0 = some newer ∧
        last.arena? 0 = some arena ∧
        (last.rewind 0 base.snapshot).2.arena? 0 = some (arena.regained base) ∧
        (last.rewind 0 base.snapshot).2.Coincide
          ((last.rewind 0 newer.snapshot).2.rewind 0 base.snapshot).2 := by
  have present : (((World.new .debug pagedSite (Logs.empty none)).run settling).arena? 0).isSome =
      true := by
    decide +kernel
  obtain ⟨base, found⟩ := Option.isSome_iff_exists.mp present
  obtain ⟨newer, arena, absorbed⟩ := rewinds_absorb .debug pagedSite (Logs.empty none) settling rfl
    found firstInterval secondInterval rfl rfl (by decide +kernel)
  exact ⟨_, _, _, rfl, rfl, rfl, by decide +kernel, base, newer, arena, found, absorbed⟩

end ChunkArena
