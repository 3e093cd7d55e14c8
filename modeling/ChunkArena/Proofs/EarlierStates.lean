import ChunkArena.Proofs.ArenaOperations

/-!
Arenas and what they were before. An arena stands upon an earlier one if it has all the chunks of
that one in the same places, and has handed out at least as much of the newest of them. A rewind to
a snapshot that was taken since leaves the arena standing where it stood, and a rewind to where it
stands leads back there.
-/

namespace ChunkArena

namespace Arena

/-- Whether an arena has everything that another one had, some disable guards, and perhaps more on
top. -/
structure Upon (arena base : Arena) (guards : Nat) : Prop where
  label : arena.label = base.label
  chunkCapacity : arena.chunkCapacity = base.chunkCapacity
  generation : arena.generation = base.generation
  disabled : arena.disabled = base.disabled + guards
  stack : base.chunks <:+ arena.chunks
  level : arena.chunks.length = base.chunks.length → base.cursor.next ≤ arena.cursor.next

end Arena

structure Snapshot.Upon (snapshot : Snapshot) (base : Arena) : Prop where
  generation : snapshot.generation = base.generation
  bare : snapshot.cursor.chunk = none → base.chunks = []
  high : ∀ handle, snapshot.cursor.chunk = some handle →
    base.chunks.length ≤ handle.index + 1 ∧
      (handle.index + 1 = base.chunks.length → base.cursor.next ≤ snapshot.cursor.next)

namespace Arena

variable {arena base : Arena} {guards : Nat}

theorem Upon.refl (arena : Arena) : arena.Upon arena 0 :=
  ⟨rfl, rfl, rfl, rfl, List.suffix_refl _, fun _ => Nat.le_refl _⟩

theorem Upon.extended (upon : arena.Upon base guards) (chunk : Chunk) :
    (arena.extended chunk).Upon base guards := by
  refine ⟨upon.label, upon.chunkCapacity, upon.generation, upon.disabled,
    upon.stack.trans (List.suffix_cons chunk arena.chunks), ?_⟩
  intro same
  have shorter := upon.stack.length_le
  simp only [Arena.extended, List.length_cons] at same
  omega

theorem Upon.movedTo (upon : arena.Upon base guards) {next : Nat}
    (onward : arena.cursor.next ≤ next) : (arena.movedTo next).Upon base guards :=
  ⟨upon.label, upon.chunkCapacity, upon.generation, upon.disabled, upon.stack,
    fun same => Nat.le_trans (upon.level same) onward⟩

theorem Upon.spill (upon : arena.Upon base guards) {profile : Profile} {effects : List Effect}
    {mid : Arena} (spill : Spill profile arena effects mid) : mid.Upon base guards := by
  cases spill with
  | idle | bounce => exact upon
  | extend chunk => exact upon.extended chunk

theorem Upon.answers (upon : arena.Upon base guards) {profile : Profile} {size align : Nat}
    {reply : Reply Nat} (answers : arena.Answers profile size align reply) :
    reply.arena.Upon base guards := by
  obtain ⟨mid, effects, spill, ⟨failure, failed⟩ | ⟨start, offers, done⟩⟩ := answers
  · rw [failed]
    exact upon.spill spill
  · rw [done]
    exact (upon.spill spill).movedTo (Nat.le_add_right_of_le offers.low)

theorem Upon.grow (upon : arena.Upon base guards) (consistent : arena.Consistent) (env : Env)
    (start old new elementSize : Nat) :
    (arena.grow env start old new elementSize).arena.Upon base guards := by
  rcases grow_cases consistent env start old new elementSize with
    ⟨result, _, refused⟩ | ⟨stretches, done⟩
  · rw [refused]
    exact upon
  · rw [done]
    have longer : old * elementSize ≤ new * elementSize :=
      Nat.mul_le_mul_right elementSize stretches.ordered
    have ends := stretches.ends
    exact upon.movedTo (by omega)

theorem Upon.deallocate (upon : arena.Upon base guards) (env : Env) (address : Nat)
    (layout : Layout) : (arena.deallocate env address layout).arena.Upon base guards := by
  rcases deallocate_cases arena env address layout with refused | done
  · rw [refused]
    exact upon
  · rw [done]
    exact upon

theorem Upon.held (upon : arena.Upon base guards) {count more : Nat}
    (same : count = base.disabled + more) :
    Upon { arena with disabled := count } base more :=
  ⟨upon.label, upon.chunkCapacity, upon.generation, same, upon.stack, upon.level⟩

theorem Upon.snapshot (upon : arena.Upon base guards) (consistent : arena.Consistent) :
    arena.snapshot.Upon base := by
  have shorter := upon.stack.length_le
  have names := consistent.chunk_eq
  refine ⟨upon.generation, ?_, ?_⟩
  · intro bare
    have stack := upon.stack
    cases chunks : arena.chunks with
    | nil =>
      rw [chunks] at stack
      exact List.suffix_nil.mp stack
    | cons chunk rest =>
      rw [chunks, topHandle_cons] at names
      cases names.symm.trans bare
  · intro handle named
    cases chunks : arena.chunks with
    | nil =>
      rw [chunks] at names
      cases names.symm.trans named
    | cons chunk rest =>
      rw [chunks, topHandle_cons] at names
      cases names.symm.trans named
      rw [chunks, List.length_cons] at shorter
      refine ⟨shorter, ?_⟩
      intro same
      exact upon.level (by rw [chunks]; exact same)

theorem Upon.emptied (upon : arena.Upon base guards) (settled : base.Consistent)
    (bare : base.chunks = []) : (arena.emptied arena.generation).Upon base guards := by
  have seated := settled.seated
  rw [bare] at seated
  refine ⟨upon.label, upon.chunkCapacity, upon.generation, upon.disabled, ?_, ?_⟩
  · rw [bare]
    exact List.suffix_refl _
  · intro _
    rw [seated]
    exact Nat.le_refl _

theorem Upon.fallenBack (upon : arena.Upon base guards) {saved : Cursor} {handle : Handle}
    {chunk : Chunk} (live : arena.liveChunk? handle = some chunk)
    (high : base.chunks.length ≤ handle.index + 1)
    (level : handle.index + 1 = base.chunks.length → base.cursor.next ≤ saved.next) :
    (arena.fallenBack saved (handle.index + 1)).Upon base guards := by
  obtain ⟨_, _, inside⟩ := liveChunk?_eq_some live
  have left : (arena.chunks.drop (arena.chunks.length - (handle.index + 1))).length =
      handle.index + 1 := by
    rw [List.length_drop]
    omega
  refine ⟨upon.label, upon.chunkCapacity, upon.generation, upon.disabled, ?_, ?_⟩
  · exact List.suffix_of_suffix_length_le upon.stack (List.drop_suffix _ _)
      (Nat.le_trans high (Nat.le_of_eq left.symm))
  · intro same
    exact level (left.symm.trans same)

theorem Upon.rewind (upon : arena.Upon base guards) (settled : base.Consistent) {env : Env}
    {snapshot : Snapshot} {reply : Reply Unit} (rewinds : arena.Rewinds env snapshot reply)
    (since : snapshot.Upon base) : reply.arena.Upon base guards := by
  cases rewinds with
  | refused cause same | unwarned handle cause names gone later loud same =>
    rw [same]
    exact upon
  | bare names closes =>
    rw [closes.arena_eq]
    exact upon.emptied settled (since.bare names)
  | live handle chunk names live limit low high closes =>
    rw [closes.arena_eq]
    obtain ⟨above, level⟩ := since.high handle names
    exact upon.fallenBack live above level
  | released handle names gone later closes =>
    -- Without a release in between, the generations agree.
    exact absurd (since.generation.trans upon.generation.symm) later

def renumbered (arena : Arena) (serial : Nat) : Arena := { arena with nextSerial := serial }

theorem live_of_suffix {chunk : Chunk} {rest : List Chunk}
    (stack : chunk :: rest <:+ arena.chunks) :
    arena.liveChunk? ⟨rest.length, chunk.serial⟩ = some chunk := by
  obtain ⟨top, whole⟩ := stack
  have found : arena.chunks.reverse[rest.length]? = some chunk := by
    rw [← whole, List.reverse_append, List.getElem?_append_left (by simp)]
    exact reverse_getElem?_top chunk rest
  rw [liveChunk?, chunkAt?, found]
  simp

theorem Upon.live (upon : arena.Upon base guards) {chunk : Chunk} {rest : List Chunk}
    (stack : base.chunks = chunk :: rest) :
    arena.liveChunk? ⟨rest.length, chunk.serial⟩ = some chunk :=
  live_of_suffix (stack ▸ upon.stack)

theorem Upon.chunks_eq (upon : arena.Upon base guards) :
    arena.chunks.drop (arena.chunks.length - base.chunks.length) = base.chunks :=
  (List.suffix_iff_eq_drop.mp upon.stack).symm

/-- A rewind to where the arena stands gives back what stands on it, and nothing else. It stops only
if the report about that cannot be written, and only after it is done. -/
theorem Upon.rewind_back (upon : arena.Upon base 0) (settled : base.Consistent)
    (consistent : arena.Consistent) (small : totalCapacity arena.chunks < wordLimit) (env : Env) :
    (arena.rewind env base.snapshot).arena = base.renumbered arena.nextSerial ∧
      ((arena.rewind env base.snapshot).result = .ok () ∨
        base.chunks.length < arena.chunks.length ∧ ∃ cause, env.complaint .debug = some cause ∧
          (arena.rewind env base.snapshot).result = .error (.panic cause)) := by
  have seated := settled.seated
  have shorter := upon.stack.length_le
  -- Everything but the chunks and the cursor is the same at any time.
  have restored {chunks : List Chunk} {cursor : Cursor} (same : chunks = base.chunks)
      (same' : cursor = base.cursor) :
      { arena with chunks := chunks, cursor := cursor } = base.renumbered arena.nextSerial := by
    rw [same, same', renumbered, upon.label, upon.chunkCapacity, upon.generation, upon.disabled]
    rfl
  cases stack : base.chunks with
  | nil =>
    rw [stack] at seated
    have names : base.snapshot.cursor.chunk = none := congrArg Cursor.chunk seated
    have back : arena.emptied arena.generation = base.renumbered arena.nextSerial :=
      restored stack.symm seated.symm
    have outcome := env.conclude_unless _ _ _ _ (rewind_of_bare consistent small env names)
    rw [back] at outcome
    refine ⟨outcome.1, outcome.2.imp_right fun ⟨more, loud⟩ => ⟨?_, loud⟩⟩
    exact Nat.pos_of_ne_zero more
  | cons chunk rest =>
    rw [stack] at seated
    obtain ⟨names, limit, low, high⟩ := seated
    have names : base.snapshot.cursor.chunk = some ⟨rest.length, chunk.serial⟩ := names
    have limit : base.snapshot.cursor.limit = chunk.finish := limit
    have within : base.snapshot.cursor.next ≤ base.snapshot.cursor.limit := by
      rw [limit]
      exact high
    have height : base.chunks.length = rest.length + 1 := by rw [stack, List.length_cons]
    have back : arena.fallenBack base.snapshot.cursor (rest.length + 1) =
        base.renumbered arena.nextSerial := by
      refine restored ?_ rfl
      rw [← height]
      exact upon.chunks_eq
    have outcome := env.conclude_unless _ _ _ _
      (rewind_of_live consistent small env names (upon.live stack) limit low within)
    rw [back] at outcome
    refine ⟨outcome.1, outcome.2.imp_right fun ⟨more, loud⟩ => ⟨?_, loud⟩⟩
    have more : arena.chunks.length - (rest.length + 1) ≠ 0 := more
    rw [List.length_cons]
    omega

end Arena

end ChunkArena
