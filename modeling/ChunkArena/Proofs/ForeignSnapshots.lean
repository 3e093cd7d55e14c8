import ChunkArena.Proofs.RewindOutcomes

/-!
Snapshots of other arenas. What an arena does with one is decided by the chunk that it names and by
the number of releases, since nothing else of it tells arenas apart. If no address ever comes twice,
a chunk found in its place never ends where the snapshot's chunk ended, and the rewind stops. It
also stops if there is no such chunk but the numbers of releases agree. But a snapshot without a
chunk empties every arena, and one from before or after another number of releases releases it.
Whatever it is, the other arenas and the bytes of their chunks are left alone.
-/

namespace ChunkArena

def Unrepeated (traffic : List Traffic) : Prop := (arrivals traffic).Pairwise Traffic.Apart

instance (traffic : List Traffic) : Decidable (Unrepeated traffic) :=
  inferInstanceAs (Decidable (List.Pairwise _ _))

theorem Memo.Holds.arrived {memo : Memo} {history : History} {owner : Nat}
    (holds : memo.Holds history owner) {chunk : Chunk} (member : chunk ∈ memo.arena.chunks) :
    chunk.entry owner ∈ arrivals history.world.traffic := by
  have came : chunk.entry owner ∈ arrivals (passages owner memo.traffic) :=
    (pile_perm holds.stacked).mem_iff.mpr
      (List.mem_append_left _ (List.mem_map_of_mem member))
  exact (holds.suffix.sublist.filter _).subset (arrived_of_passages came)

theorem Chunk.finish_ne {first second : Nat} (different : first ≠ second) {a b : Chunk}
    (nonempty : 0 < a.capacity) (nonempty' : 0 < b.capacity) {traffic : List Traffic}
    (unrepeated : Unrepeated traffic) (came : a.entry first ∈ arrivals traffic)
    (came' : b.entry second ∈ arrivals traffic) : a.finish ≠ b.finish := by
  have distinct : a.entry first ≠ b.entry second := by
    intro same
    exact different (Option.some.inj (congrArg Traffic.owner same))
  have apart := unrepeated.forall came came' distinct
  simp only [Traffic.Apart, Chunk.entry] at apart
  simp only [Chunk.finish, Chunk.capacity] at nonempty nonempty' ⊢
  omega

/-- What a rewind of an arena does with a snapshot of another one. -/
inductive ForeignRewound (before : World) (owner : Nat) (arena : Arena) (snapshot : Snapshot)
    (answer : Except Failure Unit × World) : Prop where
  | foreign (handle : Handle) (names : snapshot.cursor.chunk = some handle)
      (live : (arena.liveChunk? handle).isSome)
      (same : answer = (.error (.panic (.foreignSnapshot arena.label)), before))
  | stale (handle : Handle) (names : snapshot.cursor.chunk = some handle)
      (gone : arena.liveChunk? handle = none) (alike : snapshot.generation = arena.generation)
      (same : answer = (.error (.panic (.staleSnapshot arena.label handle.index)), before))
  | emptied (bare : snapshot.cursor.chunk = none)
      (settles : Settles before owner answer { arena with chunks := [], cursor := .empty })
  | released (handle : Handle) (names : snapshot.cursor.chunk = some handle)
      (gone : arena.liveChunk? handle = none) (unlike : snapshot.generation ≠ arena.generation)
      (warned : before.logs.complaint .warn = none) (returned : answer.1 = .ok ())
      (settles : Settles before owner answer
        (arena.emptied ((arena.generation + 1) % wordLimit)))
  | unwarned (handle : Handle) (names : snapshot.cursor.chunk = some handle)
      (gone : arena.liveChunk? handle = none) (unlike : snapshot.generation ≠ arena.generation)
      (cause : Panic) (loud : before.logs.complaint .warn = some cause)
      (same : answer = (.error (.panic cause),
        before.perform owner (.report arena.label (.alreadyReleased handle.index))))

namespace Arena

variable {arena : Arena} {env : Env} {snapshot : Snapshot}

theorem rewind_of_foreign {handle : Handle} {chunk : Chunk}
    (names : snapshot.cursor.chunk = some handle) (live : arena.liveChunk? handle = some chunk)
    (elsewhere : snapshot.cursor.limit ≠ chunk.finish) :
    arena.rewind env snapshot = ⟨.error (.panic (.foreignSnapshot arena.label)), arena, []⟩ := by
  have astray : snapshot.cursor.limit ≠ chunk.finish ∨ snapshot.cursor.next < chunk.start ∨
      snapshot.cursor.limit < snapshot.cursor.next := Or.inl elsewhere
  simp only [rewind, names, live, restore, astray, ↓reduceIte]

theorem Rewinds.fills_in_chunk {reply : Reply Unit} (rewinds : arena.Rewinds env snapshot reply)
    (consistent : arena.Consistent) {effect : Effect} (member : effect ∈ reply.effects)
    {address : Nat} (fills : effect.Fills address) :
    ∃ chunk ∈ arena.chunks, chunk.start ≤ address ∧ address < chunk.finish := by
  cases rewinds with
  | refused cause same =>
    rw [same] at member
    cases member
  | unwarned handle cause names gone later loud same =>
    rw [same] at member
    rw [List.mem_singleton.mp member] at fills
    exact fills.elim
  | bare names closes => exact (beyond_of_empty (closes.fills member fills) fills).in_chunk
  | live handle chunk names live limit low high closes =>
    exact (beyond_of_fallBack consistent live limit low (closes.fills member fills) fills).in_chunk
  | released handle names gone later closes =>
    rcases List.mem_cons.mp (closes.fills member fills) with told | surrendered
    · rw [told] at fills
      exact fills.elim
    · exact (beyond_of_empty surrendered fills).in_chunk

end Arena

namespace World

def SparesOthers (before after : World) (owner : Nat) : Prop :=
  ∀ other, other ≠ owner → after.arena? other = before.arena? other ∧
    ∀ chunk ∈ before.chunks other, ∀ address, chunk.start ≤ address → address < chunk.finish →
      after.memory.read address = before.memory.read address

variable {world : World} {owner : Nat} {arena : Arena}

theorem rewind_spares (sound : world.Sound) (provided : Provided world.traffic) (owner : Nat)
    (snapshot : Snapshot) : world.SparesOthers (world.rewind owner snapshot).2 owner := by
  intro other different
  refine ⟨world.onArena_other different _, ?_⟩
  intro chunk member address low high
  cases present : world.arena? owner with
  | none =>
    obtain ⟨cause, same⟩ := onArena_none present fun arena env => arena.rewind env snapshot
    rw [rewind, same]
  | some arena =>
    obtain ⟨skew, same⟩ := onArena_some present fun arena env => arena.rewind env snapshot
    have consistent := (sound owner arena present).consistent
    have rewinds := Arena.rewind_rewinds consistent (sound.small provided present)
      (world.env skew) snapshot
    rw [rewind, same]
    apply read_after
    intro effect inside fills
    obtain ⟨gone, own, bottom, top⟩ := rewinds.fills_in_chunk consistent inside fills
    cases found : world.arena? other with
    | none =>
      rw [chunks_of_none found] at member
      cases member
    | some stranger =>
      rw [chunks_of_some found] at member
      have apart := sound.foreign_apart provided different found present member own
      simp only [Chunk.Apart] at apart
      omega

/-- A rewind to a snapshot, as long as its chunk ended nowhere where the arena has a chunk that
ends. -/
theorem rewind_strays (sound : world.Sound) (provided : Provided world.traffic)
    (found : world.arena? owner = some arena) {snapshot : Snapshot}
    (elsewhere : ∀ handle, snapshot.cursor.chunk = some handle →
      ∀ chunk ∈ arena.chunks, snapshot.cursor.limit ≠ chunk.finish) :
    ForeignRewound world owner arena snapshot (world.rewind owner snapshot) := by
  have consistent := (sound owner arena found).consistent
  have small := sound.small provided found
  cases names : snapshot.cursor.chunk with
  | none =>
    apply ForeignRewound.emptied names
    apply rewind_settles sound provided found fun skew =>
      Arena.rewind_of_bare consistent small (world.env skew) names
    · rfl
    · intro some_chunk none_left
      exact some_chunk (congrArg List.length none_left)
  | some handle =>
    cases live : arena.liveChunk? handle with
    | some chunk =>
      have place := (Arena.liveChunk?_eq_some live).1
      have member := List.mem_reverse.mp (List.mem_of_getElem? place)
      refine .foreign handle names (by rw [live]; rfl) ?_
      exact rewind_stops found fun skew =>
        Arena.rewind_of_foreign names live (elsewhere handle names chunk member)
    | none =>
      by_cases alike : snapshot.generation = arena.generation
      · exact .stale handle names live alike
          (rewind_stops found fun skew => Arena.rewind_of_stale names live alike)
      · cases warning : world.logs.complaint .warn with
        | some cause =>
          exact .unwarned handle names live alike cause warning
            (rewind_stops found fun skew => Arena.rewind_of_unwarned names live alike warning)
        | none =>
          obtain ⟨returned, settles⟩ :=
            rewind_releases sound provided found names live alike warning
          exact .released handle names live alike warning returned settles

end World

/-- In every run in which no address comes twice, a snapshot of one arena makes another one stop,
unless it names no chunk, or no chunk that is found there, and was taken after another number of
releases. The arenas that are not rewound keep what they have. -/
theorem strayed_snapshot_outcome (profile : Profile) (site : Site) (logs : Logs)
    {owner other : Nat} (different : owner ≠ other) (turns : List Turn) {memo : Memo}
    (listed : memo ∈ ((History.start (World.new profile site logs)).run owner turns).memos)
    {arena : Arena}
    (found : ((History.start (World.new profile site logs)).run owner turns).world.arena? other =
      some arena)
    (provided : Provided ((History.start (World.new profile site logs)).run owner
      turns).world.traffic)
    (unrepeated : Unrepeated ((History.start (World.new profile site logs)).run owner
      turns).world.traffic) :
    ForeignRewound ((History.start (World.new profile site logs)).run owner turns).world other arena
        memo.arena.snapshot
        (((History.start (World.new profile site logs)).run owner turns).world.rewind other
          memo.arena.snapshot) ∧
      ((History.start (World.new profile site logs)).run owner turns).world.SparesOthers
        (((History.start (World.new profile site logs)).run owner turns).world.rewind other
          memo.arena.snapshot).2 other := by
  have faithful := (History.start_faithful profile site logs owner).run turns provided
  generalize (History.start (World.new profile site logs)).run owner turns = history at *
  have sound := faithful.soundIf provided
  have holds := faithful.memos memo listed
  refine ⟨World.rewind_strays sound provided found ?_,
    World.rewind_spares sound provided other memo.arena.snapshot⟩
  intro handle names chunk member
  have seated := holds.consistent.seated
  cases stack : memo.arena.chunks with
  | nil =>
    rw [stack] at seated
    have nowhere : memo.arena.snapshot.cursor.chunk = none := congrArg Cursor.chunk seated
    cases nowhere.symm.trans names
  | cons newest rest =>
    have present : newest ∈ memo.arena.chunks := by
      rw [stack]
      exact List.mem_cons_self
    rw [stack] at seated
    have limit : memo.arena.snapshot.cursor.limit = newest.finish := seated.2.1
    have backed := sound other arena found
    rw [limit]
    exact Chunk.finish_ne different (holds.consistent.nonempty newest present)
      (backed.consistent.nonempty chunk member) unrepeated (holds.arrived present)
      (arrived_of_held (backed.booked chunk member))

def threeStages : List Turn :=
  [.act (.create ⟨"pairs", 16⟩ 0), .act (.create ⟨"lines", 64⟩ 0), .save,
    .act (.place 1 (.bytes 8 8)), .act (.place 0 (.bytes 16 8)), .save, .act (.release 0),
    .act (.place 0 (.object .u32 [7])), .save]

def atStages : History :=
  (History.start (World.new .debug pagedSite (Logs.empty none))).run 0 threeStages

theorem stages_stray :
    atStages.memos.map (fun memo => (atStages.world.rewind 1 memo.arena.snapshot).1.isOk) =
        [true, false, true] ∧
      ∃ arena, atStages.world.arena? 1 = some arena ∧ ∀ memo ∈ atStages.memos,
        ForeignRewound atStages.world 1 arena memo.arena.snapshot
          (atStages.world.rewind 1 memo.arena.snapshot) := by
  have answers : atStages.memos.map (fun memo =>
      (atStages.world.rewind 1 memo.arena.snapshot).1.isOk) = [true, false, true] := by
    decide +kernel
  have present : (atStages.world.arena? 1).isSome = true := by decide +kernel
  have provided : Provided atStages.world.traffic := by decide +kernel
  have unrepeated : Unrepeated atStages.world.traffic := by decide +kernel
  obtain ⟨arena, found⟩ := Option.isSome_iff_exists.mp present
  refine ⟨answers, arena, found, ?_⟩
  intro memo listed
  have different : 0 ≠ 1 := by decide
  unfold atStages at listed found provided unrepeated ⊢
  have strays := strayed_snapshot_outcome .debug pagedSite (Logs.empty none) different threeStages
    listed found provided unrepeated
  exact strays.1

/-- A snapshot that one arena took without a chunk, or after a release, takes from another arena
everything it has. -/
theorem strayed_snapshot_empties :
    atStages.world.chunks 1 ≠ [] ∧
      ∃ memo ∈ atStages.memos, ∃ later ∈ atStages.memos,
        memo.arena.snapshot.cursor.chunk = none ∧ later.arena.snapshot.cursor.chunk ≠ none ∧
          (atStages.world.rewind 1 memo.arena.snapshot).1 = .ok () ∧
          (atStages.world.rewind 1 memo.arena.snapshot).2.chunks 1 = [] ∧
          (atStages.world.rewind 1 later.arena.snapshot).1 = .ok () ∧
          (atStages.world.rewind 1 later.arena.snapshot).2.chunks 1 = [] ∧
          Unrepeated (atStages.world.rewind 1 later.arena.snapshot).2.traffic := by
  decide +kernel

end ChunkArena
