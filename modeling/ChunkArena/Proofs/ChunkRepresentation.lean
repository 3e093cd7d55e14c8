import ChunkArena.Proofs.WorldSoundness

/-!
How an arena is represented. The stack of chunks is kept twice, as a list and through the links from
each chunk to the one below it, and the cursor names its place in both. The two always agree.
-/

namespace ChunkArena

namespace Arena

/-- The chunks that are met from a handle on by following the links. -/
inductive Walk (arena : Arena) : Option Handle → List Chunk → Prop where
  | stop : Walk arena none []
  | visit {handle : Handle} {chunk : Chunk} {rest : List Chunk}
      (live : arena.liveChunk? handle = some chunk) (further : Walk arena chunk.previous rest) :
      Walk arena (some handle) (chunk :: rest)

structure Represented (arena : Arena) : Prop where
  nowhere : arena.cursor.chunk = none ↔ arena.chunks = []
  null_next : arena.cursor.next = 0 ↔ arena.chunks = []
  null_limit : arena.cursor.limit = 0 ↔ arena.chunks = []
  newest : ∀ chunk, arena.chunkAt? (arena.chunkCount - 1) = some chunk →
    arena.cursor.chunk = some ⟨arena.chunkCount - 1, chunk.serial⟩ ∧
      arena.cursor.limit = chunk.finish ∧ chunk.start ≤ arena.cursor.next ∧
        arena.cursor.next ≤ chunk.finish
  bottom : ∀ chunk, arena.chunkAt? 0 = some chunk → chunk.previous = none
  above : ∀ index below chunk, arena.chunkAt? index = some below →
    arena.chunkAt? (index + 1) = some chunk → chunk.previous = some ⟨index, below.serial⟩
  walk : ∀ visited, arena.Walk arena.cursor.chunk visited ↔ visited = arena.chunks
  once : arena.chunks.Nodup

structure Ascending (arena : Arena) : Prop where
  ordered : ∀ i j older newer, i < j → arena.chunkAt? i = some older →
    arena.chunkAt? j = some newer → older.serial < newer.serial
  below : ∀ chunk ∈ arena.chunks, chunk.serial < arena.nextSerial

theorem linked_previous {chunks : List Chunk} (linked : Linked chunks) {index : Nat}
    {chunk : Chunk} (found : chunks.reverse[index]? = some chunk) :
    chunk.previous = topHandle (chunks.drop (chunks.length - index)) := by
  induction chunks with
  | nil => simp at found
  | cons newest rest ih =>
    obtain ⟨link, linked⟩ := linked
    have inside : index < rest.length + 1 := by
      have bound := (List.getElem?_eq_some_iff.mp found).1
      simpa using bound
    by_cases top : index = rest.length
    · rw [top, reverse_getElem?_top] at found
      cases found
      have one : (chunk :: rest).length - index = 1 := by
        rw [List.length_cons]
        omega
      rw [one]
      exact link
    · rw [reverse_getElem?_below (by omega)] at found
      have deeper : (newest :: rest).length - index = rest.length - index + 1 := by
        rw [List.length_cons]
        omega
      rw [deeper]
      exact ih linked found

theorem topHandle_drop {chunks : List Chunk} {index : Nat} {below : Chunk}
    (found : chunks.reverse[index]? = some below) :
    topHandle (chunks.drop (chunks.length - (index + 1))) = some ⟨index, below.serial⟩ := by
  have inside := lt_of_reverse_getElem? found
  rw [reverse_drop_cons found, topHandle_cons, List.length_drop]
  congr 2
  omega

theorem walk_suffix {arena : Arena} (linked : Linked arena.chunks) {suffix : List Chunk}
    (part : suffix <:+ arena.chunks) : arena.Walk (topHandle suffix) suffix := by
  induction suffix with
  | nil => exact .stop
  | cons chunk rest ih =>
    obtain ⟨above, whole⟩ := part
    have link : chunk.previous = topHandle rest := by
      have lower := linked_drop linked above.length
      rw [← whole, List.drop_left] at lower
      exact lower.1
    have found : arena.chunks.reverse[rest.length]? = some chunk := by
      rw [← whole, List.reverse_append, List.getElem?_append_left (by simp)]
      exact reverse_getElem?_top chunk rest
    have live : arena.liveChunk? ⟨rest.length, chunk.serial⟩ = some chunk := by
      rw [liveChunk?, chunkAt?, found]
      simp
    refine .visit live ?_
    rw [link]
    exact ih ⟨above ++ [chunk], by rw [← whole]; simp⟩

theorem Walk.unique {arena : Arena} {handle : Option Handle} {first second : List Chunk}
    (walk : arena.Walk handle first) (other : arena.Walk handle second) : first = second := by
  induction walk generalizing second with
  | stop =>
    cases other
    rfl
  | visit live _ ih =>
    cases other with
    | visit live' further =>
      rw [live] at live'
      cases live'
      rw [ih further]

theorem nodup_of_apart {chunks : List Chunk} (apart : chunks.Pairwise Chunk.Apart)
    (nonempty : ∀ chunk ∈ chunks, 0 < chunk.capacity) : chunks.Nodup := by
  refine List.Pairwise.imp_of_mem ?_ apart
  intro a b first second separate same
  exact Chunk.apart_start_ne separate (nonempty a first) (nonempty b second)
    (congrArg Chunk.start same)

theorem Backed.represented {arena : Arena} {owner : Nat} {profile : Profile}
    {traffic : List Traffic} (backed : arena.Backed owner profile traffic)
    (provided : Provided traffic) : arena.Represented := by
  have consistent := backed.consistent
  have seated := consistent.seated
  have walk := walk_suffix consistent.linked (List.suffix_refl _)
  rw [← consistent.chunk_eq] at walk
  -- A cursor inside a chunk is not null, because no chunk starts at the null address.
  have placed (chunk : Chunk) (member : chunk ∈ arena.chunks) : 0 < chunk.start :=
    (held_placed provided _ (backed.booked chunk member)).2.1
  have seats : arena.chunks ≠ [] → ∃ chunk ∈ arena.chunks,
      arena.chunks.reverse[arena.chunks.length - 1]? = some chunk ∧
      arena.cursor.chunk = some ⟨arena.chunks.length - 1, chunk.serial⟩ ∧
      arena.cursor.limit = chunk.finish ∧ chunk.start ≤ arena.cursor.next ∧
      arena.cursor.next ≤ chunk.finish := by
    intro some_chunk
    cases stack : arena.chunks with
    | nil => exact absurd stack some_chunk
    | cons chunk rest =>
      rw [stack] at seated
      exact ⟨chunk, List.mem_cons_self, reverse_getElem?_top chunk rest, seated⟩
  have empty : arena.chunks = [] → arena.cursor = .empty := by
    intro stack
    rwa [stack] at seated
  refine ⟨?_, ?_, ?_, ?_, ?_, ?_, ?_, nodup_of_apart backed.apart consistent.nonempty⟩
  · refine ⟨fun nowhere => ?_, fun stack => by rw [empty stack]; rfl⟩
    by_contra some_chunk
    obtain ⟨chunk, _, _, names, _⟩ := seats some_chunk
    rw [nowhere] at names
    cases names
  · refine ⟨fun null => ?_, fun stack => by rw [empty stack]; rfl⟩
    by_contra some_chunk
    obtain ⟨chunk, member, _, _, _, low, _⟩ := seats some_chunk
    have above := placed chunk member
    omega
  · refine ⟨fun null => ?_, fun stack => by rw [empty stack]; rfl⟩
    by_contra some_chunk
    obtain ⟨chunk, member, _, _, limit, low, high⟩ := seats some_chunk
    have above := placed chunk member
    omega
  · intro chunk found
    have some_chunk : arena.chunks ≠ [] := by
      intro stack
      simp [chunkAt?, stack] at found
    obtain ⟨top, _, place, seat⟩ := seats some_chunk
    have same : some top = some chunk := place.symm.trans found
    cases same
    exact seat
  · intro chunk found
    have link := linked_previous consistent.linked found
    rwa [Nat.sub_zero, List.drop_length] at link
  · intro index below chunk found found'
    rw [linked_previous consistent.linked found']
    exact topHandle_drop found
  · intro visited
    constructor
    · intro other
      exact other.unique walk
    · intro same
      rw [same]
      exact walk

theorem Backed.ascends {arena : Arena} {owner : Nat} {profile : Profile}
    {traffic : List Traffic} (backed : arena.Backed owner profile traffic)
    (few : profile.checks = true ∨ obtainedBy owner traffic < wordLimit) : arena.Ascending := by
  obtain ⟨ordered, below⟩ := backed.ascending few
  have upward := List.pairwise_iff_getElem.mp (List.pairwise_reverse.mpr ordered)
  refine ⟨?_, below⟩
  intro i j older newer before first second
  obtain ⟨bound, rfl⟩ := List.getElem?_eq_some_iff.mp first
  obtain ⟨bound', rfl⟩ := List.getElem?_eq_some_iff.mp second
  exact upward i j bound bound' before

end Arena

/-- In every run, every arena is represented as it should be. Its serial numbers ascend in debug
builds, and in release builds as long as it obtained fewer chunks than there are words. -/
theorem run_represented (profile : Profile) (site : Site) (logs : Logs) (actions : List Action)
    (provided : Provided ((World.new profile site logs).run actions).traffic) {owner : Nat}
    {arena : Arena}
    (found : ((World.new profile site logs).run actions).arena? owner = some arena) :
    arena.Represented ∧
      (profile = .debug ∨
          obtainedBy owner ((World.new profile site logs).run actions).traffic < wordLimit →
        arena.Ascending) := by
  have soundIf := (World.new_soundIfProvided profile site logs).run actions
  have backed := soundIf provided owner arena found
  rw [World.run_profile] at backed
  refine ⟨backed.represented provided, ?_⟩
  intro few
  apply backed.ascends
  rcases few with debug | few
  · left
    rw [debug]
    rfl
  · exact Or.inr few

def misuse : List Action :=
  [.create ⟨"pairs", 16⟩ 0, .create ⟨"lines", 64⟩ 0, .place 0 (.object .u64 [7]),
    .place 0 (.bytes 100 32), .rewind 1 ⟨⟨some ⟨0, 0⟩, 4, 8⟩, 0⟩, .place 1 (.array .u16 5),
    .rewind 1 ⟨⟨some ⟨0, 0⟩, 4, 8⟩, 0⟩, .release 0, .rewind 0 ⟨⟨some ⟨1, 1⟩, 4, 8⟩, 0⟩,
    .place 0 (.objectWith .u32 [(40, 8)] true [1]), .rewind 0 ⟨.empty, 5⟩, .place 0 (.bytes 8 8),
    .place 0 (.bytes 24 3), .place 0 (.bytes 24 8)]

theorem misuse_represented :
    Provided ((World.new .debug pagedSite (Logs.empty none)).run misuse).traffic ∧
      ∃ arena, ((World.new .debug pagedSite (Logs.empty none)).run misuse).arena? 0 = some arena ∧
        arena.Represented ∧ arena.Ascending := by
  have provided : Provided ((World.new .debug pagedSite (Logs.empty none)).run misuse).traffic := by
    decide +kernel
  have present : (((World.new .debug pagedSite (Logs.empty none)).run misuse).arena? 0).isSome =
      true := by
    decide +kernel
  obtain ⟨arena, found⟩ := Option.isSome_iff_exists.mp present
  have holds := run_represented .debug pagedSite (Logs.empty none) misuse provided found
  exact ⟨provided, arena, found, holds.1, holds.2 (Or.inl rfl)⟩

end ChunkArena
