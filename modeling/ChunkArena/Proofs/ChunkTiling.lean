import ChunkArena.Proofs.RewindAbsorption
import ChunkArena.Proofs.RequestPieces
import ChunkArena.Proofs.SharedWorlds

/-!
How the pieces of an arena tile its chunks. In each chunk they lie one behind the other, from its
start on, and the cursor stands where the last one ends. What is left of a chunk is what neither
they nor the paddings in front of them take. A question to the arena puts its piece behind the
others. If it fails, there is at most a new chunk without a piece, and only if there is no report
about it.
-/

namespace ChunkArena

def Tiles : Nat → List Piece → Nat → Prop
  | place, [], finish => finish = place
  | place, piece :: rest, finish =>
      0 < piece.align ∧ piece.start = roundUp place piece.align ∧ Tiles piece.finish rest finish

def paddings : Nat → List Piece → List Nat
  | _, [] => []
  | place, piece :: rest => (piece.start - place) :: paddings piece.finish rest

theorem Tiles.snoc {place middle : Nat} {pieces : List Piece} (tiles : Tiles place pieces middle)
    {piece : Piece} (positive : 0 < piece.align) (next : piece.start = roundUp middle piece.align) :
    Tiles place (pieces ++ [piece]) piece.finish := by
  induction pieces generalizing place with
  | nil =>
    have reached : middle = place := tiles
    rw [reached] at next
    exact ⟨positive, next, rfl⟩
  | cons first rest ih =>
    obtain ⟨aligned, start, tiles⟩ := tiles
    exact ⟨aligned, start, ih tiles⟩

theorem Tiles.finish_eq {place finish : Nat} {pieces : List Piece}
    (tiles : Tiles place pieces finish) :
    finish = place + (pieces.map Piece.size).sum + (paddings place pieces).sum := by
  induction pieces generalizing place with
  | nil => exact tiles
  | cons piece rest ih =>
    obtain ⟨_, start, tiles⟩ := tiles
    have above := le_roundUp place piece.align
    have whole := ih tiles
    simp only [Piece.finish] at whole
    simp only [List.map_cons, List.sum_cons, paddings, Piece.finish]
    omega

theorem Tiles.paddings_lt {place finish : Nat} {pieces : List Piece}
    (tiles : Tiles place pieces finish) :
    List.Forall₂ (fun padding piece => padding < piece.align) (paddings place pieces) pieces := by
  induction pieces generalizing place with
  | nil => exact .nil
  | cons piece rest ih =>
    obtain ⟨positive, start, tiles⟩ := tiles
    refine .cons ?_ (ih tiles)
    have less := padding_lt place positive
    rw [start, roundUp]
    omega

def Piece.Behind (newer older : Piece) : Prop :=
  older.index < newer.index ∨ older.index = newer.index ∧ older.finish ≤ newer.start

def piecesIn (index : Nat) (pieces : List Piece) : List Piece :=
  (pieces.filter (·.index = index)).reverse

/-- How pieces lie in a stack of chunks, newest first, with the cursor behind the newest. Only a
loose chunk may have been left without a piece when it was appended. -/
inductive Laid (loose : Chunk → Prop) : List Chunk → Nat → List Piece → Prop
  | bare : Laid loose [] 0 []
  | idle {chunks : List Chunk} {next : Nat} {pieces : List Piece}
      (laid : Laid loose chunks next pieces)
      (within : ∀ top ∈ chunks.head?, next ≤ top.finish) (chunk : Chunk) (lax : loose chunk) :
      Laid loose (chunk :: chunks) chunk.start pieces
  | first {chunks : List Chunk} {next : Nat} {pieces : List Piece}
      (laid : Laid loose chunks next pieces) (within : ∀ top ∈ chunks.head?, next ≤ top.finish)
      (chunk : Chunk) {size align : Nat} (positive : 0 < align) (aligned : align ∣ chunk.start) :
      Laid loose (chunk :: chunks) (chunk.start + size)
        (⟨chunks.length, chunk.start, size, align, true⟩ :: pieces)
  | next {chunk : Chunk} {chunks : List Chunk} {next : Nat} {pieces : List Piece}
      (laid : Laid loose (chunk :: chunks) next pieces) {size align : Nat} (positive : 0 < align) :
      Laid loose (chunk :: chunks) (roundUp next align + size)
        (⟨chunks.length, roundUp next align, size, align, false⟩ :: pieces)

namespace Laid

variable {loose : Chunk → Prop} {chunks : List Chunk} {next : Nat} {pieces : List Piece}

theorem mono (laid : Laid loose chunks next pieces) {looser : Chunk → Prop}
    (weaker : ∀ chunk, loose chunk → looser chunk) : Laid looser chunks next pieces := by
  induction laid with
  | bare => exact .bare
  | idle _ within chunk lax ih => exact .idle ih within chunk (weaker chunk lax)
  | first _ within chunk positive aligned ih => exact .first ih within chunk positive aligned
  | next _ positive ih => exact .next ih positive

theorem bounds (laid : Laid loose chunks next pieces) :
    ∀ piece ∈ pieces, piece.index < chunks.length ∧
      (piece.index + 1 = chunks.length → piece.finish ≤ next) := by
  induction laid with
  | bare => simp
  | idle laid within chunk lax ih =>
    intro piece member
    obtain ⟨inside, _⟩ := ih piece member
    rw [List.length_cons]
    exact ⟨by omega, fun top => by omega⟩
  | first laid within chunk positive aligned ih =>
    intro piece member
    rw [List.length_cons]
    rcases List.mem_cons.mp member with new | old
    · rw [new]
      exact ⟨Nat.lt_succ_self _, fun _ => Nat.le_refl _⟩
    · obtain ⟨inside, _⟩ := ih piece old
      exact ⟨by omega, fun top => by omega⟩
  | @next chunk chunks place pieces laid size align positive ih =>
    intro piece member
    rcases List.mem_cons.mp member with new | old
    · rw [new]
      exact ⟨Nat.lt_succ_self _, fun _ => Nat.le_refl _⟩
    · obtain ⟨inside, low⟩ := ih piece old
      have above := le_roundUp place align
      exact ⟨inside, fun top => by have := low top; omega⟩

theorem ordered (laid : Laid loose chunks next pieces) : pieces.Pairwise Piece.Behind := by
  induction laid with
  | bare => exact .nil
  | idle _ _ _ _ ih => exact ih
  | first laid _ _ _ _ ih =>
    exact List.pairwise_cons.mpr ⟨fun piece member => Or.inl (laid.bounds piece member).1, ih⟩
  | @next chunk chunks place pieces laid size align positive ih =>
    refine List.pairwise_cons.mpr ⟨?_, ih⟩
    intro piece member
    obtain ⟨inside, low⟩ := laid.bounds piece member
    rw [List.length_cons] at inside low
    have above := le_roundUp place align
    by_cases top : piece.index = chunks.length
    · have under := low (by omega)
      exact Or.inr ⟨top, by simp only; omega⟩
    · exact Or.inl (by simp only; omega)

end Laid

/-- How the pieces of a chunk cover it, in the order in which they were made. -/
structure Chunk.Tiled (chunk : Chunk) (pieces : List Piece) (finish : Nat) : Prop where
  tiles : Tiles chunk.start pieces finish
  inside : finish ≤ chunk.finish
  /-- A piece that the chunk was appended for is the first one and starts where the chunk does. -/
  opening : ∀ piece ∈ pieces, piece.opens = true →
    pieces.head? = some piece ∧ piece.start = chunk.start

namespace Chunk.Tiled

theorem bare (chunk : Chunk) : chunk.Tiled [] chunk.start :=
  ⟨rfl, Nat.le_add_right _ _, by simp⟩

theorem first {chunk : Chunk} {size align : Nat} (positive : 0 < align)
    (aligned : align ∣ chunk.start) (room : chunk.start + size ≤ chunk.finish) (index : Nat) :
    chunk.Tiled [⟨index, chunk.start, size, align, true⟩] (chunk.start + size) := by
  refine ⟨⟨positive, (roundUp_of_dvd aligned).symm, rfl⟩, room, ?_⟩
  intro piece member _
  rw [List.mem_singleton.mp member]
  exact ⟨rfl, rfl⟩

theorem snoc {chunk : Chunk} {pieces : List Piece} {middle : Nat}
    (tiled : chunk.Tiled pieces middle)
    {size align : Nat} (positive : 0 < align) (room : roundUp middle align + size ≤ chunk.finish)
    (index : Nat) :
    chunk.Tiled (pieces ++ [⟨index, roundUp middle align, size, align, false⟩])
      (roundUp middle align + size) := by
  refine ⟨tiled.tiles.snoc positive rfl, room, ?_⟩
  intro piece member opens
  rcases List.mem_append.mp member with old | new
  · obtain ⟨head, start⟩ := tiled.opening piece old opens
    exact ⟨by rw [List.head?_append, head]; rfl, start⟩
  · rw [List.mem_singleton.mp new] at opens
    cases opens

end Chunk.Tiled

theorem piecesIn_cons_of_ne {piece : Piece} {index : Nat} (other : piece.index ≠ index)
    (pieces : List Piece) : piecesIn index (piece :: pieces) = piecesIn index pieces := by
  simp [piecesIn, other]

theorem piecesIn_cons_self (piece : Piece) (pieces : List Piece) :
    piecesIn piece.index (piece :: pieces) = piecesIn piece.index pieces ++ [piece] := by
  simp [piecesIn]

theorem Laid.piecesIn_top {loose : Chunk → Prop} {chunks : List Chunk} {next : Nat}
    {pieces : List Piece}
    (laid : Laid loose chunks next pieces) : piecesIn chunks.length pieces = [] := by
  rw [piecesIn, List.reverse_eq_nil_iff, List.filter_eq_nil_iff]
  intro piece member
  have inside := (laid.bounds piece member).1
  simp only [decide_eq_true_eq]
  omega

/-- In every chunk the pieces lie one behind the other, in the newest one up to the cursor. A chunk
without a piece of its own is a loose one. -/
theorem Laid.tiled {loose : Chunk → Prop} {chunks : List Chunk} {next : Nat} {pieces : List Piece}
    (laid : Laid loose chunks next pieces) (within : ∀ top ∈ chunks.head?, next ≤ top.finish)
    {index : Nat} {chunk : Chunk} (found : chunks.reverse[index]? = some chunk) :
    ∃ finish, chunk.Tiled (piecesIn index pieces) finish ∧
      (index + 1 = chunks.length → finish = next) ∧
      (loose chunk ∨ ∃ first ∈ (piecesIn index pieces).head?, first.opens = true) := by
  induction laid generalizing index chunk with
  | bare => simp at found
  | @idle chunks place pieces laid bounded top lax ih =>
    -- The chunk is the new one, without a piece, or one below it, where nothing changes.
    have low := lt_of_reverse_getElem? found
    rw [List.length_cons] at low
    by_cases here : index = chunks.length
    · subst here
      rw [reverse_getElem?_top] at found
      cases found
      rw [laid.piecesIn_top]
      exact ⟨top.start, .bare top, fun _ => rfl, Or.inl lax⟩
    · rw [reverse_getElem?_below (by omega)] at found
      obtain ⟨finish, tiled, _, lead⟩ := ih bounded found
      exact ⟨finish, tiled, fun last => by simp only [List.length_cons] at last; omega, lead⟩
  | @first chunks place pieces laid bounded top size align positive aligned ih =>
    have low := lt_of_reverse_getElem? found
    rw [List.length_cons] at low
    by_cases here : index = chunks.length
    · subst here
      rw [reverse_getElem?_top] at found
      cases found
      have alone := piecesIn_cons_self ⟨chunks.length, top.start, size, align, true⟩ pieces
      simp only [laid.piecesIn_top, List.nil_append] at alone
      rw [alone]
      exact ⟨_, .first positive aligned (within top rfl) _, fun _ => rfl, Or.inr ⟨_, rfl, rfl⟩⟩
    · rw [reverse_getElem?_below (by omega)] at found
      obtain ⟨finish, tiled, _, lead⟩ := ih bounded found
      rw [piecesIn_cons_of_ne (by simp only; omega)]
      exact ⟨finish, tiled, fun last => by simp only [List.length_cons] at last; omega, lead⟩
  | @next top chunks place pieces laid size align positive ih =>
    have above := le_roundUp place align
    have bounded : ∀ chunk ∈ (top :: chunks).head?, place ≤ chunk.finish := by
      intro chunk newest
      have high := within chunk newest
      omega
    obtain ⟨finish, tiled, last, lead⟩ := ih bounded found
    by_cases here : chunks.length = index
    · subst here
      rw [reverse_getElem?_top] at found
      cases found
      cases last rfl
      have behind :=
        piecesIn_cons_self ⟨chunks.length, roundUp place align, size, align, false⟩ pieces
      simp only at behind
      rw [behind]
      refine ⟨_, tiled.snoc positive (within top rfl) _, fun _ => rfl, lead.imp_right ?_⟩
      rintro ⟨first, head, opens⟩
      exact ⟨first, by rw [List.head?_append, head]; rfl, opens⟩
    · rw [piecesIn_cons_of_ne here]
      exact ⟨finish, tiled, fun top => by simp only [List.length_cons] at top; omega, lead⟩

namespace Arena

variable {arena : Arena}

theorem Consistent.within (consistent : arena.Consistent) :
    ∀ top ∈ arena.chunks.head?, arena.cursor.next ≤ top.finish := by
  intro top newest
  have bound := consistent.limit_bound
  have limit := consistent.limit_eq
  rw [Option.mem_def.mp newest] at limit
  have limit : arena.cursor.limit = top.finish := limit
  omega

end Arena

/-- What the pieces of an arena show. -/
structure Seamless (loose : Chunk → Prop) (arena : Arena) (pieces : List Piece) : Prop where
  /-- No byte of a chunk is left out but the paddings, in the newest chunk up to the cursor. -/
  tiled : ∀ index chunk, arena.chunkAt? index = some chunk → ∃ finish,
    chunk.Tiled (piecesIn index pieces) finish ∧
      (index + 1 = arena.chunkCount → finish = arena.cursor.next)
  /-- Every chunk but the loose ones begins with a piece. -/
  opened : ∀ index chunk, arena.chunkAt? index = some chunk → ¬ loose chunk →
    ∃ first, (piecesIn index pieces).head? = some first ∧ first.start = chunk.start
  inside : ∀ piece ∈ pieces, piece.index < arena.chunkCount
  remaining : ∀ chunk rest, arena.chunks = chunk :: rest →
    arena.remaining + ((piecesIn rest.length pieces).map Piece.size).sum +
      (paddings chunk.start (piecesIn rest.length pieces)).sum = chunk.capacity
  narrow : ∀ index chunk, arena.chunkAt? index = some chunk →
    List.Forall₂ (fun padding piece => padding < piece.align)
      (paddings chunk.start (piecesIn index pieces)) (piecesIn index pieces)
  ordered : pieces.Pairwise Piece.Behind

theorem Laid.seamless {loose : Chunk → Prop} {arena : Arena} {pieces : List Piece}
    (laid : Laid loose arena.chunks arena.cursor.next pieces) (consistent : arena.Consistent) :
    Seamless loose arena pieces where
  tiled index chunk found := by
    obtain ⟨finish, tiled, last, _⟩ := laid.tiled consistent.within found
    exact ⟨finish, tiled, last⟩
  opened index chunk found tight := by
    obtain ⟨finish, tiled, _, lead⟩ := laid.tiled consistent.within found
    obtain ⟨first, head, opens⟩ := lead.resolve_left tight
    exact ⟨first, head, (tiled.opening first (List.mem_of_mem_head? head) opens).2⟩
  inside piece member := (laid.bounds piece member).1
  remaining chunk rest stack := by
    have found : arena.chunks.reverse[rest.length]? = some chunk := by
      rw [stack]
      exact reverse_getElem?_top chunk rest
    obtain ⟨finish, tiled, last, _⟩ := laid.tiled consistent.within found
    have reached : finish = arena.cursor.next := last (by rw [stack, List.length_cons])
    have whole := tiled.tiles.finish_eq
    have limit := consistent.limit_eq
    have bound := consistent.limit_bound
    rw [stack, List.head?_cons, Option.elim_some, Chunk.finish] at limit
    rw [Arena.remaining, Cursor.remaining]
    omega
  narrow index chunk found := by
    obtain ⟨finish, tiled, _, _⟩ := laid.tiled consistent.within found
    exact tiled.tiles.paddings_lt
  ordered := laid.ordered

section Cuts

variable {loose : Chunk → Prop} {arena after : Arena} {pieces : List Piece}
  (laid : Laid loose arena.chunks arena.cursor.next pieces) (consistent : arena.Consistent)
  {loud : Prop} {size align : Nat}

include laid consistent

theorem Laid.cut_error {failure : Failure}
    (cuts : arena.Cuts loud size align (.error failure) after)
    (lax : loud → arena.chunks.length < after.chunks.length →
      ∀ chunk, after.chunks.head? = some chunk → loose chunk) :
    Laid loose after.chunks after.cursor.next pieces := by
  cases cuts with
  | refused => exact laid
  | stopped _ chunk panics =>
    exact .idle laid consistent.within chunk (lax panics (Nat.lt_succ_self _) chunk rfl)

theorem Laid.cut_ok {start : Nat} (cuts : arena.Cuts loud size align (.ok start) after) :
    Laid loose after.chunks after.cursor.next
      (⟨after.chunks.length - 1, start, size, align,
        arena.chunks.length < after.chunks.length⟩ :: pieces) := by
  cases cuts with
  | behind some_chunk positive =>
    obtain ⟨chunk, rest, stack⟩ := List.exists_cons_of_ne_nil some_chunk
    simp only [Arena.movedTo, stack, List.length_cons, Nat.add_sub_cancel, Nat.lt_irrefl,
      decide_false]
    rw [stack] at laid
    exact .next laid positive
  | afresh chunk positive aligned =>
    simp only [Arena.movedTo, Arena.extended, List.length_cons, Nat.add_sub_cancel,
      Nat.lt_succ_self, decide_true]
    exact .first laid consistent.within chunk positive aligned

end Cuts

theorem Arena.Cuts.length_le {arena after : Arena} {loud : Prop} {size align : Nat}
    {result : Except Failure Nat} (cuts : arena.Cuts loud size align result after) :
    arena.chunks.length ≤ after.chunks.length := by
  cases cuts with
  | refused | behind => exact Nat.le_refl _
  | stopped _ chunk | afresh chunk => exact Nat.le_succ _

namespace World

/-- The chunk that was appended between two worlds without a report about it, if there is one. -/
def unreported (before after : World) (owner : Nat) : List Chunk :=
  if before.logs.complaint .debug ≠ none ∧
      (before.chunks owner).length < (after.chunks owner).length then
    (after.chunks owner).head?.toList
  else []

/-- Whether pieces are all that an arena has handed out. -/
def Laid (world : World) (owner : Nat) (loose : Chunk → Prop) (pieces : List Piece) : Prop :=
  ∀ arena, world.arena? owner = some arena →
    ChunkArena.Laid loose arena.chunks arena.cursor.next pieces

variable {world : World} {owner : Nat} {loose : Chunk → Prop} {pieces : List Piece}

theorem mem_unreported {after : World} {chunk : Chunk} :
    chunk ∈ world.unreported after owner ↔ world.logs.complaint .debug ≠ none ∧
      (world.chunks owner).length < (after.chunks owner).length ∧
        (after.chunks owner).head? = some chunk := by
  unfold unreported
  split
  · next both => simp [both]
  · next neither =>
    simp only [List.not_mem_nil, false_iff]
    exact fun all => neither ⟨all.1, all.2.1⟩

theorem unreported_of_later {middle after : World}
    (complaint : middle.logs.complaint = world.logs.complaint)
    (more : (world.chunks owner).length ≤ (middle.chunks owner).length) :
    ∀ chunk ∈ middle.unreported after owner, chunk ∈ world.unreported after owner := by
  intro chunk member
  obtain ⟨loud, longer, newest⟩ := mem_unreported.mp member
  rw [complaint] at loud
  exact mem_unreported.mpr ⟨loud, Nat.lt_of_le_of_lt more longer, newest⟩

theorem Laid.congr (laid : world.Laid owner loose pieces) {after : World}
    (still : ∀ arena, after.arena? owner = some arena → ∃ before,
      world.arena? owner = some before ∧ arena.chunks = before.chunks ∧
        arena.cursor = before.cursor) : after.Laid owner loose pieces := by
  intro arena present
  obtain ⟨before, found, chunks, cursor⟩ := still arena present
  rw [chunks, cursor]
  exact laid before found

section Questions

variable {ask : Ask} {result : Except Failure Nat} {after : World}

theorem ask_cuts (soundIf : world.SoundIfProvided)
    (made : world.onArena owner ask.call = (result, after))
    (provided : Provided after.traffic) {arena : Arena} (found : world.arena? owner = some arena) :
    arena.Consistent ∧ ∃ next, after.arena? owner = some next ∧
      arena.Cuts (world.logs.complaint .debug ≠ none) ask.size ask.align result next := by
  have suffix := world.onArena_suffix owner ask.call
  obtain ⟨skew, same⟩ := onArena_some found ask.call
  rw [made] at suffix
  have before := provided_of_suffix provided suffix
  have backed := soundIf before owner arena found
  cases made.symm.trans same
  have placed (chunk : Chunk)
      (came : .obtain chunk ∈ (ask.call arena (world.env skew)).effects) :
      chunk.layout.align ∣ chunk.start ∧ chunk.finish < wordLimit := by
    obtain ⟨aligned, _, high⟩ := placed_of_obtain provided came
    exact ⟨aligned, high⟩
  exact ⟨backed.consistent, _, world.arena?_after_self owner found _ _,
    ask.cuts backed.consistent (backed.limit_lt before) placed⟩

theorem ask_length_le (soundIf : world.SoundIfProvided)
    (made : world.onArena owner ask.call = (result, after)) (provided : Provided after.traffic) :
    (world.chunks owner).length ≤ (after.chunks owner).length := by
  cases found : world.arena? owner with
  | none =>
    rw [chunks_of_none found]
    exact Nat.zero_le _
  | some arena =>
    obtain ⟨_, next, present, cuts⟩ := ask_cuts soundIf made provided found
    rw [chunks_of_some found, chunks_of_some present]
    exact cuts.length_le

theorem Laid.ask_error (laid : world.Laid owner loose pieces) (soundIf : world.SoundIfProvided)
    {failure : Failure} (made : world.onArena owner ask.call = (.error failure, after))
    (provided : Provided after.traffic)
    (lax : ∀ chunk ∈ world.unreported after owner, loose chunk) :
    after.Laid owner loose pieces := by
  intro next home
  cases found : world.arena? owner with
  | none =>
    obtain ⟨cause, same⟩ := onArena_none found ask.call
    cases made.symm.trans same
    exact laid next home
  | some arena =>
    obtain ⟨consistent, _, present, cuts⟩ := ask_cuts soundIf made provided found
    cases present.symm.trans home
    refine (laid arena found).cut_error consistent cuts ?_
    intro loud longer chunk newest
    rw [← chunks_of_some found, ← chunks_of_some home] at longer
    rw [← chunks_of_some home] at newest
    exact lax chunk (mem_unreported.mpr ⟨loud, longer, newest⟩)

theorem Laid.ask_ok (laid : world.Laid owner loose pieces)
    (soundIf : world.SoundIfProvided) {start : Nat}
    (made : world.onArena owner ask.call = (.ok start, after)) (provided : Provided after.traffic) :
    after.Laid owner loose (ask.piece world after owner start :: pieces) := by
  intro next home
  cases found : world.arena? owner with
  | none =>
    obtain ⟨cause, same⟩ := onArena_none found ask.call
    cases made.symm.trans same
  | some arena =>
    obtain ⟨consistent, _, present, cuts⟩ := ask_cuts soundIf made provided found
    cases present.symm.trans home
    rw [Ask.piece, chunks_of_some home, chunks_of_some found]
    exact (laid arena found).cut_ok consistent cuts

end Questions

theorem carve_suffix (world : World) (owner : Nat) (asks : List Ask) :
    world.traffic <:+ (world.carve owner asks).2.traffic := by
  induction asks generalizing world with
  | nil => exact List.suffix_refl _
  | cons ask rest ih =>
    have first := world.onArena_suffix owner ask.call
    simp only [carve]
    generalize world.onArena owner ask.call = answer at first
    obtain ⟨reply, after⟩ := answer
    cases reply with
    | error failure => exact first
    | ok start => exact first.trans (ih after)

theorem Laid.carve (laid : world.Laid owner loose pieces) (soundIf : world.SoundIfProvided)
    {asks : List Ask} (provided : Provided (world.carve owner asks).2.traffic)
    (lax : ∀ chunk ∈ world.unreported (world.carve owner asks).2 owner, loose chunk) :
    (world.carve owner asks).2.Laid owner loose ((world.carve owner asks).1 ++ pieces) := by
  induction asks generalizing world pieces with
  | nil => exact laid
  | cons ask rest ih =>
    have next := soundIf.onArena owner fun arena consistent _ env =>
      (ask.asks.answers consistent env).changes
    have complaint : (world.onArena owner ask.call).2.logs.complaint = world.logs.complaint :=
      world.onArena_complaint ask.call
    generalize made : world.onArena owner ask.call = answer at next complaint
    obtain ⟨reply, after⟩ := answer
    cases reply with
    | error failure =>
      simp only [World.carve, made] at provided lax ⊢
      exact laid.ask_error soundIf made provided lax
    | ok start =>
      simp only [World.carve, made] at provided lax ⊢
      have between := provided_of_suffix provided (carve_suffix after owner rest)
      -- What is unreported from here on is so from the beginning on, since chunks only get more.
      have more := ask_length_le soundIf made between
      rw [List.append_assoc]
      exact ih (laid.ask_ok soundIf made between) next provided fun chunk member =>
        lax chunk (unreported_of_later complaint more chunk member)

end World

end ChunkArena
