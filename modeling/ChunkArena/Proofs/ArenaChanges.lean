import ChunkArena.Proofs.ChunkStack
import ChunkArena.Arena.Allocate
import ChunkArena.Arena.Disable

/-!
What the operations of one arena can do. A consistent arena has a linked stack and a cursor inside
its newest chunk. Every operation on a consistent arena is a short sequence of changes out of a
small set, and every change keeps the arena consistent. Nothing is assumed here about the
environment: blocks may be anywhere and reports may fail.
-/

namespace ChunkArena

def Cursor.Seated (cursor : Cursor) : List Chunk → Prop
  | [] => cursor = .empty
  | chunk :: rest => cursor.chunk = some ⟨rest.length, chunk.serial⟩ ∧ cursor.limit = chunk.finish ∧
      chunk.start ≤ cursor.next ∧ cursor.next ≤ chunk.finish

namespace Arena

structure Consistent (arena : Arena) : Prop where
  linked : Linked arena.chunks
  seated : arena.cursor.Seated arena.chunks
  nonempty : ∀ chunk ∈ arena.chunks, 0 < chunk.capacity

def movedTo (arena : Arena) (next : Nat) : Arena :=
  { arena with cursor := { arena.cursor with next := next } }

def extended (arena : Arena) (chunk : Chunk) : Arena :=
  { arena with
    chunks := chunk :: arena.chunks
    cursor := ⟨some ⟨arena.chunks.length, chunk.serial⟩, chunk.start, chunk.finish⟩
    nextSerial := (arena.nextSerial + 1) % wordLimit }

def above (arena : Arena) (height : Nat) : List Chunk :=
  arena.chunks.take (arena.chunks.length - height)

def fallenBack (arena : Arena) (saved : Cursor) (height : Nat) : Arena :=
  { arena with chunks := arena.chunks.drop (arena.chunks.length - height), cursor := saved }

def emptied (arena : Arena) (generation : Nat) : Arena :=
  { arena with chunks := [], cursor := .empty, generation := generation }

/-- The mark on the bytes that a snapshot's chunk handed out since. -/
def clearing (arena : Arena) (profile : Profile) (saved : Cursor) (handle : Handle) :
    List Effect :=
  let used := if arena.cursor.chunk = some handle then arena.cursor.next else saved.limit
  if saved.next < used then profile.discard saved.next (used - saved.next) else []

theorem mem_clearing {arena : Arena} {profile : Profile} {saved : Cursor} {handle : Handle}
    {effect : Effect} (member : effect ∈ arena.clearing profile saved handle) :
    ∃ used, effect ∈ profile.discard saved.next (used - saved.next) ∧
      (used = saved.limit ∨ arena.cursor.chunk = some handle ∧ used = arena.cursor.next) := by
  simp only [clearing] at member
  by_cases top : arena.cursor.chunk = some handle
  · rw [if_pos top] at member
    refine ⟨arena.cursor.next, ?_, Or.inr ⟨top, rfl⟩⟩
    split at member
    · exact member
    · cases member
  · rw [if_neg top] at member
    refine ⟨saved.limit, ?_, Or.inl rfl⟩
    split at member
    · exact member
    · cases member

inductive Change (profile : Profile) : Arena → List Effect → Arena → Prop where
  | report (arena : Arena) (label : String) (entry : Report) :
      Change profile arena [.report label entry] arena
  | hold (arena : Arena) (count : Nat) :
      Change profile arena [] { arena with disabled := count }
  | mark (arena : Arena) (start count : Nat) :
      Change profile arena (profile.discard start count) arena
  | bounce (arena : Arena) (chunk : Chunk) (nonempty : 0 < chunk.capacity)
      (strict : profile.checks = true) (full : wordLimit ≤ arena.nextSerial + 1) :
      Change profile arena [.obtain chunk, .giveBack chunk] arena
  | extend (arena : Arena) (chunk : Chunk) (link : chunk.previous = arena.cursor.chunk)
      (serial : chunk.serial = arena.nextSerial) (nonempty : 0 < chunk.capacity)
      (counted : profile.checks = true → arena.nextSerial + 1 < wordLimit) :
      Change profile arena [.obtain chunk] (arena.extended chunk)
  | advance (arena : Arena) (start size : Nat) (some_chunk : arena.chunks ≠ [])
      (low : arena.cursor.next ≤ start) (high : start + size ≤ arena.cursor.limit) :
      Change profile arena (profile.handOut start size) (arena.movedTo (start + size))
  | fallBack (arena : Arena) (saved : Cursor) (handle : Handle) (chunk : Chunk)
      (names : saved.chunk = some handle) (live : arena.liveChunk? handle = some chunk)
      (limit : saved.limit = chunk.finish) (low : chunk.start ≤ saved.next)
      (high : saved.next ≤ saved.limit) :
      Change profile arena
        (arena.clearing profile saved handle ++
          (arena.above (handle.index + 1)).flatMap profile.surrender)
        (arena.fallenBack saved (handle.index + 1))
  | empty (arena : Arena) (generation : Nat) :
      Change profile arena (arena.chunks.flatMap profile.surrender) (arena.emptied generation)

inductive Changes (profile : Profile) : Arena → List Effect → Arena → Prop where
  | refl (arena : Arena) : Changes profile arena [] arena
  | step {first next last : Arena} {effects more : List Effect}
      (head : Change profile first effects next) (tail : Changes profile next more last) :
      Changes profile first (effects ++ more) last

theorem Change.single {profile : Profile} {arena after : Arena} {effects : List Effect}
    (change : Change profile arena effects after) : Changes profile arena effects after := by
  have alone := Changes.step change (.refl after)
  rwa [List.append_nil] at alone

theorem Changes.trans {profile : Profile} {first next last : Arena} {effects more : List Effect}
    (head : Changes profile first effects next) (tail : Changes profile next more last) :
    Changes profile first (effects ++ more) last := by
  induction head with
  | refl => exact tail
  | step change _ ih =>
    rw [List.append_assoc]
    exact .step change (ih tail)

theorem Consistent.chunk_eq {arena : Arena} (consistent : arena.Consistent) :
    arena.cursor.chunk = topHandle arena.chunks := by
  have seated := consistent.seated
  cases stack : arena.chunks with
  | nil =>
    rw [stack] at seated
    rw [seated]
    rfl
  | cons chunk rest =>
    rw [stack] at seated
    exact seated.1

theorem Consistent.limit_bound {arena : Arena} (consistent : arena.Consistent) :
    arena.cursor.next ≤ arena.cursor.limit := by
  have seated := consistent.seated
  cases stack : arena.chunks with
  | nil =>
    rw [stack] at seated
    rw [seated]
    exact Nat.le_refl 0
  | cons chunk rest =>
    rw [stack] at seated
    obtain ⟨_, limit, _, high⟩ := seated
    rw [limit]
    exact high

theorem liveChunk?_eq_some {arena : Arena} {handle : Handle} {chunk : Chunk}
    (live : arena.liveChunk? handle = some chunk) :
    arena.chunks.reverse[handle.index]? = some chunk ∧ chunk.serial = handle.serial ∧
      handle.index < arena.chunks.length := by
  obtain ⟨found, same⟩ := Option.filter_eq_some_iff.mp live
  exact ⟨found, by simpa using same, lt_of_reverse_getElem? found⟩

theorem drop_eq_cons_of_live {arena : Arena} {handle : Handle} {chunk : Chunk}
    (live : arena.liveChunk? handle = some chunk) :
    arena.chunks.drop (arena.chunks.length - (handle.index + 1)) =
      chunk :: arena.chunks.drop (arena.chunks.length - handle.index) :=
  reverse_drop_cons (liveChunk?_eq_some live).1

theorem Change.consistent {profile : Profile} {arena after : Arena} {effects : List Effect}
    (change : Change profile arena effects after) (consistent : arena.Consistent) :
    after.Consistent := by
  cases change with
  | report | mark | bounce => exact consistent
  | hold => exact ⟨consistent.linked, consistent.seated, consistent.nonempty⟩
  | extend chunk link _ nonempty _ =>
    refine ⟨⟨link.trans consistent.chunk_eq, consistent.linked⟩, ?_, ?_⟩
    · exact ⟨rfl, rfl, Nat.le_refl _, Nat.le_add_right _ _⟩
    · intro c member
      rcases List.mem_cons.mp member with same | older
      · rw [same]
        exact nonempty
      · exact consistent.nonempty c older
  | advance start size some_chunk low high =>
    refine ⟨consistent.linked, ?_, consistent.nonempty⟩
    have seated := consistent.seated
    cases stack : arena.chunks with
    | nil => exact absurd stack some_chunk
    | cons chunk rest =>
      rw [stack] at seated
      obtain ⟨names, limit, bottom, _⟩ := seated
      simp only [movedTo, stack]
      exact ⟨names, limit, by simp only; omega, by simp only; omega⟩
  | fallBack saved handle chunk names live limit low high =>
    obtain ⟨_, serial, inside⟩ := liveChunk?_eq_some live
    refine ⟨linked_drop consistent.linked _, ?_, ?_⟩
    · simp only [fallenBack, drop_eq_cons_of_live live]
      refine ⟨?_, limit, low, by rw [← limit]; exact high⟩
      have height : arena.chunks.length - (arena.chunks.length - handle.index) = handle.index := by
        omega
      rw [names, List.length_drop, height, serial]
    · intro c member
      exact consistent.nonempty c (List.mem_of_mem_drop member)
  | empty => exact ⟨trivial, rfl, by simp [emptied]⟩

theorem Changes.consistent {profile : Profile} {arena after : Arena} {effects : List Effect}
    (changes : Changes profile arena effects after) (consistent : arena.Consistent) :
    after.Consistent := by
  induction changes with
  | refl => exact consistent
  | step change _ ih => exact ih (change.consistent consistent)

end Arena

end ChunkArena
