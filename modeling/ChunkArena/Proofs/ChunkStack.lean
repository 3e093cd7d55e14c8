import ChunkArena.Arena.Release

/-!
Stacks of chunks. A stack is linked when every chunk names the one below it. Both ways of giving
chunks back, along the links and down to a given height, run through a linked stack without meeting
an internal check, as long as the stack as a whole has fewer bytes than there are addresses.
-/

namespace ChunkArena

def topHandle : List Chunk → Option Handle
  | [] => none
  | chunk :: rest => some ⟨rest.length, chunk.serial⟩

theorem topHandle_cons (chunk : Chunk) (rest : List Chunk) :
    topHandle (chunk :: rest) = some ⟨rest.length, chunk.serial⟩ := rfl

def Linked : List Chunk → Prop
  | [] => True
  | chunk :: rest => chunk.previous = topHandle rest ∧ Linked rest

def totalCapacity : List Chunk → Nat
  | [] => 0
  | chunk :: rest => chunk.capacity + totalCapacity rest

theorem linked_drop {chunks : List Chunk} (linked : Linked chunks) (n : Nat) :
    Linked (chunks.drop n) := by
  induction n generalizing chunks with
  | zero => exact linked
  | succ n ih =>
    cases chunks with
    | nil => exact linked
    | cons chunk rest => exact ih linked.2

theorem length_le_totalCapacity {chunks : List Chunk}
    (nonempty : ∀ chunk ∈ chunks, 0 < chunk.capacity) : chunks.length ≤ totalCapacity chunks := by
  induction chunks with
  | nil => exact Nat.le_refl 0
  | cons chunk rest ih =>
    have here := nonempty chunk (by simp)
    have below := ih fun c member => nonempty c (by simp [member])
    simp only [List.length_cons, totalCapacity]
    omega

/-- Following the links visits the whole stack, newest chunk first. -/
theorem sweepLinks_linked (profile : Profile) {chunks : List Chunk} (linked : Linked chunks)
    (count bytes : Nat) (few : count + chunks.length < wordLimit)
    (small : bytes + totalCapacity chunks < wordLimit) :
    sweepLinks profile chunks (topHandle chunks) count bytes =
      ⟨.ok (count + chunks.length, bytes + totalCapacity chunks), [],
        chunks.flatMap profile.surrender⟩ := by
  induction chunks generalizing count bytes with
  | nil => rfl
  | cons chunk rest ih =>
    obtain ⟨link, linked⟩ := linked
    simp only [List.length_cons, totalCapacity] at few small
    have counted : profile.add count 1 = .ok (count + 1) := profile.add_ok (by omega)
    have added : profile.add bytes chunk.capacity = .ok (bytes + chunk.capacity) :=
      profile.add_ok (by omega)
    have below := ih linked (count + 1) (bytes + chunk.capacity) (by omega) (by omega)
    simp only [topHandle_cons, sweepLinks, ne_eq, not_true_eq_false, and_false, ↓reduceIte, counted,
      added, link, below, Sweep.after, List.length_cons, totalCapacity, List.flatMap_cons]
    rw [Nat.add_right_comm count 1, Nat.add_assoc count, Nat.add_assoc bytes]

theorem sweepAbove_linked (profile : Profile) {keep : Nat} (positive : 0 < keep)
    {chunks : List Chunk} (linked : Linked chunks) (count : Nat)
    (few : count + chunks.length < wordLimit) :
    sweepAbove profile keep chunks count =
      ⟨.ok (count + (chunks.length - keep)), chunks.drop (chunks.length - keep),
        (chunks.take (chunks.length - keep)).flatMap profile.surrender⟩ := by
  induction chunks generalizing count with
  | nil => simp [sweepAbove]
  | cons chunk rest ih =>
    obtain ⟨link, linked⟩ := linked
    simp only [List.length_cons] at few ⊢
    by_cases low : rest.length + 1 ≤ keep
    · have none_above : rest.length + 1 - keep = 0 := by omega
      simp [sweepAbove, low, none_above]
    · have above : rest.length + 1 - keep = rest.length - keep + 1 := by omega
      have named : chunk.previous.map Handle.index = some (rest.length - 1) := by
        cases rest with
        | nil => simp only [List.length_nil] at low; omega
        | cons next older => simp [link, topHandle]
      have counted : profile.add count 1 = .ok (count + 1) := profile.add_ok (by omega)
      have below := ih linked (count + 1) (by omega)
      simp only [sweepAbove, low, ↓reduceIte, named, ne_eq, not_true_eq_false, and_false, counted,
        below, Sweep.after, above, List.drop_succ_cons, List.take_succ_cons, List.flatMap_cons]
      rw [Nat.add_assoc count, Nat.add_comm 1]

section Positions

variable {α : Type}

theorem reverse_getElem?_below {chunk : α} {rest : List α} {index : Nat}
    (low : index < rest.length) :
    (chunk :: rest).reverse[index]? = rest.reverse[index]? := by
  rw [List.reverse_cons]
  exact List.getElem?_append_left (by simpa using low)

theorem reverse_getElem?_top (chunk : α) (rest : List α) :
    (chunk :: rest).reverse[rest.length]? = some chunk := by
  simp

theorem reverse_getElem?_head (chunks : List α) :
    chunks.reverse[chunks.length - 1]? = chunks.head? := by
  cases chunks with
  | nil => rfl
  | cons chunk rest => exact reverse_getElem?_top chunk rest

theorem lt_of_reverse_getElem? {chunks : List α} {index : Nat} {chunk : α}
    (found : chunks.reverse[index]? = some chunk) : index < chunks.length := by
  have inside := (List.getElem?_eq_some_iff.mp found).1
  simpa using inside

theorem reverse_drop_cons {chunks : List α} {index : Nat} {chunk : α}
    (found : chunks.reverse[index]? = some chunk) :
    chunks.drop (chunks.length - (index + 1)) = chunk :: chunks.drop (chunks.length - index) := by
  have inside := lt_of_reverse_getElem? found
  rw [List.getElem?_reverse inside] at found
  obtain ⟨bound, same⟩ := List.getElem?_eq_some_iff.mp found
  have position : chunks.length - (index + 1) = chunks.length - 1 - index := by omega
  rw [position, List.drop_eq_getElem_cons bound, same]
  congr 2
  omega

theorem reverse_drop_getElem? (chunks : List α) {n index : Nat}
    (low : index + n < chunks.length) :
    (chunks.drop n).reverse[index]? = chunks.reverse[index]? := by
  rw [List.getElem?_reverse (by simp; omega), List.getElem?_reverse (by omega),
    List.getElem?_drop]
  congr 1
  simp only [List.length_drop]
  omega

end Positions

end ChunkArena
