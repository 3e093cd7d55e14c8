/-!
White space: the characters with the Unicode property `White_Space`, and the removal of a run of
them from both ends of a text.
-/

namespace ChunkArena

/-- The characters of the property `White_Space`. -/
def isBlank (c : Char) : Bool :=
  let n := c.toNat
  (9 ≤ n && n ≤ 13) || n == 0x20 || n == 0x85 || n == 0xA0 || n == 0x1680 ||
    (0x2000 ≤ n && n ≤ 0x200A) || n == 0x2028 || n == 0x2029 || n == 0x202F || n == 0x205F ||
    n == 0x3000

def trimBlank (text : List Char) : List Char :=
  ((text.dropWhile isBlank).reverse.dropWhile isBlank).reverse

theorem isBlank_of_isWhitespace {c : Char} (h : c.isWhitespace = true) : isBlank c = true := by
  simp only [Char.isWhitespace, Bool.or_eq_true, decide_eq_true_eq] at h
  rcases h with ((rfl | rfl) | rfl) | rfl <;> decide

theorem exists_trimBlank (text : List Char) :
    ∃ front back, text = front ++ trimBlank text ++ back ∧
      front.all isBlank = true ∧ back.all isBlank = true := by
  refine ⟨text.takeWhile isBlank,
    ((text.dropWhile isBlank).reverse.takeWhile isBlank).reverse, ?_, ?_, ?_⟩
  · rw [trimBlank, List.append_assoc, ← List.reverse_append, List.takeWhile_append_dropWhile,
      List.reverse_reverse, List.takeWhile_append_dropWhile]
  · exact List.all_takeWhile
  · rw [List.all_reverse]
    exact List.all_takeWhile

theorem dropWhile_isBlank_of_solid {text : List Char} (solid : ∀ c ∈ text, isBlank c = false) :
    text.dropWhile isBlank = text := by
  cases text with
  | nil => rfl
  | cons c rest =>
    rw [List.dropWhile_cons_of_neg]
    simp [solid c List.mem_cons_self]

/-- White space around a text without white space is cut off, and the text stays whole. -/
theorem trimBlank_surrounded {front text back : List Char} (before : ∀ c ∈ front, isBlank c = true)
    (solid : ∀ c ∈ text, isBlank c = false) (after : ∀ c ∈ back, isBlank c = true) :
    trimBlank (front ++ text ++ back) = text := by
  rw [trimBlank, List.append_assoc, List.dropWhile_append_of_pos before]
  cases text with
  | nil =>
    have exhausted : (back ++ []).dropWhile isBlank = [] := List.dropWhile_append_of_pos after
    rw [List.nil_append, ← List.append_nil back, exhausted]
    rfl
  | cons c rest =>
    have edge : ¬ isBlank c = true := by simp [solid c List.mem_cons_self]
    rw [List.cons_append, List.dropWhile_cons_of_neg edge, ← List.cons_append,
      List.reverse_append, List.dropWhile_append_of_pos, dropWhile_isBlank_of_solid,
      List.reverse_reverse]
    · intro d member
      exact solid d (List.mem_reverse.mp member)
    · intro d member
      exact after d (List.mem_reverse.mp member)

end ChunkArena
