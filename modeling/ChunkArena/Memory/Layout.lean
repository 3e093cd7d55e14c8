import ChunkArena.Word

/-!
The size and alignment of a block of memory. A layout is valid when its alignment is a power of two
and its size, rounded up to the alignment, is no larger than the largest block.
-/

namespace ChunkArena

structure Layout where
  size : Nat
  align : Nat
  deriving DecidableEq

namespace Layout

def Valid (layout : Layout) : Prop :=
  (∃ k, layout.align = Nat.pow 2 k) ∧ roundUp layout.size layout.align ≤ blockLimit

def ofSizeAlign? (size align : Nat) : Option Layout :=
  if isPowerOfTwo align ∧ roundUp size align ≤ blockLimit then some ⟨size, align⟩ else none

def array? (element : Layout) (count : Nat) : Option Layout :=
  ofSizeAlign? (element.size * count) element.align

theorem valid_iff (layout : Layout) :
    layout.Valid ↔ isPowerOfTwo layout.align = true ∧
      roundUp layout.size layout.align ≤ blockLimit := by
  rw [isPowerOfTwo_iff]
  exact Iff.rfl

theorem ofSizeAlign?_eq_some_iff {size align : Nat} {layout : Layout} :
    ofSizeAlign? size align = some layout ↔ layout = ⟨size, align⟩ ∧ layout.Valid := by
  constructor
  · intro h
    unfold ofSizeAlign? at h
    split at h
    · cases h
      exact ⟨rfl, (valid_iff _).mpr (by assumption)⟩
    · cases h
  · rintro ⟨rfl, valid⟩
    exact if_pos ((valid_iff _).mp valid)

end Layout

end ChunkArena
