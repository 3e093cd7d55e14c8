/-!
Words and alignment.

Addresses, sizes and counters are natural numbers throughout the library. The machine's words have
64 bits; the two limits below are the only place where that shows. Nothing here assumes that an
alignment is a power of two: callers check it with `isPowerOfTwo` first.
-/

namespace ChunkArena

def wordLimit : Nat := Nat.pow 2 64

/-- The largest number of bytes in one block of memory. -/
def blockLimit : Nat := Nat.pow 2 63 - 1

def isPowerOfTwo (n : Nat) : Bool := Nat.pow 2 n.log2 == n

def padding (n align : Nat) : Nat := (align - n % align) % align

def roundUp (n align : Nat) : Nat := n + padding n align

theorem isPowerOfTwo_iff (n : Nat) : isPowerOfTwo n = true ↔ ∃ k, n = Nat.pow 2 k := by
  simp only [isPowerOfTwo, beq_iff_eq]
  constructor
  · exact fun h => ⟨n.log2, h.symm⟩
  · rintro ⟨k, rfl⟩
    simp only [Nat.pow_eq, Nat.log2_two_pow]

theorem padding_lt (n : Nat) {align : Nat} (h : 0 < align) : padding n align < align :=
  Nat.mod_lt _ h

theorem le_roundUp (n align : Nat) : n ≤ roundUp n align := Nat.le_add_right _ _

theorem roundUp_lt (n : Nat) {align : Nat} (h : 0 < align) : roundUp n align < n + align :=
  Nat.add_lt_add_left (padding_lt n h) n

theorem dvd_roundUp (n : Nat) {align : Nat} (h : 0 < align) : align ∣ roundUp n align := by
  have split := Nat.div_add_mod n align
  by_cases zero : n % align = 0
  · have : padding n align = 0 := by simp [padding, zero]
    rw [roundUp, this, Nat.add_zero]
    exact Nat.dvd_of_mod_eq_zero zero
  · have below := Nat.mod_lt n h
    have : padding n align = align - n % align :=
      Nat.mod_eq_of_lt (by omega)
    refine ⟨n / align + 1, ?_⟩
    rw [roundUp, this, Nat.mul_add, Nat.mul_one]
    omega

end ChunkArena
