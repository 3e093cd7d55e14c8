/-!
Memory as the history of its writes, the newest first. An address holds the byte that the newest
write to it put there, and zero if there was none. No bound is kept here: which addresses may be
touched is the concern of whoever hands them out.

`read_fill_inside`, `read_fill_outside`, `read_store_inside` and `read_store_outside` say what the
two kinds of writes change, and `load_eq` that loading reads one address after the other.
-/

namespace ChunkArena

inductive Write
  | fill (start count : Nat) (byte : UInt8)
  | store (start : Nat) (block : Array UInt8)
  deriving DecidableEq

namespace Write

def start : Write → Nat
  | fill start _ _ | store start _ => start

def count : Write → Nat
  | fill _ count _ => count
  | store _ block => block.size

def byte? : Write → Nat → Option UInt8
  | fill start count byte, address =>
      if start ≤ address ∧ address < start + count then some byte else none
  | store start block, address => if start ≤ address then block[address - start]? else none

def touches (write : Write) (start count : Nat) : Bool :=
  write.start < start + count && start < write.start + write.count

theorem byte?_eq_none {write : Write} {address : Nat}
    (outside : address < write.start ∨ write.start + write.count ≤ address) :
    write.byte? address = none := by
  cases write with
  | fill start count byte =>
    simp only [Write.start, Write.count] at outside
    exact if_neg (by omega)
  | store start block =>
    simp only [Write.start, Write.count] at outside
    simp only [byte?]
    split
    · exact Array.getElem?_eq_none (by omega)
    · rfl

end Write

def lastByte : List Write → Nat → UInt8
  | [], _ => 0
  | newest :: older, address =>
      match newest.byte? address with
      | some byte => byte
      | none => lastByte older address

/-- The byte at all of the `count` addresses from `start` on, as far as the newest write alone
tells. -/
def uniformByte? : List Write → Nat → Nat → Option UInt8
  | [], _, _ => some 0
  | .fill low size byte :: _, start, count =>
      if low ≤ start ∧ start + count ≤ low + size then some byte else none
  | .store _ _ :: _, _, _ => none

/-- The bytes at `count` addresses from `start` on. Stretches with one byte all over are read at
once; others are halved up to `depth` times, and each half is read without the writes that do not
reach it. -/
def loadHalves (start count : Nat) : Nat → List Write → List UInt8
  | 0, writes => (List.range' start count).map (lastByte writes)
  | depth + 1, writes =>
      match uniformByte? writes start count with
      | some byte => List.replicate count byte
      | none =>
          let half := count / 2
          loadHalves start half depth (writes.filter (·.touches start half)) ++
            loadHalves (start + half) (count - half) depth
              (writes.filter (·.touches (start + half) (count - half)))

theorem lastByte_filter_touches (writes : List Write) {start count address : Nat}
    (low : start ≤ address) (high : address < start + count) :
    lastByte (writes.filter (·.touches start count)) address = lastByte writes address := by
  induction writes with
  | nil => rfl
  | cons newest older ih =>
    rw [List.filter_cons]
    split
    · simp only [lastByte, ih]
    · next apart =>
      have outside : address < newest.start ∨ newest.start + newest.count ≤ address := by
        simp only [Write.touches, Bool.and_eq_true, decide_eq_true_eq] at apart
        omega
      simp only [lastByte, Write.byte?_eq_none outside, ih]

theorem lastByte_of_uniformByte? {writes : List Write} {start count address : Nat} {byte : UInt8}
    (uniform : uniformByte? writes start count = some byte) (low : start ≤ address)
    (high : address < start + count) : lastByte writes address = byte := by
  match writes with
  | [] => simpa [uniformByte?, lastByte] using uniform
  | .store _ _ :: _ => simp [uniformByte?] at uniform
  | .fill first size filled :: older =>
    simp only [uniformByte?] at uniform
    split at uniform
    · next covers =>
      cases uniform
      have inside : first ≤ address ∧ address < first + size := by omega
      simp [lastByte, Write.byte?, inside]
    · cases uniform

theorem loadHalves_eq (start count depth : Nat) (writes : List Write) :
    loadHalves start count depth writes = (List.range' start count).map (lastByte writes) := by
  induction depth generalizing start count writes with
  | zero => rfl
  | succ depth ih =>
    rw [loadHalves]
    split
    · next byte uniform =>
      apply List.ext_getElem
      · simp
      · intro i within _
        have within : i < count := by simpa using within
        have same := lastByte_of_uniformByte? uniform (Nat.le_add_right start i) (by omega)
        simp [same]
    · have whole : List.range' start count =
          List.range' start (count / 2) ++
            List.range' (start + count / 2) (count - count / 2) := by
        rw [List.range'_append_1]
        congr 1
        omega
      have alike (first size : Nat) :
          (List.range' first size).map (lastByte (writes.filter (·.touches first size))) =
            (List.range' first size).map (lastByte writes) := by
        apply List.map_congr_left
        intro address member
        have bounds := List.mem_range'_1.1 member
        exact lastByte_filter_touches writes bounds.1 bounds.2
      simp only [ih, alike, whole, List.map_append]

structure Memory where
  writes : List Write

namespace Memory

def blank : Memory := ⟨[]⟩

def read (memory : Memory) (address : Nat) : UInt8 := lastByte memory.writes address

def fill (memory : Memory) (start count : Nat) (byte : UInt8) : Memory :=
  ⟨.fill start count byte :: memory.writes⟩

def store (memory : Memory) (start : Nat) (bytes : List UInt8) : Memory :=
  ⟨.store start bytes.toArray :: memory.writes⟩

def load (memory : Memory) (start count : Nat) : List UInt8 :=
  loadHalves start count (count / 16).log2 memory.writes

def allEqual (memory : Memory) (start : Nat) (byte : UInt8) (count : Nat) : Bool :=
  (memory.load start count).all (· == byte)

theorem read_blank (address : Nat) : blank.read address = 0 := rfl

theorem read_fill_inside (memory : Memory) {start count address : Nat} (byte : UInt8)
    (low : start ≤ address) (high : address < start + count) :
    (memory.fill start count byte).read address = byte := by
  simp [read, fill, lastByte, Write.byte?, low, high]

theorem read_fill_outside (memory : Memory) {start count address : Nat} (byte : UInt8)
    (outside : address < start ∨ start + count ≤ address) :
    (memory.fill start count byte).read address = memory.read address := by
  have missing : (Write.fill start count byte).byte? address = none :=
    Write.byte?_eq_none outside
  simp [read, fill, lastByte, missing]

theorem read_store_inside (memory : Memory) {start address : Nat} {bytes : List UInt8}
    (low : start ≤ address) (high : address < start + bytes.length) :
    (memory.store start bytes).read address = bytes.get ⟨address - start, by omega⟩ := by
  have within : address - start < bytes.length := by omega
  simp [read, store, lastByte, Write.byte?, low, within]

theorem read_store_outside (memory : Memory) {start address : Nat} {bytes : List UInt8}
    (outside : address < start ∨ start + bytes.length ≤ address) :
    (memory.store start bytes).read address = memory.read address := by
  have missing : (Write.store start bytes.toArray).byte? address = none :=
    Write.byte?_eq_none (by simpa [Write.start, Write.count] using outside)
  simp [read, store, lastByte, missing]

theorem load_eq (memory : Memory) (start count : Nat) :
    memory.load start count = (List.range' start count).map memory.read :=
  loadHalves_eq start count _ memory.writes

theorem length_load (memory : Memory) (start count : Nat) :
    (memory.load start count).length = count := by
  simp [load_eq]

theorem getElem_load (memory : Memory) (start count i : Nat)
    (h : i < (memory.load start count).length) :
    (memory.load start count)[i] = memory.read (start + i) := by
  simp [load_eq]

theorem load_congr {memory other : Memory} {start count : Nat}
    (same : ∀ address, start ≤ address → address < start + count →
      other.read address = memory.read address) :
    other.load start count = memory.load start count := by
  rw [load_eq, load_eq]
  apply List.map_congr_left
  intro address member
  have bounds := List.mem_range'_1.mp member
  exact same address bounds.1 bounds.2

theorem load_store (memory : Memory) (start : Nat) (bytes : List UInt8) {offset count : Nat}
    (within : offset + count ≤ bytes.length) :
    (memory.store start bytes).load (start + offset) count = (bytes.drop offset).take count := by
  apply List.ext_getElem
  · simp only [length_load, List.length_take, List.length_drop]
    omega
  · intro i inside _
    have below : i < count := by simpa [length_load] using inside
    rw [getElem_load, read_store_inside memory (by omega) (by omega)]
    have position : start + offset + i - start = offset + i := by omega
    simp [position]

theorem allEqual_iff (memory : Memory) (start : Nat) (byte : UInt8) (count : Nat) :
    memory.allEqual start byte count = true ↔
      ∀ address, start ≤ address → address < start + count → memory.read address = byte := by
  simp only [allEqual, load_eq, List.all_eq_true, List.mem_map, List.mem_range'_1, beq_iff_eq]
  constructor
  · exact fun all address low high => all _ ⟨address, ⟨low, high⟩, rfl⟩
  · rintro all _ ⟨address, ⟨low, high⟩, rfl⟩
    exact all address low high

end Memory

end ChunkArena
