import ChunkArena.Proofs.LedgerCalls

/-!
Holdings as bytes. A client may write any bytes inside of an array, whatever its type, and may grow
an array through a pointer into it. From then on the array counts as bytes, of which some are known.
-/

namespace ChunkArena

namespace Holding

def byte? (holding : Holding) (i : Nat) : Option UInt8 :=
  (holding.contents (i / holding.kind.size)).bind fun value =>
    (holding.kind.encode value)[i % holding.kind.size]?

def size (holding : Holding) : Nat := holding.length * holding.kind.size

def bytewise (holding : Holding) : Holding where
  owner := holding.owner
  kind := .u8
  align := holding.align
  start := holding.start
  extent := ⟨holding.extent.since, holding.size⟩
  earlier := holding.earlier.map fun e => ⟨e.since, e.length * holding.kind.size⟩
  contents := fun i => (holding.byte? i).map fun byte => [byte.toNat]

def overwritten (holding : Holding) (offset : Nat) (bytes : List UInt8) : Holding :=
  { holding.bytewise with
    contents := fun i =>
      ((if offset ≤ i then bytes[i - offset]? else none).or (holding.byte? i)).map fun byte =>
        [byte.toNat] }

variable {holding : Holding}

theorem encode_byte (byte : UInt8) : Kind.u8.encode [byte.toNat] = [byte] := by
  simp [Kind.encode, Kind.u8, Kind.word, Kind.encodeFields, littleEndian]

theorem size_u8 : Kind.u8.size = 1 := rfl

theorem Intact.read {memory : Memory} (intact : holding.Intact memory) {e : Extent}
    (inside : e ∈ holding.extents) {i : Nat} (bound : i < e.length * holding.kind.size)
    {byte : UInt8} (known : holding.byte? i = some byte) :
    memory.read (holding.start + i) = byte := by
  obtain ⟨value, element, part⟩ := Option.bind_eq_some_iff.mp known
  have positive : 0 < holding.kind.size := by
    by_contra bare
    have none_left : holding.kind.size = 0 := by omega
    rw [none_left] at bound
    omega
  have loaded := intact e inside (i / holding.kind.size) (Nat.div_lt_of_lt_mul
    (by rw [Nat.mul_comm]; exact bound)) value element
  have place : holding.start + i / holding.kind.size * holding.kind.size +
      i % holding.kind.size = holding.start + i := by
    rw [Nat.add_assoc, Nat.div_add_mod']
  obtain ⟨within, same⟩ := List.getElem?_eq_some_iff.mp part
  have within' : i % holding.kind.size < holding.kind.size := Nat.mod_lt i positive
  rw [← same, ← place]
  simp only [← loaded, Memory.getElem_load]

theorem mem_bytewise {e : Extent} :
    e ∈ holding.bytewise.extents ↔
      ∃ f ∈ holding.extents, e = ⟨f.since, f.length * holding.kind.size⟩ := by
  simp [Plot.extents, bytewise, size, Plot.length, eq_comm]

theorem finish_bytewise (f : Extent) :
    holding.bytewise.finish ⟨f.since, f.length * holding.kind.size⟩ = holding.finish f := by
  simp [Plot.finish, bytewise, size_u8]

theorem intact_of_read {memory : Memory} {holding : Holding} (bytes : holding.kind = .u8)
    (known : ∀ e ∈ holding.extents, ∀ i < e.length, ∀ value, holding.contents i = some value →
      ∃ byte : UInt8, value = [byte.toNat] ∧ memory.read (holding.start + i) = byte) :
    holding.Intact memory := by
  intro e inside i bound value element
  obtain ⟨byte, same, read⟩ := known e inside i bound value element
  rw [bytes, same, encode_byte, size_u8, Nat.mul_one, Memory.load_eq]
  simp [read]

theorem Intact.bytewise {memory : Memory} (intact : holding.Intact memory) :
    holding.bytewise.Intact memory := by
  apply intact_of_read rfl
  intro e inside i bound value element
  obtain ⟨f, listed, same⟩ := mem_bytewise.mp inside
  rw [same] at bound
  obtain ⟨byte, known, single⟩ := Option.map_eq_some_iff.mp element
  exact ⟨byte, single.symm, intact.read listed bound known⟩

theorem Intact.overwritten {memory : Memory} (intact : holding.Intact memory) (offset : Nat)
    (bytes : List UInt8) :
    (holding.overwritten offset bytes).Intact (memory.store (holding.start + offset) bytes) := by
  apply intact_of_read rfl
  intro e inside i bound value element
  obtain ⟨f, listed, same⟩ := mem_bytewise.mp inside
  rw [same] at bound
  obtain ⟨byte, known, single⟩ := Option.map_eq_some_iff.mp element
  refine ⟨byte, single.symm, ?_⟩
  change (memory.store (holding.start + offset) bytes).read (holding.start + i) = byte
  -- A byte is one of the new ones, or it was there before and lies outside of them.
  by_cases new : offset ≤ i ∧ i - offset < bytes.length
  · obtain ⟨low, high⟩ := new
    rw [if_pos low, List.getElem?_eq_getElem high] at known
    cases known
    have place : holding.start + i - (holding.start + offset) = i - offset := by omega
    rw [Memory.read_store_inside memory (by omega) (by omega)]
    simp only [List.get_eq_getElem, place]
  · have old : holding.byte? i = some byte := by
      by_cases low : offset ≤ i
      · rw [if_pos low, List.getElem?_eq_none (by omega)] at known
        exact known
      · rw [if_neg low] at known
        exact known
    rw [Memory.read_store_outside memory (by omega)]
    exact intact.read listed bound old

end Holding

namespace Kept

variable {world : World} {holding : Holding} {holdings : List Holding} {saves : List Saved}
  {clock : Nat}

theorem bytewise (kept : Kept world (holding :: holdings) saves clock) :
    Kept world (holding.bytewise :: holdings) saves clock := by
  have apart := List.pairwise_cons.mp kept.settled.apart
  have older := kept.sublist (List.sublist_cons_self holding holdings)
  obtain ⟨home, found, everywhere⟩ :=
    kept.settled.secured holding.toPlot List.mem_cons_self
  have whole (f : Extent) := holding.finish_bytewise f
  refine ⟨older.settled.insert ?_ (kept.settled.aligned holding.toPlot List.mem_cons_self) ?_, ?_⟩
  · refine ⟨home, found, ?_⟩
    intro e inside
    obtain ⟨f, listed, same⟩ := Holding.mem_bytewise.mp inside
    obtain ⟨position, secured⟩ := everywhere f listed
    refine ⟨position, ?_, ?_⟩
    · rw [same, whole]
      exact secured.holds
    · rw [same, whole]
      exact secured.saved
  · intro other member e inside g inside' address covers
    obtain ⟨f, listed, same⟩ := Holding.mem_bytewise.mp inside
    refine apart.1 other member f listed g inside' address ?_
    rw [same] at covers
    simp only [Plot.Covers, whole] at covers
    exact covers
  · intro other member
    rcases List.mem_cons.mp member with same | rest
    · rw [same]
      exact (kept.intact holding List.mem_cons_self).bytewise
    · exact older.intact other rest

theorem overwrite (kept : Kept world (holding :: holdings) saves clock) {offset : Nat}
    {bytes : List UInt8} (within : offset + bytes.length ≤ holding.size) :
    Kept (world.write (holding.start + offset) bytes)
      (holding.overwritten offset bytes :: holdings) saves clock := by
  apply kept.bytewise.write_first (Nat.le_add_right _ _) _ _
  · exact (kept.intact holding List.mem_cons_self).overwritten offset bytes
  · change holding.start + offset + bytes.length ≤ holding.start + holding.size * Kind.u8.size
    rw [Holding.size_u8]
    omega

theorem starts_inside (kept : Kept world (holding :: holdings) saves clock) {arena : Arena}
    (found : world.arena? holding.owner = some arena) {skip old new elementSize : Nat}
    (stretches : arena.Stretches (holding.start + skip) old new elementSize)
    (ends : skip + old * elementSize = holding.size) (inside : skip = 0 ∨ skip < holding.size)
    {chunk : Chunk} (top : arena.chunks.head? = some chunk) : chunk.start ≤ holding.start := by
  have low := stretches.inside chunk top
  rcases inside with first | part
  · rw [first] at low
    exact low
  · obtain ⟨home, present, everywhere⟩ :=
      kept.settled.secured holding.toPlot List.mem_cons_self
    obtain ⟨position, secured⟩ := everywhere holding.extent List.mem_cons_self
    cases found.symm.trans present
    have sound := kept.settled.sound holding.owner arena found
    obtain ⟨newest, highest, _, limit⟩ :=
      Arena.top_of_ne_nil sound.consistent stretches.some_chunk
    rw [reverse_getElem?_head, top] at highest
    cases highest
    obtain ⟨home, place, bottom, high⟩ := secured.holds.inside
    have bound := sound.consistent.limit_bound
    have reached := stretches.ends
    have finish : holding.finish holding.extent = holding.start + holding.size := rfl
    have highest : arena.chunks.reverse[arena.chunks.length - 1]? = some chunk := by
      rw [reverse_getElem?_head]
      exact top
    by_cases same : position = arena.chunks.length - 1
    · rw [same, highest] at place
      cases place
      exact bottom
    · -- A byte of the array would be in two chunks.
      have apart := Arena.reverse_apart sound.apart place highest same
      simp only [Chunk.Apart] at apart
      omega

theorem extend (kept : Kept world (holding :: holdings) saves clock) {arena : Arena}
    (found : world.arena? holding.owner = some arena) {skip old new elementSize : Nat}
    (stretches : arena.Stretches (holding.start + skip) old new elementSize)
    (ends : skip + old * elementSize = holding.size) (inside : skip = 0 ∨ skip < holding.size)
    (provided : Provided (world.after holding.owner
      (world.profile.handOut (holding.start + skip + old * elementSize)
        (new * elementSize - old * elementSize))
      (arena.movedTo (holding.start + skip + new * elementSize))).traffic) :
    Kept (world.after holding.owner
        (world.profile.handOut (holding.start + skip + old * elementSize)
          (new * elementSize - old * elementSize))
        (arena.movedTo (holding.start + skip + new * elementSize)))
      (holding.bytewise.grown clock (skip + new * elementSize) :: holdings) saves clock := by
  have longer : old * elementSize ≤ new * elementSize :=
    Nat.mul_le_mul_right elementSize stretches.ordered
  have reached := stretches.ends
  have room := stretches.room
  have whole : arena.Stretches holding.start holding.size (skip + new * elementSize) 1 := by
    refine ⟨stretches.some_chunk, ?_, by omega, by omega, by omega⟩
    exact fun chunk top => kept.starts_inside found stretches ends inside top
  have place : holding.start + skip + old * elementSize = holding.start + holding.size * 1 := by
    omega
  have more : new * elementSize - old * elementSize =
      (skip + new * elementSize) * 1 - holding.size * 1 := by omega
  have last : holding.start + skip + new * elementSize =
      holding.start + (skip + new * elementSize) * 1 := by omega
  rw [place, more, last] at provided ⊢
  exact kept.bytewise.grow found whole provided

end Kept

end ChunkArena
