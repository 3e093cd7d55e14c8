import ChunkArena.Proofs.ByteRequests

/-!
Growing an array where it is, in steps and all at once. An array grows by two steps exactly if it
grows by their sum, and the bytes end up the same. What a growth takes is what a request for as many
bytes without alignment would have been given.
-/

namespace ChunkArena

theorem Memory.read_fill_fill (memory : Memory) (start count more : Nat) (byte : UInt8)
    (address : Nat) :
    ((memory.fill start count byte).fill (start + count) more byte).read address =
      (memory.fill start (count + more) byte).read address := by
  by_cases inside : start ≤ address ∧ address < start + (count + more)
  · rw [read_fill_inside memory byte inside.1 inside.2]
    by_cases behind : start + count ≤ address
    · exact read_fill_inside _ byte behind (by omega)
    · rw [read_fill_outside _ byte (by omega)]
      exact read_fill_inside memory byte inside.1 (by omega)
  · rw [read_fill_outside memory byte (by omega), read_fill_outside _ byte (by omega),
      read_fill_outside memory byte (by omega)]

namespace World

/-- Whether two worlds are the same, with the same byte at every address. Memory remembers its
writes one by one, and that is all in which they may differ. -/
structure Alike (first second : World) : Prop where
  rest : { first with memory := second.memory } = second
  bytes : ∀ address, first.memory.read address = second.memory.read address

theorem handOut_alike (world : World) (owner : Nat) (arena : Arena) (start count more : Nat) :
    Alike
      (world.after owner (world.profile.handOut start count ++
        world.profile.handOut (start + count) more) arena)
      (world.after owner (world.profile.handOut start (count + more)) arena) := by
  by_cases strict : world.profile.checks = true
  · simp only [Profile.handOut, Profile.mark, strict, ↓reduceIte]
    exact ⟨rfl, world.memory.read_fill_fill start count more allocatedByte⟩
  · simp only [Profile.handOut, Profile.mark, strict]
    exact ⟨rfl, fun _ => rfl⟩

end World

namespace Arena

variable {arena : Arena} {start old mid new elementSize : Nat}

theorem grow_exact (consistent : arena.Consistent) (below : arena.cursor.limit < wordLimit)
    (enabled : arena.isDisabled = false) (env : Env) (start old new elementSize : Nat) :
    (arena.Stretches start old new elementSize ∧
      arena.grow env start old new elementSize =
        ⟨.ok true, arena.movedTo (start + new * elementSize),
          env.profile.handOut (start + old * elementSize)
            (new * elementSize - old * elementSize)⟩) ∨
    (¬ arena.Stretches start old new elementSize ∧
      arena.grow env start old new elementSize = ⟨.ok false, arena, []⟩) := by
  rcases grow_forms consistent env start old new elementSize with
    ⟨off, _⟩ | ⟨beyond, refused⟩ | grown
  · rw [enabled] at off
    cases off
  · refine Or.inr ⟨?_, refused⟩
    intro stretches
    have bound := consistent.limit_bound
    have room := stretches.room
    exact beyond ⟨stretches, by omega, by omega⟩
  · exact Or.inl grown

theorem stretches_iff (first : old ≤ mid) (second : mid ≤ new) :
    arena.Stretches start old new elementSize ↔
      arena.Stretches start old mid elementSize ∧
        (arena.movedTo (start + mid * elementSize)).Stretches start mid new elementSize := by
  have shorter : mid * elementSize ≤ new * elementSize := Nat.mul_le_mul_right elementSize second
  constructor
  · intro whole
    have room := whole.room
    exact ⟨⟨whole.some_chunk, whole.inside, first, whole.ends, by omega⟩,
      ⟨whole.some_chunk, whole.inside, second, rfl, room⟩⟩
  · rintro ⟨here, rest⟩
    exact ⟨here.some_chunk, here.inside, Nat.le_trans first second, here.ends, rest.room⟩

theorem Stretches.admits (stretches : arena.Stretches start old new elementSize)
    (consistent : arena.Consistent) :
    arena.Admits ((new - old) * elementSize) 1 ∧
      roundUp arena.cursor.next 1 = start + old * elementSize := by
  have longer : old * elementSize ≤ new * elementSize :=
    Nat.mul_le_mul_right elementSize stretches.ordered
  have none_skipped := roundUp_of_dvd (Nat.one_dvd arena.cursor.next)
  have ends := stretches.ends
  have room := stretches.room
  refine ⟨⟨?_, ?_⟩, none_skipped.trans ends.symm⟩
  · rw [consistent.chunk_eq]
    obtain ⟨chunk, rest, stack⟩ := List.exists_cons_of_ne_nil stretches.some_chunk
    rw [stack, topHandle_cons]
    exact Option.some_ne_none _
  · rw [none_skipped, Nat.sub_mul]
    omega

end Arena

namespace World

variable {world : World} {owner : Nat} {arena : Arena} {start old new elementSize : Nat}

theorem grow_exact (consistent : arena.Consistent) (below : arena.cursor.limit < wordLimit)
    (found : world.arena? owner = some arena) (enabled : arena.isDisabled = false)
    (start old new elementSize : Nat) :
    (arena.Stretches start old new elementSize ∧
      world.grow owner start old new elementSize =
        (.ok true,
          world.after owner
            (world.profile.handOut (start + old * elementSize)
              (new * elementSize - old * elementSize))
            (arena.movedTo (start + new * elementSize)))) ∨
    (¬ arena.Stretches start old new elementSize ∧
      world.grow owner start old new elementSize = (.ok false, world)) := by
  obtain ⟨skew, same⟩ := onArena_some found fun arena env =>
    arena.grow env start old new elementSize
  have still : world.after owner [] arena = world := replace_self found
  rcases Arena.grow_exact consistent below enabled (world.env skew) start old new elementSize with
    ⟨stretches, grown⟩ | ⟨beyond, refused⟩
  · refine Or.inl ⟨stretches, ?_⟩
    rw [grow, same, grown]
    rfl
  · refine Or.inr ⟨beyond, ?_⟩
    rw [grow, same, refused]
    exact congrArg _ still

theorem grow_of_stretches (consistent : arena.Consistent)
    (below : arena.cursor.limit < wordLimit) (found : world.arena? owner = some arena)
    (enabled : arena.isDisabled = false) (stretches : arena.Stretches start old new elementSize) :
    world.grow owner start old new elementSize =
      (.ok true,
        world.after owner
          (world.profile.handOut (start + old * elementSize)
            (new * elementSize - old * elementSize))
          (arena.movedTo (start + new * elementSize))) := by
  rcases grow_exact consistent below found enabled start old new elementSize with
    ⟨_, grown⟩ | ⟨beyond, _⟩
  · exact grown
  · exact absurd stretches beyond

theorem grow_true_iff (consistent : arena.Consistent) (below : arena.cursor.limit < wordLimit)
    (found : world.arena? owner = some arena) (enabled : arena.isDisabled = false) :
    (world.grow owner start old new elementSize).1 = .ok true ↔
      arena.Stretches start old new elementSize := by
  rcases grow_exact consistent below found enabled start old new elementSize with
    ⟨stretches, grown⟩ | ⟨beyond, refused⟩
  · rw [grown]
    exact iff_of_true rfl stretches
  · rw [refused]
    exact iff_of_false (by simp) beyond

theorem grow_grow (consistent : arena.Consistent) (below : arena.cursor.limit < wordLimit)
    (found : world.arena? owner = some arena) (enabled : arena.isDisabled = false) {mid : Nat}
    (first : old ≤ mid) (second : mid ≤ new) :
    ((world.grow owner start old new elementSize).1 = .ok true ↔
      (world.grow owner start old mid elementSize).1 = .ok true ∧
        ((world.grow owner start old mid elementSize).2.grow owner start mid new elementSize).1 =
          .ok true) ∧
    ((world.grow owner start old new elementSize).1 = .ok true →
      Alike ((world.grow owner start old mid elementSize).2.grow owner start mid new elementSize).2
        (world.grow owner start old new elementSize).2) := by
  have low : old * elementSize ≤ mid * elementSize := Nat.mul_le_mul_right elementSize first
  have high : mid * elementSize ≤ new * elementSize := Nat.mul_le_mul_right elementSize second
  rw [grow_true_iff consistent below found enabled]
  rcases grow_exact consistent below found enabled start old mid elementSize with
    ⟨stretches, grown⟩ | ⟨beyond, refused⟩
  · have between := (stretches.change world.profile).consistent consistent
    have present := world.arena?_after_self owner found
      (world.profile.handOut (start + old * elementSize) (mid * elementSize - old * elementSize))
      (arena.movedTo (start + mid * elementSize))
    rw [grown, grow_true_iff between below present enabled, Arena.stretches_iff first second]
    refine ⟨by simp [stretches], ?_⟩
    rintro ⟨_, rest⟩
    have whole := (Arena.stretches_iff first second).mpr ⟨stretches, rest⟩
    have reached : start + old * elementSize + (mid * elementSize - old * elementSize) =
        start + mid * elementSize := by omega
    have added : mid * elementSize - old * elementSize + (new * elementSize - mid * elementSize) =
        new * elementSize - old * elementSize := by omega
    have together := world.handOut_alike owner (arena.movedTo (start + new * elementSize))
      (start + old * elementSize) (mid * elementSize - old * elementSize)
      (new * elementSize - mid * elementSize)
    rw [reached, added] at together
    rw [grow_of_stretches between below present enabled rest,
      grow_of_stretches consistent below found enabled whole, after_after, after_profile]
    exact together
  · rw [refused]
    have never : ¬ arena.Stretches start old new elementSize :=
      fun whole => beyond ((Arena.stretches_iff first second).mp whole).1
    exact ⟨iff_of_false never (by simp), fun whole => absurd whole never⟩

theorem tryBytes_of_stretches (consistent : arena.Consistent)
    (below : arena.cursor.limit < wordLimit) (found : world.arena? owner = some arena)
    (enabled : arena.isDisabled = false) (stretches : arena.Stretches start old new elementSize) :
    world.tryBytes owner ((new - old) * elementSize) 1 =
      (.ok (start + old * elementSize), (world.grow owner start old new elementSize).2) := by
  have longer : old * elementSize ≤ new * elementSize :=
    Nat.mul_le_mul_right elementSize stretches.ordered
  have reached : start + old * elementSize + (new * elementSize - old * elementSize) =
      start + new * elementSize := by omega
  obtain ⟨admits, next⟩ := stretches.admits consistent
  obtain ⟨skew, same⟩ := onArena_some found fun arena env =>
    arena.tryAllocate env ((new - old) * elementSize) 1
  have single : isPowerOfTwo 1 = true := by decide
  rw [tryBytes, same, Arena.tryAllocate_admitted consistent below (by simp [enabled]) single admits,
    next,
    grow_of_stretches consistent below found enabled stretches, Nat.sub_mul, reached]
  rfl

end World

/-- In every run, an array of an arena that is not disabled grows in two steps exactly if it grows
at once, and the worlds are alike then. A growth leaves what a request for its bytes without
alignment leaves, which gets the old end of the array and needs no chunk. -/
theorem growth_composes (profile : Profile) (site : Site) (logs : Logs) (actions : List Action)
    (owner start old new elementSize : Nat) {arena : Arena}
    (found : ((World.new profile site logs).run actions).arena? owner = some arena)
    (enabled : arena.isDisabled = false)
    (provided : Provided ((World.new profile site logs).run actions).traffic) :
    let world := (World.new profile site logs).run actions
    let whole := world.grow owner start old new elementSize
    let bytes := world.tryBytes owner ((new - old) * elementSize) 1
    (∀ mid, old ≤ mid → mid ≤ new →
      let first := world.grow owner start old mid elementSize
      let second := first.2.grow owner start mid new elementSize
      (whole.1 = .ok true ↔ first.1 = .ok true ∧ second.1 = .ok true) ∧
        (whole.1 = .ok true → second.2.Alike whole.2)) ∧
    (whole.1 = .ok true →
      bytes = (.ok (start + old * elementSize), whole.2) ∧
        bytes.2.chunks owner = world.chunks owner) := by
  have soundIf := (World.new_soundIfProvided profile site logs).run actions
  intro world whole bytes
  have backed := soundIf provided owner arena found
  have consistent := backed.consistent
  have below := backed.limit_lt provided
  refine ⟨fun mid first second => World.grow_grow consistent below found enabled first second, ?_⟩
  intro grown
  have stretches := (World.grow_true_iff consistent below found enabled).mp grown
  have same : bytes = (.ok (start + old * elementSize), whole.2) :=
    World.tryBytes_of_stretches consistent below found enabled stretches
  have after : whole = _ := World.grow_of_stretches consistent below found enabled stretches
  refine ⟨same, ?_⟩
  rw [same, after, World.chunks_of_some (World.arena?_after_self owner world found _ _),
    World.chunks_of_some found]
  rfl

def extensible : World :=
  (World.new .debug pagedSite (Logs.empty none)).run
    [.create ⟨"pairs", 32⟩ 0, .place 0 (.array .u32 3)]

theorem extensible_composes :
    ∃ start, (extensible.grow 0 start 3 8 4).1 = .ok true ∧
      (extensible.grow 0 start 3 5 4).1 = .ok true ∧
      World.Alike ((extensible.grow 0 start 3 5 4).2.grow 0 start 5 8 4).2
        (extensible.grow 0 start 3 8 4).2 ∧
      extensible.tryBytes 0 20 1 = (.ok (start + 12), (extensible.grow 0 start 3 8 4).2) := by
  have present : (extensible.arena? 0).isSome = true := by decide +kernel
  have on : ∀ arena ∈ extensible.arena? 0, arena.isDisabled = false := by decide +kernel
  obtain ⟨arena, found⟩ := Option.isSome_iff_exists.mp present
  have provided : Provided extensible.traffic := by decide +kernel
  have grows : (extensible.grow 0 (systemFloor + pageSize) 3 8 4).1 = .ok true := by
    decide +kernel
  obtain ⟨steps, bytes⟩ := growth_composes .debug pagedSite (Logs.empty none) _ 0
    (systemFloor + pageSize) 3 8 4 found (on arena found) provided
  obtain ⟨both, alike⟩ := steps 5 (by decide) (by decide)
  exact ⟨systemFloor + pageSize, grows, (both.mp grows).1, alike grows, (bytes grows).1⟩

end ChunkArena
