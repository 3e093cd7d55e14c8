import Mathlib.Data.Nat.ModEq
import ChunkArena.Proofs.RequestFailures

/-!
What a request for bytes comes to, exactly. It is decided by the alignment, by the room behind the
cursor and by the largest block that can be laid out, all of them compared as numbers without a
bound; the masks and guards of word arithmetic come to the same. A request that does not fit is
served from the start of a chunk of its own, unless the report about that chunk cannot be written.
-/

namespace ChunkArena

/-- The bytes to skip, as words have it: the negated address under the mask of the alignment. -/
def maskedPadding (n align : Nat) : Nat :=
  (-BitVec.ofNat 64 n &&& (BitVec.ofNat 64 align - 1#64)).toNat

theorem padding_eq_sub_mod {n align whole : Nat} (positive : 0 < align) (above : n ≤ whole)
    (divides : align ∣ whole) : padding n align = (whole - n) % align := by
  have reached : (padding n align + n) % align = 0 := by
    rw [Nat.add_comm]
    exact Nat.mod_eq_zero_of_dvd (dvd_roundUp n positive)
  have meets : padding n align + n ≡ whole - n + n [MOD align] := by
    rw [Nat.sub_add_cancel above]
    exact reached.trans (Nat.mod_eq_zero_of_dvd divides).symm
  have alike : padding n align % align = (whole - n) % align := meets.add_right_cancel' n
  rw [← alike, Nat.mod_eq_of_lt (padding_lt n positive)]

theorem maskedPadding_eq {n align : Nat} (address : n < wordLimit) (word : align < wordLimit)
    (power : isPowerOfTwo align = true) : maskedPadding n align = padding n align := by
  obtain ⟨k, same⟩ := (isPowerOfTwo_iff align).mp power
  have positive : 0 < align := by
    rw [same]
    exact Nat.two_pow_pos k
  have inside : k ≤ 64 := by
    rw [same] at word
    exact Nat.le_of_lt ((Nat.pow_lt_pow_iff_right (by decide)).mp word)
  have divides : align ∣ wordLimit := by
    rw [same]
    exact Nat.pow_dvd_pow 2 inside
  have mask : (BitVec.ofNat 64 align - 1#64).toNat = 2 ^ k - 1 := by
    have whole : (BitVec.ofNat 64 align).toNat = align := Nat.mod_eq_of_lt word
    have least : 1#64 ≤ BitVec.ofNat 64 align := by
      rw [BitVec.le_def, whole]
      exact positive
    rw [BitVec.toNat_sub_of_le least, whole, same]
    rfl
  have negated : (-BitVec.ofNat 64 n).toNat = (wordLimit - n) % wordLimit := by
    have whole : (BitVec.ofNat 64 n).toNat = n := Nat.mod_eq_of_lt address
    rw [BitVec.toNat_neg, whole]
    rfl
  rw [maskedPadding, BitVec.toNat_and, mask, negated, Nat.and_two_pow_sub_one_eq_mod,
    padding_eq_sub_mod positive (Nat.le_of_lt address) divides, same]
  rw [same] at divides
  exact Nat.mod_mod_of_dvd _ divides

def Layout.extent (layout : Layout) : Nat := roundUp layout.size layout.align

namespace Arena

def freshLayout (arena : Arena) (size align : Nat) : Layout :=
  ⟨max (max arena.chunkCapacity size) 1, max align chunkAlign⟩

def freshChunk (arena : Arena) (env : Env) (size align : Nat) : Chunk :=
  ⟨arena.cursor.chunk, arena.nextSerial, env.site (arena.freshLayout size align),
    arena.freshLayout size align⟩

def Admits (arena : Arena) (size align : Nat) : Prop :=
  arena.cursor.chunk ≠ none ∧ roundUp arena.cursor.next align + size ≤ arena.cursor.limit

instance (arena : Arena) (size align : Nat) : Decidable (arena.Admits size align) :=
  inferInstanceAs (Decidable (_ ∧ _))

variable {arena : Arena} {size align : Nat}

theorem bump_eq (consistent : arena.Consistent) (below : arena.cursor.limit < wordLimit)
    (profile : Profile) (size align : Nat) :
    arena.bump profile size align =
      .ok (if arena.Admits size align then
        some (roundUp arena.cursor.next align,
          { arena.cursor with next := roundUp arena.cursor.next align + size })
      else none) := by
  have bound := consistent.limit_bound
  cases names : arena.cursor.chunk with
  | none => simp [bump, Admits, names]
  | some handle =>
    by_cases room : roundUp arena.cursor.next align + size ≤ arena.cursor.limit
    · have needed : padding arena.cursor.next align + size ≤
          arena.cursor.limit - arena.cursor.next := by
        simp only [roundUp] at room
        omega
      have not_huge : ¬ wordLimit ≤ padding arena.cursor.next align + size := by omega
      have not_tight : ¬ arena.cursor.limit - arena.cursor.next <
          padding arena.cursor.next align + size := by omega
      simp [bump, Admits, names, room, not_huge, profile.sub_ok bound, not_tight]
    · have tight : arena.cursor.limit - arena.cursor.next <
          padding arena.cursor.next align + size := by
        simp only [roundUp] at room
        omega
      by_cases huge : wordLimit ≤ padding arena.cursor.next align + size
      · simp [bump, Admits, names, room, huge]
      · simp [bump, Admits, names, room, huge, profile.sub_ok bound, tight]

theorem bump_fresh {chunk : Chunk} (consistent : (arena.extended chunk).Consistent)
    (below : chunk.finish < wordLimit) (aligned : align ∣ chunk.start)
    (roomy : size ≤ chunk.capacity) (profile : Profile) :
    (arena.extended chunk).bump profile size align =
      .ok (some (chunk.start,
        { (arena.extended chunk).cursor with next := chunk.start + size })) := by
  have start := roundUp_of_dvd aligned
  have room : (arena.extended chunk).Admits size align := by
    refine ⟨by simp [extended], ?_⟩
    simp only [extended, start, Chunk.finish]
    omega
  rw [bump_eq consistent below, if_pos room]
  simp only [extended, start]

theorem isPowerOfTwo_max_chunkAlign (power : isPowerOfTwo align = true) :
    isPowerOfTwo (max align chunkAlign) = true := by
  rcases Nat.le_total align chunkAlign with small | large
  · rw [Nat.max_eq_right small]
    decide
  · rwa [Nat.max_eq_left large]

theorem freshLayout_shape (power : isPowerOfTwo align = true)
    (valid : (arena.freshLayout size align).extent ≤ blockLimit) :
    Layout.ofSizeAlign? (max (max arena.chunkCapacity size) 1) (max align chunkAlign) =
      some (arena.freshLayout size align) :=
  if_pos ⟨isPowerOfTwo_max_chunkAlign power, valid⟩

theorem append_oversized (env : Env)
    (huge : ¬ (arena.freshLayout size align).extent ≤ blockLimit) :
    arena.append env size align =
      ⟨.error (.error (.sizeOverflow (max arena.chunkCapacity size) align)), arena, []⟩ := by
  have shapeless : Layout.ofSizeAlign? (max (max arena.chunkCapacity size) 1)
      (max align chunkAlign) = none := if_neg fun both => huge both.2
  simp only [append, shapeless]

theorem append_exhausted {env : Env} (power : isPowerOfTwo align = true)
    (valid : (arena.freshLayout size align).extent ≤ blockLimit)
    (spent : env.profile.add arena.nextSerial 1 = .error .addOverflow) :
    arena.append env size align =
      ⟨.error (.panic .addOverflow), arena,
        [.obtain (arena.freshChunk env size align),
          .giveBack (arena.freshChunk env size align)]⟩ := by
  simp only [append, freshLayout_shape power valid, spent]
  rfl

theorem append_valid {env : Env} (power : isPowerOfTwo align = true)
    (valid : (arena.freshLayout size align).extent ≤ blockLimit)
    (counted : env.profile.checks = true → arena.nextSerial + 1 < wordLimit) :
    arena.append env size align =
      env.conclude (arena.extended (arena.freshChunk env size align))
        [.obtain (arena.freshChunk env size align)]
        (.appended arena.chunks.length (arena.freshChunk env size align).capacity) :=
  append_of_shape counted (freshLayout_shape power valid)

/-- What a request for bytes comes to, by what decides it. -/
inductive Fulfils (arena : Arena) (env : Env) (size align : Nat) (reply : Reply Nat) : Prop where
  | misaligned (crooked : ¬ isPowerOfTwo align = true)
      (same : reply = ⟨.error (.error (.invalidAlignment align)), arena, []⟩)
  | admitted (power : isPowerOfTwo align = true) (room : arena.Admits size align)
      (same : reply =
        ⟨.ok (roundUp arena.cursor.next align),
          arena.movedTo (roundUp arena.cursor.next align + size),
          env.profile.handOut (roundUp arena.cursor.next align) size⟩)
  | oversized (power : isPowerOfTwo align = true) (full : ¬ arena.Admits size align)
      (huge : ¬ (arena.freshLayout size align).extent ≤ blockLimit)
      (same : reply =
        ⟨.error (.error (.sizeOverflow (max arena.chunkCapacity size) align)), arena, []⟩)
  | exhausted (power : isPowerOfTwo align = true) (full : ¬ arena.Admits size align)
      (valid : (arena.freshLayout size align).extent ≤ blockLimit)
      (spent : wordLimit ≤ arena.nextSerial + 1)
      (failed : reply.result = .error (.panic .addOverflow)) (same : reply.arena = arena)
  | spilled (power : isPowerOfTwo align = true) (full : ¬ arena.Admits size align)
      (valid : (arena.freshLayout size align).extent ≤ blockLimit)
      (quiet : env.complaint .debug = none) (chunk : Chunk)
      (fresh : chunk = arena.freshChunk env size align)
      (same : reply =
        ⟨.ok chunk.start, (arena.extended chunk).movedTo (chunk.start + size),
          [.obtain chunk, .report arena.label (.appended arena.chunks.length chunk.capacity)] ++
            env.profile.handOut chunk.start size⟩)
  | stopped (power : isPowerOfTwo align = true) (full : ¬ arena.Admits size align)
      (valid : (arena.freshLayout size align).extent ≤ blockLimit)
      (cause : Panic) (loud : env.complaint .debug = some cause) (chunk : Chunk)
      (fresh : chunk = arena.freshChunk env size align)
      (same : reply =
        ⟨.error (.panic cause), arena.extended chunk,
          [.obtain chunk, .report arena.label (.appended arena.chunks.length chunk.capacity)]⟩)

theorem tryAllocate_admitted (consistent : arena.Consistent)
    (below : arena.cursor.limit < wordLimit) {env : Env}
    (enabled : (env.profile.checks && arena.isDisabled) = false)
    (power : isPowerOfTwo align = true) (room : arena.Admits size align) :
    arena.tryAllocate env size align =
      ⟨.ok (roundUp arena.cursor.next align),
        arena.movedTo (roundUp arena.cursor.next align + size),
        env.profile.handOut (roundUp arena.cursor.next align) size⟩ := by
  have on : ¬ (env.profile.checks && arena.isDisabled) = true := Bool.eq_false_iff.mp enabled
  have served := bump_eq consistent below env.profile size align
  rw [if_pos room] at served
  rw [tryAllocate, if_neg on, if_pos power]
  simp only [reserve, served, movedTo]

theorem reserve_spills (consistent : arena.Consistent) (below : arena.cursor.limit < wordLimit)
    (env : Env) (power : isPowerOfTwo align = true) (full : ¬ arena.Admits size align)
    (placed : ∀ chunk, .obtain chunk ∈ (arena.reserve env size align).effects →
      chunk.layout.align ∣ chunk.start ∧ chunk.finish < wordLimit) :
    arena.Fulfils env size align (arena.reserve env size align) := by
  have first := bump_eq consistent below env.profile size align
  rw [if_neg full] at first
  by_cases valid : (arena.freshLayout size align).extent ≤ blockLimit
  · rcases add_one_cases env.profile arena.nextSerial with ⟨spent, _, last⟩ | ⟨_, counted⟩
    · have appended := append_exhausted power valid spent
      exact .exhausted power full valid last (by simp only [reserve, first, appended])
        (by simp only [reserve, first, appended])
    · have appended := append_valid power valid counted
      generalize fresh : arena.freshChunk env size align = chunk at appended
      rcases env.conclude_cases (arena.extended chunk) [.obtain chunk]
          (.appended arena.chunks.length chunk.capacity) with
        ⟨cause, loud, failed⟩ | ⟨quiet, told⟩
      · rw [failed] at appended
        exact .stopped power full valid cause loud chunk fresh.symm
          (by simp only [reserve, first, appended]; rfl)
      · rw [told] at appended
        have capacity : chunk.capacity = max (max arena.chunkCapacity size) 1 := by
          rw [← fresh]
          rfl
        have came : .obtain chunk ∈ (arena.reserve env size align).effects := by
          simp only [reserve, first, appended]
          split <;> simp
        obtain ⟨aligned, high⟩ := placed chunk came
        have divides : align ∣ chunk.layout.align := by
          rw [← fresh]
          exact dvd_max_chunkAlign power
        have extension : Change env.profile arena [.obtain chunk] (arena.extended chunk) := by
          refine .extend arena chunk ?_ ?_ (by omega) counted
          · rw [← fresh]
            rfl
          · rw [← fresh]
            rfl
        have roomy : size ≤ chunk.capacity := by omega
        have second := bump_fresh (extension.consistent consistent) high
          (Nat.dvd_trans divides aligned) roomy env.profile
        exact .spilled power full valid quiet chunk fresh.symm
          (by simp only [reserve, first, appended, second, movedTo]; rfl)
  · have appended := append_oversized env valid
    exact .oversized power full valid (by simp only [reserve, first, appended])

/-- A request to an arena that is not disabled comes to one of these, if the system places the block
that it may need. -/
theorem tryAllocate_fulfils (consistent : arena.Consistent)
    (below : arena.cursor.limit < wordLimit) {env : Env}
    (enabled : (env.profile.checks && arena.isDisabled) = false) (size align : Nat)
    (placed : ∀ chunk, .obtain chunk ∈ (arena.tryAllocate env size align).effects →
      chunk.layout.align ∣ chunk.start ∧ chunk.finish < wordLimit) :
    arena.Fulfils env size align (arena.tryAllocate env size align) := by
  have on : ¬ (env.profile.checks && arena.isDisabled) = true := Bool.eq_false_iff.mp enabled
  by_cases power : isPowerOfTwo align = true
  · by_cases room : arena.Admits size align
    · exact .admitted power room (tryAllocate_admitted consistent below enabled power room)
    · rw [tryAllocate, if_neg on, if_pos power] at placed ⊢
      exact reserve_spills consistent below env power room placed
  · rw [tryAllocate, if_neg on, if_neg power]
    exact .misaligned power rfl

end Arena

def World.tryBytes (world : World) (owner size align : Nat) : Except Failure Nat × World :=
  world.onArena owner fun arena env => arena.tryAllocate env size align

/-- What a request for bytes comes to in the world: its answer, the arena it leaves and the effects
it has on everything else. -/
structure Fulfilled (before : World) (owner : Nat) (arena : Arena) (size align : Nat)
    (answer : Except Failure Nat × World) : Prop where
  misaligned : answer.1 = .error (.error (.invalidAlignment align)) ↔ ¬ ∃ k, align = Nat.pow 2 k
  /-- The padding as words have it. -/
  masked : isPowerOfTwo align = true → align < wordLimit →
    roundUp arena.cursor.next align =
      arena.cursor.next + maskedPadding arena.cursor.next align
  admitted : isPowerOfTwo align = true → arena.Admits size align →
    answer =
      (.ok (roundUp arena.cursor.next align),
        before.after owner (before.profile.handOut (roundUp arena.cursor.next align) size)
          (arena.movedTo (roundUp arena.cursor.next align + size)))
  oversized : isPowerOfTwo align = true → ¬ arena.Admits size align →
    (answer.1 = .error (.error (.sizeOverflow (max arena.chunkCapacity size) align)) ↔
      blockLimit < roundUp (max (max arena.chunkCapacity size) 1) (max align chunkAlign))
  spilled : isPowerOfTwo align = true → ¬ arena.Admits size align →
    roundUp (max (max arena.chunkCapacity size) 1) (max align chunkAlign) ≤ blockLimit →
      ∃ chunk : Chunk, chunk.previous = arena.cursor.chunk ∧ chunk.serial = arena.nextSerial ∧
        chunk.layout = ⟨max (max arena.chunkCapacity size) 1, max align chunkAlign⟩ ∧
        ((arena.extended chunk).movedTo (chunk.start + size)).remaining =
          max (max arena.chunkCapacity size) 1 - size ∧
        (before.logs.complaint .debug = none →
          answer =
            (.ok chunk.start,
              before.after owner
                ([.obtain chunk,
                    .report arena.label (.appended arena.chunks.length chunk.capacity)] ++
                  before.profile.handOut chunk.start size)
                ((arena.extended chunk).movedTo (chunk.start + size)))) ∧
        (∀ cause, before.logs.complaint .debug = some cause →
          answer =
            (.error (.panic cause),
              before.after owner
                [.obtain chunk,
                  .report arena.label (.appended arena.chunks.length chunk.capacity)]
                (arena.extended chunk)))
  errors : ∀ cause, answer.1 = .error (.error cause) → answer.2 = before
  panics : ∀ cause, answer.1 = .error (.panic cause) →
    cause.OfLine before.logs.outputs.fault ∧ before.logs.complaint .debug = some cause

theorem Arena.remaining_fresh (arena : Arena) (env : Env) (size align : Nat) :
    ((arena.extended (arena.freshChunk env size align)).movedTo
      ((arena.freshChunk env size align).start + size)).remaining =
        max (max arena.chunkCapacity size) 1 - size := by
  have capacity : (arena.freshChunk env size align).capacity =
      max (max arena.chunkCapacity size) 1 := rfl
  simp only [remaining, Cursor.remaining, extended, movedTo, Chunk.finish, capacity]
  omega

section World

variable {world : World} {owner : Nat} {arena : Arena} {size align skew : Nat} {reply : Reply Nat}

theorem Arena.Fulfils.fulfilled (fulfils : arena.Fulfils (world.env skew) size align reply)
    (found : world.arena? owner = some arena) (below : arena.cursor.next < wordLimit)
    (counted : arena.nextSerial + 1 < wordLimit) :
    Fulfilled world owner arena size align
      (reply.result, world.after owner reply.effects reply.arena) := by
  have still : world.after owner [] arena = world := World.replace_self found
  have masked : isPowerOfTwo align = true → align < wordLimit →
      roundUp arena.cursor.next align =
        arena.cursor.next + maskedPadding arena.cursor.next align := by
    intro power word
    rw [maskedPadding_eq below word power]
    rfl
  have straight (power : isPowerOfTwo align = true) : ¬ ¬ ∃ k, align = Nat.pow 2 k :=
    not_not_intro ((isPowerOfTwo_iff align).mp power)
  cases fulfils with
  | misaligned crooked same =>
    rw [same]
    refine ⟨iff_of_true rfl (mt (isPowerOfTwo_iff align).mpr crooked), masked, ?_, ?_, ?_, ?_, ?_⟩
    · exact fun power => absurd power crooked
    · exact fun power => absurd power crooked
    · exact fun power => absurd power crooked
    · exact fun _ _ => still
    · exact nofun
  | admitted power room same =>
    rw [same]
    refine ⟨iff_of_false nofun (straight power), masked, ?_, ?_, ?_, nofun, nofun⟩
    · exact fun _ _ => rfl
    · exact fun _ full => absurd room full
    · exact fun _ full => absurd room full
  | oversized power full huge same =>
    rw [same]
    refine ⟨iff_of_false nofun (straight power), masked, ?_, ?_, ?_, ?_, nofun⟩
    · exact fun _ room => absurd room full
    · exact fun _ _ => iff_of_true rfl (Nat.lt_of_not_le huge)
    · exact fun _ _ valid => absurd valid huge
    · exact fun _ _ => still
  | exhausted power full valid spent => exact absurd counted (Nat.not_lt.mpr spent)
  | spilled power full valid quiet chunk fresh same =>
    rw [same]
    refine ⟨iff_of_false nofun (straight power), masked, ?_, ?_, ?_, nofun, nofun⟩
    · exact fun _ room => absurd room full
    · exact fun _ _ => iff_of_false nofun (Nat.not_lt.mpr valid)
    · intro _ _ _
      subst fresh
      exact ⟨arena.freshChunk (world.env skew) size align, rfl, rfl, rfl,
        arena.remaining_fresh _ size align, fun _ => rfl,
        fun cause loud => nomatch quiet.symm.trans loud⟩
  | stopped power full valid cause loud chunk fresh same =>
    rw [same]
    refine ⟨iff_of_false nofun (straight power), masked, ?_, ?_, ?_, nofun, ?_⟩
    · exact fun _ room => absurd room full
    · exact fun _ _ => iff_of_false nofun (Nat.not_lt.mpr valid)
    · intro _ _ _
      subst fresh
      refine ⟨arena.freshChunk (world.env skew) size align, rfl, rfl, rfl,
        arena.remaining_fresh _ size align, ?_, ?_⟩
      · exact fun quiet => nomatch quiet.symm.trans loud
      · intro cause' loud'
        cases loud.symm.trans loud'
        rfl
    · intro panic raised
      cases raised
      exact ⟨Logs.complaint_ofLine loud, loud⟩

end World

/-- In every run, a request for bytes of an arena that is not disabled comes to this, as long as
there is one more of the 2^64 serial numbers. -/
theorem try_allocate_fulfilled (profile : Profile) (site : Site) (logs : Logs)
    (actions : List Action) (owner size align : Nat) {arena : Arena}
    (found : ((World.new profile site logs).run actions).arena? owner = some arena)
    (enabled : arena.isDisabled = false)
    (provided : Provided
      (((World.new profile site logs).run actions).tryBytes owner size align).2.traffic)
    (few : obtainedBy owner ((World.new profile site logs).run actions).traffic + 1 <
      wordLimit) :
    Fulfilled ((World.new profile site logs).run actions) owner arena size align
      (((World.new profile site logs).run actions).tryBytes owner size align) := by
  have soundIf := (World.new_soundIfProvided profile site logs).run actions
  generalize (World.new profile site logs).run actions = world at *
  have before := provided_of_suffix provided (world.onArena_suffix owner _)
  have backed := soundIf before owner arena found
  have numbered := backed.numbered
  have bound := backed.consistent.limit_bound
  have below := backed.limit_lt before
  obtain ⟨skew, same⟩ := World.onArena_some found fun arena env => arena.tryAllocate env size align
  rw [World.tryBytes, same] at provided ⊢
  have fulfils : arena.Fulfils (world.env skew) size align
      (arena.tryAllocate (world.env skew) size align) := by
    refine Arena.tryAllocate_fulfils backed.consistent below (by simp [enabled]) size align ?_
    intro chunk came
    obtain ⟨aligned, _, high⟩ := World.placed_of_obtain provided came
    exact ⟨aligned, high⟩
  exact fulfils.fulfilled found (by omega) (by omega)

def begun : World :=
  (World.new .debug pagedSite (Logs.empty none)).run
    [.create ⟨"pairs", 16⟩ 0, .place 0 (.bytes 3 1)]

theorem begun_fulfilled :
    ∃ arena, begun.arena? 0 = some arena ∧ arena.isDisabled = false ∧
      arena.Admits 12 4 ∧ Fulfilled begun 0 arena 12 4 (begun.tryBytes 0 12 4) ∧
      ¬ arena.Admits 13 4 ∧ Fulfilled begun 0 arena 13 4 (begun.tryBytes 0 13 4) ∧
      Fulfilled begun 0 arena (wordLimit - 1) 8 (begun.tryBytes 0 (wordLimit - 1) 8) := by
  have present : (begun.arena? 0).isSome = true := by decide +kernel
  obtain ⟨arena, found⟩ := Option.isSome_iff_exists.mp present
  have seen : ∀ other ∈ begun.arena? 0,
      other.isDisabled = false ∧ other.Admits 12 4 ∧ ¬ other.Admits 13 4 := by
    decide +kernel
  obtain ⟨enabled, room, full⟩ := seen arena found
  have few : obtainedBy 0 begun.traffic + 1 < wordLimit := by decide +kernel
  have outcome (size align : Nat) (provided : Provided (begun.tryBytes 0 size align).2.traffic) :
      Fulfilled begun 0 arena size align (begun.tryBytes 0 size align) :=
    try_allocate_fulfilled .debug pagedSite (Logs.empty none) _ 0 size align found enabled
      provided few
  exact ⟨arena, found, enabled, room, outcome 12 4 (by decide +kernel), full,
    outcome 13 4 (by decide +kernel), outcome (wordLimit - 1) 8 (by decide +kernel)⟩

/-- A request that needs a chunk gets no address when the report about the chunk cannot be
written, though the chunk can be laid out and is appended. -/
theorem unwritable_report_stops_bytes :
    let logs := ((Logs.empty none).init Logs.coreName ⟨.debug, "Core", [.stdout], "%Q"⟩).2
    let world := (World.new .debug pagedSite logs).run [.create ⟨"pairs", 16⟩ 0]
    (∃ arena, world.arena? 0 = some arena ∧ arena.isDisabled = false ∧ ¬ arena.Admits 4 4 ∧
      (arena.freshLayout 4 4).extent ≤ blockLimit) ∧
      Provided (world.tryBytes 0 4 4).2.traffic ∧
      (world.tryBytes 0 4 4).1 = .error (.panic .timeFormat) ∧
      ((world.tryBytes 0 4 4).2.arena? 0).map Arena.chunkCount = some 1 := by
  intro logs world
  have present : (world.arena? 0).isSome = true := by decide +kernel
  obtain ⟨arena, found⟩ := Option.isSome_iff_exists.mp present
  have seen : ∀ other ∈ world.arena? 0, other.isDisabled = false ∧
      ¬ other.Admits 4 4 ∧ (other.freshLayout 4 4).extent ≤ blockLimit := by
    decide +kernel
  exact ⟨⟨arena, found, seen arena found⟩, by decide +kernel, by decide +kernel,
    by decide +kernel⟩

end ChunkArena
