import ChunkArena.Proofs.ByteRequests
import ChunkArena.Proofs.MemoryProviders

/-!
The two interfaces of an arena. Memory and values can be asked for at the arena itself, where an
error is a panic, and through the interface that every provider of memory has, behind any number of
references, where an error is an answer. Both lead to the same bytes: what one serves at an address,
the other serves at the same address, with the same world after it, and what one refuses, the other
refuses. This holds also for copies of slices that stop in the middle because a clone panics.
-/

namespace ChunkArena

namespace Arena

variable {arena : Arena} {env : Env} {size align : Nat}

theorem bump_panics {profile : Profile} {cause : Panic}
    (failed : arena.bump profile size align = .error cause) : cause = .subOverflow := by
  unfold bump at failed
  split at failed
  · cases failed
  · simp only at failed
    split at failed
    · cases failed
    · unfold Profile.sub at failed
      split at failed
      · next stop missed =>
        split at missed
        · cases missed
        · split at missed <;> cases missed
          cases failed
          rfl
      · split at failed <;> cases failed

theorem append_panics {cause : Panic}
    (failed : (arena.append env size align).result = .error (.panic cause)) :
    cause = .addOverflow ∨ ∃ level, env.complaint level = some cause := by
  unfold append at failed
  simp only at failed
  split at failed
  · cases failed
  · split at failed
    · next stop full =>
      cases failed
      rcases add_one_cases env.profile arena.nextSerial with ⟨overflow, _, _⟩ | ⟨counted, _⟩
      · exact Or.inl (Except.error.inj (full.symm.trans overflow))
      · cases full.symm.trans counted
    · unfold Env.conclude Env.afterReport at failed
      split at failed
      · cases failed
      · next loud =>
        cases failed
        exact Or.inr ⟨_, loud⟩

/-- The panics of an allocation that answers with its errors. None of them tells of an error. -/
theorem tryAllocate_panics {cause : Panic}
    (failed : (arena.tryAllocate env size align).result = .error (.panic cause)) :
    cause = .disabled arena.label ∨ cause = .addOverflow ∨ cause = .subOverflow ∨
      (∃ text, cause = .unreachable text) ∨ ∃ level, env.complaint level = some cause := by
  unfold tryAllocate at failed
  split at failed
  · cases failed
    exact Or.inl rfl
  · split at failed
    · unfold reserve at failed
      split at failed
      · next stop none_left =>
        cases failed
        exact Or.inr (Or.inr (Or.inl (bump_panics none_left)))
      · cases failed
      · simp only at failed
        split at failed
        · next failure stopped =>
          cases failed
          rcases append_panics stopped with overflow | loud
          · exact Or.inr (Or.inl overflow)
          · exact Or.inr (Or.inr (Or.inr (Or.inr loud)))
        · split at failed
          · next stop none_left =>
            cases failed
            exact Or.inr (Or.inr (Or.inl (bump_panics none_left)))
          · cases failed
            exact Or.inr (Or.inr (Or.inr (Or.inl ⟨_, rfl⟩)))
          · cases failed
    · cases failed

end Arena

def Failure.raised (label : String) : Failure → Failure
  | error cause => .panic (.refused label cause)
  | panic cause => .panic cause
  | refused cause => .refused cause

def raised (label : String) (answer : Except Failure Nat × World) : Except Failure Nat × World :=
  (answer.1.mapError (Failure.raised label), answer.2)

/-- Whether two calls come to the same, except that the first panics with a label and the text of
the error that the second answers with. -/
structure Raises (label : String) (first second : Except Failure Nat × World) : Prop where
  world : first.2 = second.2
  served : ∀ start, first.1 = .ok start ↔ second.1 = .ok start
  refused : ∀ cause,
    first.1 = .error (.panic (.refused label cause)) ↔ second.1 = .error (.error cause)
  worded : ∀ cause stop, second.1 = .error (.error cause) → first.1 = .error (.panic stop) →
    stop.message = s!"allocator \"{label}\": {cause.message}"
  stopped : ∀ stop, (∀ cause, stop ≠ .refused label cause) →
    (first.1 = .error (.panic stop) ↔ second.1 = .error (.panic stop))

def Unraised (label : String) (answer : Except Failure Nat × World) : Prop :=
  ∀ cause, answer.1 ≠ .error (.panic (.refused label cause))

theorem Unraised.raises {label : String} {answer : Except Failure Nat × World}
    (unraised : Unraised label answer) : Raises label (raised label answer) answer := by
  obtain ⟨result, after⟩ := answer
  cases result with
  | ok start =>
    exact ⟨rfl, fun _ => .rfl, fun _ => iff_of_false nofun nofun, nofun, fun _ _ => .rfl⟩
  | error failure =>
    cases failure with
    | error cause =>
      refine ⟨rfl, fun _ => iff_of_false nofun nofun, fun other => ?_, ?_, ?_⟩
      · simp [raised, Except.mapError, Failure.raised]
      · intro other stop answered stopped
        cases answered
        cases stopped
        rfl
      · intro stop other
        refine iff_of_false ?_ nofun
        intro stopped
        cases stopped
        exact other cause rfl
    | panic stop =>
      refine ⟨rfl, fun _ => .rfl, fun cause => iff_of_false ?_ nofun, nofun, fun _ _ => .rfl⟩
      intro stopped
      apply unraised cause
      cases stopped
      rfl
    | refused cause =>
      exact ⟨rfl, fun _ => .rfl, fun _ => iff_of_false nofun nofun, nofun, fun _ _ => .rfl⟩

theorem Arena.allocate_eq (arena : Arena) (env : Env) (size align : Nat) :
    arena.allocate env size align =
      { arena.tryAllocate env size align with
        result := (arena.tryAllocate env size align).result.mapError
          (Failure.raised arena.label) } := by
  unfold allocate
  generalize arena.tryAllocate env size align = reply
  obtain ⟨result, after, effects⟩ := reply
  cases result with
  | ok start => rfl
  | error failure => cases failure <;> rfl

namespace World

section Calls

variable {world : World} {owner : Nat} {arena : Arena}

theorem allocate_raised (found : world.arena? owner = some arena) (size align : Nat) :
    world.allocate owner size align = raised arena.label (world.tryBytes owner size align) := by
  simp only [arena?, Option.bind_eq_some_iff] at found
  obtain ⟨tenant, place, present⟩ := found
  simp only [allocate, tryBytes, onArena, place, present, commit, raised, arena.allocate_eq]

theorem tryBytes_unraised (world : World) (owner size align : Nat) (label : String) :
    Unraised label (world.tryBytes owner size align) := by
  intro cause failed
  unfold tryBytes onArena at failed
  split at failed
  · cases failed
  · split at failed
    · cases failed
    · rcases Arena.tryAllocate_panics failed with off | off | off | ⟨_, off⟩ | ⟨level, loud⟩
      · cases off
      · cases off
      · cases off
      · cases off
      · cases Logs.complaint_ofLine loud

theorem settle_raised (kind : Kind) (value : Value) (label : String)
    (answer : Except Failure Nat × World) :
    settle kind value (raised label answer) = raised label (settle kind value answer) := by
  obtain ⟨result, after⟩ := answer
  cases result <;> rfl

theorem settle_unraised {label : String} {answer : Except Failure Nat × World}
    (unraised : Unraised label answer) (kind : Kind) (value : Value) :
    Unraised label (settle kind value answer) := by
  obtain ⟨result, after⟩ := answer
  cases result <;> exact unraised

theorem arena?_moveIn (world : World) (kind : Kind) (owner : Nat) :
    (world.moveIn kind).arena? owner = world.arena? owner := by
  rw [moveIn, count_eq]
  rfl

theorem construct_eq (world : World) (source : Source) (kind : Kind) (value : Value)
    (dropPanics : Bool) :
    world.construct source kind value dropPanics =
      dropped dropPanics (world.construct source kind value false) := by
  simp only [construct]
  generalize settle kind value ((world.moveIn kind).allocateRaw source kind.layout) = answer
  rw [dropped_calm]

theorem newObject_raised (found : world.arena? owner = some arena) (depth : Nat) (kind : Kind)
    (value : Value) :
    world.newObject owner kind value =
      raised arena.label (world.construct (.nested owner depth) kind value false) := by
  rw [newObject, allocate_raised ((arena?_moveIn world kind owner).trans found), settle_raised,
    construct, dropped_calm, allocateRaw_nested]
  rfl

theorem construct_unraised (world : World) (owner depth : Nat) (kind : Kind) (value : Value)
    (label : String) : Unraised label (world.construct (.nested owner depth) kind value false) := by
  rw [construct, dropped_calm, allocateRaw_nested]
  exact settle_unraised (tryBytes_unraised _ owner _ _ label) kind value

def cloneAll (kind : Kind) (values : List Value) (stop : Option Nat) :
    Except Failure Nat × World → Except Failure Nat × World
  | (.ok start, world) => world.cloneInto kind start values stop
  | (.error failure, world) => (.error failure, world)

theorem cloneAll_raised (kind : Kind) (values : List Value) (stop : Option Nat) (label : String)
    (answer : Except Failure Nat × World) :
    cloneAll kind values stop (raised label answer) =
      raised label (cloneAll kind values stop answer) := by
  obtain ⟨result, after⟩ := answer
  cases result with
  | error failure => rfl
  | ok start =>
    change after.cloneInto kind start values stop =
      raised label (after.cloneInto kind start values stop)
    simp only [cloneInto, fillSlots]
    split <;> rfl

theorem cloneAll_unraised {label : String} {answer : Except Failure Nat × World}
    (unraised : Unraised label answer) (kind : Kind) (values : List Value) (stop : Option Nat) :
    Unraised label (cloneAll kind values stop answer) := by
  obtain ⟨result, after⟩ := answer
  cases result with
  | error failure => exact unraised
  | ok start =>
    intro cause failed
    change (after.cloneInto kind start values stop).1 = _ at failed
    simp only [cloneInto, fillSlots] at failed
    split at failed <;> cases failed

section Slices

variable {kind : Kind} {values : List Value} (real : values.length * kind.size ≤ blockLimit)

include real

theorem allocateArray_real (world : World) (owner : Nat) :
    world.allocateArray owner kind values.length =
      world.allocate owner (kind.size * values.length) kind.align := by
  simp only [allocateArray, Arena.allocateArray, kind.array?_of_real real, allocate]

theorem newObjectsCopy_real (world : World) (owner : Nat) (stop : Option Nat) :
    world.newObjectsCopy owner kind values stop =
      cloneAll kind values stop (world.allocate owner (kind.size * values.length) kind.align) := by
  rw [newObjectsCopy, allocateArray_real real]
  generalize world.allocate owner (kind.size * values.length) kind.align = answer
  obtain ⟨result, after⟩ := answer
  cases result <;> rfl

theorem constructSlice_real (world : World) (owner depth : Nat) (stop : Option Nat) :
    world.constructSlice (.nested owner depth) kind values stop =
      cloneAll kind values stop (world.tryBytes owner (kind.size * values.length) kind.align) := by
  simp only [constructSlice, kind.array?_of_real real, allocateRaw_nested]
  change _ = cloneAll kind values stop (world.onArena owner _)
  generalize world.onArena owner _ = answer
  obtain ⟨result, after⟩ := answer
  cases result <;> rfl

theorem newObjectsCopy_raised (found : world.arena? owner = some arena) (depth : Nat)
    (stop : Option Nat) :
    world.newObjectsCopy owner kind values stop =
      raised arena.label (world.constructSlice (.nested owner depth) kind values stop) := by
  rw [newObjectsCopy_real real, constructSlice_real real, allocate_raised found, cloneAll_raised]

theorem constructSlice_unraised (world : World) (owner depth : Nat) (stop : Option Nat)
    (label : String) :
    Unraised label (world.constructSlice (.nested owner depth) kind values stop) := by
  rw [constructSlice_real real]
  exact cloneAll_unraised (tryBytes_unraised _ owner _ _ label) kind values stop

end Slices

end Calls

/-- What is left of copying a slice into reserved memory when the copy stops at a position. -/
structure Copied (reserved : World) (kind : Kind) (start : Nat) (values : List Value)
    (position : Nat) (after : World) : Prop where
  stored : ∀ i < position, ∀ value ∈ values[i]?,
    after.memory.load (start + i * kind.size) kind.size = kind.encode value
  counted : after.tally = reserved.tally.counting kind fun tally =>
    { tally with
      clones := tally.clones + position
      stores := tally.stores + position }
  undropped : after.tally.drops = reserved.tally.drops
  /-- Besides the elements and the counts, nothing changes after the reservation. -/
  elsewhere : ∀ address, address < start ∨ start + position * kind.size ≤ address →
    after.memory.read address = reserved.memory.read address
  framed : after = { reserved with memory := after.memory, tally := after.tally }

theorem cloneInto_copied (reserved : World) (kind : Kind) (start : Nat) (values : List Value)
    (stop : Option Nat) :
    let position := madeUntil stop values.length
    ∃ after, reserved.Copied kind start values position after ∧
      reserved.cloneInto kind start values stop =
        (if position = values.length then .ok start else .error (.panic .cloneRefused), after) := by
  intro position
  have number : (values.take position).length = position :=
    List.length_take_of_le (Nat.min_le_left _ _)
  have size : ((values.take position).flatMap kind.encode).length = position * kind.size := by
    rw [kind.length_encoded_array, number]
  refine ⟨(reserved.store kind start (values.take position)).count kind fun tally =>
    { tally with clones := tally.clones + position }, ?_, ?_⟩
  · have memory : ((reserved.store kind start (values.take position)).count kind fun tally =>
        { tally with clones := tally.clones + position }).memory =
          reserved.memory.store start ((values.take position).flatMap kind.encode) := by
      simp only [count_eq, store]
    have tally : ((reserved.store kind start (values.take position)).count kind fun tally =>
        { tally with clones := tally.clones + position }).tally =
          reserved.tally.counting kind fun tally =>
            { tally with
              clones := tally.clones + position
              stores := tally.stores + position } := by
      simp only [count_eq, store, number, Tally.counting]
      split <;> rfl
    refine ⟨?_, tally, ?_, ?_, ?_⟩
    · intro i below value there
      rw [memory, Memory.load_store]
      · exact kind.encoded_array_element (by rw [List.getElem?_take_of_lt below]; exact there)
      · rw [size]
        calc i * kind.size + kind.size = (i + 1) * kind.size := (Nat.succ_mul i kind.size).symm
          _ ≤ position * kind.size := Nat.mul_le_mul_right kind.size below
    · rw [tally, Tally.counting]
      split <;> rfl
    · intro address outside
      rw [memory]
      exact Memory.read_store_outside _ (by rw [size]; exact outside)
    · simp only [count_eq, store]
  · simp only [cloneInto, fillSlots]
    split <;> rfl

end World

def Arena.Reserves (arena : Arena) (start size : Nat) : Prop :=
  ∃ chunk ∈ arena.chunks.head?,
    chunk.start ≤ start ∧ start + size = arena.cursor.next ∧ arena.cursor.next ≤ chunk.finish

theorem Arena.Answers.reserves {arena : Arena} {profile : Profile} {size align start : Nat}
    {reply : Reply Nat} (answers : arena.Answers profile size align reply)
    (consistent : arena.Consistent) (served : reply.result = .ok start) :
    reply.arena.Reserves start size := by
  obtain ⟨mid, effects, spill, ⟨failure, same⟩ | ⟨first, offers, same⟩⟩ := answers
  · rw [same] at served
    cases served
  · rw [same] at served ⊢
    cases served
    have seated := (spill.changes.consistent consistent).seated
    have low := offers.low
    have high := offers.high
    cases stack : mid.chunks with
    | nil => exact absurd stack offers.some_chunk
    | cons chunk rest =>
      rw [stack] at seated
      obtain ⟨_, limit, above, _⟩ := seated
      refine ⟨chunk, ?_, Nat.le_trans above low, rfl, ?_⟩
      · rw [Option.mem_def]
        exact congrArg List.head? stack
      · rw [← limit]
        exact high

theorem World.SoundIfProvided.tryBytes_reserves {world : World}
    (soundIf : world.SoundIfProvided) {owner : Nat}
    {arena : Arena} (found : world.arena? owner = some arena) {size align start : Nat}
    {reserved : World} (done : world.tryBytes owner size align = (.ok start, reserved))
    (provided : Provided reserved.traffic) :
    ∃ later, reserved.arena? owner = some later ∧ later.Reserves start size := by
  have grown := world.onArena_suffix owner fun arena env => arena.tryAllocate env size align
  obtain ⟨skew, answer, left⟩ := World.onArena_self found fun arena env =>
    arena.tryAllocate env size align
  rw [World.tryBytes] at done
  rw [done] at grown answer left
  have consistent := (soundIf (provided_of_suffix provided grown) owner arena found).consistent
  have answers := arena.tryAllocate_answers consistent (world.env skew) size align
  exact ⟨_, left, answers.reserves consistent answer.symm⟩

theorem World.construct_encoded {world after : World} {source : Source} {kind : Kind}
    {value : Value} {dropPanics : Bool} {start : Nat}
    (done : world.construct source kind value dropPanics = (.ok start, after)) :
    after.memory.load start kind.size = kind.encode value := by
  unfold construct at done
  generalize (world.moveIn kind).allocateRaw source kind.layout = answer at done
  obtain ⟨result, reserved⟩ := answer
  cases result with
  | error failure => cases failure <;> cases done
  | ok first =>
    cases done
    obtain ⟨tally, same⟩ := reserved.store_eq kind start [value]
    have whole : [value].flatMap kind.encode = kind.encode value := by simp
    have size : 0 + kind.size ≤ (kind.encode value).length := by
      rw [kind.length_encode, Nat.zero_add]
    have read := reserved.memory.load_store start (kind.encode value) size
    rw [List.drop_zero, List.take_of_length_le (kind.length_encode value).le] at read
    rw [same, whole]
    exact read

/-- The two interfaces of an arena, behind any number of references. -/
structure Interchangeable (world : World) (owner : Nat) (arena : Arena) : Prop where
  raw : ∀ depth layout, world.allocateRaw (.nested owner depth) layout =
    world.tryBytes owner layout.size layout.align
  bytes : ∀ size align, Raises arena.label (world.allocate owner size align)
    (world.tryBytes owner size align)
  object : ∀ depth kind value, Raises arena.label (world.newObject owner kind value)
    (world.construct (.nested owner depth) kind value false)
  /-- A destructor that panics is met only where the other interface answers with an error. -/
  dropping : ∀ depth kind value, world.construct (.nested owner depth) kind value true =
    World.dropped true (world.construct (.nested owner depth) kind value false)
  encoded : ∀ depth kind value dropPanics start after,
    world.construct (.nested owner depth) kind value dropPanics = (.ok start, after) →
      after.memory.load start kind.size = kind.encode value
  objects : ∀ depth kind values stop, values.length * kind.size ≤ blockLimit →
    Raises arena.label (world.newObjectsCopy owner kind values stop)
      (world.constructSlice (.nested owner depth) kind values stop)
  /-- Once the array is reserved, both copy alike, up to the first clone that panics, and what is
  reserved stays reserved. -/
  copied : ∀ depth kind values, values.length * kind.size ≤ blockLimit → ∀ start reserved,
    world.tryBytes owner (values.length * kind.size) kind.align = (.ok start, reserved) →
      ∀ stop, ∃ outcome after, world.newObjectsCopy owner kind values stop = (outcome, after) ∧
        world.constructSlice (.nested owner depth) kind values stop = (outcome, after) ∧
        outcome =
          (if World.madeUntil stop values.length = values.length then .ok start
            else .error (.panic .cloneRefused)) ∧
        reserved.Copied kind start values (World.madeUntil stop values.length) after ∧
        (Provided reserved.traffic → ∃ later, after.arena? owner = some later ∧
          later.Reserves start (values.length * kind.size))

/-- The two interfaces of every arena that was reached agree, whatever is asked for. -/
theorem interfaces_agree (profile : Profile) (site : Site) (logs : Logs) (actions : List Action)
    (owner : Nat) {arena : Arena}
    (found : ((World.new profile site logs).run actions).arena? owner = some arena) :
    Interchangeable ((World.new profile site logs).run actions) owner arena := by
  have soundIf := (World.new_soundIfProvided profile site logs).run actions
  generalize (World.new profile site logs).run actions = world at *
  refine ⟨?_, ?_, ?_, ?_, ?_, ?_, ?_⟩
  · exact fun depth layout => world.allocateRaw_nested owner depth layout
  · intro size align
    rw [World.allocate_raised found]
    exact (world.tryBytes_unraised owner size align arena.label).raises
  · intro depth kind value
    rw [World.newObject_raised found depth]
    exact (world.construct_unraised owner depth kind value arena.label).raises
  · exact fun depth kind value => world.construct_eq (.nested owner depth) kind value true
  · exact fun depth kind value dropPanics start after => World.construct_encoded
  · intro depth kind values stop real
    rw [World.newObjectsCopy_raised real found depth]
    exact (World.constructSlice_unraised real world owner depth stop arena.label).raises
  · intro depth kind values real start reserved done stop
    have direct : world.allocate owner (kind.size * values.length) kind.align =
        (.ok start, reserved) := by
      rw [World.allocate_raised found, Nat.mul_comm, done]
      rfl
    obtain ⟨after, copied, same⟩ := reserved.cloneInto_copied kind start values stop
    refine ⟨_, after, ?_, ?_, rfl, copied, ?_⟩
    · rw [World.newObjectsCopy_real real, direct]
      exact same
    · rw [World.constructSlice_real real, Nat.mul_comm, done]
      exact same
    · intro provided
      obtain ⟨later, left, reserves⟩ := soundIf.tryBytes_reserves found done provided
      refine ⟨later, ?_, reserves⟩
      rw [copied.framed]
      exact left

def faulty : List Value := [[1], [2], [2], [4]]

/-- In an arena with three bytes taken, both interfaces leave two clones of a slice of four when the
third clone panics. -/
theorem faulty_copies_agree :
    let world := (World.new .debug pagedSite (Logs.empty none)).run
      [.create ⟨"desk", 64⟩ 0, .place 0 (.bytes 3 1)]
    ∃ arena, world.arena? 0 = some arena ∧ Interchangeable world 0 arena ∧
      (world.newObjectsCopy 0 .token faulty (some 2)).1 = .error (.panic .cloneRefused) ∧
      (world.constructSlice (.nested 0 3) .token faulty (some 2)).1 =
        .error (.panic .cloneRefused) ∧
      ((world.newObjectsCopy 0 .token faulty (some 2)).2.arena? 0).map Arena.remaining = some 44 ∧
      (world.constructSlice (.nested 0 3) .token faulty (some 2)).2.tally.clones = 2 := by
  intro world
  have present : (world.arena? 0).isSome = true := by decide +kernel
  obtain ⟨arena, found⟩ := Option.isSome_iff_exists.mp present
  exact ⟨arena, found, interfaces_agree .debug pagedSite (Logs.empty none) _ 0 found,
    by decide +kernel, by decide +kernel, by decide +kernel, by decide +kernel⟩

end ChunkArena
