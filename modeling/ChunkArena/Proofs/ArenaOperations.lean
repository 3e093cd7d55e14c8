import ChunkArena.Proofs.ArenaChanges

/-!
One lemma for each operation of an arena: what it answers, what it leaves behind and what it does on
the way, in a consistent arena. The walks through the stack need that the chunks together have fewer
bytes than there are addresses, which the system guarantees.
-/

namespace ChunkArena

theorem Env.conclude_cases (env : Env) (arena : Arena) (effects : List Effect) (entry : Report) :
    (∃ cause, env.complaint entry.level = some cause ∧
      env.conclude arena effects entry =
        ⟨.error (.panic cause), arena, effects ++ [.report arena.label entry]⟩) ∨
    (env.complaint entry.level = none ∧
      env.conclude arena effects entry =
        ⟨.ok (), arena, effects ++ [.report arena.label entry]⟩) := by
  unfold Env.conclude Env.afterReport
  cases loud : env.complaint entry.level with
  | none => exact Or.inr ⟨rfl, rfl⟩
  | some cause => exact Or.inl ⟨cause, rfl, rfl⟩

/-- The part of that many disable guards that an arena counts. -/
def Profile.counted (profile : Profile) (guards : Nat) : Nat := if profile.checks then guards else 0

namespace Arena

/-- What an allocation does before it hands out bytes, or instead. -/
inductive Spill (profile : Profile) (arena : Arena) : List Effect → Arena → Prop where
  | idle : Spill profile arena [] arena
  | bounce (chunk : Chunk) (nonempty : 0 < chunk.capacity) (strict : profile.checks = true)
      (full : wordLimit ≤ arena.nextSerial + 1) :
      Spill profile arena [.obtain chunk, .giveBack chunk] arena
  | extend (chunk : Chunk) (entry : Report) (link : chunk.previous = arena.cursor.chunk)
      (serial : chunk.serial = arena.nextSerial) (nonempty : 0 < chunk.capacity)
      (counted : profile.checks = true → arena.nextSerial + 1 < wordLimit) :
      Spill profile arena [.obtain chunk, .report arena.label entry] (arena.extended chunk)

theorem Spill.length_le {profile : Profile} {arena after : Arena} {effects : List Effect}
    (spill : Spill profile arena effects after) : arena.chunks.length ≤ after.chunks.length := by
  cases spill with
  | idle | bounce => exact Nat.le_refl _
  | extend => exact Nat.le_succ _

theorem Spill.changes {profile : Profile} {arena after : Arena} {effects : List Effect}
    (spill : Spill profile arena effects after) : Changes profile arena effects after := by
  cases spill with
  | idle => exact .refl arena
  | bounce chunk nonempty strict full =>
    exact (Change.bounce arena chunk nonempty strict full).single
  | extend chunk entry link serial nonempty counted =>
    exact .step (.extend arena chunk link serial nonempty counted)
      (Change.report (arena.extended chunk) arena.label entry).single

structure Offers (arena : Arena) (start size align : Nat) : Prop where
  some_chunk : arena.chunks ≠ []
  low : arena.cursor.next ≤ start
  high : start + size ≤ arena.cursor.limit
  aligned : align ∣ start

theorem Offers.change {arena : Arena} {start size align : Nat}
    (offers : arena.Offers start size align) (profile : Profile) :
    Change profile arena (profile.handOut start size) (arena.movedTo (start + size)) :=
  .advance arena start size offers.some_chunk offers.low offers.high

/-- The answer to a request for memory: an error, or bytes that the arena offers after a spill. -/
def Answers (arena : Arena) (profile : Profile) (size align : Nat) (reply : Reply Nat) : Prop :=
  ∃ mid effects, Spill profile arena effects mid ∧
    ((∃ failure, reply = ⟨.error failure, mid, effects⟩) ∨
      ∃ start, mid.Offers start size align ∧
        reply = ⟨.ok start, mid.movedTo (start + size), effects ++ profile.handOut start size⟩)

theorem bump_cases {arena : Arena} (consistent : arena.Consistent) (profile : Profile)
    (size : Nat) {align : Nat} (positive : 0 < align) :
    arena.bump profile size align = .ok none ∨
      ∃ start, arena.Offers start size align ∧
        arena.bump profile size align =
          .ok (some (start, { arena.cursor with next := start + size })) := by
  have bound := consistent.limit_bound
  cases names : arena.cursor.chunk with
  | none => exact Or.inl (by simp [bump, names])
  | some handle =>
    by_cases huge : wordLimit ≤ padding arena.cursor.next align + size
    · exact Or.inl (by simp [bump, names, huge])
    · by_cases tight :
          arena.cursor.limit - arena.cursor.next < padding arena.cursor.next align + size
      · exact Or.inl (by simp [bump, names, huge, profile.sub_ok bound, tight])
      · refine Or.inr ⟨roundUp arena.cursor.next align, ⟨?_, le_roundUp _ _, ?_, ?_⟩, ?_⟩
        · intro empty
          have top := consistent.chunk_eq
          simp [empty, topHandle, names] at top
        · simp only [roundUp]
          omega
        · exact dvd_roundUp _ positive
        · simp [bump, names, huge, profile.sub_ok bound, tight]

theorem add_one_cases (profile : Profile) (n : Nat) :
    (profile.add n 1 = .error .addOverflow ∧ profile.checks = true ∧ wordLimit ≤ n + 1) ∨
      (profile.add n 1 = .ok ((n + 1) % wordLimit) ∧
        (profile.checks = true → n + 1 < wordLimit)) := by
  unfold Profile.add
  by_cases small : n + 1 < wordLimit
  · rw [if_pos small, Nat.mod_eq_of_lt small]
    exact Or.inr ⟨rfl, fun _ => small⟩
  · rw [if_neg small]
    by_cases strict : profile.checks = true
    · rw [if_pos strict]
      exact Or.inl ⟨rfl, strict, Nat.le_of_not_lt small⟩
    · rw [if_neg strict]
      exact Or.inr ⟨rfl, fun checks => absurd checks strict⟩

theorem append_of_shape {arena : Arena} {env : Env}
    (counted : env.profile.checks = true → arena.nextSerial + 1 < wordLimit)
    {size align : Nat} {layout : Layout}
    (shape : Layout.ofSizeAlign? (max (max arena.chunkCapacity size) 1) (max align chunkAlign) =
      some layout) :
    arena.append env size align =
      env.conclude
        (arena.extended ⟨arena.cursor.chunk, arena.nextSerial, env.site layout, layout⟩)
        [.obtain ⟨arena.cursor.chunk, arena.nextSerial, env.site layout, layout⟩]
        (.appended arena.chunks.length layout.size) := by
  rcases add_one_cases env.profile arena.nextSerial with ⟨_, strict, full⟩ | ⟨added, _⟩
  · exact absurd (counted strict) (Nat.not_lt.mpr full)
  · simp only [append, shape, added, extended]
    rfl

theorem append_cases (arena : Arena) (env : Env) (size align : Nat) :
    ∃ mid effects, Spill env.profile arena effects mid ∧
      ((∃ failure, arena.append env size align = ⟨.error failure, mid, effects⟩) ∨
        (∃ chunk, mid = arena.extended chunk) ∧
          arena.append env size align = ⟨.ok (), mid, effects⟩) := by
  cases shape : Layout.ofSizeAlign? (max (max arena.chunkCapacity size) 1)
      (max align chunkAlign) with
  | none =>
    refine ⟨arena, [], .idle,
      Or.inl ⟨.error (.sizeOverflow (max arena.chunkCapacity size) align), ?_⟩⟩
    simp only [append, shape]
  | some layout =>
    obtain ⟨same, _⟩ := Layout.ofSizeAlign?_eq_some_iff.mp shape
    let chunk : Chunk := ⟨arena.cursor.chunk, arena.nextSerial, env.site layout, layout⟩
    have nonempty : 0 < chunk.capacity := by
      simp only [chunk, Chunk.capacity, same]
      omega
    rcases add_one_cases env.profile arena.nextSerial with
      ⟨overflow, strict, full⟩ | ⟨_, small⟩
    · refine ⟨arena, [.obtain chunk, .giveBack chunk], .bounce chunk nonempty strict full,
        Or.inl ⟨.panic .addOverflow, ?_⟩⟩
      simp only [append, shape, overflow, chunk]
    · have unfolded : arena.append env size align =
          env.conclude (arena.extended chunk) [.obtain chunk]
            (.appended arena.chunks.length chunk.capacity) := append_of_shape small shape
      rcases env.conclude_cases (arena.extended chunk) [.obtain chunk]
          (.appended arena.chunks.length chunk.capacity) with ⟨cause, _, failed⟩ | ⟨_, done⟩
      · exact ⟨_, _, .extend chunk _ rfl rfl nonempty small,
          Or.inl ⟨.panic cause, unfolded.trans failed⟩⟩
      · exact ⟨_, _, .extend chunk _ rfl rfl nonempty small,
          Or.inr ⟨⟨chunk, rfl⟩, unfolded.trans done⟩⟩

theorem reserve_answers {arena : Arena} (consistent : arena.Consistent) (env : Env) (size : Nat)
    {align : Nat} (positive : 0 < align) :
    arena.Answers env.profile size align (arena.reserve env size align) := by
  rcases bump_cases consistent env.profile size positive with full | ⟨start, offers, fits⟩
  · obtain ⟨mid, effects, spill, outcome⟩ := append_cases arena env size align
    refine ⟨mid, effects, spill, ?_⟩
    rcases outcome with ⟨failure, failed⟩ | ⟨_, appended⟩
    · exact Or.inl ⟨failure, by simp [reserve, full, failed]⟩
    · have consistent_mid := spill.changes.consistent consistent
      rcases bump_cases consistent_mid env.profile size positive with full' | ⟨start, offers, fits⟩
      · exact Or.inl ⟨_, by simp [reserve, full, appended, full']; rfl⟩
      · exact Or.inr ⟨start, offers, by simp [reserve, full, appended, fits, movedTo]⟩
  · exact ⟨arena, [], .idle, Or.inr ⟨start, offers, by simp [reserve, fits, movedTo]⟩⟩

theorem tryAllocate_answers {arena : Arena} (consistent : arena.Consistent) (env : Env)
    (size align : Nat) :
    arena.Answers env.profile size align (arena.tryAllocate env size align) := by
  by_cases off : (env.profile.checks && arena.isDisabled) = true
  · exact ⟨arena, [], .idle, Or.inl ⟨.panic (.disabled arena.label), by simp [tryAllocate, off]⟩⟩
  · by_cases power : isPowerOfTwo align = true
    · obtain ⟨k, same⟩ := (isPowerOfTwo_iff align).mp power
      have positive : 0 < align := by
        rw [same]
        exact Nat.two_pow_pos k
      have answers := reserve_answers consistent env size positive
      rwa [tryAllocate, if_neg off, if_pos power]
    · exact ⟨arena, [], .idle, Or.inl ⟨.error (.invalidAlignment align),
        by simp [tryAllocate, off, power]⟩⟩

theorem allocate_answers {arena : Arena} (consistent : arena.Consistent) (env : Env)
    (size align : Nat) :
    arena.Answers env.profile size align (arena.allocate env size align) := by
  obtain ⟨mid, effects, spill, outcome⟩ := tryAllocate_answers consistent env size align
  refine ⟨mid, effects, spill, ?_⟩
  rcases outcome with ⟨failure, failed⟩ | ⟨start, offers, done⟩
  · cases failure with
    | error cause =>
      exact Or.inl ⟨.panic (.refused arena.label cause), by simp [allocate, failed]⟩
    | panic cause => exact Or.inl ⟨.panic cause, by simp [allocate, failed]⟩
    | refused cause => exact Or.inl ⟨.refused cause, by simp [allocate, failed]⟩
  · exact Or.inr ⟨start, offers, by simp [allocate, done]⟩

theorem Answers.changes {arena : Arena} {profile : Profile} {size align : Nat}
    {reply : Reply Nat} (answers : arena.Answers profile size align reply) :
    Changes profile arena reply.effects reply.arena := by
  obtain ⟨mid, effects, spill, ⟨failure, failed⟩ | ⟨start, offers, done⟩⟩ := answers
  · rw [failed]
    exact spill.changes
  · rw [done]
    exact spill.changes.trans (offers.change profile).single

theorem Answers.counts {arena : Arena} {profile : Profile} {size align : Nat} {reply : Reply Nat}
    (answers : arena.Answers profile size align reply) :
    reply.arena.label = arena.label ∧ reply.arena.disabled = arena.disabled ∧
      reply.arena.nextSerial ≤ arena.nextSerial + 1 := by
  obtain ⟨mid, effects, spill, outcome⟩ := answers
  have counts : mid.label = arena.label ∧ mid.disabled = arena.disabled ∧
      mid.nextSerial ≤ arena.nextSerial + 1 := by
    cases spill with
    | idle | bounce => exact ⟨rfl, rfl, Nat.le_succ _⟩
    | extend => exact ⟨rfl, rfl, Nat.mod_le _ _⟩
  rcases outcome with ⟨failure, failed⟩ | ⟨start, _, done⟩
  · rw [failed]
    exact counts
  · rw [done]
    exact counts

structure Stretches (arena : Arena) (start old new elementSize : Nat) : Prop where
  some_chunk : arena.chunks ≠ []
  inside : ∀ chunk, arena.chunks.head? = some chunk → chunk.start ≤ start
  ordered : old ≤ new
  ends : start + old * elementSize = arena.cursor.next
  room : start + new * elementSize ≤ arena.cursor.limit

theorem grow_forms {arena : Arena} (consistent : arena.Consistent) (env : Env)
    (start old new elementSize : Nat) :
    (arena.isDisabled = true ∧ arena.grow env start old new elementSize =
      ⟨.error (.panic (.disabled arena.label)), arena, []⟩) ∨
    (¬ (arena.Stretches start old new elementSize ∧ new * elementSize < wordLimit ∧
        arena.cursor.next < wordLimit) ∧
      arena.grow env start old new elementSize = ⟨.ok false, arena, []⟩) ∨
    (arena.Stretches start old new elementSize ∧
      arena.grow env start old new elementSize =
        ⟨.ok true, arena.movedTo (start + new * elementSize),
          env.profile.handOut (start + old * elementSize)
            (new * elementSize - old * elementSize)⟩) := by
  have bound := consistent.limit_bound
  by_cases off : (env.profile.checks && arena.isDisabled) = true
  · exact Or.inl ⟨(Bool.and_eq_true_iff.mp off).2, by simp [grow, off]⟩
  refine Or.inr ?_
  by_cases shorter : new < old
  · refine Or.inl ⟨?_, by simp [grow, off, shorter]⟩
    exact fun both => absurd shorter (Nat.not_lt.mpr both.1.ordered)
  have longer : old * elementSize ≤ new * elementSize :=
    Nat.mul_le_mul_right elementSize (Nat.le_of_not_lt shorter)
  by_cases huge : wordLimit ≤ old * elementSize ∨ wordLimit ≤ new * elementSize
  · refine Or.inl ⟨?_, by simp [grow, off, shorter, huge]⟩
    rintro ⟨_, small, _⟩
    omega
  cases stack : arena.chunks with
  | nil =>
    have nowhere : arena.cursor.chunk = none := by rw [consistent.chunk_eq, stack]; rfl
    refine Or.inl ⟨?_, by simp [grow, off, shorter, huge, nowhere]⟩
    exact fun both => both.1.some_chunk stack
  | cons chunk rest =>
    have names : arena.cursor.chunk = some ⟨rest.length, chunk.serial⟩ := by
      rw [consistent.chunk_eq, stack, topHandle_cons]
    have found : arena.chunkAt? rest.length = some chunk := by
      rw [chunkAt?, stack]
      exact reverse_getElem?_top chunk rest
    by_cases astray : start < chunk.start ∨ wordLimit ≤ start + old * elementSize ∨
        start + old * elementSize ≠ arena.cursor.next
    · refine Or.inl ⟨?_,
        by simp only [grow, off, shorter, huge, names, found, astray, ↓reduceIte]; rfl⟩
      rintro ⟨stretches, _, small⟩
      have inside := stretches.inside chunk (by rw [stack]; rfl)
      have ends := stretches.ends
      omega
    by_cases tight : arena.cursor.limit - arena.cursor.next <
        new * elementSize - old * elementSize
    · refine Or.inl ⟨?_,
        by simp only [grow, off, shorter, huge, names, found, astray, ↓reduceIte,
          Profile.sub_ok _ longer, Profile.sub_ok _ bound, tight]; rfl⟩
      rintro ⟨stretches, _⟩
      have ends := stretches.ends
      have room := stretches.room
      omega
    · have ends : start + old * elementSize = arena.cursor.next := by omega
      have reached : arena.cursor.next + (new * elementSize - old * elementSize) =
          start + new * elementSize := by omega
      refine Or.inr ⟨⟨by simp [stack], ?_, by omega, ends, by omega⟩, ?_⟩
      · intro top same
        rw [stack] at same
        cases same
        omega
      · rw [ends] at astray
        simp only [grow, off, shorter, huge, names, found, ends, astray, ↓reduceIte,
          Profile.sub_ok _ longer, Profile.sub_ok _ bound, tight, reached, movedTo]
        rfl

theorem grow_cases {arena : Arena} (consistent : arena.Consistent) (env : Env)
    (start old new elementSize : Nat) :
    (∃ result, result ≠ .ok true ∧
      arena.grow env start old new elementSize = ⟨result, arena, []⟩) ∨
    (arena.Stretches start old new elementSize ∧
      arena.grow env start old new elementSize =
        ⟨.ok true, arena.movedTo (start + new * elementSize),
          env.profile.handOut (start + old * elementSize)
            (new * elementSize - old * elementSize)⟩) := by
  rcases grow_forms consistent env start old new elementSize with
    ⟨_, stopped⟩ | ⟨_, refused⟩ | grown
  · exact Or.inl ⟨_, by simp, stopped⟩
  · exact Or.inl ⟨_, by simp, refused⟩
  · exact Or.inr grown

theorem Stretches.change {arena : Arena} {start old new elementSize : Nat}
    (stretches : arena.Stretches start old new elementSize) (profile : Profile) :
    Change profile arena
      (profile.handOut (start + old * elementSize) (new * elementSize - old * elementSize))
      (arena.movedTo (start + new * elementSize)) := by
  have longer : old * elementSize ≤ new * elementSize :=
    Nat.mul_le_mul_right elementSize stretches.ordered
  have reached : start + old * elementSize + (new * elementSize - old * elementSize) =
      start + new * elementSize := by omega
  have change : Change profile arena _ _ :=
    .advance arena (start + old * elementSize) (new * elementSize - old * elementSize)
      stretches.some_chunk (Nat.le_of_eq stretches.ends.symm)
      (by rw [reached]; exact stretches.room)
  rwa [reached] at change

theorem deallocate_cases (arena : Arena) (env : Env) (address : Nat) (layout : Layout) :
    (arena.deallocate env address layout = ⟨.error (.error .notFromAllocator), arena, []⟩) ∨
      arena.deallocate env address layout =
        ⟨.ok (), arena, env.profile.discard address layout.size⟩ := by
  unfold deallocate
  split
  · exact Or.inl rfl
  · exact Or.inr rfl

theorem disable_cases (arena : Arena) (profile : Profile) :
    (arena.disable profile = ⟨.error (.panic .addOverflow), arena, []⟩) ∨
      arena.disable profile =
        ⟨.ok (), { arena with disabled := arena.disabled + profile.counted 1 }, []⟩ := by
  unfold disable Profile.counted
  split
  · rename_i checks
    rcases add_one_cases profile arena.disabled with ⟨overflow, _⟩ | ⟨counted, small⟩
    · exact Or.inl (by simp only [overflow])
    · rw [Nat.mod_eq_of_lt (small checks)] at counted
      exact Or.inr (by simp only [counted])
  · exact Or.inr rfl

theorem enable_cases (arena : Arena) (profile : Profile) :
    (profile.checks = true ∧ arena.disabled = 0 ∧ arena.enable profile =
        ⟨.error (.panic (.assertionFailed "assertion failed: count > 0")), arena, []⟩) ∨
      arena.enable profile =
        ⟨.ok (), { arena with disabled := arena.disabled - profile.counted 1 }, []⟩ := by
  unfold enable Profile.counted
  split
  · rename_i checks
    split
    · rename_i none_left
      exact Or.inl ⟨checks, none_left, rfl⟩
    · exact Or.inr rfl
  · exact Or.inr rfl

end Arena

/-- An operation that has done its work ends with at most a report, and fails only if that report
panics. -/
inductive Env.Closes (env : Env) (arena : Arena) (effects : List Effect) : Reply Unit → Prop where
  | silent : Closes env arena effects ⟨.ok (), arena, effects⟩
  | told (entry : Report) (quiet : env.complaint entry.level = none) :
      Closes env arena effects ⟨.ok (), arena, effects ++ [.report arena.label entry]⟩
  | failed (entry : Report) (cause : Panic) (loud : env.complaint entry.level = some cause) :
      Closes env arena effects
        ⟨.error (.panic cause), arena, effects ++ [.report arena.label entry]⟩

theorem Env.conclude_closes (env : Env) (arena : Arena) (effects : List Effect) (entry : Report) :
    env.Closes arena effects (env.conclude arena effects entry) := by
  rcases env.conclude_cases arena effects entry with ⟨cause, loud, failed⟩ | ⟨quiet, told⟩
  · rw [failed]
    exact .failed entry cause loud
  · rw [told]
    exact .told entry quiet

theorem Env.closes_ite (env : Env) (arena : Arena) (effects : List Effect) (entry : Report)
    (nothing : Prop) [Decidable nothing] :
    env.Closes arena effects
      (if nothing then ⟨.ok (), arena, effects⟩ else env.conclude arena effects entry) := by
  split
  · exact .silent
  · exact env.conclude_closes arena effects entry

theorem Env.conclude_unless (env : Env) (arena : Arena) (effects : List Effect) (entry : Report)
    (nothing : Prop) [Decidable nothing] {reply : Reply Unit}
    (same : reply =
      if nothing then ⟨.ok (), arena, effects⟩ else env.conclude arena effects entry) :
    reply.arena = arena ∧
      (reply.result = .ok () ∨ ¬ nothing ∧ ∃ cause, env.complaint entry.level = some cause ∧
        reply.result = .error (.panic cause)) := by
  by_cases quiet : nothing
  · rw [same, if_pos quiet]
    exact ⟨rfl, Or.inl rfl⟩
  · rw [same, if_neg quiet]
    rcases env.conclude_cases arena effects entry with ⟨cause, loud, failed⟩ | ⟨_, told⟩
    · rw [failed]
      exact ⟨rfl, Or.inr ⟨quiet, cause, loud, rfl⟩⟩
    · rw [told]
      exact ⟨rfl, Or.inl rfl⟩

theorem Env.Closes.arena_eq {env : Env} {arena : Arena} {effects : List Effect}
    {reply : Reply Unit} (closes : env.Closes arena effects reply) : reply.arena = arena := by
  cases closes <;> rfl

theorem Env.Closes.changes {env : Env} {first arena : Arena} {effects : List Effect}
    {reply : Reply Unit} (closes : env.Closes arena effects reply)
    (changes : Arena.Changes env.profile first effects arena) :
    Arena.Changes env.profile first reply.effects reply.arena := by
  cases closes with
  | silent => exact changes
  | told entry | failed entry =>
      exact changes.trans (Arena.Change.report arena arena.label entry).single

namespace Arena

theorem freeAll_eq {arena : Arena} (consistent : arena.Consistent)
    (small : totalCapacity arena.chunks < wordLimit) (profile : Profile) :
    arena.freeAll profile =
      ⟨.ok (arena.chunks.length, totalCapacity arena.chunks), arena.emptied arena.generation,
        arena.chunks.flatMap profile.surrender⟩ := by
  have few := length_le_totalCapacity consistent.nonempty
  have sweep := sweepLinks_linked profile consistent.linked 0 0 (by omega) (by omega)
  simp [freeAll, consistent.chunk_eq, sweep, emptied]

theorem release_eq {arena : Arena} (consistent : arena.Consistent)
    (small : totalCapacity arena.chunks < wordLimit) (env : Env) :
    arena.release env =
      if arena.chunks.length = 0 then
        ⟨.ok (), arena.emptied ((arena.generation + 1) % wordLimit),
          arena.chunks.flatMap env.profile.surrender⟩
      else
        env.conclude (arena.emptied ((arena.generation + 1) % wordLimit))
          (arena.chunks.flatMap env.profile.surrender)
          (.released arena.chunks.length (totalCapacity arena.chunks)) := by
  have freed := freeAll_eq consistent small env.profile
  simp only [release, freed, emptied]

theorem release_closes {arena : Arena} (consistent : arena.Consistent)
    (small : totalCapacity arena.chunks < wordLimit) (env : Env) :
    env.Closes (arena.emptied ((arena.generation + 1) % wordLimit))
      (arena.chunks.flatMap env.profile.surrender) (arena.release env) := by
  rw [release_eq consistent small env]
  exact env.closes_ite _ _ _ _

theorem rewind_of_bare {arena : Arena} (consistent : arena.Consistent)
    (small : totalCapacity arena.chunks < wordLimit) (env : Env) {snapshot : Snapshot}
    (bare : snapshot.cursor.chunk = none) :
    arena.rewind env snapshot =
      if arena.chunks.length = 0 then
        ⟨.ok (), arena.emptied arena.generation, arena.chunks.flatMap env.profile.surrender⟩
      else
        env.conclude (arena.emptied arena.generation) (arena.chunks.flatMap env.profile.surrender)
          (.emptied arena.chunks.length) := by
  have freed := freeAll_eq consistent small env.profile
  simp only [rewind, bare, restoreEmpty, freed]

theorem rewind_of_live {arena : Arena} (consistent : arena.Consistent)
    (small : totalCapacity arena.chunks < wordLimit) (env : Env) {snapshot : Snapshot}
    {handle : Handle} {chunk : Chunk} (names : snapshot.cursor.chunk = some handle)
    (live : arena.liveChunk? handle = some chunk) (limit : snapshot.cursor.limit = chunk.finish)
    (low : chunk.start ≤ snapshot.cursor.next)
    (high : snapshot.cursor.next ≤ snapshot.cursor.limit) :
    arena.rewind env snapshot =
      if arena.chunks.length - (handle.index + 1) = 0 then
        ⟨.ok (), arena.fallenBack snapshot.cursor (handle.index + 1),
          arena.clearing env.profile snapshot.cursor handle ++
            (arena.above (handle.index + 1)).flatMap env.profile.surrender⟩
      else
        env.conclude (arena.fallenBack snapshot.cursor (handle.index + 1))
          (arena.clearing env.profile snapshot.cursor handle ++
            (arena.above (handle.index + 1)).flatMap env.profile.surrender)
          (.reactivated (arena.chunks.length - (handle.index + 1)) handle.index) := by
  have few := length_le_totalCapacity consistent.nonempty
  have sweep := sweepAbove_linked env.profile (Nat.succ_pos handle.index) consistent.linked
    0 (by omega)
  rw [Nat.zero_add] at sweep
  have own : ¬ (snapshot.cursor.limit ≠ chunk.finish ∨ snapshot.cursor.next < chunk.start ∨
      snapshot.cursor.limit < snapshot.cursor.next) := by omega
  simp only [rewind, names, live, restore, own, sweep, ↓reduceIte, fallenBack, clearing, above]

/-- The ways in which a rewind can go. -/
inductive Rewinds (arena : Arena) (env : Env) (snapshot : Snapshot) (reply : Reply Unit) :
    Prop where
  | refused (cause : Panic) (same : reply = ⟨.error (.panic cause), arena, []⟩)
  | bare (names : snapshot.cursor.chunk = none)
      (closes : env.Closes (arena.emptied arena.generation)
        (arena.chunks.flatMap env.profile.surrender) reply)
  | live (handle : Handle) (chunk : Chunk) (names : snapshot.cursor.chunk = some handle)
      (live : arena.liveChunk? handle = some chunk) (limit : snapshot.cursor.limit = chunk.finish)
      (low : chunk.start ≤ snapshot.cursor.next)
      (high : snapshot.cursor.next ≤ snapshot.cursor.limit)
      (closes : env.Closes (arena.fallenBack snapshot.cursor (handle.index + 1))
        (arena.clearing env.profile snapshot.cursor handle ++
          (arena.above (handle.index + 1)).flatMap env.profile.surrender) reply)
  | unwarned (handle : Handle) (cause : Panic) (names : snapshot.cursor.chunk = some handle)
      (gone : arena.liveChunk? handle = none) (later : snapshot.generation ≠ arena.generation)
      (loud : env.complaint .warn = some cause)
      (same : reply =
        ⟨.error (.panic cause), arena, [.report arena.label (.alreadyReleased handle.index)]⟩)
  | released (handle : Handle) (names : snapshot.cursor.chunk = some handle)
      (gone : arena.liveChunk? handle = none) (later : snapshot.generation ≠ arena.generation)
      (closes : env.Closes (arena.emptied ((arena.generation + 1) % wordLimit))
        (.report arena.label (.alreadyReleased handle.index) ::
          arena.chunks.flatMap env.profile.surrender) reply)

theorem rewind_rewinds {arena : Arena} (consistent : arena.Consistent)
    (small : totalCapacity arena.chunks < wordLimit) (env : Env) (snapshot : Snapshot) :
    arena.Rewinds env snapshot (arena.rewind env snapshot) := by
  cases names : snapshot.cursor.chunk with
  | none =>
    refine .bare names ?_
    rw [rewind_of_bare consistent small env names]
    exact env.closes_ite _ _ _ _
  | some handle =>
    cases live : arena.liveChunk? handle with
    | some chunk =>
      by_cases foreign : snapshot.cursor.limit ≠ chunk.finish ∨
          snapshot.cursor.next < chunk.start ∨ snapshot.cursor.limit < snapshot.cursor.next
      · refine .refused (.foreignSnapshot arena.label) ?_
        simp only [rewind, names, live, restore, foreign, ↓reduceIte]
      · have own : snapshot.cursor.limit = chunk.finish ∧ chunk.start ≤ snapshot.cursor.next ∧
            snapshot.cursor.next ≤ snapshot.cursor.limit := by omega
        refine .live handle chunk names live own.1 own.2.1 own.2.2 ?_
        rw [rewind_of_live consistent small env names live own.1 own.2.1 own.2.2]
        exact env.closes_ite _ _ _ _
    | none =>
      by_cases same : snapshot.generation = arena.generation
      · refine .refused (.staleSnapshot arena.label handle.index) ?_
        simp only [rewind, names, live, same, ↓reduceIte]
      · -- The arena is released, unless the warning about that panics.
        have released := release_closes consistent small env
        have unfolded : arena.rewind env snapshot = arena.restoreReleased env handle.index := by
          simp only [rewind, names, live, same, ↓reduceIte]
        rw [unfolded]
        rcases env.conclude_cases arena [] (.alreadyReleased handle.index) with
          ⟨cause, loud, failed⟩ | ⟨_, told⟩
        · exact .unwarned handle cause names live same loud
            (by simp only [restoreReleased, failed, List.nil_append])
        · refine .released handle names live same ?_
          have after : arena.restoreReleased env handle.index =
              { arena.release env with
                effects := .report arena.label (.alreadyReleased handle.index) ::
                  (arena.release env).effects } := by
            simp only [restoreReleased, told, List.nil_append, List.singleton_append]
          rw [after]
          generalize arena.release env = reply at released
          cases released with
          | silent => exact .silent
          | told entry quiet => exact .told entry quiet
          | failed entry cause loud => exact .failed entry cause loud

theorem Rewinds.changes {arena : Arena} {env : Env} {snapshot : Snapshot} {reply : Reply Unit}
    (rewinds : arena.Rewinds env snapshot reply) :
    Changes env.profile arena reply.effects reply.arena := by
  cases rewinds with
  | refused cause same =>
    rw [same]
    exact .refl arena
  | unwarned handle cause names gone later loud same =>
    rw [same]
    exact (Change.report arena arena.label (.alreadyReleased handle.index)).single
  | bare names closes => exact closes.changes (Change.empty arena arena.generation).single
  | live handle chunk names live limit low high closes =>
    exact closes.changes
      (Change.fallBack arena snapshot.cursor handle chunk names live limit low high).single
  | released handle names gone later closes =>
    exact closes.changes (.step (.report arena arena.label (.alreadyReleased handle.index))
      (Change.empty arena _).single)

end Arena

end ChunkArena
