import ChunkArena.Proofs.RequestEffects

/-!
What is left of an operation without the instrumentation of debug builds. A release build answers
the same as a debug build and does the same to the chunks and the cursor, makes the same reports and
passes the same blocks. It only fills nothing and counts no disable guards. The checks of a debug
build never stop a call in a consistent arena, apart from those on disable guards, on ownership and
on the last serial number.
-/

namespace ChunkArena

def Effect.lasts : Effect → Bool
  | fill .. => false
  | _ => true

def unfilled (effects : List Effect) : List Effect := effects.filter Effect.lasts

def Arena.stripped (arena : Arena) : Arena := { arena with disabled := 0 }

def Env.stripped (env : Env) : Env := { env with profile := .release }

def Reply.stripped {α : Type} (reply : Reply α) : Reply α :=
  ⟨reply.result, reply.arena.stripped, unfilled reply.effects⟩

theorem unfilled_append (first last : List Effect) :
    unfilled (first ++ last) = unfilled first ++ unfilled last :=
  List.filter_append first last

namespace Profile

variable (profile : Profile)

theorem unfilled_mark (byte : UInt8) (start count : Nat) :
    unfilled (profile.mark byte start count) = [] := by
  unfold mark
  split <;> rfl

theorem unfilled_surrender (chunk : Chunk) :
    unfilled (profile.surrender chunk) = Profile.release.surrender chunk := by
  rw [surrender, unfilled_append, discard, unfilled_mark]
  rfl

theorem unfilled_surrenders (chunks : List Chunk) :
    unfilled (chunks.flatMap profile.surrender) = chunks.flatMap Profile.release.surrender := by
  induction chunks with
  | nil => rfl
  | cons chunk rest ih =>
    rw [List.flatMap_cons, List.flatMap_cons, unfilled_append, unfilled_surrender, ih]

end Profile

theorem Env.conclude_stripped (env : Env) (arena : Arena) (effects : List Effect)
    (entry : Report) :
    env.stripped.conclude arena.stripped (unfilled effects) entry =
      (env.conclude arena effects entry).stripped := by
  have loud : env.stripped.complaint = env.complaint := rfl
  simp only [conclude, afterReport, loud, Reply.stripped, unfilled_append]
  rfl

theorem Env.conclude_unless_stripped (env : Env) (arena : Arena) (effects : List Effect)
    (entry : Report) (nothing : Prop) [Decidable nothing] :
    (if nothing then ⟨.ok (), arena.stripped, unfilled effects⟩
      else env.stripped.conclude arena.stripped (unfilled effects) entry) =
      (if nothing then ⟨.ok (), arena, effects⟩ else env.conclude arena effects
        entry).stripped := by
  split
  · rfl
  · exact env.conclude_stripped arena effects entry

namespace Arena

variable {arena : Arena} {env : Env}

theorem Consistent.stripped (consistent : arena.Consistent) : arena.stripped.Consistent :=
  ⟨consistent.linked, consistent.seated, consistent.nonempty⟩

theorem bump_stripped (consistent : arena.Consistent) (profile : Profile) (size align : Nat) :
    arena.stripped.bump .release size align = arena.bump profile size align := by
  have bound := consistent.limit_bound
  unfold bump
  simp only [Profile.sub_ok _ bound, stripped]
  rfl

theorem append_stripped (counted : arena.nextSerial + 1 < wordLimit) (env : Env)
    (size align : Nat) :
    arena.stripped.append env.stripped size align = (arena.append env size align).stripped := by
  cases shape : Layout.ofSizeAlign? (max (max arena.chunkCapacity size) 1)
      (max align chunkAlign) with
  | none =>
    have shape' : Layout.ofSizeAlign? (max (max arena.stripped.chunkCapacity size) 1)
        (max align chunkAlign) = none := shape
    simp only [append, shape, shape']
    rfl
  | some layout =>
    have counted' : env.stripped.profile.checks = true →
        arena.stripped.nextSerial + 1 < wordLimit :=
      fun _ => counted
    rw [append_of_shape (fun _ => counted) shape, append_of_shape counted' shape]
    exact env.conclude_stripped
      (arena.extended ⟨arena.cursor.chunk, arena.nextSerial, env.site layout, layout⟩)
      [.obtain ⟨arena.cursor.chunk, arena.nextSerial, env.site layout, layout⟩] _

theorem reserve_stripped (consistent : arena.Consistent)
    (counted : arena.nextSerial + 1 < wordLimit) (env : Env) (size align : Nat) :
    arena.stripped.reserve env.stripped size align = (arena.reserve env size align).stripped := by
  have first := bump_stripped consistent env.profile size align
  have second := append_stripped counted env size align
  obtain ⟨mid, effects, spill, appends⟩ := append_cases arena env size align
  have settled := spill.changes.consistent consistent
  have third := bump_stripped settled env.profile size align
  have profile : env.stripped.profile = .release := rfl
  unfold reserve
  rw [profile, first]
  cases arena.bump env.profile size align with
  | error cause => rfl
  | ok room =>
    cases room with
    | some place =>
      obtain ⟨start, cursor⟩ := place
      simp only [Reply.stripped, Profile.handOut, Profile.unfilled_mark]
      rfl
    | none =>
      simp only [second]
      rcases appends with ⟨failure, failed⟩ | ⟨_, done⟩
      · rw [failed]
        rfl
      · rw [done]
        simp only [Reply.stripped, third]
        cases mid.bump env.profile size align with
        | error cause => rfl
        | ok room =>
          cases room with
          | none => rfl
          | some place =>
            obtain ⟨start, cursor⟩ := place
            simp only [unfilled_append, Profile.handOut, Profile.unfilled_mark]
            rfl

theorem stripped_enabled (arena : Arena) : arena.stripped.isDisabled = false := rfl

theorem enabled_of (enabled : arena.disabled = 0) : arena.isDisabled = false := by
  simp [isDisabled, enabled]

theorem tryAllocate_stripped (consistent : arena.Consistent)
    (counted : arena.nextSerial + 1 < wordLimit) (enabled : arena.disabled = 0) (env : Env)
    (size align : Nat) :
    arena.stripped.tryAllocate env.stripped size align =
      (arena.tryAllocate env size align).stripped := by
  unfold tryAllocate
  rw [stripped_enabled, enabled_of enabled, Bool.and_false, Bool.and_false]
  by_cases power : isPowerOfTwo align = true
  · simp only [power, ↓reduceIte]
    exact reserve_stripped consistent counted env size align
  · simp only [power]
    rfl

theorem allocate_stripped (consistent : arena.Consistent)
    (counted : arena.nextSerial + 1 < wordLimit) (enabled : arena.disabled = 0) (env : Env)
    (size align : Nat) :
    arena.stripped.allocate env.stripped size align =
      (arena.allocate env size align).stripped := by
  unfold allocate
  rw [tryAllocate_stripped consistent counted enabled]
  generalize arena.tryAllocate env size align = reply
  obtain ⟨result, after, effects⟩ := reply
  cases result with
  | ok start => rfl
  | error failure => cases failure <;> rfl

theorem allocateArray_stripped (consistent : arena.Consistent)
    (counted : arena.nextSerial + 1 < wordLimit) (enabled : arena.disabled = 0) (env : Env)
    (kind : Kind) (count : Nat) :
    arena.stripped.allocateArray env.stripped kind count =
      (arena.allocateArray env kind count).stripped := by
  unfold allocateArray
  cases kind.layout.array? count with
  | none => rfl
  | some layout => exact allocate_stripped consistent counted enabled env layout.size layout.align

theorem grow_stripped (consistent : arena.Consistent) (enabled : arena.disabled = 0) (env : Env)
    (start old new elementSize : Nat) :
    arena.stripped.grow env.stripped start old new elementSize =
      (arena.grow env start old new elementSize).stripped := by
  have bound := consistent.limit_bound
  unfold grow
  rw [stripped_enabled, enabled_of enabled, Bool.and_false, Bool.and_false]
  simp only [stripped, Env.stripped]
  by_cases shorter : new < old
  · simp only [shorter, ↓reduceIte]
    rfl
  by_cases huge : wordLimit ≤ old * elementSize ∨ wordLimit ≤ new * elementSize
  · simp only [shorter, huge, ↓reduceIte]
    rfl
  cases names : arena.cursor.chunk with
  | none =>
    simp only [shorter, huge, ↓reduceIte]
    rfl
  | some handle =>
    have found : chunkAt? arena.stripped handle.index = arena.chunkAt? handle.index := rfl
    simp only [stripped] at found
    simp only [shorter, huge, found, ↓reduceIte]
    cases arena.chunkAt? handle.index with
    | none => rfl
    | some chunk =>
      have longer : old * elementSize ≤ new * elementSize :=
        Nat.mul_le_mul_right elementSize (Nat.le_of_not_lt shorter)
      simp only [Profile.sub_ok _ longer, Profile.sub_ok _ bound]
      by_cases astray : start < chunk.start ∨ wordLimit ≤ start + old * elementSize ∨
          start + old * elementSize ≠ arena.cursor.next
      · simp only [astray, ↓reduceIte]
        rfl
      by_cases tight : arena.cursor.limit - arena.cursor.next <
          new * elementSize - old * elementSize
      · simp only [astray, tight, ↓reduceIte]
        rfl
      · simp only [astray, tight, Bool.false_eq_true, ↓reduceIte, Reply.stripped,
          Profile.handOut, Profile.unfilled_mark]
        rfl

theorem deallocate_stripped {address : Nat} (owns : arena.owns address = true) (env : Env)
    (layout : Layout) :
    arena.stripped.deallocate env.stripped address layout =
      (arena.deallocate env address layout).stripped := by
  have owns' : arena.stripped.owns address = true := owns
  unfold deallocate
  rw [owns, owns', Bool.not_true, Bool.and_false, Bool.and_false, if_neg Bool.false_ne_true,
    if_neg Bool.false_ne_true]
  simp only [Reply.stripped, Profile.discard, Profile.unfilled_mark]
  rfl

theorem disable_stripped (room : arena.disabled + 1 < wordLimit) (profile : Profile) :
    arena.stripped.disable .release = (arena.disable profile).stripped := by
  unfold disable
  rw [Profile.add_ok profile room]
  cases profile <;> rfl

theorem enable_stripped (alive : 0 < arena.disabled) (profile : Profile) :
    arena.stripped.enable .release = (arena.enable profile).stripped := by
  unfold enable
  rw [if_neg (Nat.ne_of_gt alive)]
  cases profile <;> rfl

theorem unfilled_clearing (arena : Arena) (profile : Profile) (saved : Cursor) (handle : Handle) :
    unfilled (arena.clearing profile saved handle) = [] := by
  unfold clearing
  generalize (if arena.cursor.chunk = some handle then arena.cursor.next else saved.limit) = used
  by_cases more : saved.next < used
  · rw [if_pos more]
    exact profile.unfilled_mark _ _ _
  · rw [if_neg more]
    rfl

theorem clearing_release (arena : Arena) (saved : Cursor) (handle : Handle) :
    arena.clearing .release saved handle = [] := by
  unfold clearing
  exact ite_self []

theorem release_stripped (consistent : arena.Consistent)
    (small : totalCapacity arena.chunks < wordLimit) (env : Env) :
    arena.stripped.release env.stripped = (arena.release env).stripped := by
  have gone := env.profile.unfilled_surrenders arena.chunks
  have alike := env.conclude_unless_stripped (arena.emptied ((arena.generation + 1) % wordLimit))
    (arena.chunks.flatMap env.profile.surrender)
    (.released arena.chunks.length (totalCapacity arena.chunks)) (arena.chunks.length = 0)
  rw [release_eq consistent small env, release_eq consistent.stripped small env.stripped, ← alike,
    gone]
  rfl

theorem rewind_stripped (consistent : arena.Consistent)
    (small : totalCapacity arena.chunks < wordLimit) (env : Env) (snapshot : Snapshot) :
    arena.stripped.rewind env.stripped snapshot = (arena.rewind env snapshot).stripped := by
  have gone := env.profile.unfilled_surrenders
  cases names : snapshot.cursor.chunk with
  | none =>
    have alike := env.conclude_unless_stripped (arena.emptied arena.generation)
      (arena.chunks.flatMap env.profile.surrender) (.emptied arena.chunks.length)
      (arena.chunks.length = 0)
    rw [rewind_of_bare consistent small env names,
      rewind_of_bare consistent.stripped small env.stripped names, ← alike, gone]
    rfl
  | some handle =>
    have same : arena.stripped.liveChunk? handle = arena.liveChunk? handle := rfl
    cases live : arena.liveChunk? handle with
    | some chunk =>
      rw [live] at same
      by_cases foreign : snapshot.cursor.limit ≠ chunk.finish ∨
          snapshot.cursor.next < chunk.start ∨ snapshot.cursor.limit < snapshot.cursor.next
      · simp only [rewind, names, live, same, restore, foreign, ↓reduceIte]
        rfl
      · obtain ⟨limit, low, high⟩ : snapshot.cursor.limit = chunk.finish ∧
            chunk.start ≤ snapshot.cursor.next ∧ snapshot.cursor.next ≤ snapshot.cursor.limit := by
          omega
        have alike := env.conclude_unless_stripped
          (arena.fallenBack snapshot.cursor (handle.index + 1))
          (arena.clearing env.profile snapshot.cursor handle ++
            (arena.above (handle.index + 1)).flatMap env.profile.surrender)
          (.reactivated (arena.chunks.length - (handle.index + 1)) handle.index)
          (arena.chunks.length - (handle.index + 1) = 0)
        rw [rewind_of_live consistent small env names live limit low high,
          rewind_of_live consistent.stripped small env.stripped names same limit low high, ← alike,
          unfilled_append, unfilled_clearing, gone]
        have cleared : arena.stripped.clearing env.stripped.profile snapshot.cursor handle = [] :=
          clearing_release arena.stripped snapshot.cursor handle
        rw [cleared]
        rfl
    | none =>
      rw [live] at same
      by_cases recent : snapshot.generation = arena.generation
      · have recent' : snapshot.generation = arena.stripped.generation := recent
        simp only [rewind, names, live, same, if_pos recent, if_pos recent']
        rfl
      · have older : ¬ snapshot.generation = arena.stripped.generation := recent
        have released := release_stripped consistent small env
        have warned := env.conclude_stripped arena [] (.alreadyReleased handle.index)
        have warned : env.stripped.conclude arena.stripped [] (.alreadyReleased handle.index) = _ :=
          warned
        simp only [rewind, names, live, same, if_neg recent, if_neg older, restoreReleased, warned,
          released]
        generalize env.conclude arena [] (.alreadyReleased handle.index) = reply
        obtain ⟨result, after, effects⟩ := reply
        cases result with
        | error failure => rfl
        | ok done =>
          simp only [Reply.stripped, unfilled_append]

end Arena

end ChunkArena
