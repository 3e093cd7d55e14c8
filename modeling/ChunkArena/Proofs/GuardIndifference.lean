import ChunkArena.Proofs.RequestInvariants

/-!
Calls that take no notice of disable guards. Releases, rewinds and disposals do the same whatever
number of guards an arena has, and so does what an allocation does once it was let through. No call
but those about guards changes their number.
-/

namespace ChunkArena

def Arena.counting (arena : Arena) (count : Nat) : Arena := { arena with disabled := count }

def Reply.counting {α : Type} (reply : Reply α) (count : Nat) : Reply α :=
  ⟨reply.result, reply.arena.counting count, reply.effects⟩

theorem Env.conclude_counting (env : Env) (arena : Arena) (count : Nat) (effects : List Effect)
    (entry : Report) :
    env.conclude (arena.counting count) effects entry =
      (env.conclude arena effects entry).counting count :=
  rfl

namespace Arena

/-- Whether a call takes no notice of how many disable guards there are. -/
def Indifferent {α : Type} (call : Arena → Env → Reply α) : Prop :=
  ∀ (arena : Arena) (env : Env) (count : Nat),
    call (arena.counting count) env = (call arena env).counting count

theorem Indifferent.disabled {α : Type} {call : Arena → Env → Reply α}
    (indifferent : Indifferent call) (arena : Arena) (env : Env) :
    (call arena env).arena.disabled = arena.disabled := by
  have same := indifferent arena env arena.disabled
  exact congrArg (fun reply => reply.arena.disabled) same

theorem freeAll_counting (arena : Arena) (profile : Profile) (count : Nat) :
    (arena.counting count).freeAll profile = (arena.freeAll profile).counting count := by
  obtain ⟨label, capacity, chunks, cursor, serial, generation, disabled⟩ := arena
  dsimp only [freeAll, counting]
  generalize sweepLinks profile chunks cursor.chunk 0 0 = sweep
  obtain ⟨result, left, effects⟩ := sweep
  cases result with
  | error cause => rfl
  | ok totals =>
    dsimp only
    split <;> rfl

theorem release_indifferent : Indifferent release := by
  intro arena env count
  unfold release
  rw [freeAll_counting]
  generalize arena.freeAll env.profile = freed
  obtain ⟨result, left, effects⟩ := freed
  cases result with
  | error failure => rfl
  | ok totals =>
    simp only [Reply.counting]
    split
    · rfl
    · exact env.conclude_counting { left with generation := (arena.generation + 1) % wordLimit }
        count effects (.released totals.1 totals.2)

theorem restoreEmpty_indifferent : Indifferent restoreEmpty := by
  intro arena env count
  unfold restoreEmpty
  rw [freeAll_counting]
  generalize arena.freeAll env.profile = freed
  obtain ⟨result, left, effects⟩ := freed
  cases result with
  | error failure => rfl
  | ok totals =>
    simp only [Reply.counting]
    split
    · rfl
    · exact env.conclude_counting left count effects (.emptied totals.1)

theorem restore_indifferent (saved : Cursor) (handle : Handle) (chunk : Chunk) :
    Indifferent fun arena env => arena.restore env saved handle chunk := by
  intro arena env count
  simp only [restore, counting]
  generalize sweepAbove env.profile (handle.index + 1) arena.chunks 0 = sweep
  obtain ⟨result, left, effects⟩ := sweep
  split
  · rfl
  · cases result with
    | error cause => rfl
    | ok number =>
      simp only
      split
      · rfl
      · exact env.conclude_counting { arena with chunks := left, cursor := saved } count _ _

theorem restoreReleased_indifferent (index : Nat) :
    Indifferent fun arena env => arena.restoreReleased env index := by
  intro arena env count
  simp only [restoreReleased, env.conclude_counting, release_indifferent arena env count]
  generalize env.conclude arena [] (.alreadyReleased index) = warned
  obtain ⟨result, after, effects⟩ := warned
  cases result with
  | error failure => rfl
  | ok done => rfl

theorem rewind_indifferent (snapshot : Snapshot) :
    Indifferent fun arena env => arena.rewind env snapshot := by
  intro arena env count
  simp only [rewind]
  cases snapshot.cursor.chunk with
  | none => exact restoreEmpty_indifferent arena env count
  | some handle =>
    have same : (arena.counting count).liveChunk? handle = arena.liveChunk? handle := rfl
    simp only [same]
    cases arena.liveChunk? handle with
    | some chunk => exact restore_indifferent snapshot.cursor handle chunk arena env count
    | none =>
      have kept : (arena.counting count).generation = arena.generation := rfl
      simp only [kept]
      split
      · rfl
      · exact restoreReleased_indifferent handle.index arena env count

theorem deallocate_indifferent (address : Nat) (layout : Layout) :
    Indifferent fun arena env => arena.deallocate env address layout := by
  intro arena env count
  have same : (arena.counting count).owns address = arena.owns address := rfl
  simp only [deallocate, same]
  split <;> rfl

theorem append_indifferent (size align : Nat) :
    Indifferent fun arena env => arena.append env size align := by
  intro arena env count
  simp only [append, counting]
  split
  · rfl
  · split
    · rfl
    · rfl

theorem reserve_indifferent (size align : Nat) :
    Indifferent fun arena env => arena.reserve env size align := by
  intro arena env count
  have same (arena : Arena) : (arena.counting count).bump env.profile size align =
      arena.bump env.profile size align := rfl
  simp only [reserve, same, append_indifferent size align arena env count]
  generalize arena.append env size align = appended
  obtain ⟨result, after, effects⟩ := appended
  split
  · rfl
  · rfl
  · simp only [Reply.counting]
    cases result with
    | error failure => rfl
    | ok done =>
      simp only [same]
      split <;> rfl

theorem release_disabled (arena : Arena) (env : Env) :
    (arena.release env).arena.disabled = arena.disabled :=
  release_indifferent.disabled arena env

theorem rewind_disabled (arena : Arena) (env : Env) (snapshot : Snapshot) :
    (arena.rewind env snapshot).arena.disabled = arena.disabled :=
  (rewind_indifferent snapshot).disabled arena env

theorem deallocate_disabled (arena : Arena) (env : Env) (address : Nat) (layout : Layout) :
    (arena.deallocate env address layout).arena.disabled = arena.disabled :=
  (deallocate_indifferent address layout).disabled arena env

theorem grow_disabled (arena : Arena) (env : Env) (start old new elementSize : Nat) :
    (arena.grow env start old new elementSize).arena.disabled = arena.disabled := by
  unfold grow
  repeat' split
  all_goals rfl

theorem allocate_arena (arena : Arena) (env : Env) (size align : Nat) :
    (arena.allocate env size align).arena = (arena.tryAllocate env size align).arena := by
  simp only [allocate]
  split <;> rfl

theorem tryAllocate_disabled (arena : Arena) (env : Env) (size align : Nat) :
    (arena.tryAllocate env size align).arena.disabled = arena.disabled := by
  unfold tryAllocate
  split
  · rfl
  · split
    · exact (reserve_indifferent size align).disabled arena env
    · rfl

theorem Asks.disabled {size align : Nat} {call : Arena → Env → Reply Nat}
    (asks : Asks size align call) (arena : Arena) (env : Env) :
    (call arena env).arena.disabled = arena.disabled := by
  have allocated (size align : Nat) :
      (arena.allocate env size align).arena.disabled = arena.disabled := by
    rw [allocate_arena]
    exact arena.tryAllocate_disabled env size align
  cases asks with
  | allocate => exact allocated size align
  | tryAllocate => exact arena.tryAllocate_disabled env size align
  | allocateArray kind count =>
    change (arena.allocateArray env kind count).arena.disabled = arena.disabled
    unfold Arena.allocateArray
    cases kind.layout.array? count with
    | none => rfl
    | some layout => exact allocated layout.size layout.align

theorem counting_of_enabled {α : Type} (call : Arena → Env → Reply α) {arena : Arena} {env : Env}
    (kept : (call arena env).arena.disabled = arena.disabled) (enabled : arena.disabled = 0) :
    call (arena.counting 0) env = (call arena env).counting 0 := by
  have same : arena.counting 0 = arena := by
    rw [← enabled]
    rfl
  have same' : (call arena env).arena.counting 0 = (call arena env).arena := by
    rw [← enabled, ← kept]
    rfl
  rw [same, Reply.counting, same']

end Arena

end ChunkArena
