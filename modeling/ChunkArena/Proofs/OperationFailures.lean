import ChunkArena.Proofs.ReleaseGenerations
import ChunkArena.Proofs.WorldSoundness

/-!
How the operations of an arena fail. In a consistent arena no internal check fails as long as the
serial numbers and the guards leave room to count one more, the chunks together have fewer bytes
than there are addresses, and blocks are aligned as they were asked for. What is left are failures
that a caller can bring about, and the panics of reports that cannot be written.
-/

namespace ChunkArena

/-- Whether a result fails only in named ways, or with the panic of a report. -/
def FailsOnly {α : Type} (loud : Level → Option Panic) (named : Failure → Prop)
    (result : Except Failure α) : Prop :=
  ∀ failure, result = .error failure → named failure ∨
    ∃ entry : Report, ∃ cause, loud entry.level = some cause ∧ failure = .panic cause

section FailsOnly

variable {α : Type} {loud : Level → Option Panic} {named : Failure → Prop}

theorem FailsOnly.ok (value : α) : FailsOnly loud named (.ok value) := by
  intro failure failed
  cases failed

theorem FailsOnly.error {failure : Failure} (expected : named failure) :
    FailsOnly (α := α) loud named (.error failure) := by
  intro other failed
  cases failed
  exact Or.inl expected

theorem FailsOnly.imp {wider : Failure → Prop} {result : Except Failure α}
    (fails : FailsOnly loud named result) (more : ∀ failure, named failure → wider failure) :
    FailsOnly loud wider result :=
  fun failure failed => (fails failure failed).imp_left (more failure)

end FailsOnly

inductive MemoryError.OfAllocation : MemoryError → Prop
  | unaligned (align : Nat) : OfAllocation (.invalidAlignment align)
  | oversized (requested align : Nat) : OfAllocation (.sizeOverflow requested align)

inductive Failure.OfAttempt (label : String) : Failure → Prop
  | disabled : OfAttempt label (.panic (.disabled label))
  | answered {cause : MemoryError} (known : cause.OfAllocation) : OfAttempt label (.error cause)

inductive Failure.OfRequest (label : String) : Failure → Prop
  | absent (cause : Refusal) : OfRequest label (.refused cause)
  | attempted {failure : Failure} (expected : failure.OfAttempt label) : OfRequest label failure
  | refused {cause : MemoryError} (known : cause.OfAllocation) :
      OfRequest label (.panic (.refused label cause))
  | invalidLayout : OfRequest label (.error .invalidLayout)
  | tooLong (length : Nat) (element : String) :
      OfRequest label (.panic (.arrayTooLong label length element))
  | clone : OfRequest label (.panic .cloneRefused)
  | default : OfRequest label (.panic .defaultRefused)
  | destructor : OfRequest label (.panic .destructorFailed)
  | constructor : OfRequest label (.panic .constructorFailed)

inductive Failure.OfRewind (label : String) : Failure → Prop
  | absent (cause : Refusal) : OfRewind label (.refused cause)
  | stale (index : Nat) : OfRewind label (.panic (.staleSnapshot label index))
  | foreign : OfRewind label (.panic (.foreignSnapshot label))

theorem padding_of_dvd {n align : Nat} (divides : align ∣ n) : padding n align = 0 := by
  rw [padding, Nat.mod_eq_zero_of_dvd divides, Nat.sub_zero, Nat.mod_self]

theorem roundUp_of_dvd {n align : Nat} (divides : align ∣ n) : roundUp n align = n := by
  rw [roundUp, padding_of_dvd divides, Nat.add_zero]

theorem dvd_max_chunkAlign {align : Nat} (power : isPowerOfTwo align = true) :
    align ∣ max align chunkAlign := by
  obtain ⟨k, same⟩ := (isPowerOfTwo_iff align).mp power
  rcases Nat.le_total align chunkAlign with small | large
  · have least : chunkAlign = Nat.pow 2 3 := rfl
    rw [Nat.max_eq_right small, same, least]
    rw [same, least] at small
    exact Nat.pow_dvd_pow 2 ((Nat.pow_le_pow_iff_right (by decide)).mp small)
  · rw [Nat.max_eq_left large]

theorem Env.Closes.fails {env : Env} {arena : Arena} {effects : List Effect} {reply : Reply Unit}
    (closes : env.Closes arena effects reply) (named : Failure → Prop) :
    FailsOnly env.complaint named reply.result := by
  cases closes with
  | silent | told => exact .ok ()
  | failed entry cause loud =>
    intro failure same
    cases same
    exact Or.inr ⟨entry, cause, loud, rfl⟩

namespace Arena

variable {arena : Arena}

theorem bump_extended {chunk : Chunk} {size align : Nat} (aligned : align ∣ chunk.start)
    (fits : size ≤ chunk.capacity) (small : size < wordLimit) (profile : Profile) :
    (arena.extended chunk).bump profile size align ≠ .ok none := by
  have none_skipped := padding_of_dvd aligned
  have free : profile.sub chunk.finish chunk.start = .ok chunk.capacity := by
    rw [Chunk.finish, Profile.sub_ok profile (Nat.le_add_right _ _), Nat.add_sub_cancel_left]
  have not_huge : ¬ wordLimit ≤ padding chunk.start align + size := by omega
  have not_tight : ¬ chunk.capacity < padding chunk.start align + size := by omega
  simp [bump, extended, free, not_huge, not_tight]

def appendable? (arena : Arena) (size align : Nat) : Option Layout :=
  Layout.ofSizeAlign? (max (max arena.chunkCapacity size) 1) (max align chunkAlign)

theorem append_forms (consistent : arena.Consistent) (env : Env) (size : Nat) {align : Nat}
    (room : env.profile.checks = true → arena.nextSerial + 1 < wordLimit)
    (power : isPowerOfTwo align = true) :
    arena.appendable? size align = none ∧ arena.append env size align =
        ⟨.error (.error (.sizeOverflow (max arena.chunkCapacity size) align)), arena, []⟩ ∨
      ∃ chunk, (arena.extended chunk).Consistent ∧ align ∣ chunk.layout.align ∧
        size ≤ chunk.capacity ∧ size < wordLimit ∧
        arena.append env size align =
          env.conclude (arena.extended chunk) [.obtain chunk]
            (.appended arena.chunks.length chunk.capacity) := by
  cases shape : Layout.ofSizeAlign? (max (max arena.chunkCapacity size) 1)
      (max align chunkAlign) with
  | none => exact Or.inl ⟨shape, by simp only [append, shape]⟩
  | some layout =>
    obtain ⟨same, valid⟩ := Layout.ofSizeAlign?_eq_some_iff.mp shape
    have capacity : layout.size = max (max arena.chunkCapacity size) 1 := by rw [same]
    let chunk : Chunk := ⟨arena.cursor.chunk, arena.nextSerial, env.site layout, layout⟩
    have whole : chunk.capacity = layout.size := rfl
    have extension : Change env.profile arena [.obtain chunk] (arena.extended chunk) :=
      .extend arena chunk rfl rfl (by omega) room
    refine Or.inr ⟨chunk, extension.consistent consistent, ?_, by omega, ?_, ?_⟩
    · simp only [chunk, same]
      exact dvd_max_chunkAlign power
    · have limit := Nat.le_trans (le_roundUp layout.size layout.align) valid.2
      have below : blockLimit < wordLimit := by decide
      omega
    · rcases add_one_cases env.profile arena.nextSerial with
        ⟨_, strict, full⟩ | ⟨counted, _⟩
      · exact absurd (room strict) (Nat.not_lt.mpr full)
      · simp only [append, shape, counted, extended, chunk]

theorem reserve_forms (consistent : arena.Consistent) {env : Env} {size align : Nat}
    (room : arena.bump env.profile size align = .ok none → env.profile.checks = true →
      arena.nextSerial + 1 < wordLimit)
    (power : isPowerOfTwo align = true)
    (placed : ∀ chunk, .obtain chunk ∈ (arena.reserve env size align).effects →
      chunk.layout.align ∣ chunk.start) :
    (∃ start, (arena.reserve env size align).result = .ok start) ∨
      (arena.bump env.profile size align = .ok none ∧ arena.appendable? size align = none ∧
        (arena.reserve env size align).result =
          .error (.error (.sizeOverflow (max arena.chunkCapacity size) align))) ∨
      ∃ cause, env.complaint .debug = some cause ∧
        (arena.reserve env size align).result = .error (.panic cause) := by
  have positive : 0 < align := by
    obtain ⟨k, same⟩ := (isPowerOfTwo_iff align).mp power
    rw [same]
    exact Nat.two_pow_pos k
  rcases bump_cases consistent env.profile size positive with full | ⟨start, offers, fits⟩
  · rcases append_forms consistent env size (room full) power with
      ⟨shapeless, oversized⟩ | ⟨chunk, extended, aligned, roomy, small, appended⟩
    · exact Or.inr (Or.inl ⟨full, shapeless, by simp only [reserve, full, oversized]⟩)
    · rcases env.conclude_cases (arena.extended chunk) [.obtain chunk]
          (.appended arena.chunks.length chunk.capacity) with ⟨cause, loud, failed⟩ | ⟨_, told⟩
      · exact Or.inr (Or.inr ⟨cause, loud, by simp only [reserve, full, appended, failed]⟩)
      · have done := appended.trans told
        rcases bump_cases extended env.profile size positive with full' | ⟨start, offers, fits⟩
        · -- The block is aligned, so a fresh chunk cannot be full.
          have came : .obtain chunk ∈ (arena.reserve env size align).effects := by
            simp [reserve, full, done, full']
          exact absurd full'
            (bump_extended (Nat.dvd_trans aligned (placed chunk came)) roomy small env.profile)
        · exact Or.inl ⟨start, by simp only [reserve, full, done, fits]⟩
  · exact Or.inl ⟨start, by simp only [reserve, fits]⟩

theorem reserve_fails (consistent : arena.Consistent) {env : Env} {size align : Nat}
    (room : arena.nextSerial + 1 < wordLimit) (power : isPowerOfTwo align = true)
    (placed : ∀ chunk, .obtain chunk ∈ (arena.reserve env size align).effects →
      chunk.layout.align ∣ chunk.start) (label : String) :
    FailsOnly env.complaint (Failure.OfAttempt label) (arena.reserve env size align).result := by
  rcases reserve_forms consistent (fun _ _ => room) power placed with
    ⟨start, done⟩ | ⟨_, _, oversized⟩ | ⟨cause, loud, failed⟩
  · rw [done]
    exact .ok start
  · rw [oversized]
    exact .error (.answered (.oversized _ align))
  · intro failure same
    rw [failed] at same
    cases same
    exact Or.inr ⟨.appended 0 0, cause, loud, rfl⟩

theorem tryAllocate_fails (consistent : arena.Consistent) {env : Env} {size align : Nat}
    (room : arena.nextSerial + 1 < wordLimit)
    (placed : ∀ chunk, .obtain chunk ∈ (arena.tryAllocate env size align).effects →
      chunk.layout.align ∣ chunk.start) :
    FailsOnly env.complaint (Failure.OfAttempt arena.label)
      (arena.tryAllocate env size align).result := by
  by_cases off : (env.profile.checks && arena.isDisabled) = true
  · rw [tryAllocate, if_pos off]
    exact .error .disabled
  · by_cases power : isPowerOfTwo align = true
    · rw [tryAllocate, if_neg off, if_pos power] at placed ⊢
      exact reserve_fails consistent room power placed arena.label
    · rw [tryAllocate, if_neg off, if_neg power]
      exact .error (.answered (.unaligned align))

theorem allocate_forms (arena : Arena) (env : Env) (size align : Nat) :
    arena.allocate env size align = arena.tryAllocate env size align ∨
      ∃ cause, (arena.tryAllocate env size align).result = .error (.error cause) ∧
        arena.allocate env size align =
          { arena.tryAllocate env size align with
            result := .error (.panic (.refused arena.label cause)) } := by
  unfold allocate
  generalize arena.tryAllocate env size align = reply
  cases answer : reply.result with
  | ok start => exact Or.inl (by simp only [answer])
  | error failure =>
    cases failure with
    | error cause => exact Or.inr ⟨cause, rfl, by simp only [answer]⟩
    | panic cause | refused cause => exact Or.inl (by simp only [answer])

theorem allocate_fails (consistent : arena.Consistent) {env : Env} {size align : Nat}
    (room : arena.nextSerial + 1 < wordLimit)
    (placed : ∀ chunk, .obtain chunk ∈ (arena.allocate env size align).effects →
      chunk.layout.align ∣ chunk.start) :
    FailsOnly env.complaint (Failure.OfRequest arena.label)
      (arena.allocate env size align).result := by
  rcases allocate_forms arena env size align with same | ⟨cause, answer, same⟩
  · rw [same] at placed ⊢
    exact (tryAllocate_fails consistent room placed).imp fun _ => .attempted
  · rw [same] at placed ⊢
    rcases tryAllocate_fails consistent room placed _ answer with expected | ⟨_, _, _, loud⟩
    · cases expected with
      | answered known => exact .error (.refused known)
    · cases loud

theorem allocateArray_fails (consistent : arena.Consistent) {env : Env} {kind : Kind} {count : Nat}
    (room : arena.nextSerial + 1 < wordLimit)
    (placed : ∀ chunk, .obtain chunk ∈ (arena.allocateArray env kind count).effects →
      chunk.layout.align ∣ chunk.start) :
    FailsOnly env.complaint (Failure.OfRequest arena.label)
      (arena.allocateArray env kind count).result := by
  unfold allocateArray at placed ⊢
  cases shape : kind.layout.array? count with
  | none => exact .error (.tooLong count kind.name)
  | some layout =>
    rw [shape] at placed
    exact allocate_fails consistent room placed

theorem grow_fails (consistent : arena.Consistent) (env : Env) (start old new elementSize : Nat)
    (named : Failure → Prop) (disabled : named (.panic (.disabled arena.label))) :
    FailsOnly env.complaint named (arena.grow env start old new elementSize).result := by
  rcases grow_forms consistent env start old new elementSize with
    ⟨_, stopped⟩ | ⟨_, refused⟩ | ⟨_, grown⟩
  · rw [stopped]
    exact .error disabled
  · rw [refused]
    exact .ok false
  · rw [grown]
    exact .ok true

theorem deallocate_fails (arena : Arena) (env : Env) (address : Nat) (layout : Layout)
    (named : Failure → Prop) (foreign : named (.error .notFromAllocator)) :
    FailsOnly env.complaint named (arena.deallocate env address layout).result := by
  rcases deallocate_cases arena env address layout with refused | done
  · rw [refused]
    exact .error foreign
  · rw [done]
    exact .ok ()

theorem rewind_fails (consistent : arena.Consistent)
    (small : totalCapacity arena.chunks < wordLimit)
    (env : Env) (snapshot : Snapshot) :
    FailsOnly env.complaint (Failure.OfRewind arena.label) (arena.rewind env snapshot).result := by
  cases names : snapshot.cursor.chunk with
  | none =>
    rw [rewind_of_bare consistent small env names]
    exact (env.closes_ite _ _ _ _).fails _
  | some handle =>
    cases live : arena.liveChunk? handle with
    | some chunk =>
      by_cases foreign : snapshot.cursor.limit ≠ chunk.finish ∨
          snapshot.cursor.next < chunk.start ∨ snapshot.cursor.limit < snapshot.cursor.next
      · simp only [rewind, names, live, restore, foreign, ↓reduceIte]
        exact .error .foreign
      · rw [rewind_of_live consistent small env names live (by omega) (by omega) (by omega)]
        exact (env.closes_ite _ _ _ _).fails _
    | none =>
      by_cases same : snapshot.generation = arena.generation
      · rw [rewind_of_stale names live same]
        exact .error (.stale handle.index)
      · cases warning : env.complaint .warn with
        | some cause =>
          rw [rewind_of_unwarned names live same warning]
          intro failure failed
          cases failed
          exact Or.inr ⟨.alreadyReleased handle.index, cause, warning, rfl⟩
        | none =>
          rw [rewind_of_released names live same warning]
          exact (release_closes consistent small env).fails _

end Arena

end ChunkArena
