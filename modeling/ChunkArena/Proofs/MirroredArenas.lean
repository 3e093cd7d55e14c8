import Mathlib.Data.List.Forall2
import Mathlib.Data.Nat.ModEq
import ChunkArena.Proofs.PairedRequests
import ChunkArena.Proofs.ReleaseGenerations
import ChunkArena.Proofs.StrippedOperations

/-!
Arenas that mirror each other. Two arenas have as many chunks of the same sizes, in the same order,
and their cursors are at the same offsets. The chunks may be anywhere, as long as their addresses
agree modulo the alignments that are used, and the one arena may be ahead of the other in serial
numbers and in releases. Every operation on such arenas answers the same, apart from where the
chunks are, does the same to the chunks, and leaves the arenas as they were: mirroring each other.
-/

namespace ChunkArena

/-- How far one arena is ahead of another, and modulo what number the addresses of their chunks
agree. -/
structure Shift where
  serials : Nat
  releases : Nat
  modulus : Nat

structure Couple where
  here : Chunk
  there : Chunk

namespace Couple

structure Fits (couple : Couple) (shift : Shift) : Prop where
  serial : couple.here.serial = couple.there.serial + shift.serials
  layout : couple.there.layout = couple.here.layout
  start : couple.there.start ≡ couple.here.start [MOD shift.modulus]

def part (couple : Couple) (offset size : Nat) : Pairing :=
  ⟨couple.here.start + offset, couple.there.start + offset, size⟩

theorem Fits.capacity {couple : Couple} {shift : Shift} (fits : couple.Fits shift) :
    couple.there.capacity = couple.here.capacity :=
  congrArg Layout.size fits.layout

end Couple

def Pairing.Inside (pairing : Pairing) (couples : List Couple) : Prop :=
  ∃ couple ∈ couples, ∃ offset, offset + pairing.size ≤ couple.here.capacity ∧
    pairing = couple.part offset pairing.size

def Couple.Places (couple : Couple) (here there : Nat) : Prop :=
  ∃ offset, here = couple.here.start + offset ∧ there = couple.there.start + offset

def Arena.Meets (arena : Arena) (address bytes : Nat) : Prop :=
  ∃ chunk ∈ arena.chunks.head?, chunk.start ≤ address ∧ address + bytes = arena.cursor.next

theorem Couple.part_inside {couple : Couple} {couples : List Couple} (member : couple ∈ couples)
    {offset size : Nat} (within : offset + size ≤ couple.here.capacity) :
    (couple.part offset size).Inside couples :=
  ⟨couple, member, offset, within, rfl⟩

theorem Pairing.Inside.mono {pairing : Pairing} {couples more : List Couple}
    (inside : pairing.Inside couples) (fewer : couples ⊆ more) : pairing.Inside more := by
  obtain ⟨couple, member, rest⟩ := inside
  exact ⟨couple, fewer member, rest⟩

def Chunk.cursor (chunk : Chunk) (index offset : Nat) : Cursor :=
  ⟨some ⟨index, chunk.serial⟩, chunk.start + offset, chunk.finish⟩

def Cursor.Beside (cursor image : Cursor) : List Couple → Prop
  | [] => cursor = .empty ∧ image = .empty
  | couple :: rest => ∃ offset ≤ couple.here.capacity,
      cursor = couple.here.cursor rest.length offset ∧
        image = couple.there.cursor rest.length offset

inductive Effect.Mirrors (couples : List Couple) : Effect → Effect → Prop
  | obtain {couple : Couple} (member : couple ∈ couples) :
      Mirrors couples (.obtain couple.here) (.obtain couple.there)
  | giveBack {couple : Couple} (member : couple ∈ couples) :
      Mirrors couples (.giveBack couple.here) (.giveBack couple.there)
  | fill {pairing : Pairing} (inside : pairing.Inside couples) (byte : UInt8) :
      Mirrors couples (.fill pairing.here pairing.size byte)
        (.fill pairing.there pairing.size byte)
  | report (label : String) (entry : Report) :
      Mirrors couples (.report label entry) (.report label entry)

theorem Effect.Mirrors.mono {couples more : List Couple} {effect image : Effect}
    (mirrors : effect.Mirrors couples image) (fewer : couples ⊆ more) :
    effect.Mirrors more image := by
  cases mirrors with
  | obtain member => exact .obtain (fewer member)
  | giveBack member => exact .giveBack (fewer member)
  | fill inside byte => exact .fill (inside.mono fewer) byte
  | report label entry => exact .report label entry

abbrev Effects.Mirror (couples : List Couple) : List Effect → List Effect → Prop :=
  List.Forall₂ (Effect.Mirrors couples)

structure Env.Alike (env image : Env) : Prop where
  profile : image.profile = env.profile
  complaint : image.complaint = env.complaint

namespace Profile

variable (profile : Profile) {couples : List Couple} {shift : Shift}

theorem mark_mirrors (byte : UInt8) {pairing : Pairing} (inside : pairing.Inside couples) :
    Effects.Mirror couples (profile.mark byte pairing.here pairing.size)
      (profile.mark byte pairing.there pairing.size) := by
  unfold mark
  split
  · exact .cons (.fill inside byte) .nil
  · exact .nil

theorem surrender_mirrors {couple : Couple} (fits : couple.Fits shift)
    (member : couple ∈ couples) :
    Effects.Mirror couples (profile.surrender couple.here) (profile.surrender couple.there) := by
  have whole : (couple.part 0 couple.here.capacity).Inside couples :=
    Couple.part_inside member (Nat.le_of_eq (Nat.zero_add _))
  have marked := profile.mark_mirrors discardedByte whole
  unfold surrender
  rw [fits.capacity]
  exact List.rel_append marked (.cons (.giveBack member) .nil)

theorem surrenders_mirror {gone : List Couple} (fits : ∀ couple ∈ gone, couple.Fits shift)
    (members : gone ⊆ couples) :
    Effects.Mirror couples ((gone.map Couple.here).flatMap profile.surrender)
      ((gone.map Couple.there).flatMap profile.surrender) := by
  induction gone with
  | nil => exact .nil
  | cons couple rest ih =>
    have below := ih (fun c member => fits c (List.mem_cons_of_mem _ member))
      fun c member => members (List.mem_cons_of_mem _ member)
    have first := profile.surrender_mirrors (fits couple List.mem_cons_self)
      (members List.mem_cons_self)
    exact List.rel_append first below

end Profile

theorem padding_congr {first last align : Nat} (same : last % align = first % align) :
    padding last align = padding first align := by
  rw [padding, padding, same]

theorem totalCapacity_couples {couples : List Couple} {shift : Shift}
    (fits : ∀ couple ∈ couples, couple.Fits shift) :
    totalCapacity (couples.map Couple.there) = totalCapacity (couples.map Couple.here) := by
  induction couples with
  | nil => rfl
  | cons couple rest ih =>
    have below := ih fun c member => fits c (List.mem_cons_of_mem _ member)
    simp only [List.map_cons, totalCapacity, below, (fits couple List.mem_cons_self).capacity]

namespace Arena

structure Mirrors (arena : Arena) (shift : Shift) (couples : List Couple) (image : Arena) :
    Prop where
  label : image.label = arena.label
  chunkCapacity : image.chunkCapacity = arena.chunkCapacity
  disabled : image.disabled = arena.disabled
  here : arena.chunks = couples.map Couple.here
  there : image.chunks = couples.map Couple.there
  fits : ∀ couple ∈ couples, couple.Fits shift
  cursors : arena.cursor.Beside image.cursor couples
  nextSerial : arena.nextSerial = image.nextSerial + shift.serials
  generation : arena.generation = (image.generation + shift.releases) % wordLimit
  small : image.generation < wordLimit

end Arena

/-- Whether two snapshots name chunks in the same place, and the same offset in them if the chunks
are still there. -/
inductive Snapshot.Mirrors (shift : Shift) (couples : List Couple) (saved image : Snapshot) : Prop
  | bare (names : saved.cursor.chunk = none) (names' : image.cursor.chunk = none)
  | placed (handle handle' : Handle) (names : saved.cursor.chunk = some handle)
      (names' : image.cursor.chunk = some handle') (index : handle'.index = handle.index)
      (serial : handle.serial = handle'.serial + shift.serials)
      (generation : saved.generation = (image.generation + shift.releases) % wordLimit)
      (small : image.generation < wordLimit)
      (live : ∀ couple, couples.reverse[handle.index]? = some couple →
        couple.there.serial = handle'.serial → ∃ offset ≤ couple.here.capacity,
          saved.cursor = couple.here.cursor handle.index offset ∧
            image.cursor = couple.there.cursor handle.index offset)

structure Reply.Mirrors {α : Type} (shift : Shift) (couples after : List Couple)
    (reply image : Reply α) : Prop where
  effects : Effects.Mirror couples reply.effects image.effects
  arena : reply.arena.Mirrors shift after image.arena

theorem Env.Alike.conclude {env env' : Env} (alike : env.Alike env') {shift : Shift}
    {couples after : List Couple} {arena image : Arena} {effects effects' : List Effect}
    (mirror : Effects.Mirror couples effects effects') (mirrors : arena.Mirrors shift after image)
    (entry : Report) :
    (env'.conclude image effects' entry).result = (env.conclude arena effects entry).result ∧
      Reply.Mirrors shift couples after (env.conclude arena effects entry)
        (env'.conclude image effects' entry) := by
  unfold Env.conclude Env.afterReport
  rw [alike.complaint, mirrors.label]
  exact ⟨rfl, List.rel_append mirror (.cons (.report arena.label entry) .nil), mirrors⟩

theorem Env.Alike.unless {env env' : Env} (alike : env.Alike env') {shift : Shift}
    {couples after : List Couple} {arena image : Arena} {effects effects' : List Effect}
    (mirror : Effects.Mirror couples effects effects') (mirrors : arena.Mirrors shift after image)
    (entry : Report) (nothing : Prop) [Decidable nothing] :
    (if nothing then ⟨.ok (), image, effects'⟩ else env'.conclude image effects' entry).result =
        (if nothing then ⟨.ok (), arena, effects⟩ else env.conclude arena effects entry).result ∧
      Reply.Mirrors shift couples after
        (if nothing then ⟨.ok (), arena, effects⟩ else env.conclude arena effects entry)
        (if nothing then ⟨.ok (), image, effects'⟩ else env'.conclude image effects' entry) := by
  split
  · exact ⟨rfl, mirror, mirrors⟩
  · exact alike.conclude mirror mirrors entry

theorem Env.effects_conclude (env : Env) (arena : Arena) (effects : List Effect)
    (entry : Report) : effects ⊆ (env.conclude arena effects entry).effects :=
  List.subset_append_left _ _

/-- Two replies to a request for bytes: they say the same, and what they hand out is the same part
of the newest chunks. At most one chunk was added. -/
def Reply.Supplies (shift : Shift) (couples : List Couple) (size : Nat) (reply image : Reply Nat) :
    Prop :=
  ∃ fresh pairings, Reply.Mirrors shift (fresh ++ couples) (fresh ++ couples) reply image ∧
    SameGrant size reply.result image.result pairings ∧
    (∀ pairing ∈ pairings, pairing.Inside (fresh ++ couples)) ∧
    ∀ couple ∈ fresh, .obtain couple.here ∈ reply.effects ∧ .obtain couple.there ∈ image.effects

namespace Arena

variable {arena image : Arena} {shift : Shift} {couples : List Couple} {env env' : Env}

section Taking

theorem Mirrors.remaining (mirrors : arena.Mirrors shift couples image) :
    image.remaining = arena.remaining := by
  have cursors := mirrors.cursors
  unfold Arena.remaining Cursor.remaining
  cases couples with
  | nil =>
    obtain ⟨here, there⟩ := cursors
    rw [here, there]
  | cons couple rest =>
    obtain ⟨offset, within, here, there⟩ := cursors
    have capacity := (mirrors.fits couple List.mem_cons_self).capacity
    rw [here, there]
    simp only [Chunk.cursor, Chunk.finish, capacity]
    omega

theorem Mirrors.movedTo {couple : Couple} {rest : List Couple}
    (mirrors : arena.Mirrors shift (couple :: rest) image) {offset : Nat}
    (within : offset ≤ couple.here.capacity) :
    (arena.movedTo (couple.here.start + offset)).Mirrors shift (couple :: rest)
      (image.movedTo (couple.there.start + offset)) := by
  obtain ⟨_, _, here, there⟩ := mirrors.cursors
  refine { mirrors with cursors := ⟨offset, within, ?_, ?_⟩ }
  · simp only [Arena.movedTo, here]
    rfl
  · simp only [Arena.movedTo, there]
    rfl

theorem Mirrors.extended (mirrors : arena.Mirrors shift couples image) {couple : Couple}
    (fits : couple.Fits shift) (counted : arena.nextSerial + 1 < wordLimit) :
    (arena.extended couple.here).Mirrors shift (couple :: couples)
      (image.extended couple.there) := by
  have serials := mirrors.nextSerial
  have counted' : image.nextSerial + 1 < wordLimit := by omega
  refine { mirrors with
    here := congrArg (couple.here :: ·) mirrors.here
    there := congrArg (couple.there :: ·) mirrors.there
    fits := ?_, cursors := ⟨0, Nat.zero_le _, ?_, ?_⟩, nextSerial := ?_ }
  · intro other member
    rcases List.mem_cons.mp member with same | older
    · rw [same]
      exact fits
    · exact mirrors.fits other older
  · simp only [Arena.extended, mirrors.here, List.length_map]
    rfl
  · simp only [Arena.extended, mirrors.there, List.length_map]
    rfl
  · simp only [Arena.extended, Nat.mod_eq_of_lt counted, Nat.mod_eq_of_lt counted']
    omega

theorem Mirrors.bump (mirrors : arena.Mirrors shift couples image) (profile : Profile) (size : Nat)
    {align : Nat} (suits : align ∣ shift.modulus) :
    arena.bump profile size align = .ok none ∧ image.bump profile size align = .ok none ∨
      ∃ couple rest offset, couples = couple :: rest ∧ offset + size ≤ couple.here.capacity ∧
        arena.bump profile size align = .ok (some (couple.here.start + offset,
          (arena.movedTo (couple.here.start + (offset + size))).cursor)) ∧
        image.bump profile size align = .ok (some (couple.there.start + offset,
          (image.movedTo (couple.there.start + (offset + size))).cursor)) := by
  have cursors := mirrors.cursors
  cases couples with
  | nil =>
    obtain ⟨here, there⟩ := cursors
    left
    constructor
    · simp only [Arena.bump, here, Cursor.empty]
    · simp only [Arena.bump, there, Cursor.empty]
  | cons couple rest =>
    obtain ⟨offset, within, here, there⟩ := cursors
    have fits := mirrors.fits couple List.mem_cons_self
    have skip : padding (couple.there.start + offset) align =
        padding (couple.here.start + offset) align :=
      padding_congr ((fits.start.of_dvd suits).add_right offset)
    have finish : couple.there.finish = couple.there.start + couple.here.capacity := by
      rw [Chunk.finish, fits.capacity]
    have free : couple.here.start + offset ≤ couple.here.finish :=
      Nat.add_le_add_left within _
    have free' : couple.there.start + offset ≤ couple.there.finish := by
      rw [finish]
      exact Nat.add_le_add_left within _
    have left_over : couple.there.finish - (couple.there.start + offset) =
        couple.here.finish - (couple.here.start + offset) := by
      rw [finish, Chunk.finish]
      omega
    simp only [Arena.bump, here, there, Chunk.cursor, skip, profile.sub_ok free,
      profile.sub_ok free', left_over, roundUp, Arena.movedTo]
    generalize padding (couple.here.start + offset) align = gap
    by_cases huge : wordLimit ≤ gap + size
    · simp only [huge, ↓reduceIte, and_self, true_or]
    by_cases tight : couple.here.finish - (couple.here.start + offset) < gap + size
    · simp only [huge, tight, ↓reduceIte, and_self, true_or]
    · right
      refine ⟨couple, rest, offset + gap, rfl, ?_, ?_, ?_⟩
      · rw [Chunk.finish] at tight
        omega
      · simp only [huge, tight, ↓reduceIte, Nat.add_assoc]
      · simp only [huge, tight, ↓reduceIte, Nat.add_assoc]

def retry (appended : Reply Unit) (profile : Profile) (size align : Nat) : Reply Nat :=
  match appended.result with
  | .error failure => ⟨.error failure, appended.arena, appended.effects⟩
  | .ok () =>
      match appended.arena.bump profile size align with
      | .error cause => ⟨.error (.panic cause), appended.arena, appended.effects⟩
      | .ok none =>
          ⟨.error (.panic (.unreachable "a fresh chunk always fits the request it was sized for")),
            appended.arena, appended.effects⟩
      | .ok (some (start, cursor)) =>
          ⟨.ok start, { appended.arena with cursor := cursor },
            appended.effects ++ profile.handOut start size⟩

theorem reserve_of_full {size align : Nat}
    (full : arena.bump env.profile size align = .ok none) :
    arena.reserve env size align =
      retry (arena.append env size align) env.profile size align := by
  rw [reserve, full]
  rfl

theorem retry_effects (appended : Reply Unit) (profile : Profile) (size align : Nat) :
    appended.effects ⊆ (retry appended profile size align).effects := by
  intro effect member
  unfold retry
  split
  · exact member
  · split
    · exact member
    · exact member
    · exact List.mem_append_left _ member

theorem Mirrors.takes {couple : Couple} {rest : List Couple}
    (mirrors : arena.Mirrors shift (couple :: rest) image) {effects effects' : List Effect}
    (mirror : Effects.Mirror (couple :: rest) effects effects') (profile : Profile)
    {offset size : Nat} (within : offset + size ≤ couple.here.capacity) :
    Reply.Mirrors shift (couple :: rest) (couple :: rest)
      (⟨.ok (couple.here.start + offset), arena.movedTo (couple.here.start + (offset + size)),
        effects ++ profile.handOut (couple.here.start + offset) size⟩ : Reply Nat)
      ⟨.ok (couple.there.start + offset), image.movedTo (couple.there.start + (offset + size)),
        effects' ++ profile.handOut (couple.there.start + offset) size⟩ := by
  have inside : (couple.part offset size).Inside (couple :: rest) :=
    Couple.part_inside List.mem_cons_self within
  exact ⟨List.rel_append mirror (profile.mark_mirrors allocatedByte inside), mirrors.movedTo within⟩

theorem Mirrors.retry {appended appended' : Reply Unit}
    (mirrors : Reply.Mirrors shift couples couples appended appended')
    (same : appended'.result = appended.result) (profile : Profile) (size : Nat) {align : Nat}
    (suits : align ∣ shift.modulus) :
    Reply.Mirrors shift couples couples (retry appended profile size align)
        (retry appended' profile size align) ∧
      ∃ pairings, SameGrant size (retry appended profile size align).result
          (retry appended' profile size align).result pairings ∧
        ∀ pairing ∈ pairings, pairing.Inside couples := by
  unfold Arena.retry
  rw [same]
  cases appended.result with
  | error failure => exact ⟨⟨mirrors.effects, mirrors.arena⟩, [], .failed failure, by simp⟩
  | ok done =>
    rcases mirrors.arena.bump profile size suits with
      ⟨full, full'⟩ | ⟨couple, rest, offset, stack, within, fits, fits'⟩
    · simp only [full, full']
      exact ⟨⟨mirrors.effects, mirrors.arena⟩, [], .failed _, by simp⟩
    · subst stack
      simp only [fits, fits']
      refine ⟨mirrors.arena.takes mirrors.effects profile within, [couple.part offset size],
        .granted _ _, ?_⟩
      intro pairing member
      rw [List.mem_singleton.mp member]
      exact Couple.part_inside List.mem_cons_self within

theorem Mirrors.reserve (mirrors : arena.Mirrors shift couples image) (alike : env.Alike env')
    (counted : arena.nextSerial + 1 < wordLimit) (size : Nat) {align : Nat}
    (suits : align ∣ shift.modulus)
    (agrees : ∀ couple : Couple, .obtain couple.here ∈ (arena.reserve env size align).effects →
      .obtain couple.there ∈ (image.reserve env' size align).effects →
        couple.there.start ≡ couple.here.start [MOD shift.modulus]) :
    Reply.Supplies shift couples size (arena.reserve env size align)
      (image.reserve env' size align) := by
  have serials := mirrors.nextSerial
  have counted' : image.nextSerial + 1 < wordLimit := by omega
  rcases mirrors.bump env.profile size suits with
    ⟨full, full'⟩ | ⟨couple, rest, offset, stack, within, fits, fits'⟩
  · rw [← alike.profile] at full'
    rw [reserve_of_full full, reserve_of_full full', alike.profile] at agrees ⊢
    cases shape : Layout.ofSizeAlign? (max (max arena.chunkCapacity size) 1)
        (max align chunkAlign) with
    | none =>
      have refused : arena.append env size align =
          ⟨.error (.error (.sizeOverflow (max arena.chunkCapacity size) align)), arena, []⟩ := by
        simp only [Arena.append, shape]
      have refused' : image.append env' size align =
          ⟨.error (.error (.sizeOverflow (max arena.chunkCapacity size) align)), image, []⟩ := by
        simp only [Arena.append, mirrors.chunkCapacity, shape]
      have both : Reply.Mirrors shift couples couples (arena.append env size align)
          (image.append env' size align) := by
        rw [refused, refused']
        exact ⟨.nil, mirrors⟩
      obtain ⟨after, pairings, handed, inside⟩ :=
        Mirrors.retry both (by rw [refused, refused']) env.profile size suits
      exact ⟨[], pairings, after, handed, inside, by simp⟩
    | some layout =>
      have shape' : Layout.ofSizeAlign? (max (max image.chunkCapacity size) 1)
          (max align chunkAlign) = some layout := by rw [mirrors.chunkCapacity, shape]
      let couple : Couple :=
        ⟨⟨arena.cursor.chunk, arena.nextSerial, env.site layout, layout⟩,
          ⟨image.cursor.chunk, image.nextSerial, env'.site layout, layout⟩⟩
      have appended : arena.append env size align = env.conclude (arena.extended couple.here)
          [.obtain couple.here] (.appended arena.chunks.length layout.size) :=
        append_of_shape (fun _ => counted) shape
      have appended' : image.append env' size align = env'.conclude (image.extended couple.there)
          [.obtain couple.there] (.appended arena.chunks.length layout.size) := by
        have same : image.chunks.length = arena.chunks.length := by
          rw [mirrors.here, mirrors.there, List.length_map, List.length_map]
        rw [← same]
        exact append_of_shape (fun _ => counted') shape'
      have obtained : .obtain couple.here ∈ (arena.append env size align).effects := by
        rw [appended]
        exact env.effects_conclude _ _ _ List.mem_cons_self
      have obtained' : .obtain couple.there ∈ (image.append env' size align).effects := by
        rw [appended']
        exact env'.effects_conclude _ _ _ List.mem_cons_self
      have more := retry_effects (arena.append env size align) env.profile size align obtained
      have more' := retry_effects (image.append env' size align) env.profile size align obtained'
      have fits : couple.Fits shift := ⟨serials, rfl, agrees couple more more'⟩
      obtain ⟨same, both⟩ := alike.conclude (.cons (.obtain List.mem_cons_self) .nil)
        (mirrors.extended fits counted) (.appended arena.chunks.length layout.size)
      rw [← appended, ← appended'] at same both
      obtain ⟨after, pairings, handed, inside⟩ :=
        Mirrors.retry both same env.profile size suits
      refine ⟨[couple], pairings, after, handed, inside, ?_⟩
      intro other member
      rw [List.mem_singleton.mp member]
      exact ⟨more, more'⟩
  · subst stack
    have taken := mirrors.takes .nil env.profile within
    have inside : (couple.part offset size).Inside (couple :: rest) :=
      Couple.part_inside List.mem_cons_self within
    refine ⟨[], [couple.part offset size], ?_, ?_, ?_, by simp⟩
    · simp only [Arena.reserve, alike.profile, fits, fits']
      exact taken
    · simp only [Arena.reserve, alike.profile, fits, fits']
      exact .granted _ _
    · intro pairing member
      rw [List.mem_singleton.mp member]
      exact inside

theorem Mirrors.fails (mirrors : arena.Mirrors shift couples image) (size : Nat)
    (failure : Failure) :
    Reply.Supplies shift couples size ⟨.error failure, arena, []⟩ ⟨.error failure, image, []⟩ :=
  ⟨[], [], ⟨.nil, mirrors⟩, .failed failure, by simp, by simp⟩

theorem Mirrors.tryAllocate (mirrors : arena.Mirrors shift couples image) (alike : env.Alike env')
    (counted : arena.nextSerial + 1 < wordLimit) (size : Nat) {align : Nat}
    (suits : isPowerOfTwo align = true → align ∣ shift.modulus)
    (agrees : ∀ couple : Couple, .obtain couple.here ∈ (arena.tryAllocate env size align).effects →
      .obtain couple.there ∈ (image.tryAllocate env' size align).effects →
        couple.there.start ≡ couple.here.start [MOD shift.modulus]) :
    Reply.Supplies shift couples size (arena.tryAllocate env size align)
      (image.tryAllocate env' size align) := by
  have disabled : image.isDisabled = arena.isDisabled := by
    simp only [isDisabled, mirrors.disabled]
  unfold Arena.tryAllocate at agrees ⊢
  rw [alike.profile, disabled, mirrors.label] at agrees ⊢
  by_cases off : (env.profile.checks && arena.isDisabled) = true
  · rw [if_pos off, if_pos off]
    exact mirrors.fails size _
  rw [if_neg off, if_neg off] at agrees ⊢
  by_cases power : isPowerOfTwo align = true
  · rw [if_pos power, if_pos power] at agrees ⊢
    exact mirrors.reserve alike counted size (suits power) agrees
  · rw [if_neg power, if_neg power]
    exact mirrors.fails size _

theorem allocate_effects (arena : Arena) (env : Env) (size align : Nat) :
    (arena.allocate env size align).effects = (arena.tryAllocate env size align).effects := by
  simp only [allocate]
  split <;> rfl

theorem Mirrors.allocate (mirrors : arena.Mirrors shift couples image) (alike : env.Alike env')
    (counted : arena.nextSerial + 1 < wordLimit) (size : Nat) {align : Nat}
    (suits : isPowerOfTwo align = true → align ∣ shift.modulus)
    (agrees : ∀ couple : Couple, .obtain couple.here ∈ (arena.allocate env size align).effects →
      .obtain couple.there ∈ (image.allocate env' size align).effects →
        couple.there.start ≡ couple.here.start [MOD shift.modulus]) :
    Reply.Supplies shift couples size (arena.allocate env size align)
      (image.allocate env' size align) := by
  rw [allocate_effects, allocate_effects] at agrees
  obtain ⟨fresh, pairings, both, handed, inside, obtained⟩ :=
    mirrors.tryAllocate alike counted size suits agrees
  unfold Arena.allocate
  rw [mirrors.label]
  generalize arena.tryAllocate env size align = reply at both handed obtained ⊢
  generalize image.tryAllocate env' size align = reply' at both handed obtained ⊢
  obtain ⟨result, after, effects⟩ := reply
  obtain ⟨result', after', effects'⟩ := reply'
  obtain ⟨mirror, afterwards⟩ := both
  cases handed with
  | granted here there =>
    exact ⟨fresh, _, ⟨mirror, afterwards⟩, .granted here there, inside, obtained⟩
  | failed failure =>
    cases failure with
    | error cause => exact ⟨fresh, [], ⟨mirror, afterwards⟩, .failed _, by simp, obtained⟩
    | panic cause => exact ⟨fresh, [], ⟨mirror, afterwards⟩, .failed _, by simp, obtained⟩
    | refused cause => exact ⟨fresh, [], ⟨mirror, afterwards⟩, .failed _, by simp, obtained⟩

/-- Every call that requests ask an arena for memory with. -/
theorem Mirrors.ask (mirrors : arena.Mirrors shift couples image) (alike : env.Alike env')
    (counted : arena.nextSerial + 1 < wordLimit) {size align : Nat}
    {call : Arena → Env → Reply Nat} (asks : Asks size align call)
    (suits : isPowerOfTwo align = true → align ∣ shift.modulus)
    (agrees : ∀ couple : Couple, .obtain couple.here ∈ (call arena env).effects →
      .obtain couple.there ∈ (call image env').effects →
        couple.there.start ≡ couple.here.start [MOD shift.modulus]) :
    Reply.Supplies shift couples size (call arena env) (call image env') := by
  cases asks with
  | allocate => exact mirrors.allocate alike counted size suits agrees
  | tryAllocate => exact mirrors.tryAllocate alike counted size suits agrees
  | allocateArray kind count =>
    unfold Arena.allocateArray at agrees ⊢
    cases shape : kind.layout.array? count with
    | none =>
      simp only [mirrors.label]
      exact mirrors.fails _ _
    | some layout =>
      obtain ⟨size, align⟩ := Kind.layout_of_array? shape
      simp only [shape, align] at agrees ⊢
      rw [← size]
      exact mirrors.allocate alike counted layout.size suits agrees

end Taking

section Using

theorem Mirrors.top {couple : Couple} {rest : List Couple}
    (mirrors : arena.Mirrors shift (couple :: rest) image) :
    arena.chunkAt? rest.length = some couple.here ∧
      image.chunkAt? rest.length = some couple.there := by
  have here := reverse_getElem?_top couple.here (rest.map Couple.here)
  have there := reverse_getElem?_top couple.there (rest.map Couple.there)
  rw [List.length_map] at here there
  unfold chunkAt?
  rw [mirrors.here, mirrors.there]
  exact ⟨here, there⟩

theorem Mirrors.misses {couple : Couple} {rest : List Couple}
    (mirrors : arena.Mirrors shift (couple :: rest) image)
    (low : arena.cursor.limit < wordLimit) (low' : image.cursor.limit < wordLimit)
    {here there bytes : Nat}
    (meets : couple.Places here there ∨ ¬ arena.Meets here bytes ∧ ¬ image.Meets there bytes) :
    (there < couple.there.start ∨ wordLimit ≤ there + bytes ∨
        there + bytes ≠ image.cursor.next) ↔
      (here < couple.here.start ∨ wordLimit ≤ here + bytes ∨
        here + bytes ≠ arena.cursor.next) := by
  have capacity := (mirrors.fits couple List.mem_cons_self).capacity
  rcases meets with ⟨offset, first, second⟩ | ⟨astray, astray'⟩
  · obtain ⟨next, below, place, place'⟩ := mirrors.cursors
    simp only [place, place', Chunk.cursor, Chunk.finish, capacity] at low low' ⊢
    omega
  · have newest : arena.chunks.head? = some couple.here := by rw [mirrors.here]; rfl
    have newest' : image.chunks.head? = some couple.there := by rw [mirrors.there]; rfl
    simp only [Meets, newest, newest', Option.mem_def, Option.some.injEq,
      exists_eq_left'] at astray astray'
    omega

theorem Mirrors.grow (mirrors : arena.Mirrors shift couples image) (alike : env.Alike env')
    (low : arena.cursor.limit < wordLimit) (low' : image.cursor.limit < wordLimit)
    {here there old elementSize : Nat}
    (meets : (∃ couple ∈ couples.head?, couple.Places here there) ∨
      ¬ arena.Meets here (old * elementSize) ∧ ¬ image.Meets there (old * elementSize))
    (new : Nat) :
    (image.grow env' there old new elementSize).result =
        (arena.grow env here old new elementSize).result ∧
      Reply.Mirrors shift couples couples (arena.grow env here old new elementSize)
        (image.grow env' there old new elementSize) := by
  have cursors := mirrors.cursors
  have disabled : image.isDisabled = arena.isDisabled := by
    simp only [isDisabled, mirrors.disabled]
  have refuses {result : Except Failure Bool} :
      Reply.Mirrors shift couples couples ⟨result, arena, []⟩ ⟨result, image, []⟩ :=
    ⟨.nil, mirrors⟩
  unfold Arena.grow
  rw [alike.profile, disabled, mirrors.label]
  by_cases off : (env.profile.checks && arena.isDisabled) = true
  · simp only [off, ↓reduceIte]
    exact ⟨trivial, refuses⟩
  by_cases shorter : new < old
  · simp only [off, shorter, Bool.false_eq_true, ↓reduceIte]
    exact ⟨trivial, refuses⟩
  by_cases huge : wordLimit ≤ old * elementSize ∨ wordLimit ≤ new * elementSize
  · simp only [off, shorter, huge, Bool.false_eq_true, ↓reduceIte]
    exact ⟨trivial, refuses⟩
  cases couples with
  | nil =>
    obtain ⟨bare, bare'⟩ := cursors
    simp only [off, shorter, huge, bare, bare', Cursor.empty, Bool.false_eq_true, ↓reduceIte]
    exact ⟨trivial, refuses⟩
  | cons couple rest =>
    obtain ⟨offset, within, place, place'⟩ := cursors
    obtain ⟨top, top'⟩ := mirrors.top
    have fits := mirrors.fits couple List.mem_cons_self
    have finish : couple.there.finish = couple.there.start + couple.here.capacity := by
      rw [Chunk.finish, fits.capacity]
    have bound : couple.here.start + offset ≤ couple.here.finish :=
      Nat.add_le_add_left within _
    have bound' : couple.there.start + offset ≤ couple.there.finish := by
      rw [finish]
      exact Nat.add_le_add_left within _
    have left_over : couple.there.finish - (couple.there.start + offset) =
        couple.here.finish - (couple.here.start + offset) := by
      rw [finish, Chunk.finish]
      omega
    have longer : old * elementSize ≤ new * elementSize :=
      Nat.mul_le_mul_right elementSize (by omega)
    have misses := mirrors.misses low low' (by simpa using meets)
    simp only [place, place', Chunk.cursor] at misses
    simp only [off, shorter, huge, place, place', Chunk.cursor, top, top', Bool.false_eq_true,
      ↓reduceIte, env.profile.sub_ok longer, env.profile.sub_ok bound, env.profile.sub_ok bound',
      left_over, misses]
    by_cases astray : here < couple.here.start ∨ wordLimit ≤ here + old * elementSize ∨
        here + old * elementSize ≠ couple.here.start + offset
    · simp only [astray, ↓reduceIte]
      exact ⟨trivial, refuses⟩
    by_cases tight : couple.here.finish - (couple.here.start + offset) <
        new * elementSize - old * elementSize
    · simp only [astray, tight, ↓reduceIte]
      exact ⟨trivial, refuses⟩
    · have room : offset + (new * elementSize - old * elementSize) ≤ couple.here.capacity := by
        rw [Chunk.finish] at tight
        omega
      have taken := mirrors.takes .nil env.profile room
      simp only [astray, tight, ↓reduceIte]
      refine ⟨trivial, taken.effects, ?_⟩
      have after := taken.arena
      simp only [Arena.movedTo, place, place', Chunk.cursor, mirrors.label,
        ← Nat.add_assoc] at after
      exact after

theorem Mirrors.owns (mirrors : arena.Mirrors shift couples image) {pairing : Pairing}
    (inside : pairing.Inside couples) :
    arena.owns pairing.here = true ∧ image.owns pairing.there = true := by
  obtain ⟨couple, member, offset, within, same⟩ := inside
  have fits := mirrors.fits couple member
  have contains : couple.here.contains pairing.here = true := by
    rw [same]
    simp [Chunk.contains, Chunk.finish, Couple.part]
    omega
  have contains' : couple.there.contains pairing.there = true := by
    rw [same]
    simp [Chunk.contains, Chunk.finish, Couple.part, fits.capacity]
    omega
  rw [Arena.owns, Arena.owns, mirrors.here, mirrors.there]
  exact ⟨List.any_eq_true.mpr ⟨_, List.mem_map_of_mem member, contains⟩,
    List.any_eq_true.mpr ⟨_, List.mem_map_of_mem member, contains'⟩⟩

theorem Mirrors.deallocate (mirrors : arena.Mirrors shift couples image) (alike : env.Alike env')
    {pairing : Pairing} {layout : Layout} (size : layout.size = pairing.size)
    (owned : pairing.Inside couples ∨
      arena.owns pairing.here = false ∧ image.owns pairing.there = false) :
    (image.deallocate env' pairing.there layout).result =
        (arena.deallocate env pairing.here layout).result ∧
      Reply.Mirrors shift couples couples (arena.deallocate env pairing.here layout)
        (image.deallocate env' pairing.there layout) := by
  unfold Arena.deallocate
  rw [alike.profile, size]
  rcases owned with inside | ⟨strange, strange'⟩
  · obtain ⟨owned, owned'⟩ := mirrors.owns inside
    rw [owned, owned', Bool.not_true, Bool.and_false, if_neg Bool.false_ne_true]
    exact ⟨rfl, env.profile.mark_mirrors discardedByte inside, mirrors⟩
  · rw [strange, strange', Bool.not_false, Bool.and_true]
    by_cases strict : env.profile.checks = true
    · rw [if_pos strict, if_pos strict]
      exact ⟨rfl, .nil, mirrors⟩
    · have nothing (start count : Nat) : env.profile.discard start count = [] := if_neg strict
      rw [if_neg strict, if_neg strict, nothing, nothing]
      exact ⟨rfl, .nil, mirrors⟩

end Using

section Guards

theorem Mirrors.disable (mirrors : arena.Mirrors shift couples image) (profile : Profile) :
    (image.disable profile).result = (arena.disable profile).result ∧
      Reply.Mirrors shift couples couples (arena.disable profile) (image.disable profile) := by
  unfold Arena.disable
  rw [mirrors.disabled]
  split
  · cases profile.add arena.disabled 1 with
    | error cause => exact ⟨rfl, .nil, mirrors⟩
    | ok count => exact ⟨rfl, .nil, { mirrors with disabled := rfl }⟩
  · exact ⟨rfl, .nil, mirrors⟩

theorem Mirrors.enable (mirrors : arena.Mirrors shift couples image) (profile : Profile) :
    (image.enable profile).result = (arena.enable profile).result ∧
      Reply.Mirrors shift couples couples (arena.enable profile) (image.enable profile) := by
  unfold Arena.enable
  rw [mirrors.disabled]
  split
  · split
    · exact ⟨rfl, .nil, mirrors⟩
    · exact ⟨rfl, .nil, { mirrors with disabled := rfl }⟩
  · exact ⟨rfl, .nil, mirrors⟩

end Guards

section Returning

theorem Mirrors.length_eq (mirrors : arena.Mirrors shift couples image) :
    arena.chunks.length = couples.length ∧ image.chunks.length = couples.length := by
  rw [mirrors.here, mirrors.there, List.length_map, List.length_map]
  exact ⟨rfl, rfl⟩

theorem Mirrors.emptied (mirrors : arena.Mirrors shift couples image) {generation : Nat}
    (small : generation < wordLimit) :
    (arena.emptied ((generation + shift.releases) % wordLimit)).Mirrors shift []
      (image.emptied generation) :=
  { mirrors with
    here := rfl, there := rfl, fits := by simp, cursors := ⟨rfl, rfl⟩
    generation := rfl, small := small }

theorem Mirrors.aged (mirrors : arena.Mirrors shift couples image) :
    (arena.generation + 1) % wordLimit =
      ((image.generation + 1) % wordLimit + shift.releases) % wordLimit := by
  rw [mirrors.generation, Nat.mod_add_mod, Nat.mod_add_mod, Nat.add_right_comm]

theorem Mirrors.recent_iff (mirrors : arena.Mirrors shift couples image) {generation : Nat}
    (small : generation < wordLimit) :
    (generation + shift.releases) % wordLimit = arena.generation ↔
      generation = image.generation := by
  rw [mirrors.generation]
  constructor
  · intro same
    have close : generation ≡ image.generation [MOD wordLimit] :=
      Nat.ModEq.add_right_cancel' shift.releases same
    exact close.eq_of_lt_of_lt small mirrors.small
  · intro same
    rw [same]

theorem Mirrors.release (mirrors : arena.Mirrors shift couples image) (alike : env.Alike env')
    (consistent : arena.Consistent) (consistent' : image.Consistent)
    (small : totalCapacity arena.chunks < wordLimit)
    (small' : totalCapacity image.chunks < wordLimit) :
    (image.release env').result = (arena.release env).result ∧
      Reply.Mirrors shift couples [] (arena.release env) (image.release env') := by
  obtain ⟨length, length'⟩ := mirrors.length_eq
  have positive : 0 < wordLimit := by decide
  have gone := env.profile.surrenders_mirror mirrors.fits (List.Subset.refl _)
  rw [release_eq consistent small env, release_eq consistent' small' env', mirrors.aged,
    alike.profile,
    length, length', mirrors.here, mirrors.there, totalCapacity_couples mirrors.fits]
  exact alike.unless gone (mirrors.emptied (Nat.mod_lt _ positive)) _ _

theorem Mirrors.live (mirrors : arena.Mirrors shift couples image) {handle handle' : Handle}
    (index : handle'.index = handle.index)
    (serial : handle.serial = handle'.serial + shift.serials) :
    arena.liveChunk? handle = none ∧ image.liveChunk? handle' = none ∨
      ∃ couple, couples.reverse[handle.index]? = some couple ∧
        couple.there.serial = handle'.serial ∧ arena.liveChunk? handle = some couple.here ∧
        image.liveChunk? handle' = some couple.there := by
  unfold liveChunk? chunkAt?
  rw [mirrors.here, mirrors.there, ← List.map_reverse, ← List.map_reverse, List.getElem?_map,
    List.getElem?_map, index]
  cases found : couples.reverse[handle.index]? with
  | none => exact Or.inl ⟨rfl, rfl⟩
  | some couple =>
    have fits := (mirrors.fits couple (List.mem_reverse.mp (List.mem_of_getElem? found))).serial
    by_cases same : couple.there.serial = handle'.serial
    · have same' : couple.here.serial = handle.serial := by omega
      exact Or.inr ⟨couple, rfl, same, by simp [same'], by simp [same]⟩
    · have other : couple.here.serial ≠ handle.serial := by omega
      exact Or.inl ⟨by simp [other], by simp [same]⟩

theorem Mirrors.fallenBack (mirrors : arena.Mirrors shift couples image) {couple : Couple}
    {index offset : Nat} (found : couples.reverse[index]? = some couple)
    (within : offset ≤ couple.here.capacity) :
    (arena.fallenBack (couple.here.cursor index offset) (index + 1)).Mirrors shift
      (couples.drop (couples.length - (index + 1)))
      (image.fallenBack (couple.there.cursor index offset) (index + 1)) := by
  obtain ⟨length, length'⟩ := mirrors.length_eq
  have inside := lt_of_reverse_getElem? found
  have height : (couples.drop (couples.length - index)).length = index := by
    rw [List.length_drop]
    omega
  refine { mirrors with here := ?_, there := ?_, fits := ?_, cursors := ?_ }
  · simp only [Arena.fallenBack, mirrors.here, List.map_drop, List.length_map]
  · simp only [Arena.fallenBack, mirrors.there, List.map_drop, List.length_map]
  · exact fun other member => mirrors.fits other (List.mem_of_mem_drop member)
  · rw [reverse_drop_cons found]
    refine ⟨offset, within, ?_, ?_⟩
    · rw [height]
      rfl
    · rw [height]
      rfl

theorem Mirrors.clearing (mirrors : arena.Mirrors shift couples image) {couple : Couple}
    {index : Nat} (found : couples.reverse[index]? = some couple) (offset : Nat)
    (profile : Profile) :
    Effects.Mirror couples
      (arena.clearing profile (couple.here.cursor index offset) ⟨index, couple.here.serial⟩)
      (image.clearing profile (couple.there.cursor index offset) ⟨index, couple.there.serial⟩) := by
  have member := List.mem_reverse.mp (List.mem_of_getElem? found)
  have fits := mirrors.fits couple member
  have used : ∃ last ≤ couple.here.capacity,
      (if arena.cursor.chunk = some ⟨index, couple.here.serial⟩ then arena.cursor.next
        else couple.here.finish) = couple.here.start + last ∧
      (if image.cursor.chunk = some ⟨index, couple.there.serial⟩ then image.cursor.next
        else couple.there.finish) = couple.there.start + last := by
    have cursors := mirrors.cursors
    cases couples with
    | nil => cases found
    | cons newest rest =>
      obtain ⟨last, within, here, there⟩ := cursors
      simp only [here, there, Chunk.cursor, Option.some.injEq, Handle.mk.injEq]
      by_cases top : rest.length = index
      · subst top
        rw [reverse_getElem?_top] at found
        cases found
        exact ⟨last, within, if_pos ⟨rfl, rfl⟩, if_pos ⟨rfl, rfl⟩⟩
      · refine ⟨couple.here.capacity, Nat.le_refl _, if_neg fun same => top same.1, ?_⟩
        rw [if_neg fun same => top same.1, Chunk.finish, fits.capacity]
  obtain ⟨last, within, here, there⟩ := used
  unfold Arena.clearing
  simp only [Chunk.cursor, here, there]
  by_cases more : offset < last
  · rw [if_pos (Nat.add_lt_add_left more _), if_pos (Nat.add_lt_add_left more _),
      Nat.add_sub_add_left, Nat.add_sub_add_left]
    exact profile.mark_mirrors discardedByte (Couple.part_inside member (by omega))
  · rw [if_neg (by omega), if_neg (by omega)]
    exact .nil

theorem Mirrors.rewind (mirrors : arena.Mirrors shift couples image) (alike : env.Alike env')
    (consistent : arena.Consistent) (consistent' : image.Consistent)
    (small : totalCapacity arena.chunks < wordLimit)
    (small' : totalCapacity image.chunks < wordLimit) {saved saved' : Snapshot}
    (recalls : saved.Mirrors shift couples saved') :
    (image.rewind env' saved').result = (arena.rewind env saved).result ∧
      ∃ after, after <:+ couples ∧
        Reply.Mirrors shift couples after (arena.rewind env saved) (image.rewind env' saved') := by
  obtain ⟨length, length'⟩ := mirrors.length_eq
  cases recalls with
  | bare names names' =>
    have gone := env.profile.surrenders_mirror mirrors.fits (List.Subset.refl _)
    have emptied := mirrors.emptied mirrors.small
    rw [← mirrors.generation] at emptied
    obtain ⟨same, both⟩ := alike.unless gone emptied (.emptied couples.length) (couples.length = 0)
    rw [rewind_of_bare consistent small env names, rewind_of_bare consistent' small' env' names',
      alike.profile, length, length', mirrors.here, mirrors.there]
    exact ⟨same, [], List.nil_suffix, both⟩
  | placed handle handle' names names' index serial generation bounded live =>
    rcases mirrors.live index serial with ⟨gone, gone'⟩ | ⟨couple, found, own, here, there⟩
    · have recent := mirrors.recent_iff bounded
      rw [← generation] at recent
      by_cases same : saved.generation = arena.generation
      · rw [rewind_of_stale names gone same, rewind_of_stale names' gone' (recent.mp same),
          mirrors.label, index]
        exact ⟨rfl, couples, List.suffix_refl _, .nil, mirrors⟩
      · have later := mt recent.mpr same
        cases loud : env.complaint .warn with
        | some cause =>
          have loud' : env'.complaint .warn = some cause := by rw [alike.complaint, loud]
          rw [rewind_of_unwarned names gone same loud, rewind_of_unwarned names' gone' later loud',
            mirrors.label, index]
          exact ⟨rfl, couples, List.suffix_refl _, .cons (.report _ _) .nil, mirrors⟩
        | none =>
          have quiet' : env'.complaint .warn = none := by rw [alike.complaint, loud]
          obtain ⟨result, effects, after⟩ :=
            mirrors.release alike consistent consistent' small small'
          rw [rewind_of_released names gone same loud, rewind_of_released names' gone' later quiet',
            mirrors.label, index]
          exact ⟨result, [], List.nil_suffix, .cons (.report _ _) effects, after⟩
    · obtain ⟨offset, within, place, place'⟩ := live couple found own
      have member := List.mem_reverse.mp (List.mem_of_getElem? found)
      have fits := mirrors.fits couple member
      have high : couple.here.start + offset ≤ couple.here.finish := Nat.add_le_add_left within _
      have high' : couple.there.start + offset ≤ couple.there.finish := by
        rw [Chunk.finish, fits.capacity]
        exact Nat.add_le_add_left within _
      have whole : handle = ⟨handle.index, couple.here.serial⟩ := by
        rw [place] at names
        exact (Option.some.inj names).symm
      have whole' : handle' = ⟨handle.index, couple.there.serial⟩ := by
        rw [place'] at names'
        exact (Option.some.inj names').symm
      have cleared := mirrors.clearing found offset env.profile
      rw [← whole, ← whole'] at cleared
      have gone := env.profile.surrenders_mirror
        (fun other inside => mirrors.fits other (List.mem_of_mem_take inside))
        (List.take_subset (couples.length - (handle.index + 1)) couples)
      rw [List.map_take, List.map_take, ← mirrors.here, ← mirrors.there] at gone
      obtain ⟨same, both⟩ := alike.unless (List.rel_append cleared gone)
        (mirrors.fallenBack found within)
        (.reactivated (couples.length - (handle.index + 1)) handle.index)
        (couples.length - (handle.index + 1) = 0)
      rw [rewind_of_live consistent small env names here (by rw [place]; rfl)
          (by rw [place]; exact Nat.le_add_right _ _) (by rw [place]; exact high),
        rewind_of_live consistent' small' env' names' there (by rw [place']; rfl)
          (by rw [place']; exact Nat.le_add_right _ _) (by rw [place']; exact high'),
        above, above, alike.profile, length, length', index, place, place']
      exact ⟨same, _, List.drop_suffix _ _, both⟩

end Returning

end Arena

end ChunkArena
