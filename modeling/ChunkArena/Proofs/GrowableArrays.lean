import ChunkArena.Proofs.RewindAbsorption
import ChunkArena.Proofs.GrowthComposition
import ChunkArena.Proofs.MirroredArenas

/-!
Which arrays can be grown where they are: those that end where the free space of the newest chunk
begins, by as many bytes as there are left. That is so for an array that was just allocated, and
again whenever everything since is undone. It is not so once another allocation that takes bytes
came after it, or if it lies in any other block, whether that is an older chunk, another arena's or
one that was given back.
-/

namespace ChunkArena

def Traffic.Distant (a b : Traffic) : Prop :=
  a.start + a.layout.size < b.start ∨ b.start + b.layout.size < a.start

instance (a b : Traffic) : Decidable (a.Distant b) := inferInstanceAs (Decidable (_ ∨ _))

instance : Std.Symm Traffic.Distant := ⟨fun _ _ distant => Or.symm distant⟩

/-- Whether the system never gave out an address twice and kept all its blocks at a distance. -/
def Spaced (traffic : List Traffic) : Prop := (arrivals traffic).Pairwise Traffic.Distant

instance (traffic : List Traffic) : Decidable (Spaced traffic) :=
  inferInstanceAs (Decidable (List.Pairwise _ _))

/-- Whether a range of addresses lies in a block; an empty range may also lie at its end. -/
def Traffic.Contains (block : Traffic) (start bytes : Nat) : Prop :=
  block.start ≤ start ∧ start + bytes ≤ block.start + block.layout.size

def Grant.bytes (grant : Grant) : Nat := grant.length * grant.kind.size

namespace Arena

variable {arena : Arena} {start old new elementSize : Nat}

/-- There is room for the growth of an array that ends at the cursor, of as many bytes as are left.
-/
theorem stretches_iff_meets (consistent : arena.Consistent)
    (below : arena.cursor.limit < wordLimit) :
    arena.Stretches start old new elementSize ↔
      old ≤ new ∧ new * elementSize < wordLimit ∧ arena.Meets start (old * elementSize) ∧
        (new - old) * elementSize ≤ arena.remaining := by
  have bound := consistent.limit_bound
  rw [remaining, Cursor.remaining, Nat.sub_mul]
  constructor
  · intro stretches
    have longer : old * elementSize ≤ new * elementSize :=
      Nat.mul_le_mul_right elementSize stretches.ordered
    have ends := stretches.ends
    have room := stretches.room
    obtain ⟨chunk, rest, stack⟩ := List.exists_cons_of_ne_nil stretches.some_chunk
    have newest : arena.chunks.head? = some chunk := by rw [stack]; rfl
    exact ⟨stretches.ordered, by omega, ⟨chunk, newest, stretches.inside chunk newest, ends⟩,
      by omega⟩
  · rintro ⟨ordered, _, ⟨chunk, newest, low, ends⟩, room⟩
    have longer : old * elementSize ≤ new * elementSize :=
      Nat.mul_le_mul_right elementSize ordered
    refine ⟨?_, ?_, ordered, ends, by omega⟩
    · intro empty
      rw [empty] at newest
      cases newest
    · intro other same
      cases newest.symm.trans same
      exact low

theorem Meets.contained (consistent : arena.Consistent) {bytes : Nat}
    (meets : arena.Meets start bytes) (owner : Nat) :
    ∃ chunk ∈ arena.chunks.head?, (chunk.entry owner).Contains start bytes := by
  obtain ⟨chunk, newest, low, ends⟩ := meets
  refine ⟨chunk, newest, low, ?_⟩
  have bound := consistent.limit_bound
  have limit := consistent.limit_eq
  rw [newest] at limit
  have limit : arena.cursor.limit = chunk.start + chunk.capacity := limit
  have whole : (chunk.entry owner).start + (chunk.entry owner).layout.size =
      chunk.start + chunk.capacity := rfl
  omega

end Arena

theorem Traffic.not_contains {a b : Traffic} {start bytes : Nat}
    (apart : a.Apart b ∧ 0 < bytes ∨ a.Distant b) (first : a.Contains start bytes) :
    ¬ b.Contains start bytes := by
  rintro ⟨low, high⟩
  obtain ⟨low', high'⟩ := first
  simp only [Apart, Distant] at apart
  omega

namespace World

/-- What a call to grow an array comes to. -/
structure Growth (before : World) (owner : Nat) (arena : Arena) (start old new elementSize : Nat)
    (answer : Except Failure Bool × World) : Prop where
  exactly : answer.1 = .ok true ↔
    old ≤ new ∧ new * elementSize < wordLimit ∧ arena.Meets start (old * elementSize) ∧
      (new - old) * elementSize ≤ arena.remaining
  refused : answer.1 ≠ .ok true → answer = (.ok false, before)
  moved : answer.1 = .ok true →
    answer.2 =
      { before.replace owner (arena.movedTo (start + new * elementSize)) with
        memory := answer.2.memory }
  bytes : ∀ address,
    address < start + old * elementSize ∨ start + new * elementSize ≤ address →
      answer.2.memory.read address = before.memory.read address
  /-- Whatever comes in between, what this chunk serves next lies behind the array. -/
  onward : answer.1 = .ok true → ∀ later size align call, Arena.Asks size align call →
    Provided (answer.2.through owner later).traffic → ∀ address,
      ((answer.2.through owner later).onArena owner call).1 = .ok address →
        ((answer.2.through owner later).onArena owner call).2.chunks owner = arena.chunks →
          start + new * elementSize ≤ address
  /-- The array is in another block than the newest chunk. -/
  elsewhere : ∀ block ∈ arrivals before.traffic,
    (∀ chunk ∈ arena.chunks.head?, block ≠ chunk.entry owner) →
      block.Contains start (old * elementSize) →
        block ∈ held before.traffic ∧ 0 < old * elementSize ∨ Spaced before.traffic →
          answer = (.ok false, before)

variable {world : World} {owner : Nat} {arena : Arena} {start old new elementSize : Nat}

theorem read_handOut (world : World) (owner : Nat) (arena : Arena) (start count : Nat)
    {address : Nat} (outside : address < start ∨ start + count ≤ address) :
    (world.after owner (world.profile.handOut start count) arena).memory.read address =
      world.memory.read address := by
  apply read_after
  intro effect member fills
  have inside := Profile.fills_of_mem_mark member fills
  omega

theorem after_handOut (world : World) (owner : Nat) (arena : Arena) (start count : Nat) :
    world.after owner (world.profile.handOut start count) arena =
      { world.replace owner arena with
        memory := (world.after owner (world.profile.handOut start count) arena).memory } := by
  unfold Profile.handOut Profile.mark
  split <;> rfl

theorem asked_behind (sound : world.Sound) (found : world.arena? owner = some arena)
    {base : Arena} (higher : arena.Over base) {size align address : Nat}
    {call : Arena → Env → Reply Nat} (asks : Arena.Asks size align call)
    (served : (world.onArena owner call).1 = .ok address)
    (here : (world.onArena owner call).2.chunks owner = base.chunks) :
    base.cursor.next ≤ address := by
  obtain ⟨skew, answer, present⟩ := onArena_self found call
  rw [answer] at served
  rw [chunks_of_some present] at here
  have consistent := (sound owner arena found).consistent
  obtain ⟨_, upon⟩ := higher
  obtain ⟨mid, effects, spill, ⟨failure, failed⟩ | ⟨start, offers, done⟩⟩ :=
    asks.answers consistent (world.env skew)
  · rw [failed] at served
    cases served
  · rw [done] at served here
    cases served
    have level := (upon.spill spill).level (congrArg List.length here)
    exact Nat.le_trans level offers.low

theorem grow_growth (sound : world.Sound) (provided : Provided world.traffic)
    (found : world.arena? owner = some arena) (enabled : arena.isDisabled = false)
    (start old new elementSize : Nat) :
    Growth world owner arena start old new elementSize
      (world.grow owner start old new elementSize) := by
  have backed := sound owner arena found
  have consistent := backed.consistent
  have below := backed.limit_lt provided
  have elsewhere (meets : arena.Meets start (old * elementSize)) {block : Traffic}
      (came : block ∈ arrivals world.traffic)
      (other : ∀ chunk ∈ arena.chunks.head?, block ≠ chunk.entry owner)
      (contains : block.Contains start (old * elementSize)) :
      ¬ (block ∈ held world.traffic ∧ 0 < old * elementSize ∨ Spaced world.traffic) := by
    intro apart
    obtain ⟨chunk, newest, inside⟩ := meets.contained consistent owner
    have booked := backed.booked chunk (List.mem_of_mem_head? newest)
    refine Traffic.not_contains ?_ contains inside
    rcases apart with ⟨kept, nonempty⟩ | spaced
    · exact Or.inl ⟨held_apart provided kept booked (other chunk newest), nonempty⟩
    · exact Or.inr (spaced.forall came (arrived_of_held booked) (other chunk newest))
  have exactly : arena.Stretches start old new elementSize ↔ _ :=
    Arena.stretches_iff_meets consistent below
  rcases grow_exact consistent below found enabled start old new elementSize with
    ⟨stretches, grown⟩ | ⟨beyond, refused⟩
  · have longer : old * elementSize ≤ new * elementSize :=
      Nat.mul_le_mul_right elementSize stretches.ordered
    have room := exactly.mp stretches
    rw [grown]
    refine ⟨iff_of_true rfl room, fun no => absurd rfl no, ?_, ?_, ?_, ?_⟩
    · exact fun _ => after_handOut world owner _ _ _
    · intro address outside
      exact read_handOut world owner _ _ _ (by omega)
    · intro _ later size align call asks through address served here
      have between := provided_of_suffix through (through_traffic_suffix _ owner later)
      obtain ⟨sound', now, present, higher⟩ :=
        through_allUpon (sound.after found (stretches.change world.profile).single between)
          (arena?_after_self owner world found _ _) later through
      exact asked_behind sound' present higher asks served here
    · intro block came other contains apart
      exact absurd apart (elsewhere room.2.2.1 came other contains)
  · rw [refused]
    refine ⟨?_, fun _ => rfl, ?_, fun _ _ => rfl, ?_, fun _ _ _ _ _ => rfl⟩
    · rw [← exactly]
      exact iff_of_false (by simp) beyond
    · simp
    · simp

end World

namespace Arena

variable {arena base : Arena} {size align : Nat} {call : Arena → Env → Reply Nat}

theorem Asks.rises (asks : Asks size align call) (consistent : arena.Consistent)
    (higher : arena.Over base) (env : Env) :
    (call arena env).arena.Over base ∧ (call arena env).arena.disabled = arena.disabled ∧
      ∀ start, (call arena env).result = .ok start →
        (call arena env).arena.Meets start size ∧
          ((call arena env).arena.chunks.length = base.chunks.length →
            base.cursor.next + size ≤ (call arena env).arena.cursor.next) := by
  have answers := asks.answers consistent env
  obtain ⟨count, upon⟩ := higher
  refine ⟨⟨count, upon.answers answers⟩, answers.counts.2.1, ?_⟩
  obtain ⟨mid, effects, spill, ⟨failure, failed⟩ | ⟨start, offers, done⟩⟩ := answers
  · intro start served
    rw [failed] at served
    cases served
  · intro other served
    rw [done] at served ⊢
    cases served
    obtain ⟨chunk, found, low, _⟩ :=
      top_of_ne_nil (spill.changes.consistent consistent) offers.some_chunk
    have newest := (reverse_getElem?_head mid.chunks).symm.trans found
    refine ⟨⟨chunk, newest, Nat.le_trans low offers.low, rfl⟩, ?_⟩
    intro same
    have level := (upon.spill spill).level same
    exact Nat.add_le_add_right (Nat.le_trans level offers.low) size

theorem Over.next_le (higher : arena.Over base) (same : arena.chunks.length = base.chunks.length) :
    base.cursor.next ≤ arena.cursor.next := by
  obtain ⟨_, upon⟩ := higher
  exact upon.level same

theorem Over.length_le (higher : arena.Over base) :
    base.chunks.length ≤ arena.chunks.length := by
  obtain ⟨_, upon⟩ := higher
  exact upon.stack.length_le

end Arena

structure World.EndsAtCursor (world : World) (owner : Nat) (base : Arena) (total : Nat)
    (grants : List Grant) : Prop where
  sound : world.Sound
  higher : ∃ arena, world.arena? owner = some arena ∧ arena.Over base ∧
    arena.disabled = base.disabled ∧ ∀ grant ∈ grants,
      (arena.chunks.length = base.chunks.length →
        base.cursor.next + grant.bytes ≤ arena.cursor.next) ∧
      (total ≤ 1 → arena.Meets grant.start grant.bytes)

section EndsAtCursor

variable {world : World} {owner total : Nat} {base : Arena} {grants : List Grant}

theorem World.EndsAtCursor.congr {other : World}
    (endsAtCursor : world.EndsAtCursor owner base total grants)
    (arenas : ∀ owner, other.arena? owner = world.arena? owner)
    (profile : other.profile = world.profile) (traffic : other.traffic = world.traffic) :
    other.EndsAtCursor owner base total grants := by
  refine ⟨endsAtCursor.sound.congr arenas profile traffic, ?_⟩
  rw [arenas]
  exact endsAtCursor.higher

theorem World.EndsAtCursor.ask {size align : Nat} {call : Arena → Env → Reply Nat}
    (endsAtCursor : world.EndsAtCursor owner base total grants) (asks : Arena.Asks size align call)
    (alone : total ≤ 1 → grants = []) (provided : Provided (world.onArena owner call).2.traffic) :
    (world.onArena owner call).2.EndsAtCursor owner base total grants ∧
      ∀ start, (world.onArena owner call).1 = .ok start → ∀ grant : Grant,
        grant.start = start → grant.bytes = size →
          (world.onArena owner call).2.EndsAtCursor owner base total (grant :: grants) := by
  obtain ⟨sound, arena, found, higher, disabled, placed⟩ := endsAtCursor
  obtain ⟨skew, same⟩ := World.onArena_some found call
  have consistent := (sound owner arena found).consistent
  have present := world.arena?_after_self owner found (call arena (world.env skew)).effects
    (call arena (world.env skew)).arena
  obtain ⟨rises, counts, served⟩ := asks.rises consistent higher (world.env skew)
  obtain ⟨upward, _, _⟩ := asks.rises consistent (.refl arena) (world.env skew)
  rw [same] at provided ⊢
  have sound' := sound.after found (asks.answers consistent (world.env skew)).changes provided
  have older : ∀ grant ∈ grants,
      ((call arena (world.env skew)).arena.chunks.length = base.chunks.length →
        base.cursor.next + grant.bytes ≤ (call arena (world.env skew)).arena.cursor.next) ∧
      (total ≤ 1 → (call arena (world.env skew)).arena.Meets grant.start grant.bytes) := by
    intro grant member
    refine ⟨?_, ?_⟩
    · intro level
      have lower := higher.length_le
      have upper := upward.length_le
      have before := (placed grant member).1 (by omega)
      exact Nat.le_trans before (upward.next_le (by omega))
    · intro single
      rw [alone single] at member
      cases member
  refine ⟨⟨sound', _, present, rises, counts.trans disabled, older⟩, ?_⟩
  rintro start answer grant rfl rfl
  refine ⟨sound', _, present, rises, counts.trans disabled, ?_⟩
  intro other member
  rcases List.mem_cons.mp member with new | old
  · rw [new]
    obtain ⟨meets, behind⟩ := served grant.start answer
    exact ⟨behind, fun _ => meets⟩
  · exact older other old

def EndsAtCursor.invariant (owner : Nat) (base : Arena) (total : Nat) : RequestInvariant owner where
  holds calls grants world :=
    calls + grants.length ≤ total ∧
      (Provided world.traffic → world.EndsAtCursor owner base total grants)
  fails _ _ := True
  refused {calls grants world after size align call failure} kept asks made := by
    obtain ⟨few, endsAtCursor⟩ := kept
    refine ⟨trivial, by omega, ?_⟩
    intro provided
    have made : (world.onArena owner call).2 = after := congrArg Prod.snd made
    rw [← made] at provided ⊢
    have before := provided_of_suffix provided (world.onArena_suffix owner call)
    refine ((endsAtCursor before).ask asks ?_ provided).1
    exact fun single => List.eq_nil_of_length_eq_zero (by omega)
  supplied {calls grants world after size align start call} kept asks made kind length whole := by
    obtain ⟨few, endsAtCursor⟩ := kept
    refine ⟨by simp only [List.length_cons]; omega, ?_⟩
    intro provided
    have answer : (world.onArena owner call).1 = .ok start := congrArg Prod.fst made
    have made : (world.onArena owner call).2 = after := congrArg Prod.snd made
    rw [← made] at provided ⊢
    have before := provided_of_suffix provided (world.onArena_suffix owner call)
    refine ((endsAtCursor before).ask asks ?_ provided).2 start answer _ rfl whole
    exact fun single => List.eq_nil_of_length_eq_zero (by omega)
  stored {calls grants world kind align start length values} kept _ := by
    obtain ⟨few, endsAtCursor⟩ := kept
    refine ⟨few, ?_⟩
    obtain ⟨tally, same⟩ := world.store_eq kind start values
    rw [same]
    intro provided
    obtain ⟨sound, arena, found, higher, disabled, placed⟩ := endsAtCursor provided
    refine ⟨sound.congr (fun _ => rfl) rfl rfl, arena, found, higher, disabled, ?_⟩
    intro grant member
    rcases List.mem_cons.mp member with new | old
    · rw [new]
      exact placed ⟨kind, align, start, length, []⟩ List.mem_cons_self
    · exact placed grant (List.mem_cons_of_mem _ old)
  counted {calls grants world} kept kind change := by
    rw [World.count_eq]
    exact ⟨kept.1, fun provided => (kept.2 provided).congr (fun _ => rfl) rfl rfl⟩
  abandoned _ _ := trivial
  stopped _ _ := trivial
  fewer {calls more grants rest world} kept less sub := by
    have shorter := sub.length_le
    refine ⟨by have := kept.1; omega, ?_⟩
    intro provided
    obtain ⟨sound, arena, found, higher, disabled, placed⟩ := kept.2 provided
    exact ⟨sound, arena, found, higher, disabled, fun grant member =>
      placed grant (sub.subset member)⟩
  reordered {calls grants other world} kept perm := by
    refine ⟨by rw [← perm.length_eq]; exact kept.1, ?_⟩
    intro provided
    obtain ⟨sound, arena, found, higher, disabled, placed⟩ := kept.2 provided
    exact ⟨sound, arena, found, higher, disabled, fun grant member =>
      placed grant (perm.mem_iff.mpr member)⟩

theorem Request.endsAtCursor (request : Request) (sound : world.Sound)
    (found : world.arena? owner = some base)
    (provided : Provided (request.serve world owner).2.traffic) :
    (request.serve world owner).2.EndsAtCursor owner base request.calls
      (request.serve world owner).1 := by
  have kept : (EndsAtCursor.invariant owner base request.calls).holds (0 + request.calls)
      [] world := by
    refine ⟨by simp, ?_⟩
    intro _
    exact ⟨sound, base, found, .refl base, rfl, by simp⟩
  have served := RequestInvariant.serve kept
  rw [List.append_nil] at served
  exact served.2 provided

end EndsAtCursor

namespace World

variable {world : World} {owner : Nat} {arena now : Arena} {start old new elementSize : Nat}

theorem grow_regained (sound : world.Sound) (provided : Provided world.traffic)
    (found : world.arena? owner = some arena) (enabled : arena.isDisabled = false)
    (later : List Turn) (through : Provided (world.through owner later).traffic)
    (present : ((world.through owner later).rewind owner arena.snapshot).2.arena? owner = some now)
    (enabled' : now.isDisabled = false) (start old new elementSize : Nat) :
    (((world.through owner later).rewind owner arena.snapshot).2.grow owner start old new
      elementSize).1 = (world.grow owner start old new elementSize).1 := by
  have backed := sound owner arena found
  have consistent := backed.consistent
  have below := backed.limit_lt provided
  obtain ⟨sound', last, found', higher⟩ := through_allUpon sound found later through
  have back := (rewind_back sound' through found' consistent higher).1
  cases back.symm.trans present
  have settled : Arena.Consistent
      { arena with nextSerial := last.nextSerial, disabled := last.disabled } :=
    ⟨consistent.linked, consistent.seated, consistent.nonempty⟩
  rcases grow_exact consistent below found enabled start old new elementSize with
    ⟨stretches, grown⟩ | ⟨beyond, refused⟩
  · rw [grown, grow_of_stretches settled below present enabled'
      ⟨stretches.some_chunk, stretches.inside, stretches.ordered, stretches.ends, stretches.room⟩]
  · rcases grow_exact settled below present enabled' start old new elementSize with
      ⟨stretches, _⟩ | ⟨_, refused'⟩
    · exact absurd ⟨stretches.some_chunk, stretches.inside, stretches.ordered, stretches.ends,
        stretches.room⟩ beyond
    · rw [refused, refused']

theorem Sound.entry_ne (sound : world.Sound) (found : world.arena? owner = some now)
    {base : Arena} (higher : now.Over base) (more : base.chunks.length < now.chunks.length)
    {chunk newest : Chunk} (below : chunk ∈ base.chunks)
    (last : now.chunks.head? = some newest) : chunk.entry owner ≠ newest.entry owner := by
  have backed := sound owner now found
  have nonempty := backed.consistent.nonempty
  obtain ⟨rest, stack⟩ := List.head?_eq_some_iff.mp last
  have older : chunk ∈ rest := by
    obtain ⟨_, upon⟩ := higher
    have split : base.chunks <:+ newest :: rest := stack ▸ upon.stack
    rcases List.suffix_cons_iff.mp split with whole | behind
    · rw [whole, stack] at more
      exact absurd more (Nat.lt_irrefl _)
    · exact behind.subset below
  have apart := backed.apart
  rw [stack] at apart nonempty
  intro same
  refine Chunk.apart_start_ne ((List.pairwise_cons.mp apart).1 chunk older)
    (nonempty newest List.mem_cons_self) (nonempty chunk (List.mem_cons_of_mem _ older)) ?_
  exact (congrArg Traffic.start same).symm

theorem grow_buried (sound : world.Sound) (provided : Provided world.traffic)
    (present : world.arena? owner = some now) (enabled : now.isDisabled = false) {base : Arena}
    (settled : base.Consistent) (higher : now.Over base)
    (more : base.chunks.length < now.chunks.length) {chunk : Chunk}
    (newest : base.chunks.head? = some chunk) (low : chunk.start ≤ start)
    (high : start + old * elementSize ≤ base.cursor.next)
    (kept : 0 < old * elementSize ∨ Spaced world.traffic) :
    world.grow owner start old new elementSize = (.ok false, world) := by
  have growth := grow_growth sound provided present enabled start old new elementSize
  have older : chunk ∈ base.chunks := List.mem_of_mem_head? newest
  have inside : (chunk.entry owner).Contains start (old * elementSize) := by
    refine ⟨low, ?_⟩
    have bound := settled.limit_bound
    have limit := settled.limit_eq
    rw [newest] at limit
    have limit : base.cursor.limit =
      (chunk.entry owner).start + (chunk.entry owner).layout.size := limit
    omega
  have member : chunk ∈ now.chunks := by
    rw [higher.chunks_eq]
    exact List.mem_append_right _ older
  have booked := (sound owner now present).booked chunk member
  refine growth.elsewhere (chunk.entry owner) (arrived_of_held booked) ?_ inside ?_
  · exact fun top last => sound.entry_ne present higher more older last
  · exact kept.imp_left fun some_bytes => ⟨booked, some_bytes⟩

theorem grow_overtaken {middle last : World} {base : Arena} {request : Request} {grant : Grant}
    (sound : world.Sound) (found : world.arena? owner = some base) {first second : List Turn}
    (onward : middle = world.through owner first)
    (through : last = (request.serve middle owner).2.through owner second)
    (provided : Provided last.traffic) (granted : grant ∈ (request.serve middle owner).1)
    (nonempty : 0 < grant.bytes) (present : last.arena? owner = some now)
    (enabled : now.isDisabled = false) {chunk : Chunk} (newest : base.chunks.head? = some chunk)
    (low : chunk.start ≤ start) (high : start + old * elementSize ≤ base.cursor.next)
    (kept : now.chunks = base.chunks ∨ 0 < old * elementSize ∨ Spaced last.traffic) :
    last.grow owner start old new elementSize = (.ok false, last) := by
  have served : Provided (request.serve middle owner).2.traffic := by
    rw [through] at provided
    exact provided_of_suffix provided (through_traffic_suffix _ owner second)
  have between : Provided middle.traffic :=
    provided_of_suffix served (middle.serve_served owner request).traffic_suffix
  obtain ⟨sound', newer, found', lower⟩ : middle.Sound ∧
      ∃ newer, middle.arena? owner = some newer ∧ newer.Over base := by
    rw [onward] at between ⊢
    exact through_allUpon sound found first between
  obtain ⟨sound'', after, found'', rises, _, placed⟩ :=
    request.endsAtCursor sound' found' served
  obtain ⟨allUpon, upper⟩ : last.Sound ∧ now.Over after := by
    rw [through] at provided present ⊢
    obtain ⟨allUpon, arena, same, upper⟩ :=
      through_allUpon sound'' found'' second provided
    cases same.symm.trans present
    exact ⟨allUpon, upper⟩
  have whole : now.Over base := (upper.trans rises).trans lower
  by_cases same : now.chunks.length = base.chunks.length
  · -- All the time the same chunk was the newest, and the cursor has left the end of the array.
    have growth := grow_growth allUpon provided present enabled start old new elementSize
    apply growth.refused
    intro grown
    obtain ⟨_, _, ⟨_, _, _, ends⟩, _⟩ := growth.exactly.mp grown
    have first_height := lower.length_le
    have second_height := rises.length_le
    have third_height := upper.length_le
    have least := lower.next_le (by omega)
    have more := (placed grant granted).1 (by omega)
    have most := upper.next_le (by omega)
    omega
  · have least := whole.length_le
    have settled := (sound owner base found).consistent
    exact grow_buried allUpon provided present enabled settled whole (by omega) newest low high
      (kept.resolve_left fun still => same (congrArg List.length still))

/-- Which arrays grow where they are, in a world and from there on. -/
structure Extends (world : World) (owner : Nat) (arena : Arena) : Prop where
  growth : ∀ start old new elementSize,
    world.Growth owner arena start old new elementSize
      (world.grow owner start old new elementSize)
  /-- An array that was just handed out takes all that is left of its chunk. -/
  fresh : ∀ (request : Request) (grant : Grant), request.calls = 1 →
    (request.serve world owner).1 = [grant] → Provided (request.serve world owner).2.traffic →
      ∃ next, (request.serve world owner).2.arena? owner = some next ∧
        ∀ new, ((request.serve world owner).2.grow owner grant.start grant.length new
            grant.kind.size).1 = .ok true ↔
          grant.length ≤ new ∧ (new - grant.length) * grant.kind.size ≤ next.remaining
  /-- After a rewind to this world, arrays grow as they do now. -/
  again : ∀ later, Provided (world.through owner later).traffic →
    let back := ((world.through owner later).rewind owner arena.snapshot).2
    ∀ now, back.arena? owner = some now → now.isDisabled = false →
      ∀ start old new elementSize, (back.grow owner start old new elementSize).1 =
        (world.grow owner start old new elementSize).1
  /-- With bytes handed out since and not undone, the arrays of now do not grow. -/
  overtaken : ∀ first (request : Request) (grant : Grant) second,
    let middle := world.through owner first
    let last := (request.serve middle owner).2.through owner second
    grant ∈ (request.serve middle owner).1 → 0 < grant.bytes → Provided last.traffic →
      ∀ now, last.arena? owner = some now → now.isDisabled = false →
        ∀ chunk ∈ arena.chunks.head?, ∀ start old new elementSize, chunk.start ≤ start →
          start + old * elementSize ≤ arena.cursor.next →
            now.chunks = arena.chunks ∨ 0 < old * elementSize ∨ Spaced last.traffic →
              last.grow owner start old new elementSize = (.ok false, last)

theorem grow_fresh_exact {request : Request} {grant : Grant} (sound : world.Sound)
    (found : world.arena? owner = some arena) (enabled : arena.isDisabled = false)
    (alone : request.calls = 1) (granted : (request.serve world owner).1 = [grant])
    (served : Provided (request.serve world owner).2.traffic) :
    ∃ next, (request.serve world owner).2.arena? owner = some next ∧
      ∀ new, ((request.serve world owner).2.grow owner grant.start grant.length new
          grant.kind.size).1 = .ok true ↔
        grant.length ≤ new ∧ (new - grant.length) * grant.kind.size ≤ next.remaining := by
  obtain ⟨sound', next, present, _, disabled, placed⟩ := request.endsAtCursor sound found served
  have enabled' : next.isDisabled = false := by
    simpa only [Arena.isDisabled, disabled] using enabled
  have member : grant ∈ (request.serve world owner).1 := by
    rw [granted]
    exact List.mem_cons_self
  have meets := (placed grant member).2 (Nat.le_of_eq alone)
  refine ⟨next, present, ?_⟩
  intro new
  have below := (sound' owner next present).limit_lt served
  have bound := (sound' owner next present).consistent.limit_bound
  rw [(grow_growth sound' served present enabled' grant.start grant.length new
    grant.kind.size).exactly]
  refine ⟨fun room => ⟨room.1, room.2.2.2⟩, ?_⟩
  rintro ⟨longer, room⟩
  refine ⟨longer, ?_, meets, room⟩
  obtain ⟨_, _, _, ends⟩ := meets
  simp only [Arena.remaining, Cursor.remaining, Nat.sub_mul] at room
  simp only [Grant.bytes] at ends
  omega

end World

/-- In every run, an array of an arena that is not disabled grows where it is exactly if it ends at
the cursor and there is room. -/
theorem growth_exact (profile : Profile) (site : Site) (logs : Logs) (actions : List Action)
    (owner : Nat) {arena : Arena}
    (found : ((World.new profile site logs).run actions).arena? owner = some arena)
    (enabled : arena.isDisabled = false)
    (provided : Provided ((World.new profile site logs).run actions).traffic) :
    ((World.new profile site logs).run actions).Extends owner arena := by
  have soundIf := (World.new_soundIfProvided profile site logs).run actions
  generalize (World.new profile site logs).run actions = world at *
  have sound := soundIf provided
  refine ⟨World.grow_growth sound provided found enabled, ?_, ?_, ?_⟩
  · intro request grant alone granted served
    exact World.grow_fresh_exact sound found enabled alone granted served
  · intro later through back now present enabled'
    exact World.grow_regained sound provided found enabled later through present enabled'
  · intro first request grant second middle last granted nonempty through now present enabled' chunk
      newest start old new elementSize low high kept
    exact World.grow_overtaken sound found rfl rfl through granted nonempty present enabled' newest
      low high kept

def twoArenas : List Action :=
  [.create ⟨"pairs", 32⟩ 0, .create ⟨"lines", 64⟩ 0, .place 0 (.bytes 32 1),
    .place 1 (.bytes 8 8), .place 0 (.array .u32 3)]

theorem twoArenas_extends :
    let world := (World.new .debug pagedSite (Logs.empty none)).run twoArenas
    let start := systemFloor + 5 * pageSize
    ∃ arena, world.arena? 0 = some arena ∧ world.Extends 0 arena ∧ Spaced world.traffic ∧
      (world.grow 0 start 3 8 4).1 = .ok true ∧
      (∀ block ∈ arrivals world.traffic, block.start ≠ start →
        world.grow 0 block.start block.layout.size (block.layout.size + 1) 1 =
          (.ok false, world)) ∧
      (((Request.bytes 1 1).serve world 0).2.grow 0 start 3 4 4).1 = .ok false := by
  intro world start
  have present : (world.arena? 0).isSome = true := by decide +kernel
  obtain ⟨arena, found⟩ := Option.isSome_iff_exists.mp present
  have newest : ∀ arena ∈ world.arena? 0, arena.isDisabled = false ∧
      arena.chunks.head?.map Chunk.start = some start ∧ start + 3 * 4 ≤ arena.cursor.next := by
    decide +kernel
  obtain ⟨enabled, first, room⟩ := newest arena found
  have provided : Provided world.traffic := by decide +kernel
  have spaced : Spaced world.traffic := by decide +kernel
  have ends := growth_exact .debug pagedSite (Logs.empty none) twoArenas 0 found enabled provided
  refine ⟨arena, found, ends, spaced, by decide +kernel, ?_, ?_⟩
  · intro block came other
    refine (ends.growth _ _ _ _).elsewhere block came ?_ ⟨by omega, by omega⟩ (Or.inr spaced)
    intro chunk top same
    have top : arena.chunks.head? = some chunk := top
    rw [top] at first
    apply other
    rw [same]
    exact Option.some.inj first
  · decide +kernel

def vacated : World :=
  (World.new .debug singleSite (Logs.empty none)).run
    [.create ⟨"pairs", 16⟩ 0, .place 0 (.array .u8 4), .release 0, .place 0 (.array .u8 4)]

def packed : World :=
  (World.new .debug packedSite (Logs.empty none)).run
    [.create ⟨"pairs", 16⟩ 0, .create ⟨"lines", 16⟩ 0, .place 0 (.array .u8 16),
      .place 0 (.array .u8 0), .place 1 (.array .u8 0)]

def budding : World :=
  (World.new .debug pagedSite (Logs.empty none)).run
    [.create ⟨"pairs", 16⟩ 0, .place 0 (.array .u8 4)]

/-- Arrays are known by their addresses alone: one that is gone grows if its addresses came again,
and an empty one of another arena if the chunks touch. And an array that was grown does not grow
again after the rewind to a state from before, as then it does not end at the cursor. -/
theorem growth_goes_by_address :
    (Provided vacated.traffic ∧ (vacated.chunks 0).map Chunk.serial = [1] ∧
      (∀ block ∈ arrivals vacated.traffic, block.serial = 0 →
        block ∉ held vacated.traffic ∧ block.start = pageSize) ∧
      (vacated.grow 0 pageSize 4 5 1).1 = .ok true) ∧
    (Provided packed.traffic ∧
      (∃ arena ∈ (packed.arena? 0).toList, arena.cursor.next = systemFloor + 16) ∧
      (packed.grow 1 (systemFloor + 16) 0 1 1).1 = .ok true) ∧
    ∃ arena ∈ (budding.arena? 0).toList,
      (budding.grow 0 (systemFloor + pageSize) 4 8 1).1 = .ok true ∧
        (((budding.grow 0 (systemFloor + pageSize) 4 8 1).2.rewind 0 arena.snapshot).2.grow 0
          (systemFloor + pageSize) 8 9 1).1 = .ok false := by
  decide +kernel

end ChunkArena
