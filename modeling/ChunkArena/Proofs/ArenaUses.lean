import ChunkArena.Proofs.RecordingClients
import ChunkArena.Proofs.ReflectedWorlds

/-!
Users of a single arena, who name everything in it without addresses. A pointer is the number of a
block that the arena obtained since some time and an offset, a snapshot is one of those that the
user took. So the same uses can be made of two arenas. In worlds that reflect each other, they are
answered alike, as long as no pointer is mistaken for one into another chunk.
-/

namespace ChunkArena

/-- A place in the blocks of an arena: which block, and how far behind its start. -/
structure Spot where
  number : Nat
  offset : Nat

structure ArenaSince where
  owner : Nat
  past : Nat

inductive Use
  | place (request : Request)
  | grow (spot : Spot) (old new elementSize : Nat)
  | dispose (spot : Spot) (depth : Nat) (disposal : Disposal)
  | write (spot : Spot) (bytes : List UInt8)
  | owns (spot : Spot)
  | save
  | rewind (which : Nat)
  | disable
  | enable
  | release
  | drop

namespace World

variable (world : World) (target : ArenaSince)

def spot? (spot : Spot) : Option Nat :=
  (world.arena? target.owner).bind fun _ =>
    ((obtained target.owner world.traffic)[target.past + spot.number]?).map fun block =>
      block.start + spot.offset

def home? (spot : Spot) : Option Chunk :=
  (world.arena? target.owner).bind fun arena => arena.chunkOfSerial? (target.past + spot.number)

def owned? (spot : Spot) : Option Bool :=
  (world.arena? target.owner).bind fun arena => (world.spot? target spot).map arena.owns

/-- Whether so many bytes at a place are inside of its chunk, or the place is in no chunk. Memory
that is gone can be in a chunk only if the system used its addresses again. -/
def Clear (spot : Spot) (size : Nat) : Prop :=
  ∀ address ∈ world.spot? target spot, ∀ arena ∈ world.arena? target.owner,
    (∃ chunk ∈ arena.chunks, chunk.serial = target.past + spot.number ∧
      spot.offset + size ≤ chunk.capacity) ∨ arena.owns address = false

def GivesWithin : Use → Prop
  | .dispose spot _ disposal => ∀ layout ∈ disposal.layout?, world.Clear target spot layout.size
  | _ => True

/-- Whether no place is mistaken for one in another chunk. An array that grows is in the newest
chunk, or is a part of its chunk that is not empty, or does not end where the free space begins. An
empty array can end there if two blocks touch. -/
def Distinct : Use → Prop
  | .owns spot => world.Clear target spot 0
  | .grow spot old _ elementSize =>
      ∀ address ∈ world.spot? target spot, ∀ arena ∈ world.arena? target.owner,
        (∃ chunk ∈ arena.chunks.head?, chunk.serial = target.past + spot.number) ∨
          (0 < old * elementSize ∧ ∃ chunk ∈ arena.chunks,
            chunk.serial = target.past + spot.number ∧
              spot.offset + old * elementSize ≤ chunk.capacity) ∨
          ¬ arena.Meets address (old * elementSize)
  | _ => True

end World

def Use.Suits (modulus : Nat) : Use → Prop
  | place request => ∀ align ∈ request.aligns, isPowerOfTwo align = true → align ∣ modulus
  | _ => True

instance (modulus : Nat) (use : Use) : Decidable (use.Suits modulus) := by
  cases use <;> unfold Use.Suits <;> infer_instance

instance (arena : Arena) (address bytes : Nat) : Decidable (arena.Meets address bytes) :=
  inferInstanceAs (Decidable (∃ chunk ∈ arena.chunks.head?, _))

instance (world : World) (target : ArenaSince) (spot : Spot) (size : Nat) :
    Decidable (world.Clear target spot size) := by
  unfold World.Clear
  infer_instance

instance (world : World) (target : ArenaSince) (use : Use) :
    Decidable (world.GivesWithin target use) := by
  cases use <;> unfold World.GivesWithin <;> infer_instance

instance (world : World) (target : ArenaSince) (use : Use) :
    Decidable (world.Distinct target use) := by
  cases use <;> unfold World.Distinct <;> infer_instance

structure ArenaUser where
  world : World
  saves : List Snapshot

namespace ArenaUser

variable (user : ArenaUser)

def refuse : Verdict × ArenaUser := (.refused, user)

def hear {α : Type} (tell : α → Verdict) (answer : α × World) : Verdict × ArenaUser :=
  (tell answer.1, { user with world := answer.2 })

def write (spot : Spot) (bytes : List UInt8) (chunk : Chunk) : Verdict × ArenaUser :=
  if spot.offset + bytes.length ≤ chunk.capacity then
    (.done (.ok ()), { user with world := user.world.write (chunk.start + spot.offset) bytes })
  else user.refuse

def use (target : ArenaSince) : Use → Verdict × ArenaUser
  | .place request =>
      user.hear (fun answer => .placed answer.1 answer.2) (request.ask user.world target.owner)
  | .grow spot old new elementSize =>
      (user.world.spot? target spot).elim user.refuse fun address =>
        user.hear .grew (user.world.grow target.owner address old new elementSize)
  | .dispose spot depth disposal =>
      (user.world.spot? target spot).elim user.refuse fun address =>
        user.hear .done (disposal.dispose user.world (.nested target.owner depth) address)
  | .write spot bytes => (user.world.home? target spot).elim user.refuse (user.write spot bytes)
  | .owns spot =>
      (user.world.owned? target spot).elim user.refuse fun flag => (.told (.ok (.flag flag)), user)
  | .save =>
      (user.world.arena? target.owner).elim user.refuse fun arena =>
        (.saved arena.snapshot, { user with saves := arena.snapshot :: user.saves })
  | .rewind which =>
      (user.saves[which]?).elim user.refuse fun saved =>
        user.hear .done (user.world.rewind target.owner saved)
  | .disable => user.hear .done (user.world.disable target.owner)
  | .enable => user.hear .done (user.world.enable target.owner)
  | .release => user.hear .done (user.world.release target.owner)
  | .drop => user.hear .done (user.world.drop target.owner)

end ArenaUser

namespace Frame

variable (frame : Frame)

def target : ArenaSince := ⟨frame.owner, frame.shift.serials⟩

def target' : ArenaSince := ⟨frame.other, 0⟩

/-- Whether an array that grows is in the same place of the newest chunks, or ends at the free space
of neither, and whether a place that is asked about is in chunks of both arenas or of neither. -/
def Evenly (couples : List Couple) (world twin : World) : Use → Prop
  | .owns spot => twin.owned? frame.target' spot = world.owned? frame.target spot
  | .grow spot old _ elementSize =>
      ∀ here ∈ world.spot? frame.target spot, ∀ there ∈ twin.spot? frame.target' spot,
        ∀ arena ∈ world.arena? frame.owner, ∀ image ∈ twin.arena? frame.other,
          (∃ couple ∈ couples.head?, couple.Places here there) ∨
            ¬ arena.Meets here (old * elementSize) ∧ ¬ image.Meets there (old * elementSize)
  | _ => True

end Frame

def Alongside (couples : List Couple) (here there : Nat) : Prop :=
  ∃ couple ∈ couples, ∃ offset ≤ couple.here.capacity,
    here = couple.here.start + offset ∧ there = couple.there.start + offset

inductive Verdict.Mirrors (shift : Shift) (couples : List Couple) : Verdict → Verdict → Prop
  | granted {here there : Nat} {nested nested' : List Nat} (outer : Alongside couples here there)
      (inner : List.Forall₂ (Alongside couples) nested nested') :
      Mirrors shift couples (.placed (.ok here) nested) (.placed (.ok there) nested')
  | failed (failure : Failure) {nested nested' : List Nat}
      (inner : List.Forall₂ (Alongside couples) nested nested') :
      Mirrors shift couples (.placed (.error failure) nested) (.placed (.error failure) nested')
  | grew (result : Except Failure Bool) : Mirrors shift couples (.grew result) (.grew result)
  | done (result : Except Failure Unit) : Mirrors shift couples (.done result) (.done result)
  | saved {saved image : Snapshot} (cursors : saved.cursor.Beside image.cursor couples)
      (generation : saved.generation = (image.generation + shift.releases) % wordLimit) :
      Mirrors shift couples (.saved saved) (.saved image)
  | told (result : Except CallFailure CallAnswer) :
      Mirrors shift couples (.told result) (.told result)
  | refused : Mirrors shift couples .refused .refused

inductive Snapshot.Recalls (frame : Frame) (traffic traffic' : List Traffic)
    (saved image : Snapshot) : Prop
  | bare (names : saved.cursor.chunk = none) (names' : image.cursor.chunk = none)
  | placed (couple : Couple) (index offset : Nat) (fits : couple.Fits frame.shift)
      (came : (obtained frame.owner traffic)[couple.here.serial]? =
        some (couple.here.entry frame.owner))
      (came' : (obtained frame.other traffic')[couple.there.serial]? =
        some (couple.there.entry frame.other))
      (within : offset ≤ couple.here.capacity)
      (cursor : saved.cursor = couple.here.cursor index offset)
      (cursor' : image.cursor = couple.there.cursor index offset)
      (generation : saved.generation = (image.generation + frame.shift.releases) % wordLimit)
      (small : image.generation < wordLimit)

theorem Snapshot.Recalls.later {frame : Frame} {first last first' last' : List Traffic}
    {saved image : Snapshot} (recalls : saved.Recalls frame first first' image)
    (suffix : first <:+ last) (suffix' : first' <:+ last') :
    saved.Recalls frame last last' image := by
  cases recalls with
  | bare names names' => exact .bare names names'
  | placed couple index offset fits came came' within cursor cursor' generation small =>
    exact .placed couple index offset fits (obtained_of_suffix suffix came)
      (obtained_of_suffix suffix' came') within cursor cursor' generation small

theorem Chunk.cursor_of_entry {chunk other : Chunk} {owner : Nat}
    (same : chunk.entry owner = other.entry owner) (index offset : Nat) :
    chunk.cursor index offset = other.cursor index offset := by
  simp only [Chunk.entry, Traffic.mk.injEq] at same
  obtain ⟨_, serial, start, layout, _⟩ := same
  simp only [Chunk.cursor, Chunk.finish, Chunk.capacity, serial, start, layout]

theorem Arena.Consistent.astray {arena : Arena} (consistent : arena.Consistent)
    (apart : arena.chunks.Pairwise Chunk.Apart) {newest chunk : Chunk}
    (first : arena.chunks.head? = some newest) (member : chunk ∈ arena.chunks)
    (older : chunk ≠ newest) {offset bytes : Nat} (nonempty : 0 < bytes)
    (room : offset + bytes ≤ chunk.capacity) : ¬ arena.Meets (chunk.start + offset) bytes := by
  rintro ⟨top, newer, low, tight⟩
  have seated := consistent.seated
  cases stack : arena.chunks with
  | nil => simp [stack] at first
  | cons head rest =>
    rw [stack] at seated first newer member apart
    cases first
    cases newer
    obtain ⟨_, _, above, below⟩ := seated
    have behind := (List.mem_cons.mp member).resolve_left older
    have split := (List.pairwise_cons.mp apart).1 chunk behind
    simp only [Chunk.Apart, Chunk.finish] at split below
    omega

namespace World

variable {frame : Frame} {couples : List Couple} {world twin : World}

theorem Reflects.chunks (reflects : Reflects frame couples world twin) :
    world.chunks frame.owner = couples.map Couple.here ∧
      twin.chunks frame.other = couples.map Couple.there := by
  rcases reflects.cases with ⟨gone, gone', bare⟩ | ⟨arena, image, found, found', mirrors⟩
  · rw [chunks_of_none gone, chunks_of_none gone', bare]
    exact ⟨rfl, rfl⟩
  · rw [chunks_of_some found, chunks_of_some found']
    exact ⟨mirrors.here, mirrors.there⟩

theorem Reflects.inside (reflects : Reflects frame couples world twin) {couple : Couple}
    (member : couple ∈ couples) :
    couple.here ∈ world.chunks frame.owner ∧ couple.there ∈ twin.chunks frame.other := by
  obtain ⟨chunks, chunks'⟩ := reflects.chunks
  rw [chunks, chunks']
  exact ⟨List.mem_map_of_mem member, List.mem_map_of_mem member⟩

theorem Reflects.blocks (reflects : Reflects frame couples world twin)
    (few : obtainedBy frame.owner world.traffic < wordLimit)
    (few' : obtainedBy frame.other twin.traffic < wordLimit) {couple : Couple}
    (member : couple ∈ couples) :
    (obtained frame.owner world.traffic)[couple.here.serial]? =
        some (couple.here.entry frame.owner) ∧
      (obtained frame.other twin.traffic)[couple.there.serial]? =
        some (couple.there.entry frame.other) := by
  obtain ⟨inside, inside'⟩ := reflects.inside member
  exact ⟨reflects.conserved.block few inside, reflects.conserved'.block few' inside'⟩

theorem Reflects.recalls (reflects : Reflects frame couples world twin)
    (few : obtainedBy frame.owner world.traffic < wordLimit)
    (few' : obtainedBy frame.other twin.traffic < wordLimit) {saved image : Snapshot}
    (recalls : saved.Recalls frame world.traffic twin.traffic image) :
    saved.Mirrors frame.shift couples image := by
  cases recalls with
  | bare names names' => exact .bare names names'
  | placed couple index offset fits came came' within cursor cursor' generation small =>
    refine .placed ⟨index, couple.here.serial⟩ ⟨index, couple.there.serial⟩ (by rw [cursor]; rfl)
      (by rw [cursor']; rfl) rfl fits.serial generation small ?_
    intro own found same
    have member := List.mem_reverse.mp (List.mem_of_getElem? found)
    obtain ⟨block, block'⟩ := reflects.blocks few few' member
    have own_fits := reflects.apart.2 own member
    have same' : own.here.serial = couple.here.serial := by
      rw [own_fits.serial, fits.serial, same]
    rw [same', came] at block
    rw [same, came'] at block'
    have entry := Option.some.inj block
    have capacity : couple.here.capacity = own.here.capacity :=
      congrArg (fun entry : Traffic => entry.layout.size) entry
    refine ⟨offset, by omega, ?_, ?_⟩
    · rw [cursor, Chunk.cursor_of_entry entry]
    · rw [cursor', Chunk.cursor_of_entry (Option.some.inj block')]

theorem Reflects.snapshot (reflects : Reflects frame couples world twin)
    (few : obtainedBy frame.owner world.traffic < wordLimit)
    (few' : obtainedBy frame.other twin.traffic < wordLimit) {arena image : Arena}
    (mirrors : arena.Mirrors frame.shift couples image) :
    arena.snapshot.Recalls frame world.traffic twin.traffic image.snapshot := by
  have cursors := mirrors.cursors
  cases couples with
  | nil =>
    obtain ⟨here, there⟩ := cursors
    exact .bare (congrArg Cursor.chunk here) (congrArg Cursor.chunk there)
  | cons couple rest =>
    obtain ⟨offset, within, here, there⟩ := cursors
    obtain ⟨block, block'⟩ := reflects.blocks few few' List.mem_cons_self
    exact .placed couple rest.length offset (mirrors.fits couple List.mem_cons_self) block block'
      within here there mirrors.generation mirrors.small

theorem Reflects.spots (reflects : Reflects frame couples world twin)
    (few : obtainedBy frame.owner world.traffic < wordLimit)
    (few' : obtainedBy frame.other twin.traffic < wordLimit) (spot : Spot) :
    world.spot? frame.target spot = none ∧ twin.spot? frame.target' spot = none ∨
      ∃ here there, world.spot? frame.target spot = some here ∧
        twin.spot? frame.target' spot = some there := by
  unfold spot? Frame.target Frame.target'
  simp only [Nat.zero_add]
  rcases reflects.cases with ⟨gone, gone', _⟩ | ⟨arena, image, found, found', mirrors⟩
  · rw [gone, gone']
    exact Or.inl ⟨rfl, rfl⟩
  · have counts := reflects.counts found found' mirrors few few'
    rw [← length_obtained, ← length_obtained] at counts
    rw [found, found']
    by_cases known : spot.number < (obtained frame.other twin.traffic).length
    · have known' : frame.shift.serials + spot.number <
          (obtained frame.owner world.traffic).length := by omega
      rw [List.getElem?_eq_getElem known, List.getElem?_eq_getElem known']
      exact Or.inr ⟨_, _, rfl, rfl⟩
    · rw [List.getElem?_eq_none (by omega), List.getElem?_eq_none (by omega)]
      exact Or.inl ⟨rfl, rfl⟩

theorem block_of_spot {target : ArenaSince} {spot : Spot} {address : Nat}
    (place : world.spot? target spot = some address) :
    ∃ block, (obtained target.owner world.traffic)[target.past + spot.number]? = some block ∧
      block.start + spot.offset = address := by
  obtain ⟨_, _, known⟩ := Option.bind_eq_some_iff.mp place
  exact Option.map_eq_some_iff.mp known

theorem BlocksConserved.spot {owner : Nat} (conserved : world.BlocksConserved owner)
    (few : obtainedBy owner world.traffic < wordLimit) {chunk : Chunk}
    (member : chunk ∈ world.chunks owner) {past address : Nat} {spot : Spot}
    (serial : chunk.serial = past + spot.number)
    (found : world.spot? ⟨owner, past⟩ spot = some address) :
    address = chunk.start + spot.offset := by
  obtain ⟨block, came, at_spot⟩ := block_of_spot found
  rw [← serial, conserved.block few member] at came
  rw [← at_spot, ← Option.some.inj came]
  rfl

theorem Reflects.spot (reflects : Reflects frame couples world twin)
    (few : obtainedBy frame.owner world.traffic < wordLimit)
    (few' : obtainedBy frame.other twin.traffic < wordLimit) {couple : Couple}
    (member : couple ∈ couples) {spot : Spot} (own : couple.there.serial = spot.number)
    {here there : Nat} (place : world.spot? frame.target spot = some here)
    (place' : twin.spot? frame.target' spot = some there) :
    here = couple.here.start + spot.offset ∧ there = couple.there.start + spot.offset := by
  obtain ⟨inside, inside'⟩ := reflects.inside member
  have fits := reflects.apart.2 couple member
  have number : couple.here.serial = frame.shift.serials + spot.number := by
    rw [fits.serial, own, Nat.add_comm]
  have number' : couple.there.serial = 0 + spot.number := by
    rw [own, Nat.zero_add]
  exact ⟨reflects.conserved.spot few inside number place,
    reflects.conserved'.spot few' inside' number' place'⟩

theorem Reflects.mirrors (reflects : Reflects frame couples world twin) {arena image : Arena}
    (found : world.arena? frame.owner = some arena)
    (found' : twin.arena? frame.other = some image) :
    arena.Mirrors frame.shift couples image := by
  have arenas := reflects.arenas
  rw [found, found'] at arenas
  exact arenas

theorem Concurs.counted {α : Type} {answer answer' : Except Failure α × World} (kind : Kind)
    (change : Tally → Tally)
    (concurs : Concurs frame couples (world.count kind change) (twin.count kind change) answer
      answer') :
    Concurs frame couples world twin answer answer' := by
  rw [count_eq, count_eq] at concurs
  obtain ⟨same, after, next, spares, spares'⟩ := concurs
  exact ⟨same, after, next, spares, spares'⟩

theorem find_couples {couples : List Couple} {shift : Shift}
    (fits : ∀ couple ∈ couples, couple.Fits shift) (number : Nat) :
    couples.find? (fun couple => couple.here.serial == shift.serials + number) =
      couples.find? fun couple => couple.there.serial == number := by
  induction couples with
  | nil => rfl
  | cons couple rest ih =>
    have below := ih fun c member => fits c (List.mem_cons_of_mem _ member)
    have serial := (fits couple List.mem_cons_self).serial
    have same : (couple.here.serial == shift.serials + number) =
        (couple.there.serial == number) := by
      rw [Bool.eq_iff_iff, beq_iff_eq, beq_iff_eq]
      omega
    rw [List.find?_cons, List.find?_cons, same, below]

theorem Reflects.vacated (reflects : Reflects frame [] world twin) :
    Reflects frame [] (world.vacated frame.owner) (twin.vacated frame.other) := by
  obtain ⟨bare, bare'⟩ := reflects.chunks
  exact
    { sound := reflects.sound.vacated frame.owner
      sound' := reflects.sound'.vacated frame.other
      conserved := reflects.conserved.step (.leave world frame.owner bare)
      conserved' := reflects.conserved'.step (.leave twin frame.other bare')
      known := by simpa [World.vacated] using reflects.known
      known' := by simpa [World.vacated] using reflects.known'
      profile := reflects.profile
      echoes := { reflects.echoes with }
      arenas := by
        rw [arena?_vacated_self, arena?_vacated_self]
        rfl }

theorem Midway.follows {after : List Couple} {known : Nat} {next last : World}
    (midway : Midway frame known world.memory twin.memory after next last) :
    Follows frame couples after world twin next last := by
  have more : after ⊆ couples ++ after := List.subset_append_right couples after
  exact ⟨midway.reflects, midway.spares.mono (List.map_subset _ more),
    midway.spares'.mono (List.map_subset _ more)⟩

theorem Sound.unmistaken (sound : world.Sound) {owner : Nat}
    (conserved : world.BlocksConserved owner)
    (few : obtainedBy owner world.traffic < wordLimit) {arena : Arena}
    (found : world.arena? owner = some arena) {past address old new elementSize : Nat} {spot : Spot}
    (place : world.spot? ⟨owner, past⟩ spot = some address)
    (distinct : world.Distinct ⟨owner, past⟩ (.grow spot old new elementSize)) :
    (∃ chunk ∈ arena.chunks.head?, chunk.serial = past + spot.number) ∨
      ¬ arena.Meets address (old * elementSize) := by
  have backed := sound owner arena found
  rcases distinct address place arena found with
    top | ⟨nonempty, chunk, member, serial, room⟩ | astray
  · exact Or.inl top
  · cases first : arena.chunks.head? with
    | none => simp [Arena.Meets, first]
    | some newest =>
      by_cases own : newest.serial = past + spot.number
      · exact Or.inl ⟨newest, rfl, own⟩
      · right
        have inside : chunk ∈ world.chunks owner := by rwa [chunks_of_some found]
        rw [conserved.spot few inside serial place]
        apply backed.consistent.astray backed.apart first member _ nonempty room
        intro same
        exact own (same ▸ serial)
  · exact Or.inr astray

section Calls

variable (reflects : Reflects frame couples world twin)
  (few : obtainedBy frame.owner world.traffic < wordLimit)
  (few' : obtainedBy frame.other twin.traffic < wordLimit)

include reflects

section Pointers

variable {arena image : Arena} (found : world.arena? frame.owner = some arena)
  (found' : twin.arena? frame.other = some image) {spot : Spot} {here there : Nat}
  (place : world.spot? frame.target spot = some here)
  (place' : twin.spot? frame.target' spot = some there)

include few few' found found' place place'

theorem Reflects.owned {size : Nat} (clear : world.Clear frame.target spot size)
    (clear' : twin.Clear frame.target' spot size) :
    (⟨here, there, size⟩ : Pairing).Inside couples ∨
      arena.owns here = false ∧ image.owns there = false := by
  have mirrors := reflects.mirrors found found'
  have own (couple : Couple) (member : couple ∈ couples)
      (serial : couple.there.serial = spot.number)
      (room : spot.offset + size ≤ couple.here.capacity) :
      (⟨here, there, size⟩ : Pairing).Inside couples := by
    obtain ⟨first, second⟩ := reflects.spot few few' member serial place place'
    rw [first, second]
    exact Couple.part_inside member room
  rcases clear here place arena found with ⟨chunk, member, serial, room⟩ | strange
  · rw [mirrors.here] at member
    obtain ⟨couple, present, same⟩ := List.mem_map.mp member
    rw [← same] at serial room
    have number := (mirrors.fits couple present).serial
    simp only [Frame.target] at serial
    exact Or.inl (own couple present (by omega) room)
  rcases clear' there place' image found' with ⟨chunk, member, serial, room⟩ | strange'
  · rw [mirrors.there] at member
    obtain ⟨couple, present, same⟩ := List.mem_map.mp member
    rw [← same] at serial room
    have capacity := (mirrors.fits couple present).capacity
    simp only [Frame.target'] at serial
    exact Or.inl (own couple present (by omega) (by omega))
  · exact Or.inr ⟨strange, strange'⟩

end Pointers

theorem Reflects.grow {spot : Spot} {here there old new elementSize : Nat}
    (place : world.spot? frame.target spot = some here)
    (place' : twin.spot? frame.target' spot = some there)
    (evenly : frame.Evenly couples world twin (.grow spot old new elementSize))
    (provided : Provided (world.grow frame.owner here old new elementSize).2.traffic)
    (provided' : Provided (twin.grow frame.other there old new elementSize).2.traffic) :
    Concurs frame couples world twin (world.grow frame.owner here old new elementSize)
      (twin.grow frame.other there old new elementSize) := by
  apply reflects.onArena _ provided provided'
  intro arena image found found' env env' mirrors bounded bounded' alike
  obtain ⟨same, replies⟩ := mirrors.grow alike bounded.low bounded'.low
    (evenly here place there place' arena found image found') new
  exact ⟨Arena.grow_changes bounded.consistent env here old new elementSize,
    Arena.grow_changes bounded'.consistent env' there old new elementSize, same, couples,
    List.suffix_refl _, replies⟩

include few few' in
theorem Reflects.dispose {spot : Spot} {here there depth : Nat} {disposal : Disposal}
    (place : world.spot? frame.target spot = some here)
    (place' : twin.spot? frame.target' spot = some there)
    (givesWithin : world.GivesWithin frame.target (.dispose spot depth disposal))
    (givesWithin' : twin.GivesWithin frame.target' (.dispose spot depth disposal))
    (provided : Provided (disposal.dispose world (.nested frame.owner depth) here).2.traffic)
    (provided' : Provided (disposal.dispose twin (.nested frame.other depth) there).2.traffic) :
    Concurs frame couples world twin (disposal.dispose world (.nested frame.owner depth) here)
      (disposal.dispose twin (.nested frame.other depth) there) := by
  obtain ⟨kind, number, forms⟩ := dispose_forms disposal
  apply Concurs.counted kind fun tally => { tally with destroyed := tally.destroyed + number }
  have destroyed : World.Reflects frame couples (world.destroy kind number)
      (twin.destroy kind number) := reflects.counted _ kind
  obtain ⟨failure, _, stopped⟩ | ⟨layout, shape, done⟩ := forms
  · rw [stopped, stopped]
    exact ⟨rfl, couples, destroyed.still⟩
  rw [done] at provided provided'
  rw [done, done]
  apply destroyed.onArena _ provided provided'
  intro arena image found found' env env' mirrors _ _ alike
  rw [destroy, count_eq] at found found'
  obtain ⟨same, replies⟩ := mirrors.deallocate alike rfl
    (reflects.owned few few' found found' place place' (givesWithin layout shape)
      (givesWithin' layout shape))
  exact ⟨arena.deallocate_changes env here layout, image.deallocate_changes env' there layout,
    same, couples, List.suffix_refl _, replies⟩

theorem Reflects.disable
    (provided : Provided (world.disable frame.owner).2.traffic)
    (provided' : Provided (twin.disable frame.other).2.traffic) :
    Concurs frame couples world twin (world.disable frame.owner) (twin.disable frame.other) := by
  refine reflects.onArena ?_ provided provided'
  intro arena image _ _ env env' mirrors _ _ alike
  obtain ⟨same, replies⟩ := mirrors.disable env.profile
  rw [alike.profile]
  exact ⟨Arena.hold_changes (arena.disable_holds env.profile),
    Arena.hold_changes (image.disable_holds env.profile), same, couples,
      List.suffix_refl _, replies⟩

theorem Reflects.enable
    (provided : Provided (world.enable frame.owner).2.traffic)
    (provided' : Provided (twin.enable frame.other).2.traffic) :
    Concurs frame couples world twin (world.enable frame.owner) (twin.enable frame.other) := by
  refine reflects.onArena ?_ provided provided'
  intro arena image _ _ env env' mirrors _ _ alike
  obtain ⟨same, replies⟩ := mirrors.enable env.profile
  rw [alike.profile]
  exact ⟨Arena.hold_changes (arena.enable_holds env.profile),
    Arena.hold_changes (image.enable_holds env.profile), same, couples, List.suffix_refl _, replies⟩

theorem Reflects.release
    (provided : Provided (world.release frame.owner).2.traffic)
    (provided' : Provided (twin.release frame.other).2.traffic) :
    Concurs frame couples world twin (world.release frame.owner) (twin.release frame.other) := by
  refine reflects.onArena ?_ provided provided'
  intro arena image _ _ env env' mirrors bounded bounded' alike
  obtain ⟨same, replies⟩ := mirrors.release alike bounded.consistent bounded'.consistent
    bounded.small bounded'.small
  exact ⟨Arena.release_changes bounded.consistent bounded.small env,
    Arena.release_changes bounded'.consistent bounded'.small env', same, [],
      List.nil_suffix, replies⟩

include few few' in
theorem Reflects.rewind {saved image : Snapshot}
    (recalls : saved.Recalls frame world.traffic twin.traffic image)
    (provided : Provided (world.rewind frame.owner saved).2.traffic)
    (provided' : Provided (twin.rewind frame.other image).2.traffic) :
    Concurs frame couples world twin (world.rewind frame.owner saved)
      (twin.rewind frame.other image) := by
  refine reflects.onArena ?_ provided provided'
  intro arena base _ _ env env' mirrors bounded bounded' alike
  obtain ⟨same, replies⟩ := mirrors.rewind alike bounded.consistent bounded'.consistent
    bounded.small bounded'.small (reflects.recalls few few' recalls)
  exact ⟨(Arena.rewind_rewinds bounded.consistent bounded.small env saved).changes,
    (Arena.rewind_rewinds bounded'.consistent bounded'.small env' image).changes, same, replies⟩

theorem Reflects.drop
    (provided : Provided (world.drop frame.owner).2.traffic)
    (provided' : Provided (twin.drop frame.other).2.traffic) :
    Concurs frame couples world twin (world.drop frame.owner) (twin.drop frame.other) := by
  have before := provided_of_suffix provided (world.onArena_suffix frame.owner Arena.release)
  obtain ⟨same, after, next, spares, spares'⟩ := reflects.release provided provided'
  have bare := release_chunks reflects.sound before frame.owner
  have nothing : after = [] := List.map_eq_nil_iff.mp (next.chunks.1.symm.trans bare)
  subst nothing
  exact ⟨same, [], next.vacated, spares, spares'⟩

include few few' in
theorem Reflects.owned? {spot : Spot} (clear : world.Clear frame.target spot 0)
    (clear' : twin.Clear frame.target' spot 0) :
    twin.owned? frame.target' spot = world.owned? frame.target spot := by
  unfold World.owned?
  rcases reflects.cases with ⟨gone, gone', _⟩ | ⟨arena, image, found, found', mirrors⟩
  · rw [Frame.target, Frame.target', gone, gone']
    rfl
  rcases reflects.spots few few' spot with ⟨lost, lost'⟩ | ⟨here, there, place, place'⟩
  · rw [lost, lost', Frame.target, Frame.target', found, found']
    rfl
  have same : image.owns there = arena.owns here := by
    rcases reflects.owned few few' found found' place place' clear clear' with
      inside | ⟨strange, strange'⟩
    · obtain ⟨owned, owned'⟩ := mirrors.owns inside
      exact owned'.trans owned.symm
    · exact strange'.trans strange.symm
  rw [place, place', Frame.target, Frame.target', found, found', Option.bind_some, Option.bind_some,
    Option.map_some, Option.map_some, same]

theorem Reflects.homes (spot : Spot) :
    world.home? frame.target spot = none ∧ twin.home? frame.target' spot = none ∨
      ∃ couple ∈ couples, world.home? frame.target spot = some couple.here ∧
        twin.home? frame.target' spot = some couple.there := by
  unfold home?
  rcases reflects.cases with ⟨gone, gone', _⟩ | ⟨arena, image, found, found', mirrors⟩
  · rw [Frame.target, Frame.target', gone, gone']
    exact Or.inl ⟨rfl, rfl⟩
  · have numbered := find_couples mirrors.fits spot.number
    simp only [Frame.target, Frame.target', found, found', Option.bind_some, Arena.chunkOfSerial?,
      mirrors.here, mirrors.there, List.find?_map, Function.comp_def, Nat.zero_add, numbered]
    cases present : couples.find? fun couple => couple.there.serial == spot.number with
    | none => exact Or.inl ⟨rfl, rfl⟩
    | some couple => exact Or.inr ⟨couple, List.mem_of_find?_eq_some present, rfl, rfl⟩

theorem Reflects.stored {pairing : Pairing} (inside : pairing.Inside couples)
    {bytes : List UInt8} (few : bytes.length ≤ pairing.size) :
    Follows frame couples couples world twin (world.write pairing.here bytes)
      (twin.write pairing.there bytes) := by
  have midway : Midway frame 0 world.memory twin.memory couples world twin :=
    ⟨reflects, Nat.zero_le _, fun _ _ => rfl, fun _ _ => rfl⟩
  exact (midway.stored inside few).follows

end Calls

theorem Reflects.evenly (reflects : Reflects frame couples world twin)
    (few : obtainedBy frame.owner world.traffic < wordLimit)
    (few' : obtainedBy frame.other twin.traffic < wordLimit) {use : Use}
    (distinct : world.Distinct frame.target use) (distinct' : twin.Distinct frame.target' use) :
    frame.Evenly couples world twin use := by
  cases use with
  | owns spot => exact reflects.owned? few few' distinct distinct'
  | grow spot old new elementSize =>
    intro here place there place' arena found image found'
    have mirrors := reflects.mirrors found found'
    have heads : arena.chunks.head? = couples.head?.map Couple.here ∧
        image.chunks.head? = couples.head?.map Couple.there := by
      rw [mirrors.here, mirrors.there, List.head?_map, List.head?_map]
      exact ⟨rfl, rfl⟩
    cases newest : couples.head? with
    | none =>
      rw [newest] at heads
      simp [Arena.Meets, heads]
    | some couple =>
      rw [newest] at heads
      have member := List.mem_of_mem_head? newest
      have astray := reflects.sound.unmistaken reflects.conserved few found place distinct
      have astray' := reflects.sound'.unmistaken reflects.conserved' few' found' place' distinct'
      simp only [heads, Option.map_some, Option.mem_def, Option.some.injEq, exists_eq_left',
        (mirrors.fits couple member).serial] at astray astray'
      by_cases own : couple.there.serial = spot.number
      · exact Or.inl ⟨couple, rfl, spot.offset, reflects.spot few few' member own place place'⟩
      · exact Or.inr ⟨astray.resolve_left (by omega), astray'.resolve_left (by omega)⟩
  | _ => trivial

end World

section Answers

variable {shift : Shift} {couples : List Couple}

theorem Pairing.Inside.alongside {pairing : Pairing} (inside : pairing.Inside couples) :
    Alongside couples pairing.here pairing.there := by
  obtain ⟨couple, member, offset, room, same⟩ := inside
  refine ⟨couple, member, offset, by omega, ?_, ?_⟩
  · rw [same]
    rfl
  · rw [same]
    rfl

theorem SameGrants.alongside {requests : List (Nat × Nat)} {starts starts' : List Nat}
    {pairings : List Pairing} (handed : SameGrants requests starts starts' pairings)
    (inside : ∀ pairing ∈ pairings, pairing.Inside couples) :
    List.Forall₂ (Alongside couples) starts starts' := by
  induction handed with
  | stop requests => exact .nil
  | next size align here there _ ih =>
    have below := ih fun pairing member => inside pairing (List.mem_cons_of_mem _ member)
    exact .cons (inside _ List.mem_cons_self).alongside below

theorem Answered.mirrors {request : Request} {answer answer' : Except Failure Nat × List Nat}
    {pairings : List Pairing} (answered : Answered request answer answer' pairings)
    (inside : ∀ pairing ∈ pairings, pairing.Inside couples) :
    (Verdict.placed answer.1 answer.2).Mirrors shift couples (.placed answer'.1 answer'.2) := by
  cases answered with
  | intro handed each =>
    have inner := each.alongside fun pairing member =>
      inside pairing (List.mem_append_right _ member)
    cases handed with
    | granted here there =>
      have outer := inside ⟨here, there, request.size⟩ (List.mem_append_left _ List.mem_cons_self)
      exact .granted outer.alongside inner
    | failed failure => exact .failed failure inner

end Answers

namespace ArenaUser

/-- Every use is at most one action, and that is about the arena or a write. -/
theorem use_acts (user : ArenaUser) (target : ArenaSince) (use : Use) :
    (user.use target use).2.world = user.world ∨
      ∃ action : Action, (user.use target use).2.world = user.world.act action ∧
        (action.owner? = some target.owner ∨ ∃ start bytes, action = .write start bytes) := by
  have acts {world : World} (action : Action) (acted : world = user.world.act action)
      (own : action.owner? = some target.owner) :
      world = user.world ∨ ∃ action : Action, world = user.world.act action ∧
        (action.owner? = some target.owner ∨ ∃ start bytes, action = .write start bytes) :=
    Or.inr ⟨action, acted, Or.inl own⟩
  cases use with
  | place request =>
    apply acts (.place target.owner request) _ rfl
    rw [World.act, request.serve_eq]
    rfl
  | grow spot old new elementSize =>
    rw [ArenaUser.use]
    cases user.world.spot? target spot with
    | none => exact Or.inl rfl
    | some address => exact acts (.grow target.owner address old new elementSize) rfl rfl
  | dispose spot depth disposal =>
    rw [ArenaUser.use]
    cases user.world.spot? target spot with
    | none => exact Or.inl rfl
    | some address => exact acts (.dispose target.owner depth address disposal) rfl rfl
  | write spot bytes =>
    rw [ArenaUser.use]
    cases user.world.home? target spot with
    | none => exact Or.inl rfl
    | some chunk =>
      rw [Option.elim_some, write]
      split
      · exact Or.inr ⟨.write (chunk.start + spot.offset) bytes, rfl, Or.inr ⟨_, _, rfl⟩⟩
      · exact Or.inl rfl
  | owns spot =>
    left
    rw [ArenaUser.use]
    cases user.world.owned? target spot <;> rfl
  | save =>
    left
    rw [ArenaUser.use]
    cases user.world.arena? target.owner with
    | none => rfl
    | some arena => rfl
  | rewind which =>
    rw [ArenaUser.use]
    cases user.saves[which]? with
    | none => exact Or.inl rfl
    | some saved => exact acts (.rewind target.owner saved) rfl rfl
  | disable => exact acts (.disable target.owner) rfl rfl
  | enable => exact acts (.enable target.owner) rfl rfl
  | release => exact acts (.release target.owner) rfl rfl
  | drop => exact acts (.drop target.owner) rfl rfl

theorem use_suffix (user : ArenaUser) (target : ArenaSince) (use : Use) :
    user.world.traffic <:+ (user.use target use).2.world.traffic := by
  rcases user.use_acts target use with still | ⟨action, acted, _⟩
  · rw [still]
  · rw [acted]
    exact user.world.act_traffic_suffix action

structure Reflects (frame : Frame) (couples : List Couple) (user twin : ArenaUser) : Prop where
  worlds : World.Reflects frame couples user.world twin.world
  saves : List.Forall₂ (Snapshot.Recalls frame user.world.traffic twin.world.traffic)
    user.saves twin.saves

def Agrees (frame : Frame) (couples : List Couple) (user twin : ArenaUser)
    (made made' : Verdict × ArenaUser) : Prop :=
  ∃ after, made.1.Mirrors frame.shift after made'.1 ∧
    World.Follows frame couples after user.world twin.world made.2.world made'.2.world ∧
    List.Forall₂ (Snapshot.Recalls frame made.2.world.traffic made'.2.world.traffic)
      made.2.saves made'.2.saves

variable {frame : Frame} {couples : List Couple} {user twin : ArenaUser}

theorem Reflects.kept (reflects : Reflects frame couples user twin) (which : Nat) :
    user.saves[which]? = none ∧ twin.saves[which]? = none ∨
      ∃ saved image, user.saves[which]? = some saved ∧ twin.saves[which]? = some image ∧
        saved.Recalls frame user.world.traffic twin.world.traffic image := by
  have alike := reflects.saves
  generalize user.saves = saves at alike
  generalize twin.saves = saves' at alike
  induction alike generalizing which with
  | nil => exact Or.inl ⟨rfl, rfl⟩
  | cons recalls _ ih =>
    cases which with
    | zero => exact Or.inr ⟨_, _, rfl, rfl, recalls⟩
    | succ which => exact ih which

theorem Reflects.refuse (reflects : Reflects frame couples user twin) :
    Agrees frame couples user twin user.refuse twin.refuse :=
  ⟨couples, .refused, reflects.worlds.still, reflects.saves⟩

theorem Reflects.hear (reflects : Reflects frame couples user twin) {α : Type}
    {tell : α → Verdict} {answer answer' : α × World} {after : List Couple}
    (mirrors : (tell answer.1).Mirrors frame.shift after (tell answer'.1))
    (follows : World.Follows frame couples after user.world twin.world answer.2 answer'.2)
    (suffix : user.world.traffic <:+ answer.2.traffic)
    (suffix' : twin.world.traffic <:+ answer'.2.traffic) :
    Agrees frame couples user twin (user.hear tell answer) (twin.hear tell answer') := by
  refine ⟨after, mirrors, follows, ?_⟩
  exact reflects.saves.imp fun _ _ recalls => recalls.later suffix suffix'

theorem Reflects.concurs (reflects : Reflects frame couples user twin) {α : Type}
    {tell : Except Failure α → Verdict}
    (plain : ∀ after result, (tell result).Mirrors frame.shift after (tell result))
    {answer answer' : Except Failure α × World}
    (concurs : World.Concurs frame couples user.world twin.world answer answer')
    (suffix : user.world.traffic <:+ answer.2.traffic)
    (suffix' : twin.world.traffic <:+ answer'.2.traffic) :
    Agrees frame couples user twin (user.hear tell answer) (twin.hear tell answer') := by
  obtain ⟨same, after, follows⟩ := concurs
  apply reflects.hear _ follows suffix suffix'
  rw [same]
  exact plain after answer.1

theorem Reflects.use (reflects : Reflects frame couples user twin) (use : Use)
    (suits : use.Suits frame.shift.modulus) (givesWithin : user.world.GivesWithin frame.target use)
    (givesWithin' : twin.world.GivesWithin frame.target' use)
    (evenly : frame.Evenly couples user.world twin.world use)
    (systemAlike : frame.SystemAlike (obtainedBy frame.other twin.world.traffic) user.world.memory
      twin.world.memory (user.use frame.target use).2.world.traffic
      (twin.use frame.target' use).2.world.traffic) :
    Agrees frame couples user twin (user.use frame.target use) (twin.use frame.target' use) := by
  have suffix := user.use_suffix frame.target use
  have suffix' := twin.use_suffix frame.target' use
  have provided := systemAlike.roomy.provided
  have provided' := systemAlike.roomy'.provided
  have few := systemAlike.roomy.small suffix
  have few' := systemAlike.roomy'.small suffix'
  have worlds := reflects.worlds
  cases use with
  | place request =>
    obtain ⟨after, pairings, answered, inside, midway⟩ := worlds.request request suits systemAlike
    exact reflects.hear (answered.mirrors inside) midway.follows suffix suffix'
  | grow spot old new elementSize =>
    rcases worlds.spots few few' spot with ⟨gone, gone'⟩ | ⟨here, there, place, place'⟩
    · simp only [ArenaUser.use, gone, gone', Option.elim_none]
      exact reflects.refuse
    · simp only [ArenaUser.use, place, place',
        Option.elim_some] at provided provided' suffix suffix' ⊢
      exact reflects.concurs (fun _ => .grew)
        (worlds.grow place place' evenly provided provided') suffix suffix'
  | dispose spot depth disposal =>
    rcases worlds.spots few few' spot with ⟨gone, gone'⟩ | ⟨here, there, place, place'⟩
    · simp only [ArenaUser.use, gone, gone', Option.elim_none]
      exact reflects.refuse
    · simp only [ArenaUser.use, place, place',
        Option.elim_some] at provided provided' suffix suffix' ⊢
      exact reflects.concurs (fun _ => .done)
        (worlds.dispose few few' place place' givesWithin givesWithin' provided provided')
          suffix suffix'
  | write spot bytes =>
    rcases worlds.homes spot with ⟨gone, gone'⟩ | ⟨couple, member, place, place'⟩
    · simp only [ArenaUser.use, gone, gone', Option.elim_none]
      exact reflects.refuse
    · have capacity := (worlds.apart.2 couple member).capacity
      simp only [ArenaUser.use, place, place', Option.elim_some, ArenaUser.write, capacity]
      by_cases fits : spot.offset + bytes.length ≤ couple.here.capacity
      · rw [if_pos fits, if_pos fits]
        have part : (couple.part spot.offset bytes.length).Inside couples :=
          Couple.part_inside member fits
        exact ⟨couples, .done _, worlds.stored part (Nat.le_refl _), reflects.saves⟩
      · rw [if_neg fits, if_neg fits]
        exact reflects.refuse
  | owns spot =>
    rw [ArenaUser.use, ArenaUser.use, evenly]
    cases user.world.owned? frame.target spot with
    | none => exact reflects.refuse
    | some flag => exact ⟨couples, .told _, worlds.still, reflects.saves⟩
  | save =>
    rcases worlds.cases with ⟨gone, gone', _⟩ | ⟨arena, image, found, found', mirrors⟩
    · simp only [ArenaUser.use, Frame.target, Frame.target', gone, gone', Option.elim_none]
      exact reflects.refuse
    · simp only [ArenaUser.use, Frame.target, Frame.target', found, found', Option.elim_some]
      have taken := worlds.snapshot few few' mirrors
      exact ⟨couples, .saved mirrors.cursors mirrors.generation, worlds.still,
        .cons taken reflects.saves⟩
  | rewind which =>
    rcases reflects.kept which with ⟨gone, gone'⟩ | ⟨saved, image, kept, kept', recalls⟩
    · simp only [ArenaUser.use, gone, gone', Option.elim_none]
      exact reflects.refuse
    · simp only [ArenaUser.use, kept, kept',
        Option.elim_some] at provided provided' suffix suffix' ⊢
      exact reflects.concurs (fun _ => .done)
        (worlds.rewind few few' recalls provided provided') suffix suffix'
  | disable =>
    exact reflects.concurs (fun _ => .done) (worlds.disable provided provided') suffix suffix'
  | enable =>
    exact reflects.concurs (fun _ => .done) (worlds.enable provided provided') suffix suffix'
  | release =>
    exact reflects.concurs (fun _ => .done) (worlds.release provided provided') suffix suffix'
  | drop =>
    exact reflects.concurs (fun _ => .done) (worlds.drop provided provided') suffix suffix'

end ArenaUser

end ChunkArena
