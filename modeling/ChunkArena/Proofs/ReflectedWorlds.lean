import ChunkArena.Proofs.RequestAgreement
import ChunkArena.Proofs.RequestFailures
import ChunkArena.Proofs.MirroredArenas

/-!
Worlds that reflect each other in one arena each. The two arenas mirror each other, their chunks
hold the same bytes, and they dealt with the system alike since some time on. What the system
guarantees is that it gives the same bytes in the blocks that they obtain, at addresses that agree
modulo the alignments that are used. Then every call answers alike in both worlds and leaves worlds
that reflect each other. Nothing outside of the arenas' own chunks is touched.
-/

namespace ChunkArena

def dealings (owner : Nat) (traffic : List Traffic) : List Traffic :=
  traffic.filter fun entry => entry.owner == some owner

def obtained (owner : Nat) (traffic : List Traffic) : List Traffic :=
  (arrivals (passages owner traffic)).reverse

section Numbers

variable {owner : Nat} {traffic later : List Traffic}

theorem dealings_own {entry : Traffic} (own : entry.owner = some owner) (older : List Traffic) :
    dealings owner (entry :: older) = entry :: dealings owner older := by
  simp [dealings, own]

theorem length_obtained (owner : Nat) (traffic : List Traffic) :
    (obtained owner traffic).length = obtainedBy owner traffic := by
  rw [obtained, List.length_reverse, obtainedBy_eq]

theorem obtained_suffix (suffix : traffic <:+ later) (owner : Nat) :
    obtained owner traffic <+: obtained owner later := by
  have passed : passages owner traffic <:+ passages owner later := (suffix.filter _).map _
  exact List.reverse_prefix.mpr (passed.filter _)

theorem obtained_of_suffix (suffix : traffic <:+ later) {number : Nat} {block : Traffic}
    (found : (obtained owner traffic)[number]? = some block) :
    (obtained owner later)[number]? = some block := by
  obtain ⟨more, same⟩ := obtained_suffix suffix owner
  have inside := (List.getElem?_eq_some_iff.mp found).1
  rw [← same, List.getElem?_append_left inside, found]

theorem obtained_next {chunk : Chunk}
    (came : passages owner later = chunk.entry owner :: passages owner traffic) :
    (obtained owner later)[obtainedBy owner traffic]? = some (chunk.entry owner) := by
  have more : obtained owner later = obtained owner traffic ++ [chunk.entry owner] := by
    rw [obtained, came]
    exact List.reverse_cons
  rw [more, ← length_obtained, List.getElem?_concat_length]

end Numbers

namespace World

variable {world : World} {owner : Nat}

theorem BlocksConserved.nextSerial_eq (conserved : world.BlocksConserved owner)
    (few : obtainedBy owner world.traffic < wordLimit) {arena : Arena}
    (found : world.arena? owner = some arena) :
    arena.nextSerial = obtainedBy owner world.traffic := by
  obtain ⟨next, account, number⟩ := conserved.account
  rw [obtainedBy_eq] at few ⊢
  rw [number arena found]
  exact (account.numbered few).2

theorem BlocksConserved.serial_eq (conserved : world.BlocksConserved owner)
    (few : obtainedBy owner world.traffic < wordLimit) {number : Nat} {block : Traffic}
    (found : (obtained owner world.traffic)[number]? = some block) : block.serial = number := by
  obtain ⟨next, account, _⟩ := conserved.account
  rw [obtainedBy_eq] at few
  have serials : (obtained owner world.traffic).map Traffic.serial =
      List.range (arrivals (passages owner world.traffic)).length := by
    rw [obtained, List.map_reverse, (account.numbered few).1, List.reverse_reverse]
  have inside := (List.getElem?_eq_some_iff.mp found).1
  rw [length_obtained, obtainedBy_eq] at inside
  have here : ((obtained owner world.traffic).map Traffic.serial)[number]? = some block.serial := by
    rw [List.getElem?_map, found]
    rfl
  rw [serials, List.getElem?_range inside] at here
  exact (Option.some.inj here).symm

theorem BlocksConserved.block (conserved : world.BlocksConserved owner)
    (few : obtainedBy owner world.traffic < wordLimit) {chunk : Chunk}
    (member : chunk ∈ world.chunks owner) :
    (obtained owner world.traffic)[chunk.serial]? = some (chunk.entry owner) := by
  obtain ⟨next, account, _⟩ := conserved.account
  have came : chunk.entry owner ∈ obtained owner world.traffic := by
    apply List.mem_reverse.mpr
    apply (pile_perm account.stacked).mem_iff.mpr
    exact List.mem_append_left _ (List.mem_map_of_mem member)
  obtain ⟨number, found⟩ := List.mem_iff_getElem?.mp came
  have serial := conserved.serial_eq few found
  rw [← serial] at found
  exact found

end World

theorem Arena.Answers.passes_after {arena : Arena} {profile : Profile} {size align : Nat}
    {reply : Reply Nat} (answers : arena.Answers profile size align reply)
    (counted : arena.nextSerial + 1 < wordLimit) {chunk : Chunk}
    (came : .obtain chunk ∈ reply.effects) {world : World} {owner : Nat} {next : Arena} :
    passages owner (world.after owner reply.effects next).traffic =
      chunk.entry owner :: passages owner world.traffic := by
  obtain ⟨mid, effects, spill, outcome⟩ := answers
  have same : reply.effects.filterMap (Effect.passage? owner) =
      effects.filterMap (Effect.passage? owner) ∧ .obtain chunk ∈ effects := by
    rcases outcome with ⟨failure, failed⟩ | ⟨start, _, done⟩
    · rw [failed] at came ⊢
      exact ⟨rfl, came⟩
    · rw [done] at came ⊢
      rw [List.filterMap_append, Profile.handOut, passages_mark, List.append_nil]
      rcases List.mem_append.mp came with spilled | handed
      · exact ⟨rfl, spilled⟩
      · cases Profile.eq_of_mem_mark handed
  obtain ⟨passed, spilled⟩ := same
  rw [World.passages_after, passed]
  cases spill with
  | idle => cases spilled
  | bounce _ _ _ full => omega
  | extend =>
    rcases List.mem_cons.mp spilled with first | second
    · cases first
      rfl
    · cases List.mem_singleton.mp second

/-- Two arenas of two worlds, side by side from some time on. -/
structure Frame where
  owner : Nat
  other : Nat
  shift : Shift
  before : List Traffic
  logged : Prop

/-- What the system does in both worlds. It keeps its guarantees, blocks with the same number start
at addresses that agree, and those that are new were delivered with the same bytes, before anything
was done to them. -/
structure Frame.SystemAlike (frame : Frame) (known : Nat) (memory image : Memory)
    (traffic traffic' : List Traffic) : Prop where
  roomy : Roomy frame.owner traffic
  roomy' : Roomy frame.other traffic'
  agree : ∀ number < obtainedBy frame.other traffic',
    ∀ block ∈ (obtained frame.owner traffic)[frame.shift.serials + number]?,
    ∀ block' ∈ (obtained frame.other traffic')[number]?,
      block'.start ≡ block.start [MOD frame.shift.modulus] ∧
        (known ≤ number → image.load block'.start block'.layout.size =
          memory.load block.start block.layout.size)

theorem Frame.SystemAlike.of_suffix {frame : Frame} {known : Nat} {memory image : Memory}
    {first last first' last' : List Traffic}
    (systemAlike : frame.SystemAlike known memory image last last')
    (suffix : first <:+ last) (suffix' : first' <:+ last') :
    frame.SystemAlike known memory image first first' := by
  refine ⟨systemAlike.roomy.of_suffix suffix, systemAlike.roomy'.of_suffix suffix', ?_⟩
  intro number below block found block' found'
  have fewer := obtainedBy_suffix suffix' frame.other
  exact systemAlike.agree number (by omega) block (obtained_of_suffix suffix found) block'
    (obtained_of_suffix suffix' found')

theorem Frame.SystemAlike.next {frame : Frame} {known : Nat} {memory image : Memory}
    {first last first' last' : List Traffic}
    (systemAlike : frame.SystemAlike known memory image last last')
    (counts : obtainedBy frame.owner first = frame.shift.serials + obtainedBy frame.other first')
    (since : known ≤ obtainedBy frame.other first') {chunk other : Chunk}
    (passed : passages frame.owner last = chunk.entry frame.owner :: passages frame.owner first)
    (passed' : passages frame.other last' =
      other.entry frame.other :: passages frame.other first') :
    other.start ≡ chunk.start [MOD frame.shift.modulus] ∧
      image.load other.start other.capacity = memory.load chunk.start chunk.capacity := by
  have next := obtained_next passed
  have next' := obtained_next passed'
  have below := (List.getElem?_eq_some_iff.mp next').1
  rw [length_obtained] at below
  rw [counts] at next
  obtain ⟨start, bytes⟩ := systemAlike.agree _ below _ next _ next'
  exact ⟨start, bytes since⟩

structure Traffic.Mirrors (shift : Shift) (entry image : Traffic) : Prop where
  serial : entry.serial = image.serial + shift.serials
  layout : image.layout = entry.layout
  start : image.start ≡ entry.start [MOD shift.modulus]
  passage : image.passage = entry.passage

def Couple.Apart (a b : Couple) : Prop := a.here.Apart b.here ∧ a.there.Apart b.there

instance : Std.Symm Couple.Apart := ⟨fun _ _ apart => ⟨apart.1.symm, apart.2.symm⟩⟩

def Memory.SpareOutside (memory later : Memory) (chunks : List Chunk) : Prop :=
  ∀ address, (∀ chunk ∈ chunks, address < chunk.start ∨ chunk.finish ≤ address) →
    later.read address = memory.read address

theorem Memory.SpareOutside.trans {memory next later : Memory} {chunks : List Chunk}
    (head : memory.SpareOutside next chunks) (tail : next.SpareOutside later chunks) :
    memory.SpareOutside later chunks :=
  fun address outside => (tail address outside).trans (head address outside)

theorem Memory.SpareOutside.mono {memory later : Memory} {chunks more : List Chunk}
    (spares : memory.SpareOutside later chunks) (fewer : chunks ⊆ more) :
    memory.SpareOutside later more :=
  fun address outside => spares address fun chunk member => outside chunk (fewer member)

theorem Memory.SpareOutside.kept {memory later : Memory} {chunks : List Chunk}
    (spares : memory.SpareOutside later chunks) {chunk : Chunk}
    (apart : ∀ other ∈ chunks, chunk.Apart other) {offset : Nat} (below : offset < chunk.capacity) :
    later.read (chunk.start + offset) = memory.read (chunk.start + offset) := by
  apply spares
  intro other member
  have split := apart other member
  simp only [Chunk.Apart, Chunk.finish] at split ⊢
  omega

def Memory.Echoes (memory image : Memory) (couples : List Couple) : Prop :=
  ∀ couple ∈ couples, ∀ offset < couple.here.capacity,
    image.read (couple.there.start + offset) = memory.read (couple.here.start + offset)

theorem Memory.read_of_load {memory image : Memory} {start start' count offset : Nat}
    (same : image.load start' count = memory.load start count) (below : offset < count) :
    image.read (start' + offset) = memory.read (start + offset) := by
  have inside : offset < (memory.load start count).length := by rwa [Memory.length_load]
  have inside' : offset < (image.load start' count).length := by rwa [Memory.length_load]
  rw [← Memory.getElem_load memory start count offset inside,
    ← Memory.getElem_load image start' count offset inside']
  simp only [same]

section Bytes

variable {couples : List Couple} {shift : Shift} {memory image : Memory}

theorem Memory.Echoes.load (echoes : memory.Echoes image couples) {couple : Couple}
    (member : couple ∈ couples) :
    image.load couple.there.start couple.here.capacity =
      memory.load couple.here.start couple.here.capacity := by
  apply List.ext_getElem
  · rw [Memory.length_load, Memory.length_load]
  · intro i inside _
    rw [Memory.length_load] at inside
    rw [Memory.getElem_load, Memory.getElem_load]
    exact echoes couple member i inside

theorem Memory.Echoes.allEqual (echoes : memory.Echoes image couples) {couple : Couple}
    (member : couple ∈ couples) (byte : UInt8) :
    image.allEqual couple.there.start byte couple.here.capacity =
      memory.allEqual couple.here.start byte couple.here.capacity := by
  rw [Memory.allEqual, Memory.allEqual, echoes.load member]

variable (apart : couples.Pairwise Couple.Apart) (fits : ∀ couple ∈ couples, couple.Fits shift)
  (echoes : memory.Echoes image couples)

include apart fits echoes

theorem Memory.Echoes.write {pairing : Pairing} (inside : pairing.Inside couples)
    {memory' image' : Memory}
    (within : ∀ offset < pairing.size,
      image'.read (pairing.there + offset) = memory'.read (pairing.here + offset))
    (outside : ∀ address, address < pairing.here ∨ pairing.here + pairing.size ≤ address →
      memory'.read address = memory.read address)
    (outside' : ∀ address, address < pairing.there ∨ pairing.there + pairing.size ≤ address →
      image'.read address = image.read address) : memory'.Echoes image' couples := by
  obtain ⟨own, own_member, place, room, same⟩ := inside
  have here : pairing.here = own.here.start + place := congrArg Pairing.here same
  have there : pairing.there = own.there.start + place := congrArg Pairing.there same
  intro couple member offset below
  have capacity := (fits couple member).capacity
  have own_capacity := (fits own own_member).capacity
  by_cases reached : couple = own ∧ place ≤ offset ∧ offset < place + pairing.size
  · obtain ⟨rfl, low, high⟩ := reached
    have inside := within (offset - place) (by omega)
    have first : pairing.there + (offset - place) = couple.there.start + offset := by omega
    have second : pairing.here + (offset - place) = couple.here.start + offset := by omega
    rwa [first, second] at inside
  · have misses : (couple.here.start + offset < pairing.here ∨
        pairing.here + pairing.size ≤ couple.here.start + offset) ∧
        (couple.there.start + offset < pairing.there ∨
          pairing.there + pairing.size ≤ couple.there.start + offset) := by
      by_cases same_couple : couple = own
      · subst same_couple
        have missed : ¬ (place ≤ offset ∧ offset < place + pairing.size) :=
          fun within => reached ⟨rfl, within⟩
        omega
      · have split := apart.forall member own_member same_couple
        simp only [Couple.Apart, Chunk.Apart, Chunk.finish, capacity, own_capacity] at split
        omega
    rw [outside' _ misses.2, outside _ misses.1]
    exact echoes couple member offset below

theorem Memory.Echoes.fill {pairing : Pairing} (inside : pairing.Inside couples) (byte : UInt8) :
    (memory.fill pairing.here pairing.size byte).Echoes
      (image.fill pairing.there pairing.size byte) couples := by
  apply echoes.write apart fits inside
  · intro offset below
    rw [Memory.read_fill_inside _ _ (by omega) (by omega),
      Memory.read_fill_inside _ _ (by omega) (by omega)]
  · exact fun address => Memory.read_fill_outside memory byte
  · exact fun address => Memory.read_fill_outside image byte

theorem Memory.Echoes.store {pairing : Pairing} (inside : pairing.Inside couples)
    {bytes : List UInt8} (few : bytes.length ≤ pairing.size) :
    (memory.store pairing.here bytes).Echoes (image.store pairing.there bytes) couples := by
  obtain ⟨couple, member, place, room, same⟩ := inside
  have here : pairing.here = couple.here.start + place := congrArg Pairing.here same
  have there : pairing.there = couple.there.start + place := congrArg Pairing.there same
  rw [here, there]
  have part : (couple.part place bytes.length).Inside couples :=
    Couple.part_inside member (by omega)
  apply echoes.write apart fits part
  · intro offset below
    simp only [Couple.part] at below ⊢
    rw [Memory.read_store_inside _ (by omega) (by omega),
      Memory.read_store_inside _ (by omega) (by omega)]
    simp
  · exact fun address => Memory.read_store_outside memory
  · exact fun address => Memory.read_store_outside image

end Bytes

namespace World

structure Echoes (frame : Frame) (couples : List Couple) (world twin : World) : Prop where
  complaint : twin.logs.complaint = world.logs.complaint
  logs : frame.logged → twin.logs = world.logs
  dealings : ∃ recent, dealings frame.owner world.traffic = recent ++ frame.before ∧
    List.Forall₂ (Traffic.Mirrors frame.shift) recent (dealings frame.other twin.traffic)
  bytes : world.memory.Echoes twin.memory couples

variable {frame : Frame} {couples : List Couple} {world twin : World}

theorem Echoes.perform (echoes : Echoes frame couples world twin)
    (apart : couples.Pairwise Couple.Apart)
    (fits : ∀ couple ∈ couples, couple.Fits frame.shift) {effect image : Effect}
    (mirrors : effect.Mirrors couples image) :
    Echoes frame couples (perform frame.owner world effect) (perform frame.other twin image) := by
  obtain ⟨complaint, logs, ⟨recent, since, alike⟩, bytes⟩ := echoes
  -- A block that passes in both worlds is one more of those since then.
  have passes {entry image : Traffic} (own : entry.owner = some frame.owner)
      (own' : image.owner = some frame.other) (same : entry.Mirrors frame.shift image) :
      ∃ recent, ChunkArena.dealings frame.owner (entry :: world.traffic) = recent ++ frame.before ∧
        List.Forall₂ (Traffic.Mirrors frame.shift) recent
          (ChunkArena.dealings frame.other (image :: twin.traffic)) := by
    rw [dealings_own own, dealings_own own', since]
    exact ⟨entry :: recent, rfl, .cons same alike⟩
  cases mirrors with
  | @obtain couple member =>
    obtain ⟨serial, layout, start⟩ := fits couple member
    exact ⟨complaint, logs, passes rfl rfl ⟨serial, layout, start, rfl⟩, bytes⟩
  | @giveBack couple member =>
    obtain ⟨serial, layout, start⟩ := fits couple member
    refine ⟨complaint, logs, passes rfl rfl ⟨serial, layout, start, ?_⟩, bytes⟩
    rw [(fits couple member).capacity, bytes.allEqual member discardedByte]
  | fill inside byte =>
    exact ⟨complaint, logs, ⟨recent, since, alike⟩, bytes.fill apart fits inside byte⟩
  | report label entry =>
    refine ⟨?_, ?_, ⟨recent, since, alike⟩, bytes⟩
    · rw [complaint_perform, complaint_perform, complaint]
    · intro logged
      simp only [World.perform, logs logged]

theorem Echoes.performs (echoes : Echoes frame couples world twin)
    (apart : couples.Pairwise Couple.Apart)
    (fits : ∀ couple ∈ couples, couple.Fits frame.shift) {effects images : List Effect}
    (mirror : Effects.Mirror couples effects images) :
    Echoes frame couples (effects.foldl (World.perform frame.owner) world)
      (images.foldl (World.perform frame.other) twin) := by
  induction mirror generalizing world twin with
  | nil => exact echoes
  | cons mirrors _ ih => exact ih (echoes.perform apart fits mirrors)

end World

theorem Effects.Mirror.fills {couples : List Couple} {shift : Shift} {effects images : List Effect}
    (mirror : Effects.Mirror couples effects images) (fits : ∀ couple ∈ couples, couple.Fits shift)
    (address : Nat) :
    (∀ effect ∈ effects, effect.Fills address →
        ∃ couple ∈ couples, couple.here.start ≤ address ∧ address < couple.here.finish) ∧
      ∀ image ∈ images, image.Fills address →
        ∃ couple ∈ couples, couple.there.start ≤ address ∧ address < couple.there.finish := by
  induction mirror with
  | nil => exact ⟨by simp, by simp⟩
  | cons mirrors _ ih =>
    obtain ⟨below, below'⟩ := ih
    have first {effect image : Effect} (mirrors : effect.Mirrors couples image) :
        (effect.Fills address →
          ∃ couple ∈ couples, couple.here.start ≤ address ∧ address < couple.here.finish) ∧
        (image.Fills address →
          ∃ couple ∈ couples, couple.there.start ≤ address ∧ address < couple.there.finish) := by
      cases mirrors with
      | obtain | giveBack | report => exact ⟨False.elim, False.elim⟩
      | @fill pairing inside byte =>
        obtain ⟨couple, member, place, room, same⟩ := inside
        have here : pairing.here = couple.here.start + place := congrArg Pairing.here same
        have there : pairing.there = couple.there.start + place := congrArg Pairing.there same
        have capacity := (fits couple member).capacity
        refine ⟨fun fills => ⟨couple, member, ?_⟩, fun fills => ⟨couple, member, ?_⟩⟩
        · obtain ⟨low, high⟩ := fills
          simp only [Chunk.finish]
          omega
        · obtain ⟨low, high⟩ := fills
          simp only [Chunk.finish, capacity]
          omega
    refine ⟨?_, ?_⟩
    · intro effect member fills
      rcases List.mem_cons.mp member with same | later
      · rw [same] at fills
        exact (first mirrors).1 fills
      · exact below effect later fills
    · intro image member fills
      rcases List.mem_cons.mp member with same | later
      · rw [same] at fills
        exact (first mirrors).2 fills
      · exact below' image later fills

namespace Arena

structure Bounded (arena : Arena) : Prop where
  consistent : arena.Consistent
  small : totalCapacity arena.chunks < wordLimit
  low : arena.cursor.limit < wordLimit

theorem Backed.bounded {arena : Arena} {owner : Nat} {profile : Profile} {traffic : List Traffic}
    (backed : arena.Backed owner profile traffic) (provided : Provided traffic) :
    arena.Bounded :=
  ⟨backed.consistent, backed.small provided, backed.limit_lt provided⟩

theorem Mirrors.apart {arena image : Arena} {shift : Shift} {couples : List Couple}
    (mirrors : arena.Mirrors shift couples image) (apart : arena.chunks.Pairwise Chunk.Apart)
    (apart' : image.chunks.Pairwise Chunk.Apart) : couples.Pairwise Couple.Apart := by
  rw [mirrors.here, List.pairwise_map] at apart
  rw [mirrors.there, List.pairwise_map] at apart'
  exact apart.and apart'

def Matched (shift : Shift) (couples : List Couple) : Option Arena → Option Arena → Prop
  | some arena, some image => arena.Mirrors shift couples image
  | none, none => couples = []
  | _, _ => False

end Arena

namespace World

structure Reflects (frame : Frame) (couples : List Couple) (world twin : World) : Prop where
  sound : world.Sound
  sound' : twin.Sound
  conserved : world.BlocksConserved frame.owner
  conserved' : twin.BlocksConserved frame.other
  known : frame.owner < world.tenants.length
  known' : frame.other < twin.tenants.length
  profile : twin.profile = world.profile
  echoes : Echoes frame couples world twin
  arenas : Arena.Matched frame.shift couples (world.arena? frame.owner) (twin.arena? frame.other)

variable {frame : Frame} {couples : List Couple} {world twin : World}

theorem onArena_dropped {world : World} {owner : Nat} (known : owner < world.tenants.length)
    (missing : world.arena? owner = none) {α : Type} (call : Arena → Env → Reply α) :
    world.onArena owner call = (.error (.refused .dropped), world) := by
  have place := List.getElem?_eq_getElem known
  have gone : (world.tenants[owner]).arena = none := by simpa [arena?, place] using missing
  simp only [onArena, place, gone]

namespace Reflects

variable (reflects : Reflects frame couples world twin)

include reflects

theorem cases :
    world.arena? frame.owner = none ∧ twin.arena? frame.other = none ∧ couples = [] ∨
      ∃ arena image, world.arena? frame.owner = some arena ∧
        twin.arena? frame.other = some image ∧ arena.Mirrors frame.shift couples image := by
  have arenas := reflects.arenas
  cases found : world.arena? frame.owner with
  | none =>
    cases found' : twin.arena? frame.other with
    | none =>
      rw [found, found'] at arenas
      exact Or.inl ⟨rfl, rfl, arenas⟩
    | some image =>
      rw [found, found'] at arenas
      exact arenas.elim
  | some arena =>
    cases found' : twin.arena? frame.other with
    | none =>
      rw [found, found'] at arenas
      exact arenas.elim
    | some image =>
      rw [found, found'] at arenas
      exact Or.inr ⟨arena, image, rfl, rfl, arenas⟩

theorem after {arena image next last : Arena} (found : world.arena? frame.owner = some arena)
    (found' : twin.arena? frame.other = some image) {during after : List Couple}
    {effects images : List Effect} (bytes : world.memory.Echoes twin.memory during)
    (apart : during.Pairwise Couple.Apart) (fits : ∀ couple ∈ during, couple.Fits frame.shift)
    (mirror : Effects.Mirror during effects images) (mirrors : next.Mirrors frame.shift after last)
    (fewer : after ⊆ during) (changes : Arena.Changes world.profile arena effects next)
    (changes' : Arena.Changes twin.profile image images last)
    (provided : Provided (world.after frame.owner effects next).traffic)
    (provided' : Provided (twin.after frame.other images last).traffic) :
    Reflects frame after (world.after frame.owner effects next)
        (twin.after frame.other images last) ∧
      world.memory.SpareOutside (world.after frame.owner effects next).memory
        (during.map Couple.here) ∧
      twin.memory.SpareOutside (twin.after frame.other images last).memory
        (during.map Couple.there) := by
  have started : Echoes frame during (world.replace frame.owner next)
      (twin.replace frame.other last) :=
    ⟨reflects.echoes.complaint, reflects.echoes.logs, reflects.echoes.dealings, bytes⟩
  have echoes := started.performs apart fits mirror
  have spares := mirror.fills fits
  refine ⟨⟨reflects.sound.after found changes provided,
    reflects.sound'.after found' changes' provided',
    reflects.conserved.sequence (changes_sequence found changes),
    reflects.conserved'.sequence (changes_sequence found' changes'), ?_, ?_, ?_, ?_, ?_⟩, ?_, ?_⟩
  · rw [tenants_after]
    exact reflects.known
  · rw [tenants_after]
    exact reflects.known'
  · rw [after_profile, after_profile, reflects.profile]
  · exact ⟨echoes.complaint, echoes.logs, echoes.dealings,
      fun couple member => echoes.bytes couple (fewer member)⟩
  · rw [arena?_after_self _ world found, arena?_after_self _ twin found']
    exact mirrors
  · intro address outside
    apply read_after
    intro effect member fills
    obtain ⟨couple, inside, low, high⟩ := (spares address).1 effect member fills
    have := outside couple.here (List.mem_map_of_mem inside)
    omega
  · intro address outside
    apply read_after
    intro effect member fills
    obtain ⟨couple, inside, low, high⟩ := (spares address).2 effect member fills
    have := outside couple.there (List.mem_map_of_mem inside)
    omega

end Reflects

/-- What follows in both worlds: they reflect each other, and nothing was touched but what were or
are chunks of the two arenas. -/
structure Follows (frame : Frame) (couples after : List Couple) (world twin next last : World) :
    Prop where
  reflects : Reflects frame after next last
  spares : world.memory.SpareOutside next.memory ((couples ++ after).map Couple.here)
  spares' : twin.memory.SpareOutside last.memory ((couples ++ after).map Couple.there)

def Concurs {α : Type} (frame : Frame) (couples : List Couple) (world twin : World)
    (answer answer' : Except Failure α × World) : Prop :=
  answer'.1 = answer.1 ∧ ∃ after, Follows frame couples after world twin answer.2 answer'.2

theorem Reflects.still (reflects : Reflects frame couples world twin) :
    Follows frame couples couples world twin world twin :=
  ⟨reflects, fun _ _ => rfl, fun _ _ => rfl⟩

theorem Reflects.onArena (reflects : Reflects frame couples world twin) {α : Type}
    {call call' : Arena → Env → Reply α}
    (mirror : ∀ arena image, world.arena? frame.owner = some arena →
      twin.arena? frame.other = some image → ∀ env env', arena.Mirrors frame.shift couples image →
        arena.Bounded → image.Bounded → env.Alike env' →
          Arena.Changes env.profile arena (call arena env).effects (call arena env).arena ∧
          Arena.Changes env'.profile image (call' image env').effects (call' image env').arena ∧
          (call' image env').result = (call arena env).result ∧
          ∃ after, after <:+ couples ∧
            Reply.Mirrors frame.shift couples after (call arena env) (call' image env'))
    (provided : Provided (world.onArena frame.owner call).2.traffic)
    (provided' : Provided (twin.onArena frame.other call').2.traffic) :
    Concurs frame couples world twin (world.onArena frame.owner call)
      (twin.onArena frame.other call') := by
  have before := provided_of_suffix provided (world.onArena_suffix frame.owner call)
  have before' := provided_of_suffix provided' (twin.onArena_suffix frame.other call')
  rcases reflects.cases with ⟨gone, gone', _⟩ | ⟨arena, image, found, found', mirrors⟩
  · rw [onArena_dropped reflects.known gone, onArena_dropped reflects.known' gone']
    exact ⟨rfl, couples, reflects.still⟩
  · obtain ⟨skew, done⟩ := onArena_some found call
    obtain ⟨skew', done'⟩ := onArena_some found' call'
    have backed := reflects.sound _ arena found
    have backed' := reflects.sound' _ image found'
    have alike : (world.env skew).Alike (twin.env skew') :=
      ⟨reflects.profile, reflects.echoes.complaint⟩
    obtain ⟨changes, changes', same, after, fewer, replies⟩ := mirror arena image found found' _ _
      mirrors (backed.bounded before) (backed'.bounded before') alike
    rw [done] at provided
    rw [done'] at provided'
    rw [done, done']
    obtain ⟨next, spares, spares'⟩ := reflects.after found found' reflects.echoes.bytes
      (mirrors.apart backed.apart backed'.apart) mirrors.fits replies.effects replies.arena
      fewer.subset changes changes' provided provided'
    have more : couples ⊆ couples ++ after := List.subset_append_left couples after
    exact ⟨same, after, next, spares.mono (List.map_subset _ more),
      spares'.mono (List.map_subset _ more)⟩

theorem Reflects.counts (reflects : Reflects frame couples world twin) {arena image : Arena}
    (found : world.arena? frame.owner = some arena) (found' : twin.arena? frame.other = some image)
    (mirrors : arena.Mirrors frame.shift couples image)
    (few : obtainedBy frame.owner world.traffic < wordLimit)
    (few' : obtainedBy frame.other twin.traffic < wordLimit) :
    obtainedBy frame.owner world.traffic =
      frame.shift.serials + obtainedBy frame.other twin.traffic := by
  rw [← reflects.conserved.nextSerial_eq few found, ← reflects.conserved'.nextSerial_eq few' found',
    mirrors.nextSerial, Nat.add_comm]

/-- Two worlds in the middle of a request that began when memory was as it is given and that many
blocks had come. Nothing was touched since but chunks of the two arenas. -/
structure Midway (frame : Frame) (known : Nat) (memory image : Memory) (couples : List Couple)
    (world twin : World) : Prop where
  reflects : Reflects frame couples world twin
  since : known ≤ obtainedBy frame.other twin.traffic
  spares : memory.SpareOutside world.memory (couples.map Couple.here)
  spares' : image.SpareOutside twin.memory (couples.map Couple.there)

variable {known : Nat} {memory image : Memory}

theorem Midway.echoes (midway : Midway frame known memory image couples world twin)
    {fresh : List Couple} (apart : (fresh ++ couples).Pairwise Couple.Apart)
    (fits : ∀ couple ∈ fresh, couple.Fits frame.shift)
    (delivered : ∀ couple ∈ fresh, image.load couple.there.start couple.there.capacity =
      memory.load couple.here.start couple.here.capacity) :
    world.memory.Echoes twin.memory (fresh ++ couples) := by
  intro couple member offset below
  rcases List.mem_append.mp member with new | old
  · have capacity := (fits couple new).capacity
    have same := delivered couple new
    rw [capacity] at same
    -- A new chunk has no byte in common with those that were there.
    have misses : ∀ old ∈ couples, couple.Apart old :=
      (List.pairwise_append.mp apart).2.2 couple new
    have here : ∀ chunk ∈ couples.map Couple.here, couple.here.Apart chunk := by
      intro chunk inside
      obtain ⟨old, present, rfl⟩ := List.mem_map.mp inside
      exact (misses old present).1
    have there : ∀ chunk ∈ couples.map Couple.there, couple.there.Apart chunk := by
      intro chunk inside
      obtain ⟨old, present, rfl⟩ := List.mem_map.mp inside
      exact (misses old present).2
    rw [midway.spares.kept here below, midway.spares'.kept there (by omega)]
    exact Memory.read_of_load same below
  · exact midway.reflects.echoes.bytes couple old offset below

theorem Midway.ask (midway : Midway frame known memory image couples world twin) {size align : Nat}
    {call : Arena → Env → Reply Nat} (asks : Arena.Asks size align call)
    (suits : isPowerOfTwo align = true → align ∣ frame.shift.modulus)
    (systemAlike : frame.SystemAlike known memory image (world.onArena frame.owner call).2.traffic
      (twin.onArena frame.other call).2.traffic) :
    ∃ fresh pairings,
      SameGrant size (world.onArena frame.owner call).1 (twin.onArena frame.other call).1 pairings ∧
      (∀ pairing ∈ pairings, pairing.Inside (fresh ++ couples)) ∧
      Midway frame known memory image (fresh ++ couples) (world.onArena frame.owner call).2
        (twin.onArena frame.other call).2 := by
  have reflects := midway.reflects
  have later := Nat.le_trans midway.since
    (obtainedBy_suffix (twin.onArena_suffix frame.other call) frame.other)
  have before := systemAlike.of_suffix (world.onArena_suffix frame.owner call)
    (twin.onArena_suffix frame.other call)
  have few := systemAlike.roomy.small (world.onArena_suffix frame.owner call)
  have few' := systemAlike.roomy'.small (twin.onArena_suffix frame.other call)
  rcases reflects.cases with ⟨gone, gone', bare⟩ | ⟨arena, base, found, found', mirrors⟩
  · rw [onArena_dropped reflects.known gone, onArena_dropped reflects.known' gone']
    exact ⟨[], [], .failed _, by simp, midway⟩
  obtain ⟨skew, done⟩ := onArena_some found call
  obtain ⟨skew', done'⟩ := onArena_some found' call
  have backed := reflects.sound _ arena found
  have backed' := reflects.sound' _ base found'
  have alike : (world.env skew).Alike (twin.env skew') :=
    ⟨reflects.profile, reflects.echoes.complaint⟩
  have counts := reflects.counts found found' mirrors few few'
  have counted := reflects.conserved.counted before.roomy found
  have counted' := reflects.conserved'.counted before.roomy' found'
  have answers := asks.answers backed.consistent (world.env skew)
  have answers' := asks.answers backed'.consistent (twin.env skew')
  rw [done'] at later
  rw [done, done'] at systemAlike ⊢
  have pair {couple : Couple}
      (came : .obtain couple.here ∈ (call arena (world.env skew)).effects)
      (came' : .obtain couple.there ∈ (call base (twin.env skew')).effects) :=
    systemAlike.next counts midway.since (answers.passes_after counted came)
      (answers'.passes_after counted' came')
  obtain ⟨fresh, pairings, replies, handed, inside, came⟩ := mirrors.ask alike counted asks suits
    fun couple came came' => (pair came came').1
  have changes := answers.changes
  have changes' := answers'.changes
  have provided := systemAlike.roomy.provided
  have provided' := systemAlike.roomy'.provided
  have settled := reflects.sound.after found changes provided _ _
    (arena?_after_self _ world found _ _)
  have settled' := reflects.sound'.after found' changes' provided' _ _
    (arena?_after_self _ twin found' _ _)
  have apart := replies.arena.apart settled.apart settled'.apart
  have bytes := midway.echoes apart
    (fun couple new => replies.arena.fits couple (List.mem_append_left _ new))
    fun couple new => (pair (came couple new).1 (came couple new).2).2
  obtain ⟨next, touched, touched'⟩ := reflects.after found found' bytes apart replies.arena.fits
    replies.effects replies.arena (List.Subset.refl _) changes changes' provided provided'
  have more : couples ⊆ fresh ++ couples := List.subset_append_right fresh couples
  exact ⟨fresh, pairings, handed, inside, next, later,
    (midway.spares.mono (List.map_subset _ more)).trans touched,
    (midway.spares'.mono (List.map_subset _ more)).trans touched'⟩

theorem Reflects.outside (reflects : Reflects frame couples world twin) {memory' image' : Memory}
    (bytes : memory'.Echoes image' couples) {tally tally' : Tally} :
    Reflects frame couples { world with memory := memory', tally := tally }
      { twin with memory := image', tally := tally' } where
  sound := reflects.sound.congr (fun _ => rfl) rfl rfl
  sound' := reflects.sound'.congr (fun _ => rfl) rfl rfl
  conserved := reflects.conserved.sequence (Step.outside world memory' tally world.logs).sequence
  conserved' := reflects.conserved'.sequence (Step.outside twin image' tally' twin.logs).sequence
  known := reflects.known
  known' := reflects.known'
  profile := reflects.profile
  echoes := { reflects.echoes with bytes := bytes }
  arenas := reflects.arenas

theorem Reflects.counted (reflects : Reflects frame couples world twin) (change : Tally → Tally)
    (kind : Kind) :
    Reflects frame couples (world.count kind change) (twin.count kind change) := by
  unfold World.count
  split
  · exact reflects.outside reflects.echoes.bytes
  · exact reflects

theorem Reflects.apart (reflects : Reflects frame couples world twin) :
    couples.Pairwise Couple.Apart ∧ ∀ couple ∈ couples, couple.Fits frame.shift := by
  rcases reflects.cases with ⟨_, _, bare⟩ | ⟨arena, image, found, found', mirrors⟩
  · rw [bare]
    exact ⟨.nil, by simp⟩
  · exact
      ⟨mirrors.apart (reflects.sound _ arena found).apart (reflects.sound' _ image found').apart,
      mirrors.fits⟩

theorem Midway.stored (midway : Midway frame known memory image couples world twin)
    {pairing : Pairing} (inside : pairing.Inside couples) {bytes : List UInt8}
    (few : bytes.length ≤ pairing.size) :
    Midway frame known memory image couples
      { world with memory := world.memory.store pairing.here bytes }
      { twin with memory := twin.memory.store pairing.there bytes } := by
  obtain ⟨reflects, since, spares, spares'⟩ := midway
  obtain ⟨apart, fits⟩ := reflects.apart
  obtain ⟨couple, member, place, room, same⟩ := id inside
  have here : pairing.here = couple.here.start + place := congrArg Pairing.here same
  have there : pairing.there = couple.there.start + place := congrArg Pairing.there same
  have capacity := (fits couple member).capacity
  have bytes := reflects.echoes.bytes.store apart fits inside few
  refine ⟨reflects.outside bytes, since, ?_, ?_⟩
  · apply spares.trans
    intro address outside
    have := outside couple.here (List.mem_map_of_mem member)
    simp only [Chunk.finish] at this
    exact Memory.read_store_outside _ (by omega)
  · apply spares'.trans
    intro address outside
    have := outside couple.there (List.mem_map_of_mem member)
    simp only [Chunk.finish, capacity] at this
    exact Memory.read_store_outside _ (by omega)

def reflecting (frame : Frame) (known : Nat) (memory image : Memory) :
    PairRelation frame.owner frame.other where
  fine := frame.SystemAlike known memory image
  suits align := isPowerOfTwo align = true → align ∣ frame.shift.modulus
  holds pairings world twin := ∃ couples, Midway frame known memory image couples world twin ∧
    ∀ pairing ∈ pairings, pairing.Inside couples
  earlier systemAlike suffix suffix' := systemAlike.of_suffix suffix suffix'
  forgets := by
    rintro pairings rest world twin ⟨couples, midway, inside⟩ fewer
    exact ⟨couples, midway, fun pairing member => inside pairing (fewer member)⟩
  asked := by
    rintro pairings world twin size align call ⟨couples, midway, inside⟩ asks suits systemAlike
    obtain ⟨fresh, more, handed, inside', next⟩ := midway.ask asks suits systemAlike
    refine ⟨more, handed, fresh ++ couples, next, ?_⟩
    intro pairing member
    rcases List.mem_append.mp member with new | old
    · exact inside' pairing new
    · exact (inside pairing old).mono (List.subset_append_right fresh couples)
  stored := by
    rintro pairings world twin pairing bytes ⟨couples, midway, inside⟩ member few
    exact ⟨couples, midway.stored (inside pairing member) few, inside⟩
  counted := by
    rintro pairings world twin change ⟨couples, ⟨reflects, since, spares, spares'⟩, inside⟩ _ kind
    refine ⟨couples, ⟨reflects.counted change kind, ?_, ?_, ?_⟩, inside⟩
    · rwa [World.count_eq]
    · rwa [World.count_eq]
    · rwa [World.count_eq]

/-- Every request answers alike, and hands out the same parts of chunks in the same place. -/
theorem Reflects.request (reflects : Reflects frame couples world twin) (request : Request)
    (suits : ∀ align ∈ request.aligns, isPowerOfTwo align = true → align ∣ frame.shift.modulus)
    (systemAlike : frame.SystemAlike (obtainedBy frame.other twin.traffic) world.memory twin.memory
      (request.ask world frame.owner).2.traffic (request.ask twin frame.other).2.traffic) :
    ∃ after pairings, Answered request (request.ask world frame.owner).1
        (request.ask twin frame.other).1 pairings ∧
      (∀ pairing ∈ pairings, pairing.Inside after) ∧
      Midway frame (obtainedBy frame.other twin.traffic) world.memory twin.memory after
        (request.ask world frame.owner).2 (request.ask twin frame.other).2 := by
  let relation := reflecting frame (obtainedBy frame.other twin.traffic) world.memory twin.memory
  have related : relation.Related [] world twin := fun _ =>
    ⟨couples, ⟨reflects, Nat.le_refl _, fun _ _ => rfl, fun _ _ => rfl⟩, by simp⟩
  obtain ⟨pairings, answered, after, midway, inside⟩ := related.request request suits systemAlike
  rw [List.append_nil] at inside
  exact ⟨after, pairings, answered, inside, midway⟩

end World

end ChunkArena
