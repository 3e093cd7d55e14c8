import ChunkArena.Proofs.ArenaOperations
import ChunkArena.Proofs.SystemGuarantees

/-!
The changes of one arena seen from the world. An arena is backed when it is consistent, when the
system holds out every chunk of it, and when its serial numbers go up with its chunks. All arenas
of a world stay backed when one of them changes, as long as the system keeps its guarantees.
-/

namespace ChunkArena

namespace Effect

def Returns (start : Nat) : Effect → Prop
  | giveBack chunk => chunk.start = start
  | _ => False

def Fills (address : Nat) : Effect → Prop
  | fill start count _ => start ≤ address ∧ address < start + count
  | _ => False

end Effect

namespace World

def replace (world : World) (owner : Nat) (arena : Arena) : World :=
  { world with
    tenants := world.tenants.modify owner fun tenant => { tenant with arena := some arena } }

def after (world : World) (owner : Nat) (effects : List Effect) (arena : Arena) : World :=
  effects.foldl (perform owner) (world.replace owner arena)

section Frame

variable (owner : Nat) (world : World)

theorem perform_frame (effect : Effect) :
    (perform owner world effect).tenants = world.tenants ∧
      (perform owner world effect).profile = world.profile ∧
      (perform owner world effect).tally = world.tally := by
  cases effect with
  | obtain chunk => exact ⟨rfl, rfl, rfl⟩
  | giveBack chunk => exact ⟨rfl, rfl, rfl⟩
  | fill start count byte => exact ⟨rfl, rfl, rfl⟩
  | report label entry => exact ⟨rfl, rfl, rfl⟩

theorem foldl_perform_frame (effects : List Effect) :
    (effects.foldl (perform owner) world).tenants = world.tenants ∧
      (effects.foldl (perform owner) world).profile = world.profile ∧
      (effects.foldl (perform owner) world).tally = world.tally := by
  induction effects generalizing world with
  | nil => exact ⟨rfl, rfl, rfl⟩
  | cons effect rest ih =>
    obtain ⟨tenants, profile, tally⟩ := perform_frame owner world effect
    obtain ⟨tenants', profile', tally'⟩ := ih (perform owner world effect)
    exact ⟨tenants'.trans tenants, profile'.trans profile, tally'.trans tally⟩

@[simp] theorem after_profile (effects : List Effect) (arena : Arena) :
    (world.after owner effects arena).profile = world.profile :=
  (foldl_perform_frame owner _ effects).2.1

@[simp] theorem after_tally (effects : List Effect) (arena : Arena) :
    (world.after owner effects arena).tally = world.tally :=
  (foldl_perform_frame owner _ effects).2.2

theorem arena?_after_self {arena : Arena} (found : world.arena? owner = some arena)
    (effects : List Effect) (next : Arena) :
    (world.after owner effects next).arena? owner = some next := by
  have tenants := (foldl_perform_frame owner (world.replace owner next) effects).1
  simp only [arena?, Option.bind_eq_some_iff] at found
  obtain ⟨tenant, present, _⟩ := found
  rw [arena?, after, tenants]
  simp [replace, present]

theorem arena?_after_other {other : Nat} (different : other ≠ owner) (effects : List Effect)
    (next : Arena) : (world.after owner effects next).arena? other = world.arena? other := by
  have tenants := (foldl_perform_frame owner (world.replace owner next) effects).1
  rw [arena?, after, tenants]
  simp [arena?, replace, different.symm]

theorem perform_traffic_suffix (effect : Effect) :
    world.traffic <:+ (perform owner world effect).traffic := by
  cases effect with
  | obtain chunk => exact List.suffix_cons _ _
  | giveBack chunk => exact List.suffix_cons _ _
  | fill start count byte => exact List.suffix_refl _
  | report label entry => exact List.suffix_refl _

theorem after_traffic_suffix (effects : List Effect) (arena : Arena) :
    world.traffic <:+ (world.after owner effects arena).traffic := by
  have grows (start : World) : start.traffic <:+ (effects.foldl (perform owner) start).traffic := by
    induction effects generalizing start with
    | nil => exact List.suffix_refl _
    | cons effect rest ih =>
      exact (perform_traffic_suffix owner start effect).trans (ih (perform owner start effect))
  exact grows (world.replace owner arena)

theorem replace_perform (effect : Effect) (arena : Arena) :
    (perform owner world effect).replace owner arena =
      perform owner (world.replace owner arena) effect := by
  cases effect with
  | obtain chunk => rfl
  | giveBack chunk => rfl
  | fill start count byte => rfl
  | report label entry => rfl

theorem replace_replace (first last : Arena) :
    (world.replace owner first).replace owner last = world.replace owner last := by
  simp only [replace, List.modify_modify_eq]
  rfl

theorem after_after (first last : Arena) (effects more : List Effect) :
    (world.after owner effects first).after owner more last =
      world.after owner (effects ++ more) last := by
  have moved (start : World) : (effects.foldl (perform owner) start).replace owner last =
      effects.foldl (perform owner) (start.replace owner last) := by
    induction effects generalizing start with
    | nil => rfl
    | cons effect rest ih =>
      rw [List.foldl_cons, List.foldl_cons, ih, replace_perform]
  simp only [after, List.foldl_append]
  rw [moved, replace_replace]

theorem read_perform {effect : Effect} {address : Nat} (spared : ¬ effect.Fills address) :
    (perform owner world effect).memory.read address = world.memory.read address := by
  cases effect with
  | obtain chunk => rfl
  | giveBack chunk => rfl
  | fill start count byte =>
    simp only [Effect.Fills] at spared
    exact Memory.read_fill_outside world.memory byte (by omega)
  | report label entry => rfl

theorem read_after {effects : List Effect} {address : Nat}
    (spared : ∀ effect ∈ effects, ¬ effect.Fills address) (arena : Arena) :
    (world.after owner effects arena).memory.read address = world.memory.read address := by
  have steady (start : World) :
      (effects.foldl (perform owner) start).memory.read address = start.memory.read address := by
    induction effects generalizing start with
    | nil => rfl
    | cons effect rest ih =>
      rw [List.foldl_cons, ih fun e member => spared e (by simp [member])]
      exact read_perform owner start (spared effect (by simp))
  exact steady (world.replace owner arena)

theorem held_perform {effect : Effect} {block : Traffic} (member : block ∈ held world.traffic)
    (kept : block.owner = some owner → ¬ effect.Returns block.start) :
    block ∈ held (perform owner world effect).traffic := by
  cases effect with
  | obtain chunk =>
    simp only [perform]
    rw [held_obtained rfl]
    exact List.mem_cons_of_mem _ member
  | giveBack chunk =>
    simp only [perform]
    rw [held_returned rfl]
    refine List.mem_filter.mpr ⟨member, ?_⟩
    by_cases own : block.owner = some owner
    · have apart := kept own
      simp only [Effect.Returns] at apart
      simp [Traffic.concerns, own, Ne.symm apart]
    · simp [Traffic.concerns, own]
  | fill start count byte => exact member
  | report label entry => exact member

theorem held_after {effects : List Effect} {block : Traffic}
    (member : block ∈ held world.traffic)
    (kept : block.owner = some owner → ∀ effect ∈ effects, ¬ effect.Returns block.start)
    (arena : Arena) : block ∈ held (world.after owner effects arena).traffic := by
  have lasting (start : World) (present : block ∈ held start.traffic) :
      block ∈ held (effects.foldl (perform owner) start).traffic := by
    induction effects generalizing start with
    | nil => exact present
    | cons effect rest ih =>
      refine ih (fun own e inside => kept own e (by simp [inside])) (perform owner start effect) ?_
      exact held_perform owner start present fun own => kept own effect (by simp)
  exact lasting (world.replace owner arena) member

end Frame

end World

namespace Profile

variable {profile : Profile} {effect : Effect}

theorem eq_of_mem_mark {byte : UInt8} {start count : Nat}
    (member : effect ∈ profile.mark byte start count) : effect = .fill start count byte := by
  unfold mark at member
  split at member
  · exact List.mem_singleton.mp member
  · cases member

theorem fills_of_mem_mark {byte : UInt8} {start count address : Nat}
    (member : effect ∈ profile.mark byte start count) (fills : effect.Fills address) :
    start ≤ address ∧ address < start + count := by
  rw [eq_of_mem_mark member] at fills
  exact fills

theorem not_returns_of_mem_mark {byte : UInt8} {start count block : Nat}
    (member : effect ∈ profile.mark byte start count) : ¬ effect.Returns block := by
  rw [eq_of_mem_mark member]
  exact id

theorem fills_of_mem_surrender {gone : List Chunk} {address : Nat}
    (member : effect ∈ gone.flatMap profile.surrender) (fills : effect.Fills address) :
    ∃ chunk ∈ gone, chunk.start ≤ address ∧ address < chunk.finish := by
  obtain ⟨chunk, present, inside⟩ := List.mem_flatMap.mp member
  refine ⟨chunk, present, ?_⟩
  rcases List.mem_append.mp inside with marked | back
  · exact fills_of_mem_mark marked fills
  · rw [List.mem_singleton.mp back] at fills
    exact fills.elim

theorem returns_of_mem_surrender {gone : List Chunk} {block : Nat}
    (member : effect ∈ gone.flatMap profile.surrender) (returns : effect.Returns block) :
    ∃ chunk ∈ gone, chunk.start = block := by
  obtain ⟨chunk, present, inside⟩ := List.mem_flatMap.mp member
  refine ⟨chunk, present, ?_⟩
  rcases List.mem_append.mp inside with marked | back
  · exact absurd returns (not_returns_of_mem_mark marked)
  · rw [List.mem_singleton.mp back] at returns
    exact returns

end Profile

theorem Arena.Spill.not_fills {profile : Profile} {arena mid : Arena} {effects : List Effect}
    (spill : Arena.Spill profile arena effects mid) {effect : Effect} (member : effect ∈ effects)
    (address : Nat) : ¬ effect.Fills address := by
  cases spill with
  | idle => cases member
  | bounce =>
    rcases List.mem_cons.mp member with first | second
    · rw [first]
      exact id
    · rw [List.mem_singleton.mp second]
      exact id
  | extend =>
    rcases List.mem_cons.mp member with first | second
    · rw [first]
      exact id
    · rw [List.mem_singleton.mp second]
      exact id

/-- The number of blocks that an arena has obtained so far. -/
def obtainedBy (owner : Nat) (traffic : List Traffic) : Nat :=
  traffic.countP fun entry => entry.owner == some owner && entry.passage == .obtained

theorem obtainedBy_suffix {earlier later : List Traffic} (suffix : earlier <:+ later)
    (owner : Nat) : obtainedBy owner earlier ≤ obtainedBy owner later :=
  suffix.sublist.countP_le

namespace Arena

/-- What the world knows about one of its arenas. In release builds serial numbers may start again
once there were as many blocks as words; debug builds stop before that. -/
structure Backed (arena : Arena) (owner : Nat) (profile : Profile) (traffic : List Traffic) :
    Prop where
  consistent : arena.Consistent
  booked : ∀ chunk ∈ arena.chunks, chunk.entry owner ∈ held traffic
  apart : arena.chunks.Pairwise Chunk.Apart
  numbered : arena.nextSerial ≤ obtainedBy owner traffic
  ascending : profile.checks = true ∨ obtainedBy owner traffic < wordLimit →
    arena.chunks.Pairwise (fun newer older => older.serial < newer.serial) ∧
      ∀ chunk ∈ arena.chunks, chunk.serial < arena.nextSerial

section Backed

variable {arena after : Arena} {owner : Nat} {profile : Profile} {traffic later : List Traffic}

theorem Backed.small (backed : arena.Backed owner profile traffic) (provided : Provided traffic) :
    totalCapacity arena.chunks < wordLimit := by
  refine totalCapacity_lt backed.apart ?_
  intro chunk member
  exact (held_placed provided _ (backed.booked chunk member)).2.2

theorem Backed.limit_lt (backed : arena.Backed owner profile traffic)
    (provided : Provided traffic) : arena.cursor.limit < wordLimit := by
  have seated := backed.consistent.seated
  cases stack : arena.chunks with
  | nil =>
    rw [stack] at seated
    rw [seated]
    decide
  | cons chunk rest =>
    rw [stack] at seated
    have member : chunk ∈ arena.chunks := by
      rw [stack]
      exact List.mem_cons_self
    rw [seated.2.1]
    exact (held_placed provided _ (backed.booked chunk member)).2.2

theorem Backed.of_sublist (backed : arena.Backed owner profile traffic)
    (consistent : after.Consistent) (sublist : after.chunks.Sublist arena.chunks)
    (serial : after.nextSerial = arena.nextSerial) (suffix : traffic <:+ later)
    (booked : ∀ chunk ∈ after.chunks, chunk.entry owner ∈ held later) :
    after.Backed owner profile later := by
  have more := obtainedBy_suffix suffix owner
  refine ⟨consistent, booked, backed.apart.sublist sublist, ?_, ?_⟩
  · have numbered := backed.numbered
    omega
  · intro exact_serials
    obtain ⟨ordered, below⟩ := backed.ascending (exact_serials.imp_right fun few => by omega)
    refine ⟨ordered.sublist sublist, ?_⟩
    intro chunk member
    rw [serial]
    exact below chunk (sublist.subset member)

theorem Backed.booked_after {world : World} (backed : arena.Backed owner profile world.traffic)
    {effects : List Effect} {chunk : Chunk} (member : chunk ∈ arena.chunks)
    (kept : ∀ effect ∈ effects, ¬ effect.Returns chunk.start) (next : Arena) :
    chunk.entry owner ∈ held (world.after owner effects next).traffic :=
  world.held_after owner (backed.booked chunk member) (fun _ => kept) next

theorem Backed.start_ne (backed : arena.Backed owner profile traffic) {n : Nat} {kept gone : Chunk}
    (low : kept ∈ arena.chunks.drop n) (high : gone ∈ arena.chunks.take n) :
    gone.start ≠ kept.start := by
  have split := backed.apart
  rw [← List.take_append_drop n arena.chunks] at split
  have apart := (List.pairwise_append.mp split).2.2 gone high kept low
  exact Chunk.apart_start_ne apart (backed.consistent.nonempty gone (List.mem_of_mem_take high))
    (backed.consistent.nonempty kept (List.mem_of_mem_drop low))

end Backed

theorem Backed.extend {arena : Arena} {owner : Nat} {profile : Profile} {traffic : List Traffic}
    (backed : arena.Backed owner profile traffic) {chunk : Chunk}
    (link : chunk.previous = arena.cursor.chunk) (serial : chunk.serial = arena.nextSerial)
    (nonempty : 0 < chunk.capacity)
    (counted : profile.checks = true → arena.nextSerial + 1 < wordLimit)
    (provided : Provided (chunk.entry owner :: traffic)) :
    (arena.extended chunk).Backed owner profile (chunk.entry owner :: traffic) := by
  have fresh := provided.1 rfl
  have count : obtainedBy owner (chunk.entry owner :: traffic) = obtainedBy owner traffic + 1 := by
    simp [obtainedBy, Chunk.entry]
  have numbered := backed.numbered
  have change : Change profile arena [.obtain chunk] (arena.extended chunk) :=
    .extend arena chunk link serial nonempty counted
  refine ⟨change.consistent backed.consistent, ?_, ?_, ?_, ?_⟩
  · intro c member
    rw [held_obtained rfl]
    rcases List.mem_cons.mp member with same | older
    · rw [same]
      exact List.mem_cons_self
    · exact List.mem_cons_of_mem _ (backed.booked c older)
  · refine List.pairwise_cons.mpr ⟨?_, backed.apart⟩
    intro c member
    exact fresh.2 (c.entry owner) (backed.booked c member)
  · have wrapped := Nat.mod_le (arena.nextSerial + 1) wordLimit
    rw [count]
    exact Nat.le_trans wrapped (by omega)
  · intro exact_serials
    -- Debug builds stop before the number wraps; otherwise there were too few blocks for it.
    have unwrapped : (arena.nextSerial + 1) % wordLimit = arena.nextSerial + 1 := by
      apply Nat.mod_eq_of_lt
      rcases exact_serials with checks | few
      · exact counted checks
      · omega
    obtain ⟨ordered, below⟩ := backed.ascending (exact_serials.imp_right fun few => by omega)
    refine ⟨List.pairwise_cons.mpr ⟨?_, ordered⟩, ?_⟩
    · intro c member
      rw [serial]
      exact below c member
    · intro c member
      simp only [extended, unwrapped]
      rcases List.mem_cons.mp member with same | older
      · rw [same, serial]
        exact Nat.lt_succ_self _
      · exact Nat.lt_succ_of_lt (below c older)

/-- Every change keeps the arena backed. -/
theorem Change.backed {world : World} {arena after : Arena} {owner : Nat} {effects : List Effect}
    (change : Change world.profile arena effects after)
    (backed : arena.Backed owner world.profile world.traffic)
    (provided : Provided (world.after owner effects after).traffic) :
    after.Backed owner world.profile (world.after owner effects after).traffic := by
  have consistent := change.consistent backed.consistent
  have suffix := world.after_traffic_suffix owner effects after
  cases change with
  | report label entry =>
    refine backed.of_sublist consistent (List.Sublist.refl _) rfl suffix ?_
    intro chunk member
    refine backed.booked_after member ?_ _
    intro effect inside
    rw [List.mem_singleton.mp inside]
    exact id
  | hold count =>
    refine backed.of_sublist consistent (List.Sublist.refl _) rfl suffix ?_
    intro chunk member
    exact backed.booked_after member (by simp) _
  | mark start count =>
    refine backed.of_sublist consistent (List.Sublist.refl _) rfl suffix ?_
    intro chunk member
    exact backed.booked_after member (fun _ inside => Profile.not_returns_of_mem_mark inside) _
  | bounce fresh nonempty _ _ =>
    refine backed.of_sublist consistent (List.Sublist.refl _) rfl suffix ?_
    intro chunk member
    refine backed.booked_after member ?_ _
    -- The block that bounces was never the address of a chunk that is still there.
    have obtained : Provided (fresh.entry owner :: world.traffic) := provided.2
    have apart : fresh.Apart chunk :=
      (obtained.1 rfl).2 (chunk.entry owner) (backed.booked chunk member)
    have different := Chunk.apart_start_ne apart nonempty (backed.consistent.nonempty chunk member)
    intro effect inside
    rcases List.mem_cons.mp inside with first | second
    · rw [first]
      exact id
    · rw [List.mem_singleton.mp second]
      exact different
  | extend chunk link serial nonempty counted =>
    exact backed.extend link serial nonempty counted provided
  | advance start size some_chunk low high =>
    refine backed.of_sublist consistent (List.Sublist.refl _) rfl suffix ?_
    intro chunk member
    exact backed.booked_after member (fun _ inside => Profile.not_returns_of_mem_mark inside) _
  | fallBack saved handle chunk names live limit low high =>
    refine backed.of_sublist consistent (List.drop_sublist _ _) rfl suffix ?_
    intro kept member
    refine backed.booked_after (List.mem_of_mem_drop member) ?_ _
    intro effect inside returns
    rcases List.mem_append.mp inside with cleared | surrendered
    · obtain ⟨used, marked, _⟩ := mem_clearing cleared
      exact Profile.not_returns_of_mem_mark marked returns
    · obtain ⟨gone, above, same⟩ := Profile.returns_of_mem_surrender surrendered returns
      exact backed.start_ne member above same
  | empty generation =>
    refine backed.of_sublist consistent (List.nil_sublist _) rfl suffix ?_
    intro chunk member
    cases member

theorem Changes.backed {world : World} {arena after : Arena} {owner : Nat} {effects : List Effect}
    (changes : Changes world.profile arena effects after)
    (backed : arena.Backed owner world.profile world.traffic)
    (provided : Provided (world.after owner effects after).traffic) :
    after.Backed owner world.profile (world.after owner effects after).traffic := by
  generalize same : world.profile = profile at changes backed ⊢
  induction changes generalizing world with
  | refl arena => exact backed
  | @step first next last effects more head tail ih =>
    subst same
    rw [← World.after_after owner world next last] at provided ⊢
    have between := provided_of_suffix provided (World.after_traffic_suffix owner _ more last)
    exact ih provided (world.after_profile owner effects next) (head.backed backed between)

end Arena

namespace World

/-- Every arena is backed. -/
def Sound (world : World) : Prop :=
  ∀ owner arena, world.arena? owner = some arena →
    arena.Backed owner world.profile world.traffic

theorem Sound.small {world : World} (sound : world.Sound) (provided : Provided world.traffic)
    {owner : Nat} {arena : Arena} (found : world.arena? owner = some arena) :
    totalCapacity arena.chunks < wordLimit :=
  (sound owner arena found).small provided

theorem Sound.foreign_apart {world : World} (sound : world.Sound)
    (provided : Provided world.traffic) {first second : Nat} (different : first ≠ second)
    {a b : Arena} (found : world.arena? first = some a) (found' : world.arena? second = some b)
    {chunk other : Chunk} (member : chunk ∈ a.chunks) (member' : other ∈ b.chunks) :
    chunk.Apart other := by
  have mine := (sound first a found).booked chunk member
  have yours := (sound second b found').booked other member'
  have distinct : chunk.entry first ≠ other.entry second := by
    intro same
    exact different (Option.some.inj (congrArg Traffic.owner same))
  exact held_apart provided mine yours distinct

theorem Sound.after {world : World} (sound : world.Sound) {owner : Nat} {arena next : Arena}
    (found : world.arena? owner = some arena) {effects : List Effect}
    (changes : Arena.Changes world.profile arena effects next)
    (provided : Provided (world.after owner effects next).traffic) :
    (world.after owner effects next).Sound := by
  intro other a present
  rw [world.after_profile owner]
  by_cases own : other = owner
  · subst own
    rw [world.arena?_after_self other found] at present
    cases present
    exact changes.backed (sound other arena found) provided
  · rw [world.arena?_after_other owner own] at present
    have backed := sound other a present
    refine backed.of_sublist backed.consistent (List.Sublist.refl _) rfl
      (world.after_traffic_suffix owner effects next) ?_
    intro chunk member
    refine world.held_after owner (backed.booked chunk member) ?_ next
    intro same
    exact absurd (Option.some.inj same) own

section Calls

variable {α : Type} {world : World} {owner : Nat}

theorem onArena_none (missing : world.arena? owner = none) (call : Arena → Env → Reply α) :
    ∃ cause, world.onArena owner call = (.error (.refused cause), world) := by
  unfold onArena
  cases place : world.tenants[owner]? with
  | none => exact ⟨.badInput, rfl⟩
  | some tenant =>
    have gone : tenant.arena = none := by simpa [arena?, place] using missing
    simp only [gone]
    exact ⟨.dropped, rfl⟩

theorem onArena_some {arena : Arena} (found : world.arena? owner = some arena)
    (call : Arena → Env → Reply α) :
    ∃ skew, world.onArena owner call =
      ((call arena (world.env skew)).result,
        world.after owner (call arena (world.env skew)).effects
          (call arena (world.env skew)).arena) := by
  simp only [arena?, Option.bind_eq_some_iff] at found
  obtain ⟨tenant, place, present⟩ := found
  have : Inhabited Tenant := ⟨tenant⟩
  have replaced (next : Arena) :
      world.tenants.set owner { tenant with arena := some next } =
        world.tenants.modify owner fun tenant => { tenant with arena := some next } := by
    rw [List.modify_eq_set, place]
    rfl
  refine ⟨tenant.skew, ?_⟩
  simp only [onArena, place, present, commit, replaced]
  rfl

theorem onArena_self {arena : Arena} (found : world.arena? owner = some arena)
    (call : Arena → Env → Reply α) :
    ∃ skew, (world.onArena owner call).1 = (call arena (world.env skew)).result ∧
      (world.onArena owner call).2.arena? owner = some (call arena (world.env skew)).arena := by
  obtain ⟨skew, same⟩ := onArena_some found call
  refine ⟨skew, ?_⟩
  rw [same]
  exact ⟨rfl, arena?_after_self owner world found _ _⟩

theorem onArena_world (world : World) (owner : Nat) (call : Arena → Env → Reply α) :
    (world.onArena owner call).2 = world ∨
      ∃ effects arena, (world.onArena owner call).2 = world.after owner effects arena := by
  cases found : world.arena? owner with
  | none =>
    obtain ⟨cause, same⟩ := onArena_none found call
    exact Or.inl (congrArg Prod.snd same)
  | some arena =>
    obtain ⟨skew, same⟩ := onArena_some found call
    exact Or.inr ⟨_, _, congrArg Prod.snd same⟩

theorem onArena_suffix (world : World) (owner : Nat) (call : Arena → Env → Reply α) :
    world.traffic <:+ (world.onArena owner call).2.traffic := by
  rcases world.onArena_world owner call with same | ⟨effects, arena, same⟩
  · rw [same]
  · rw [same]
    exact after_traffic_suffix owner world effects arena

theorem onArena_profile (world : World) (owner : Nat) (call : Arena → Env → Reply α) :
    (world.onArena owner call).2.profile = world.profile := by
  rcases world.onArena_world owner call with same | ⟨effects, arena, same⟩
  · rw [same]
  · rw [same, after_profile]

theorem onArena_tally (world : World) (owner : Nat) (call : Arena → Env → Reply α) :
    (world.onArena owner call).2.tally = world.tally := by
  rcases world.onArena_world owner call with same | ⟨effects, arena, same⟩
  · rw [same]
  · rw [same, after_tally]

theorem onArena_other (world : World) {other : Nat} (different : other ≠ owner)
    (call : Arena → Env → Reply α) :
    (world.onArena owner call).2.arena? other = world.arena? other := by
  rcases world.onArena_world owner call with same | ⟨effects, arena, same⟩
  · rw [same]
  · rw [same, arena?_after_other owner world different]

end Calls

end World

end ChunkArena
