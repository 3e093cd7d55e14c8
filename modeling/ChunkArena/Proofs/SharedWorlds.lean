import ChunkArena.Proofs.RewindOutcomes
import ChunkArena.Proofs.UseSequences

/-!
Any number of users, each with an arena of its own, in one world. What one of them does changes
nothing of the others: not their arenas, not what they dealt with the system, not what the logs
accept, and not the bytes of their chunks. For the bytes, an arena is held up against itself:
whatever it does is the same in both mirrors, so it touches nothing but its own chunks.
-/

namespace ChunkArena

namespace World

section Views

variable {β : Type} (view : World → β) {owner : Nat}
  (asks : ∀ (world : World) {α : Type} (call : Arena → Env → Reply α),
    view (world.onArena owner call).2 = view world)
  (outside : ∀ (world : World) (memory : Memory) (tally : Tally),
    view { world with memory := memory, tally := tally } = view world)
  (vacated : ∀ world : World, view (world.vacated owner) = view world)

include asks outside

theorem Served.same_view {first last : World} (served : Served owner first last) :
    view last = view first := by
  induction served with
  | done => rfl
  | ask call size align answers _ ih => exact ih.trans (asks _ call)
  | note memory tally _ ih => exact ih.trans (outside _ memory tally)

include vacated

theorem act_same_view (world : World) {action : Action}
    (about : action.owner? = some owner ∨ ∃ start bytes, action = .write start bytes) :
    view (world.act action) = view world := by
  rcases about with own | ⟨start, bytes, same⟩
  · cases action with
    | create | write | log => cases own
    | place other request =>
      cases own
      exact (world.serve_served owner request).same_view view asks outside
    | grow other | rewind other | disable other | enable other | release other =>
      cases own
      exact asks world _
    | dispose other depth address disposal =>
      cases own
      simp only [act]
      obtain ⟨kind, change, ⟨failure, _, stopped⟩ | ⟨layout, _, done⟩⟩ :=
        dispose_cases world owner depth address disposal
      · rw [stopped, count_eq]
        exact outside world world.memory _
      · rw [done, asks, count_eq]
        exact outside world world.memory _
    | drop other =>
      cases own
      rw [act, drop_eq, vacated]
      exact asks world Arena.release
  · rw [same]
    exact outside world _ world.tally

theorem use_same_view (user : ArenaUser) {target : ArenaSince}
    (stays : target.owner = owner) (use : Use) :
    view (user.use target use).2.world = view user.world := by
  rcases user.use_acts target use with still | ⟨action, acted, about⟩
  · rw [still]
  · rw [stays] at about
    rw [acted]
    exact act_same_view view asks outside vacated user.world about

end Views

variable {owner own : Nat}

theorem onArena_complaint (world : World) {α : Type} (call : Arena → Env → Reply α) :
    (world.onArena owner call).2.logs.complaint = world.logs.complaint := by
  rcases world.onArena_world owner call with still | ⟨effects, next, acted⟩
  · rw [still]
  · rw [acted]
    exact complaint_after world owner effects next

theorem onArena_dealings (different : own ≠ owner) (world : World) {α : Type}
    (call : Arena → Env → Reply α) :
    dealings own (world.onArena owner call).2.traffic = dealings own world.traffic := by
  rcases world.onArena_world owner call with still | ⟨effects, next, acted⟩
  · rw [still]
  · rw [acted]
    exact entries_after_other owner world different effects next

theorem use_complaint (user : ArenaUser) (target : ArenaSince) (use : Use) :
    (user.use target use).2.world.logs.complaint = user.world.logs.complaint :=
  use_same_view (fun world => world.logs.complaint)
    (fun world _ call => world.onArena_complaint call) (fun _ _ _ => rfl)
      (fun _ => rfl) user rfl use

section Other

variable (user : ArenaUser) {target : ArenaSince} (different : own ≠ target.owner) (use : Use)

include different

theorem use_dealings : dealings own (user.use target use).2.world.traffic =
    dealings own user.world.traffic :=
  use_same_view (fun world => dealings own world.traffic)
    (fun world _ call => world.onArena_dealings different call) (fun _ _ _ => rfl) (fun _ => rfl)
    user rfl use

theorem use_arena? : (user.use target use).2.world.arena? own = user.world.arena? own :=
  use_same_view (fun world => world.arena? own)
    (fun world _ call => world.onArena_other different call) (fun _ _ _ => rfl)
    (fun world => world.arena?_vacated_other different) user rfl use

end Other

def FewReleases (world : World) : Prop :=
  ∀ owner arena, world.arena? owner = some arena → arena.generation < wordLimit

theorem FewReleases.act {world : World} (fewReleases : world.FewReleases)
    (soundIf : world.SoundIfProvided) {action : Action}
    (provided : Provided (world.act action).traffic) : (world.act action).FewReleases := by
  have positive : 0 < wordLimit := by decide
  intro owner arena present
  cases found : world.arena? owner with
  | none =>
    obtain ⟨_, builder, fresh⟩ := act_missing found present
    rw [fresh]
    exact positive
  | some before =>
    have small := fewReleases owner before found
    rcases act_ages soundIf provided found present with ⟨same, _⟩ | ⟨more, _⟩
    · omega
    · rw [more]
      exact Nat.mod_lt _ positive

end World

def Frame.self (owner : Nat) : Frame := ⟨owner, owner, ⟨0, 0, 0⟩, [], False⟩

def Couple.same (chunk : Chunk) : Couple := ⟨chunk, chunk⟩

section Self

variable {owner : Nat} {world : World}

theorem map_same (chunks : List Chunk) :
    (chunks.map Couple.same).map Couple.here = chunks ∧
      (chunks.map Couple.same).map Couple.there = chunks := by
  rw [List.map_map, List.map_map]
  exact ⟨List.map_id chunks, List.map_id chunks⟩

theorem Arena.Consistent.mirrors_self {arena : Arena} (consistent : arena.Consistent)
    (small : arena.generation < wordLimit) :
    arena.Mirrors (Frame.self owner).shift (arena.chunks.map Couple.same) arena := by
  obtain ⟨here, there⟩ := map_same arena.chunks
  have seated := consistent.seated
  have cursors : arena.cursor.Beside arena.cursor (arena.chunks.map Couple.same) := by
    cases stack : arena.chunks with
    | nil =>
      rw [stack] at seated
      exact ⟨seated, seated⟩
    | cons chunk rest =>
      rw [stack] at seated
      obtain ⟨names, limit, low, high⟩ := seated
      have place : arena.cursor = chunk.cursor (rest.map Couple.same).length
          (arena.cursor.next - chunk.start) := by
        rw [Chunk.cursor, List.length_map, ← names, ← limit, Nat.add_sub_cancel' low]
      rw [Chunk.finish] at high
      have within : arena.cursor.next - chunk.start ≤ chunk.capacity := by omega
      exact ⟨_, within, place, place⟩
  exact
    { label := rfl
      chunkCapacity := rfl
      disabled := rfl
      here := here.symm
      there := there.symm
      fits := by
        intro couple member
        obtain ⟨chunk, _, same⟩ := List.mem_map.mp member
        rw [← same]
        exact ⟨rfl, rfl, rfl⟩
      cursors := cursors
      nextSerial := rfl
      generation := (Nat.mod_eq_of_lt small).symm
      small := small }

theorem World.Sound.reflects_self (sound : world.Sound) (conserved : world.BlocksConserved owner)
    (known : owner < world.tenants.length) (fewReleases : world.FewReleases) :
    World.Reflects (Frame.self owner) ((world.chunks owner).map Couple.same) world world := by
  have arenas : Arena.Matched (Frame.self owner).shift ((world.chunks owner).map Couple.same)
      (world.arena? owner) (world.arena? owner) := by
    cases found : world.arena? owner with
    | none =>
      rw [World.chunks_of_none found]
      rfl
    | some arena =>
      rw [World.chunks_of_some found]
      exact (sound owner arena found).consistent.mirrors_self (fewReleases owner arena found)
  have entries : List.Forall₂ (Traffic.Mirrors (Frame.self owner).shift)
      (dealings owner world.traffic) (dealings owner world.traffic) :=
    List.forall₂_same.mpr fun entry _ => ⟨rfl, rfl, rfl, rfl⟩
  have bytes : world.memory.Echoes world.memory ((world.chunks owner).map Couple.same) := by
    intro couple member offset _
    obtain ⟨chunk, _, same⟩ := List.mem_map.mp member
    rw [← same]
    rfl
  exact
    { sound := sound
      sound' := sound
      conserved := conserved
      conserved' := conserved
      known := known
      known' := known
      profile := rfl
      echoes := ⟨rfl, fun _ => rfl, ⟨_, (List.append_nil _).symm, entries⟩, bytes⟩
      arenas := arenas }

theorem Roomy.systemAlike_self {traffic : List Traffic} (roomy : Roomy owner traffic) (known : Nat)
    (memory : Memory) : (Frame.self owner).SystemAlike known memory memory traffic traffic := by
  refine ⟨roomy, roomy, ?_⟩
  intro number _ block found block' found'
  have same : block' = block := by
    simp only [Frame.self, Nat.zero_add] at found found'
    exact Option.some.inj (found'.symm.trans found)
  rw [same]
  exact ⟨rfl, fun _ => rfl⟩

theorem World.evenly_self (world : World) (owner : Nat) (use : Use) :
    (Frame.self owner).Evenly ((world.chunks owner).map Couple.same) world world use := by
  cases use with
  | owns spot => rfl
  | grow spot old new elementSize =>
    intro here place there place' arena found image found'
    cases place.symm.trans place'
    cases found.symm.trans found'
    by_cases meets : arena.Meets here (old * elementSize)
    · obtain ⟨chunk, newest, low, _⟩ := meets
      have beyond : here = chunk.start + (here - chunk.start) := by omega
      left
      have stack : world.chunks owner = arena.chunks := World.chunks_of_some found
      refine ⟨Couple.same chunk, ?_, here - chunk.start, beyond, beyond⟩
      rw [stack, List.head?_map, newest]
      rfl
    · exact Or.inr ⟨meets, meets⟩
  | _ => trivial

def Snapshot.Rooted (owner : Nat) (traffic : List Traffic) (saved : Snapshot) : Prop :=
  saved.Recalls (Frame.self owner) traffic traffic saved

end Self

/-- What the system guarantees, and that blocks have not run out. -/
structure Ample (traffic : List Traffic) : Prop where
  provided : Provided traffic
  few : traffic.length + 1 < wordLimit

instance (traffic : List Traffic) : Decidable (Ample traffic) :=
  decidable_of_iff (Provided traffic ∧ traffic.length + 1 < wordLimit)
    ⟨fun both => ⟨both.1, both.2⟩, fun ample => ⟨ample.provided, ample.few⟩⟩

theorem Ample.roomy {traffic : List Traffic} (ample : Ample traffic) (owner : Nat) :
    Roomy owner traffic := by
  have fewer : obtainedBy owner traffic ≤ traffic.length := List.countP_le_length
  have few := ample.few
  exact ⟨ample.provided, by omega⟩

theorem Ample.of_suffix {earlier later : List Traffic} (ample : Ample later)
    (suffix : earlier <:+ later) : Ample earlier := by
  have fewer := suffix.length_le
  have few := ample.few
  exact ⟨provided_of_suffix ample.provided suffix, by omega⟩

structure World.WellFormed (world : World) : Prop where
  sound : world.Sound
  conserved : ∀ owner, world.BlocksConserved owner
  fewReleases : world.FewReleases

namespace ArenaUser

variable {user : ArenaUser} {target : ArenaSince} {use : Use}

theorem use_sequence (wellFormed : user.world.WellFormed)
    (provided : Provided (user.use target use).2.world.traffic) :
    World.StepSequence user.world (user.use target use).2.world := by
  rcases user.use_acts target use with still | ⟨action, acted, _⟩
  · rw [still]
  · rw [acted] at provided ⊢
    exact World.act_sequence (fun _ => wellFormed.sound) provided

theorem use_wellFormed (wellFormed : user.world.WellFormed)
    (provided : Provided (user.use target use).2.world.traffic) :
    (user.use target use).2.world.WellFormed := by
  have sequence := use_sequence wellFormed provided
  have conserved (owner : Nat) := (wellFormed.conserved owner).sequence sequence
  have soundIf : user.world.SoundIfProvided := fun _ => wellFormed.sound
  rcases user.use_acts target use with still | ⟨action, acted, _⟩
  · rw [still]
    exact wellFormed
  · rw [acted] at provided conserved ⊢
    exact ⟨soundIf.act action provided, conserved, wellFormed.fewReleases.act soundIf provided⟩

theorem use_saves (user : ArenaUser) (target : ArenaSince) (use : Use) :
    (user.use target use).2.saves = user.saves ∨
      ∃ arena, user.world.arena? target.owner = some arena ∧
        (user.use target use).2.saves = arena.snapshot :: user.saves := by
  cases use with
  | place request => exact Or.inl rfl
  | grow spot old new elementSize =>
    rw [ArenaUser.use]
    cases user.world.spot? target spot <;> exact Or.inl rfl
  | dispose spot depth disposal =>
    rw [ArenaUser.use]
    cases user.world.spot? target spot <;> exact Or.inl rfl
  | write spot bytes =>
    rw [ArenaUser.use]
    cases user.world.home? target spot with
    | none => exact Or.inl rfl
    | some chunk =>
      rw [Option.elim_some, write]
      split <;> exact Or.inl rfl
  | owns spot =>
    rw [ArenaUser.use]
    cases user.world.owned? target spot <;> exact Or.inl rfl
  | save =>
    rw [ArenaUser.use]
    cases found : user.world.arena? target.owner with
    | none => exact Or.inl rfl
    | some arena => exact Or.inr ⟨arena, rfl, rfl⟩
  | rewind which =>
    rw [ArenaUser.use]
    cases user.saves[which]? <;> exact Or.inl rfl
  | disable | enable | release | drop => exact Or.inl rfl

theorem use_rooted {owner : Nat} (wellFormed : user.world.WellFormed)
    (few : obtainedBy owner user.world.traffic < wordLimit)
    (rooted : ∀ saved ∈ user.saves, saved.Rooted owner user.world.traffic) :
    ∀ saved ∈ (user.use ⟨owner, 0⟩ use).2.saves,
      saved.Rooted owner (user.use ⟨owner, 0⟩ use).2.world.traffic := by
  have suffix := user.use_suffix ⟨owner, 0⟩ use
  intro saved member
  rcases user.use_saves ⟨owner, 0⟩ use with same | ⟨arena, found, more⟩
  · rw [same] at member
    exact (rooted saved member).later suffix suffix
  · rw [more] at member
    rcases List.mem_cons.mp member with taken | old
    · have reflects :=
        wellFormed.sound.reflects_self (wellFormed.conserved owner) (World.arena?_lt found)
          wellFormed.fewReleases
      rw [taken]
      exact (reflects.snapshot few few (reflects.mirrors found found)).later suffix suffix
    · exact (rooted saved old).later suffix suffix

/-- A use of an arena touches only bytes of chunks that the arena has before or after. -/
theorem use_spares {owner : Nat} (wellFormed : user.world.WellFormed)
    (known : owner < user.world.tenants.length)
    (rooted : ∀ saved ∈ user.saves, saved.Rooted owner user.world.traffic)
    (givesWithin : user.world.GivesWithin ⟨owner, 0⟩ use)
    (roomy : Roomy owner (user.use ⟨owner, 0⟩ use).2.world.traffic) :
    user.world.memory.SpareOutside (user.use ⟨owner, 0⟩ use).2.world.memory
      (user.world.chunks owner ++ (user.use ⟨owner, 0⟩ use).2.world.chunks owner) := by
  have worlds :=
    wellFormed.sound.reflects_self (wellFormed.conserved owner) known wellFormed.fewReleases
  have reflects : ArenaUser.Reflects (Frame.self owner) _ user user :=
    ⟨worlds, List.forall₂_same.mpr rooted⟩
  have suits : use.Suits (Frame.self owner).shift.modulus := by
    cases use with
    | place request => exact fun align _ _ => Nat.dvd_zero align
    | _ => trivial
  obtain ⟨after, _, follows, _⟩ := reflects.use use suits givesWithin givesWithin
    (user.world.evenly_self owner use) (roomy.systemAlike_self _ _)
  have next := follows.reflects.chunks.1
  have before := (map_same (user.world.chunks owner)).1
  have spares := follows.spares
  rw [List.map_append, before, ← next] at spares
  exact spares

end ArenaUser

/-- What happens in a shared world: an arena is built, or one is used. -/
inductive Event
  | build (builder : Builder) (skew : Nat)
  | use (owner : Nat) (use : Use)

structure SharedWorld where
  world : World
  saves : Nat → List Snapshot

namespace SharedWorld

def start (profile : Profile) (site : Site) (logs : Logs) : SharedWorld :=
  ⟨.new profile site logs, fun _ => []⟩

section Steps

variable (supply : Supply) (shared : SharedWorld)

def user (owner : Nat) : ArenaUser := ⟨shared.world.supplied supply, shared.saves owner⟩

def made (owner : Nat) (use : Use) : Verdict × ArenaUser :=
  (shared.user supply owner).use ⟨owner, 0⟩ use

def step : Event → SharedWorld
  | .build builder skew => { shared with world := shared.world.addArena builder.build skew }
  | .use owner use =>
      let made := shared.made supply owner use
      ⟨made.2.world, fun other => if other = owner then made.2.saves else shared.saves other⟩

end Steps

def run (supply : Supply) (shared : SharedWorld) (events : List Event) : SharedWorld :=
  events.foldl (step supply) shared

variable {supply : Supply} {shared : SharedWorld}

structure WellFormed (shared : SharedWorld) : Prop where
  world : shared.world.WellFormed
  rooted : ∀ owner, ∀ saved ∈ shared.saves owner, saved.Rooted owner shared.world.traffic
  unborn : ∀ owner, shared.world.tenants.length ≤ owner → shared.saves owner = []

theorem WellFormed.supplied (wellFormed : shared.WellFormed) (supply : Supply) (owner : Nat) :
    (shared.user supply owner).world.WellFormed := by
  have sequence := (World.Step.outside shared.world (shared.world.supplied supply).memory
    shared.world.tally shared.world.logs).sequence
  exact ⟨wellFormed.world.sound.congr (fun _ => rfl) rfl rfl,
    fun owner => (wellFormed.world.conserved owner).sequence sequence, wellFormed.world.fewReleases⟩

theorem start_wellFormed (profile : Profile) (site : Site) (logs : Logs) :
    (start profile site logs).WellFormed := by
  refine
    ⟨⟨World.new_soundIfProvided profile site logs trivial,
      World.new_conserved profile site logs, ?_⟩,
    by simp [start], fun _ _ => rfl⟩
  intro owner arena found
  simp [World.arena?, start, World.new] at found

theorem WellFormed.step (wellFormed : shared.WellFormed) {event : Event}
    (ample : Ample (shared.step supply event).world.traffic) :
    (shared.step supply event).WellFormed := by
  cases event with
  | build builder skew =>
    have soundIf : shared.world.SoundIfProvided := fun _ => wellFormed.world.sound
    have sequence := (World.Step.arrive shared.world builder skew).sequence
    refine ⟨⟨wellFormed.world.sound.addArena builder skew,
      fun owner => (wellFormed.world.conserved owner).sequence sequence, ?_⟩, wellFormed.rooted, ?_⟩
    · have action : Provided (shared.world.act (.create builder skew)).traffic := ample.provided
      exact wellFormed.world.fewReleases.act soundIf action
    · intro owner outside
      simp only [SharedWorld.step, World.addArena, List.length_append,
        List.length_singleton] at outside
      exact wellFormed.unborn owner (by omega)
  | use owner use =>
    have supplied := wellFormed.supplied supply owner
    have suffix := (shared.user supply owner).use_suffix ⟨owner, 0⟩ use
    have few := (ample.roomy owner).small suffix
    refine ⟨ArenaUser.use_wellFormed supplied ample.provided, ?_, ?_⟩
    · intro other saved member
      simp only [SharedWorld.step] at member ⊢
      by_cases own : other = owner
      · subst own
        rw [if_pos rfl] at member
        exact ArenaUser.use_rooted supplied few (wellFormed.rooted other) saved member
      · rw [if_neg own] at member
        exact (wellFormed.rooted other saved member).later suffix suffix
    · intro other outside
      have more := (ArenaUser.use_sequence supplied ample.provided).tenants_le
      have unborn := wellFormed.unborn other (Nat.le_trans more outside)
      simp only [SharedWorld.step]
      split
      · next own =>
        subst own
        rcases (shared.user supply other).use_saves ⟨other, 0⟩ use with same | ⟨arena, found, _⟩
        · exact same.trans unborn
        · have inside : other < (shared.user supply other).world.tenants.length :=
            World.arena?_lt found
          have beyond := Nat.le_trans more outside
          omega
      · exact unborn

theorem step_suffix (supply : Supply) (shared : SharedWorld) (event : Event) :
    shared.world.traffic <:+ (shared.step supply event).world.traffic := by
  cases event with
  | build builder skew => exact List.suffix_refl _
  | use owner use => exact (shared.user supply owner).use_suffix ⟨owner, 0⟩ use

theorem run_suffix (supply : Supply) (shared : SharedWorld) (events : List Event) :
    shared.world.traffic <:+ (shared.run supply events).world.traffic :=
  suffix_foldl (fun shared => shared.world.traffic) (step_suffix supply) shared events

theorem WellFormed.run (wellFormed : shared.WellFormed) {events : List Event}
    (ample : Ample (shared.run supply events).world.traffic) :
    (shared.run supply events).WellFormed := by
  induction events generalizing shared with
  | nil => exact wellFormed
  | cons event rest ih =>
    have between := ample.of_suffix ((shared.step supply event).run_suffix supply rest)
    exact ih (wellFormed.step between) ample

end SharedWorld

end ChunkArena
