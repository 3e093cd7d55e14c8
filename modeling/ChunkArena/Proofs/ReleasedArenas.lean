import ChunkArena.Proofs.UseSequences

/-!
Released arenas are as good as new. After a release of an arena without disable guards, whatever is
done with it shows the same as with a new arena of the same label and chunk size, in a world of its
own. Only the serial numbers are ahead, by the number of blocks that were obtained before, and none
of the old ones comes again.
-/

namespace ChunkArena

def Arena.builder (arena : Arena) : Builder := ⟨arena.label, arena.chunkCapacity⟩

namespace World

/-- A world in which nothing happened but that an arena was built. Counts and logs go on from
another world. -/
def afresh (world : World) (site : Site) (builder : Builder) (skew : Nat) : World :=
  World.addArena { World.new world.profile site world.logs with tally := world.tally }
    builder.build skew

/-- An arena that was just released beside the only arena of another world. -/
def renewal (world : World) (owner generation modulus : Nat) : Frame :=
  ⟨owner, 0, ⟨obtainedBy owner world.traffic, generation, modulus⟩,
    dealings owner world.traffic, True⟩

theorem BlocksConserved.serial_lt {world : World} {owner : Nat}
    (conserved : world.BlocksConserved owner)
    (few : obtainedBy owner world.traffic < wordLimit) {entry : Traffic}
    (member : entry ∈ dealings owner world.traffic) :
    entry.serial < obtainedBy owner world.traffic := by
  obtain ⟨next, account, _⟩ := conserved.account
  rw [obtainedBy_eq] at few ⊢
  have passed : entry.plain ∈ passages owner world.traffic := List.mem_map_of_mem member
  have came : entry.plain.origin ∈ arrivals (passages owner world.traffic) := by
    cases way : entry.passage with
    | obtained =>
      have same : entry.plain.origin = entry.plain := by
        obtain ⟨_, _, _, _, passage⟩ := entry
        subst way
        rfl
      rw [same]
      exact List.mem_filter.mpr ⟨passed, by simp [Traffic.plain, way]⟩
    | returned discarded =>
      apply (pile_perm account.stacked).mem_iff.mpr
      apply List.mem_append_right
      apply List.mem_map_of_mem
      exact List.mem_filter.mpr ⟨passed, by simp [Traffic.plain, way]⟩
  have same : entry.plain.origin.serial = entry.serial := by
    cases way : entry.passage <;> simp [Traffic.plain, Traffic.origin, way]
  have listed := List.mem_map_of_mem (f := Traffic.serial) came
  rw [(account.numbered few).1, same, List.mem_reverse, List.mem_range] at listed
  exact listed

theorem release_arena? {world : World} (sound : world.Sound) (provided : Provided world.traffic)
    {owner : Nat} {arena : Arena} (found : world.arena? owner = some arena) :
    (world.release owner).2.arena? owner =
      some (arena.emptied ((arena.generation + 1) % wordLimit)) := by
  obtain ⟨skew, _, present⟩ := onArena_self found Arena.release
  have closes := Arena.release_closes (sound owner arena found).consistent
    (sound.small provided found) (world.env skew)
  rw [closes.arena_eq] at present
  exact present

/-- A world with an arena that was just released reflects one in which it was just built. -/
theorem renewed_reflects (profile : Profile) (site site' : Site) (logs : Logs)
    (actions : List Action) {owner : Nat} {arena : Arena}
    (found : ((World.new profile site logs).run actions).arena? owner = some arena)
    (enabled : arena.disabled = 0) (skew modulus : Nat)
    (provided : Provided (((World.new profile site logs).run actions).release owner).2.traffic)
    (few : obtainedBy owner (((World.new profile site logs).run actions).release owner).2.traffic <
      wordLimit) :
    Reflects
      ((((World.new profile site logs).run actions).release owner).2.renewal owner
        ((arena.generation + 1) % wordLimit) modulus) []
      (((World.new profile site logs).run actions).release owner).2
      ((((World.new profile site logs).run actions).release owner).2.afresh site' arena.builder
        skew) := by
  have soundIf := (new_soundIfProvided profile site logs).run actions
  have before := provided_of_suffix provided (onArena_suffix _ owner Arena.release)
  have present := release_arena? (soundIf before) before found
  have sound : World.Sound (((World.new profile site logs).run actions).release owner).2 :=
    soundIf.act (.release owner) provided
  have conserved : World.BlocksConserved
      (((World.new profile site logs).run actions).release owner).2 owner := by
    have acted := new_run_conserved profile site logs (actions ++ [.release owner])
    rw [← run_act] at acted
    exact acted provided owner
  generalize (((World.new profile site logs).run actions).release owner).2 = released at *
  have nextSerial := conserved.nextSerial_eq few present
  have positive : 0 < wordLimit := by decide
  let blank : World := World.new released.profile site' released.logs
  have blank_soundIfProvided : blank.SoundIfProvided :=
    new_soundIfProvided released.profile site' released.logs
  have sequence : StepSequence blank (released.afresh site' arena.builder skew) :=
    .tail (Step.outside blank blank.memory released.tally blank.logs).sequence
      (.arrive _ arena.builder skew)
  have built : (released.afresh site' arena.builder skew).arena? 0 =
    some arena.builder.build := rfl
  exact
    { sound := sound
      sound' := sequence.soundIf blank_soundIfProvided trivial
      conserved := conserved
      conserved' := (new_conserved ..).sequence sequence
      known := arena?_lt present
      known' := arena?_lt built
      profile := rfl
      echoes :=
        { complaint := rfl
          logs := fun _ => rfl
          dealings := ⟨[], rfl, .nil⟩
          bytes := by simp [Memory.Echoes] }
      arenas := by
        rw [renewal, present, built]
        exact
          { label := rfl
            chunkCapacity := rfl
            disabled := enabled.symm
            here := rfl
            there := rfl
            fits := by simp
            cursors := ⟨rfl, rfl⟩
            nextSerial := nextSerial.trans (Nat.zero_add _).symm
            generation := by simp [Arena.emptied, Builder.build]
            small := positive } }

end World

theorem Frame.Sees.later {frame : Frame} {seen image : Verdict × World}
    (sees : frame.Sees seen image) {bound : Nat} (bounded : bound ≤ frame.shift.serials) :
    ∃ recent, dealings frame.owner seen.2.traffic = recent ++ frame.before ∧
      ∀ entry ∈ recent, bound ≤ entry.serial := by
  obtain ⟨couples, _, resembles⟩ := sees
  obtain ⟨recent, since, alike⟩ := resembles.dealings
  have numbered : List.Forall₂
      (fun entry image => bound ≤ entry.serial ∧ entry.Mirrors frame.shift image) recent
      (dealings frame.other image.2.traffic) := by
    apply alike.imp
    intro entry image mirrors
    have serial := mirrors.serial
    exact ⟨by omega, mirrors⟩
  exact ⟨recent, since, (List.forall₂_and_left recent _).mp numbered |>.1⟩

/-- After the release of an arena without disable guards, every sequence of uses shows the same as
of an arena that was just built, and no serial number from before the release comes again. -/
theorem release_renews (profile : Profile) (site site' : Site) (logs : Logs)
    (actions : List Action) {owner : Nat} {arena : Arena}
    (found : ((World.new profile site logs).run actions).arena? owner = some arena)
    (enabled : arena.disabled = 0) (skew modulus : Nat) (supply supply' : Supply)
    (uses : List Use) :
    let released := (((World.new profile site logs).run actions).release owner).2
    let fresh := released.afresh site' arena.builder skew
    let frame := released.renewal owner ((arena.generation + 1) % wordLimit) modulus
    Provided released.traffic → obtainedBy owner released.traffic < wordLimit →
      frame.FairUses supply supply' ⟨released, []⟩ ⟨fresh, []⟩ uses →
        World.Resembles frame [] released fresh ∧
        List.Forall₂ frame.Sees (ArenaUser.observe frame.target supply ⟨released, []⟩ uses)
          (ArenaUser.observe frame.target' supply' ⟨fresh, []⟩ uses) ∧
        ∀ seen ∈ ArenaUser.observe frame.target supply ⟨released, []⟩ uses, ∃ recent,
          dealings owner seen.2.traffic = recent ++ dealings owner released.traffic ∧
          ∀ new ∈ recent, ∀ old ∈ dealings owner released.traffic, old.serial < new.serial := by
  intro released fresh frame provided few fair
  have reflects : World.Reflects frame [] released fresh :=
    World.renewed_reflects profile site site' logs actions found enabled skew modulus provided few
  have users : ArenaUser.Reflects frame [] ⟨released, []⟩ ⟨fresh, []⟩ := ⟨reflects, .nil⟩
  have alike := users.observe fair
  refine ⟨reflects.resembles, alike, ?_⟩
  have later := alike.imp fun seen image sees => And.intro (sees.later (Nat.le_refl _)) sees
  intro seen member
  obtain ⟨recent, since, numbered⟩ := ((List.forall₂_and_left _ _).mp later).1 seen member
  refine ⟨recent, since, ?_⟩
  intro new inside old before
  have lower := reflects.conserved.serial_lt few before
  exact Nat.lt_of_lt_of_le lower (numbered new inside)

def closing : List Action :=
  [.create ⟨"lodge", 24⟩ 48, .create ⟨"annex", 16⟩ 8, .place 0 (.bytes 20 4),
    .place 1 (.object .u32 [7]), .disable 0, .release 0, .enable 0,
    .place 0 (.slice .u16 30 (fun _ => [0]) none),
    .place 0 (.bytes 3 1), .place 1 (.bytes 40 8)]

def closed : World := (World.new .debug pagedSite (Logs.empty none)).run closing

def everyUse : List Use :=
  [.save, .place (.object .u32 [9]), .save, .place (.array .u16 4), .grow ⟨0, 4⟩ 4 6 2,
    .write ⟨0, 4⟩ [1, 2, 3], .place (.bytes 30 16), .save, .dispose ⟨1, 0⟩ 0 (.bytes ⟨30, 16⟩),
    .grow ⟨0, 4⟩ 6 7 2, .rewind 1, .owns ⟨0, 9⟩, .owns ⟨1, 0⟩, .rewind 0, .disable,
    .place (.bytes 1 1), .enable, .place (.object .u32 [5]), .release, .place (.bytes 25 8),
    .dispose ⟨0, 0⟩ 1 (.object .u32 false), .rewind 1, .place (.slice .u16 2 (fun _ => [0]) none),
    .grow ⟨2, 0⟩ 2 3 2,
    .rewind 2, .place (.tryBytes 5 3), .drop, .place (.bytes 1 1)]

theorem everyUse_renewed :
    ∃ arena, closed.arena? 0 = some arena ∧
      let released := (closed.release 0).2
      let fresh := released.afresh pagedSite arena.builder 0
      let frame := released.renewal 0 ((arena.generation + 1) % wordLimit) 16
      frame.FairUses cleared cleared ⟨released, []⟩ ⟨fresh, []⟩ everyUse ∧
        List.Forall₂ frame.Sees (ArenaUser.observe frame.target cleared ⟨released, []⟩ everyUse)
          (ArenaUser.observe frame.target' cleared ⟨fresh, []⟩ everyUse) := by
  have present : (closed.arena? 0).isSome = true := by decide +kernel
  have provided : Provided (closed.release 0).2.traffic := by decide +kernel
  have few : obtainedBy 0 (closed.release 0).2.traffic < wordLimit := by decide +kernel
  have usual : ∀ arena ∈ closed.arena? 0, arena.disabled = 0 ∧
      ((closed.release 0).2.renewal 0 ((arena.generation + 1) % wordLimit) 16).FairUses cleared
        cleared ⟨(closed.release 0).2, []⟩
        ⟨(closed.release 0).2.afresh pagedSite arena.builder 0, []⟩ everyUse := by decide +kernel
  obtain ⟨arena, found⟩ := Option.isSome_iff_exists.mp present
  obtain ⟨enabled, fair⟩ := usual arena found
  refine ⟨arena, found, fair, ?_⟩
  unfold closed at found provided few fair ⊢
  have renewed :=
    release_renews .debug pagedSite pagedSite (Logs.empty none) closing found enabled 0
      16 cleared cleared everyUse provided few fair
  exact renewed.2.1

def evicted : World :=
  (((World.new .debug singleSite (Logs.empty none)).run
    [.create ⟨"lodge", 16⟩ 0, .place 0 (.bytes 4 1)]).release 0).2

def inquiry : List Use :=
  [.place (.bytes 4 1), .release, .place (.bytes 4 1), .owns ⟨0, 0⟩]

def trio : World :=
  (World.new .debug pagedSite (Logs.empty none)).run
    [.create ⟨"lodge", 16⟩ 0, .place 0 (.bytes 8 8), .release 0, .create ⟨"lodge", 16⟩ 0,
      .create ⟨"annex", 16⟩ 0, .place 0 (.bytes 8 8), .place 1 (.bytes 8 8), .place 2 (.bytes 8 8)]

/-- Where the system gives an address twice, a released arena and a new one answer differently about
a pointer that was got since the release and is stale; and everywhere to a snapshot of another
arena. -/
theorem released_arena_told_apart :
    ((∃ seen ∈ ArenaUser.observe ⟨0, 1⟩ cleared ⟨evicted, []⟩ inquiry,
        seen.1.flag? = some true ∧ Provided seen.2.traffic ∧
          ∀ block ∈ obtained 0 seen.2.traffic, pageSize ∣ block.start) ∧
      ∃ seen ∈ ArenaUser.observe ⟨0, 0⟩ cleared
          ⟨evicted.afresh pagedSite ⟨"lodge", 16⟩ 0, []⟩ inquiry,
        seen.1.flag? = some false ∧ Provided seen.2.traffic ∧
          ∀ block ∈ obtained 0 seen.2.traffic, pageSize ∣ block.start) ∧
    ∃ stranger ∈ (trio.arena? 2).toList,
      (trio.rewind 0 stranger.snapshot).1 = .ok () ∧
        (trio.rewind 1 stranger.snapshot).1 = .error (.panic (.foreignSnapshot "lodge")) := by
  decide +kernel

end ChunkArena
