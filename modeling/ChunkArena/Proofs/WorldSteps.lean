import Mathlib.Logic.Relation
import ChunkArena.Proofs.WorldSoundness

/-!
Every action is a sequence of small steps. A step is a single change of one arena with its effects,
or something that happens outside of the arenas, or an arena that comes, or one without chunks that
goes. What every step keeps is kept by every run.
-/

namespace ChunkArena

namespace World

def chunks (world : World) (owner : Nat) : List Chunk :=
  (world.arena? owner).elim [] Arena.chunks

theorem chunks_of_some {world : World} {owner : Nat} {arena : Arena}
    (found : world.arena? owner = some arena) : world.chunks owner = arena.chunks := by
  rw [chunks, found]
  rfl

theorem chunks_of_none {world : World} {owner : Nat} (missing : world.arena? owner = none) :
    world.chunks owner = [] := by
  rw [chunks, missing]
  rfl

inductive Step : World → World → Prop where
  | change {world : World} {owner : Nat} {arena next : Arena} {effects : List Effect}
      (found : world.arena? owner = some arena)
      (change : Arena.Change world.profile arena effects next) :
      Step world (world.after owner effects next)
  | outside (world : World) (memory : Memory) (tally : Tally) (logs : Logs) :
      Step world { world with memory := memory, tally := tally, logs := logs }
  | arrive (world : World) (builder : Builder) (skew : Nat) :
      Step world (world.addArena builder.build skew)
  | leave (world : World) (owner : Nat) (bare : world.chunks owner = []) :
      Step world (world.vacated owner)

abbrev StepSequence : World → World → Prop := Relation.ReflTransGen Step

theorem Step.sequence {first last : World} (step : Step first last) : StepSequence first last :=
  .single step

theorem Step.profile {first last : World} (step : Step first last) :
    last.profile = first.profile := by
  cases step with
  | change found change => exact first.after_profile ..
  | outside | arrive | leave => rfl

theorem Step.traffic_suffix {first last : World} (step : Step first last) :
    first.traffic <:+ last.traffic := by
  cases step with
  | change found change => exact first.after_traffic_suffix ..
  | outside | arrive | leave => exact List.suffix_refl _

theorem Step.soundIf {first last : World} (step : Step first last)
    (soundIf : first.SoundIfProvided) :
    last.SoundIfProvided := by
  intro provided
  have sound := soundIf (provided_of_suffix provided step.traffic_suffix)
  cases step with
  | change found change => exact sound.after found change.single provided
  | outside => exact sound.congr (fun _ => rfl) rfl rfl
  | arrive builder skew => exact sound.addArena builder skew
  | leave owner => exact sound.vacated owner

theorem StepSequence.profile {first last : World} (sequence : StepSequence first last) :
    last.profile = first.profile := by
  induction sequence with
  | refl => rfl
  | tail _ step ih => exact step.profile.trans ih

theorem StepSequence.soundIf {first last : World} (sequence : StepSequence first last)
    (soundIf : first.SoundIfProvided) :
    last.SoundIfProvided := by
  induction sequence with
  | refl => exact soundIf
  | tail _ step ih => exact step.soundIf ih

theorem replace_self {world : World} {owner : Nat} {arena : Arena}
    (found : world.arena? owner = some arena) : world.replace owner arena = world := by
  simp only [arena?, Option.bind_eq_some_iff] at found
  obtain ⟨tenant, place, present⟩ := found
  have same : world.tenants.modify owner (fun tenant => { tenant with arena := some arena }) =
      world.tenants := by
    apply List.ext_getElem?
    intro other
    by_cases here : owner = other
    · subst here
      rw [List.getElem?_modify_eq, place, ← present]
      rfl
    · rw [List.getElem?_modify_ne _ _ here]
  rw [replace, same]

theorem changes_sequence {world : World} {owner : Nat} {arena last : Arena} {effects : List Effect}
    (found : world.arena? owner = some arena)
    (changes : Arena.Changes world.profile arena effects last) :
    StepSequence world (world.after owner effects last) := by
  generalize same : world.profile = profile at changes
  induction changes generalizing world with
  | refl arena =>
    have still : world.after owner [] arena = world := replace_self found
    rw [still]
  | @step first next last effects more head tail ih =>
    subst same
    have rest := ih (world.arena?_after_self owner found effects next)
      (world.after_profile owner effects next)
    rw [after_after] at rest
    exact (Step.change found head).sequence.trans rest

section Actions

variable {world : World}

theorem onArena_sequence (sound : world.Sound) (provided : Provided world.traffic) (owner : Nat)
    {α : Type} {call : Arena → Env → Reply α}
    (changes : ∀ arena : Arena, arena.Consistent → totalCapacity arena.chunks < wordLimit →
      ∀ env : Env, Arena.Changes env.profile arena (call arena env).effects
        (call arena env).arena) :
    StepSequence world (world.onArena owner call).2 := by
  cases found : world.arena? owner with
  | none =>
    obtain ⟨cause, same⟩ := onArena_none found call
    rw [same]
  | some arena =>
    obtain ⟨skew, same⟩ := onArena_some found call
    rw [same]
    exact changes_sequence found (changes arena (sound owner arena found).consistent
      (sound.small provided found) (world.env skew))

theorem Served.sequence {owner : Nat} {first last : World} (served : Served owner first last)
    (soundIf : first.SoundIfProvided) (provided : Provided last.traffic) :
    StepSequence first last := by
  induction served with
  | done => exact .refl
  | @ask first last call size align answers rest ih =>
    have changes (arena : Arena) (consistent : arena.Consistent)
        (_ : totalCapacity arena.chunks < wordLimit) (env : Env) :=
      (answers arena consistent env).changes
    have between := provided_of_suffix provided rest.traffic_suffix
    have before := provided_of_suffix between (onArena_suffix _ owner call)
    exact (onArena_sequence (soundIf before) before owner changes).trans
      (ih (soundIf.onArena owner changes) provided)
  | @note first last memory tally _ ih =>
    have soundIf' : World.SoundIfProvided { first with memory := memory, tally := tally } :=
      fun provided => (soundIf provided).congr (fun _ => rfl) rfl rfl
    exact (Step.outside first memory tally first.logs).sequence.trans (ih soundIf' provided)

theorem chunks_of_release {arena : Arena} (consistent : arena.Consistent)
    (small : totalCapacity arena.chunks < wordLimit) (env : Env) :
    (arena.release env).arena.chunks = [] := by
  rw [(Arena.release_closes consistent small env).arena_eq]
  rfl

theorem release_chunks (sound : world.Sound) (provided : Provided world.traffic) (owner : Nat) :
    (world.release owner).2.chunks owner = [] := by
  cases found : world.arena? owner with
  | none =>
    obtain ⟨cause, same⟩ := onArena_none found Arena.release
    rw [release, same]
    exact chunks_of_none found
  | some arena =>
    obtain ⟨skew, _, present⟩ := onArena_self found Arena.release
    have consistent := (sound owner arena found).consistent
    exact (chunks_of_some present).trans
      (chunks_of_release consistent (sound.small provided found) _)

theorem act_sequence (soundIf : world.SoundIfProvided) {action : Action}
    (provided : Provided (world.act action).traffic) : StepSequence world (world.act action) := by
  have before := provided_of_suffix provided (world.act_traffic_suffix action)
  have sound := soundIf before
  cases action with
  | create builder skew => exact (Step.arrive world builder skew).sequence
  | place owner request => exact (world.serve_served owner request).sequence soundIf provided
  | grow owner start old new elementSize =>
    exact onArena_sequence sound before owner fun _ consistent _ env =>
      Arena.grow_changes consistent env start old new elementSize
  | dispose owner depth address disposal =>
    simp only [World.act]
    obtain ⟨kind, change, ⟨failure, _, stopped⟩ | ⟨layout, _, done⟩⟩ :=
      dispose_cases world owner depth address disposal
    · rw [stopped, count_eq]
      exact (Step.outside world world.memory _ world.logs).sequence
    · rw [done, count_eq]
      generalize (if kind.tracked then change world.tally else world.tally) = tally
      have counted : World.Sound { world with tally := tally } :=
        sound.congr (fun _ => rfl) rfl rfl
      exact (Step.outside world world.memory tally world.logs).sequence.trans
        (onArena_sequence counted before owner fun arena _ _ env =>
          Arena.deallocate_changes arena env address layout)
  | write start bytes =>
    exact (Step.outside world (world.memory.store start bytes) world.tally world.logs).sequence
  | rewind owner snapshot =>
    exact onArena_sequence sound before owner fun _ consistent small env =>
      (Arena.rewind_rewinds consistent small env snapshot).changes
  | disable owner =>
    exact onArena_sequence sound before owner fun arena _ _ env =>
      Arena.hold_changes (Arena.disable_holds arena env.profile)
  | enable owner =>
    exact onArena_sequence sound before owner fun arena _ _ env =>
      Arena.hold_changes (Arena.enable_holds arena env.profile)
  | release owner =>
    exact onArena_sequence sound before owner fun _ consistent small env =>
      Arena.release_changes consistent small env
  | drop owner =>
    have released : StepSequence world (world.release owner).2 :=
      onArena_sequence sound before owner fun _ consistent small env =>
        Arena.release_changes consistent small env
    exact released.tail (.leave _ owner (release_chunks sound before owner))
  | log call =>
    exact (Step.outside world world.memory world.tally (Logs.call call world.logs).2).sequence

theorem run_traffic_suffix (world : World) (actions : List Action) :
    world.traffic <:+ (world.run actions).traffic :=
  suffix_foldl World.traffic act_traffic_suffix world actions

theorem run_sequence (soundIf : world.SoundIfProvided) (actions : List Action)
    (provided : Provided (world.run actions).traffic) : StepSequence world (world.run actions) := by
  induction actions generalizing world with
  | nil => exact .refl
  | cons action rest ih =>
    have between := provided_of_suffix provided ((world.act action).run_traffic_suffix rest)
    exact (act_sequence soundIf between).trans (ih (soundIf.act action) provided)

end Actions

end World

end ChunkArena
