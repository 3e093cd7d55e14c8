import ChunkArena.Proofs.RequestLedger

/-!
Whatever clients do, every arena stays backed: with any arguments, after errors and panics, and with
snapshots that are stale or belong to other arenas. This is assumed of the system's blocks only.
-/

namespace ChunkArena

theorem deallocateRaw_nested (world : World) (owner depth address : Nat) (layout : Layout) :
    world.deallocateRaw (.nested owner depth) address layout =
      world.onArena owner fun arena env => arena.deallocate env address layout := by
  induction depth with
  | zero => rfl
  | succ depth ih => exact ih

def Disposal.layout? : Disposal → Option Layout
  | bytes layout => some layout
  | object kind _ => some kind.layout
  | slice kind number _ => kind.layout.array? number

/-- The failures of disposals that do not get to the arena: a slice is longer than any block, or a
destructor panics. -/
inductive Disposal.Stops : Failure → Prop
  | tooLong : Stops (.error .invalidLayout)
  | destructor : Stops (.panic .destructorFailed)

theorem demolish_forms (kind : Kind) (number : Nat) (layout : Layout) (dropPanics : Bool) :
    (∃ failure, Disposal.Stops failure ∧ ∀ (world : World) (source : Source) (address : Nat),
        world.demolish source kind number address layout dropPanics =
          (.error failure, world.destroy kind number)) ∨
      ∀ (world : World) (owner depth address : Nat),
        world.demolish (.nested owner depth) kind number address layout dropPanics =
          (world.destroy kind number).onArena owner fun arena env =>
            arena.deallocate env address layout := by
  unfold World.demolish
  by_cases panics : dropPanics = true ∧ 0 < number
  · simp only [if_pos panics]
    exact Or.inl ⟨_, .destructor, fun _ _ _ => rfl⟩
  · simp only [if_neg panics]
    exact Or.inr fun world _ _ _ => deallocateRaw_nested (world.destroy kind number) ..

/-- Apart from counts, a disposal is one call that forgets its layout, if it gets there. -/
theorem dispose_forms (disposal : Disposal) :
    ∃ kind number,
      (∃ failure, Disposal.Stops failure ∧ ∀ (world : World) (source : Source) (address : Nat),
        disposal.dispose world source address = (.error failure, world.destroy kind number)) ∨
      ∃ layout, disposal.layout? = some layout ∧
        ∀ (world : World) (owner depth address : Nat),
          disposal.dispose world (.nested owner depth) address =
            (world.destroy kind number).onArena owner fun arena env =>
              arena.deallocate env address layout := by
  cases disposal with
  | bytes layout =>
    exact ⟨.u8, 0, Or.inr ⟨layout, rfl, fun world _ _ _ => deallocateRaw_nested world ..⟩⟩
  | object kind dropPanics =>
    refine ⟨kind, 1, (demolish_forms kind 1 kind.layout dropPanics).imp_right fun done => ?_⟩
    exact ⟨kind.layout, rfl, done⟩
  | slice kind number dropPanics =>
    cases shape : kind.layout.array? number with
    | none =>
      refine ⟨.u8, 0, Or.inl ⟨_, .tooLong, ?_⟩⟩
      intro world source address
      simp only [Disposal.dispose, World.deallocateSlice, shape]
      rfl
    | some layout =>
      simp only [Disposal.dispose, World.deallocateSlice, shape]
      refine ⟨kind, number, (demolish_forms kind number layout dropPanics).imp_right fun done => ?_⟩
      exact ⟨layout, shape, done⟩

theorem dispose_cases (world : World) (owner depth address : Nat) (disposal : Disposal) :
    ∃ kind change,
      (∃ failure, Disposal.Stops failure ∧
        disposal.dispose world (.nested owner depth) address =
          (.error failure, world.count kind change)) ∨
      ∃ layout, disposal.layout? = some layout ∧
        disposal.dispose world (.nested owner depth) address =
          (world.count kind change).onArena owner fun arena env =>
            arena.deallocate env address layout := by
  obtain ⟨kind, number, ⟨failure, stops, refused⟩ | ⟨layout, shape, done⟩⟩ := dispose_forms disposal
  · exact ⟨kind, _, Or.inl ⟨failure, stops, refused world _ address⟩⟩
  · exact ⟨kind, _, Or.inr ⟨layout, shape, done world owner depth address⟩⟩

namespace Arena

theorem release_changes {arena : Arena} (consistent : arena.Consistent)
    (small : totalCapacity arena.chunks < wordLimit) (env : Env) :
    Changes env.profile arena (arena.release env).effects (arena.release env).arena :=
  (release_closes consistent small env).changes (Change.empty arena _).single

theorem grow_changes {arena : Arena} (consistent : arena.Consistent) (env : Env)
    (start old new elementSize : Nat) :
    Changes env.profile arena (arena.grow env start old new elementSize).effects
      (arena.grow env start old new elementSize).arena := by
  rcases grow_cases consistent env start old new elementSize with
    ⟨result, _, refused⟩ | ⟨stretches, done⟩
  · rw [refused]
    exact .refl arena
  · rw [done]
    exact (stretches.change env.profile).single

theorem deallocate_changes (arena : Arena) (env : Env) (address : Nat) (layout : Layout) :
    Changes env.profile arena (arena.deallocate env address layout).effects
      (arena.deallocate env address layout).arena := by
  rcases deallocate_cases arena env address layout with refused | done
  · rw [refused]
    exact .refl arena
  · rw [done]
    exact (Change.mark arena address layout.size).single

theorem disable_holds (arena : Arena) (profile : Profile) :
    ∃ count result, arena.disable profile = ⟨result, { arena with disabled := count }, []⟩ := by
  rcases disable_cases arena profile with overflow | done
  · exact ⟨arena.disabled, _, overflow⟩
  · exact ⟨_, _, done⟩

theorem enable_holds (arena : Arena) (profile : Profile) :
    ∃ count result, arena.enable profile = ⟨result, { arena with disabled := count }, []⟩ := by
  rcases enable_cases arena profile with ⟨_, _, stopped⟩ | done
  · exact ⟨arena.disabled, _, stopped⟩
  · exact ⟨_, _, done⟩

theorem hold_changes {arena : Arena} {profile : Profile} {reply : Reply Unit}
    (holds : ∃ count result, reply = ⟨result, { arena with disabled := count }, []⟩) :
    Changes profile arena reply.effects reply.arena := by
  obtain ⟨count, result, same⟩ := holds
  rw [same]
  exact (Change.hold arena count).single

end Arena

namespace World

/-- A world is sound, as far as the system keeps its guarantees. -/
def SoundIfProvided (world : World) : Prop := Provided world.traffic → world.Sound

theorem Sound.congr {world other : World} (sound : world.Sound)
    (arenas : ∀ owner, other.arena? owner = world.arena? owner)
    (profile : other.profile = world.profile) (traffic : other.traffic = world.traffic) :
    other.Sound := by
  intro owner arena found
  rw [arenas] at found
  rw [profile, traffic]
  exact sound owner arena found

theorem new_soundIfProvided (profile : Profile) (site : Site) (logs : Logs) :
    (World.new profile site logs).SoundIfProvided := by
  intro _ owner arena found
  simp [arena?, World.new] at found

theorem SoundIfProvided.onArena {world : World} (soundIf : world.SoundIfProvided)
    (owner : Nat) {α : Type} {call : Arena → Env → Reply α}
    (changes : ∀ arena : Arena, arena.Consistent → totalCapacity arena.chunks < wordLimit →
      ∀ env : Env, Arena.Changes env.profile arena (call arena env).effects
        (call arena env).arena) :
    (world.onArena owner call).2.SoundIfProvided := by
  intro provided
  have before := provided_of_suffix provided (world.onArena_suffix owner call)
  have sound := soundIf before
  cases found : world.arena? owner with
  | none =>
    obtain ⟨cause, same⟩ := onArena_none found call
    rw [same]
    exact sound
  | some arena =>
    obtain ⟨skew, same⟩ := onArena_some found call
    rw [same] at provided ⊢
    exact sound.after found
      (changes arena (sound owner arena found).consistent (sound.small before found)
        (world.env skew)) provided

theorem arena?_addArena {world : World} {arena : Arena} {skew owner : Nat} {found : Arena}
    (present : (world.addArena arena skew).arena? owner = some found) :
    world.arena? owner = some found ∨ owner = world.tenants.length ∧ found = arena := by
  simp only [arena?, addArena] at present ⊢
  by_cases inside : owner < world.tenants.length
  · rw [List.getElem?_append_left inside] at present
    exact Or.inl present
  · rw [List.getElem?_append_right (by omega)] at present
    have last : owner - world.tenants.length = 0 := by
      by_cases past : owner - world.tenants.length = 0
      · exact past
      · rw [List.getElem?_eq_none (by simp; omega)] at present
        cases present
    rw [last] at present
    exact Or.inr ⟨by omega, (Option.some.inj present).symm⟩

theorem arena?_addArena_of_some {world : World} {owner : Nat} {arena : Arena}
    (found : world.arena? owner = some arena) (other : Arena) (skew : Nat) :
    (world.addArena other skew).arena? owner = some arena := by
  simp only [arena?, Option.bind_eq_some_iff] at found ⊢
  obtain ⟨tenant, place, rest⟩ := found
  have inside := (List.getElem?_eq_some_iff.mp place).1
  refine ⟨tenant, ?_, rest⟩
  simp only [addArena]
  rw [List.getElem?_append_left inside]
  exact place

theorem Sound.addArena {world : World} (sound : world.Sound) (builder : Builder) (skew : Nat) :
    (world.addArena builder.build skew).Sound := by
  intro owner arena present
  rcases arena?_addArena present with old | ⟨_, fresh⟩
  · exact sound owner arena old
  · rw [fresh]
    refine ⟨⟨trivial, rfl, ?_⟩, ?_, List.Pairwise.nil, Nat.zero_le _, fun _ => ⟨.nil, ?_⟩⟩ <;>
      simp [Builder.build]

def vacated (world : World) (owner : Nat) : World :=
  { world with
    tenants := world.tenants.modify owner fun tenant =>
      { tenant with arena := none, guards := [], holds := [] } }

theorem drop_eq (world : World) (owner : Nat) :
    (world.drop owner).2 = (world.release owner).2.vacated owner := rfl

theorem arena?_vacated_self (world : World) (owner : Nat) :
    (world.vacated owner).arena? owner = none := by
  simp only [arena?, vacated, List.getElem?_modify_eq]
  cases world.tenants[owner]? <;> rfl

theorem arena?_vacated_other (world : World) {owner other : Nat} (different : other ≠ owner) :
    (world.vacated owner).arena? other = world.arena? other := by
  simp [arena?, vacated, different.symm]

theorem Sound.vacated {world : World} (sound : world.Sound) (owner : Nat) :
    (world.vacated owner).Sound := by
  intro other arena present
  by_cases own : other = owner
  · rw [own, arena?_vacated_self] at present
    cases present
  · rw [arena?_vacated_other world own] at present
    exact sound other arena present

theorem SoundIfProvided.serve {world : World} (soundIf : world.SoundIfProvided) (owner : Nat)
    (request : Request) :
    (request.serve world owner).2.SoundIfProvided := by
  have keeps : Keeps world [] [] 0 := fun provided =>
    ⟨⟨soundIf provided, by simp, by simp, List.Pairwise.nil, by simp⟩, by simp⟩
  exact fun provided => (keeps.serve owner request provided).settled.sound

theorem SoundIfProvided.act {world : World} (soundIf : world.SoundIfProvided) (action : Action) :
    (world.act action).SoundIfProvided := by
  cases action with
  | create builder skew => exact fun provided => (soundIf provided).addArena builder skew
  | place owner request => exact soundIf.serve owner request
  | grow owner start old new elementSize =>
    exact soundIf.onArena owner fun _ consistent _ env =>
      Arena.grow_changes consistent env start old new elementSize
  | dispose owner depth address disposal =>
    simp only [World.act]
    obtain ⟨kind, change, stopped | ⟨layout, _, done⟩⟩ :=
      dispose_cases world owner depth address disposal
    all_goals
      have counted : (world.count kind change).SoundIfProvided := by
        rw [World.count_eq]
        exact fun provided => (soundIf provided).congr (fun _ => rfl) rfl rfl
    · obtain ⟨failure, _, stopped⟩ := stopped
      rw [stopped]
      exact counted
    · rw [done]
      exact counted.onArena owner fun arena _ _ env =>
        Arena.deallocate_changes arena env address layout
  | write start bytes => exact fun provided => (soundIf provided).congr (fun _ => rfl) rfl rfl
  | rewind owner snapshot =>
    exact soundIf.onArena owner fun _ consistent small env =>
      (Arena.rewind_rewinds consistent small env snapshot).changes
  | disable owner =>
    exact soundIf.onArena owner fun arena _ _ env =>
      Arena.hold_changes (Arena.disable_holds arena env.profile)
  | enable owner =>
    exact soundIf.onArena owner fun arena _ _ env =>
      Arena.hold_changes (Arena.enable_holds arena env.profile)
  | release owner =>
    exact soundIf.onArena owner fun _ consistent small env =>
      Arena.release_changes consistent small env
  | drop owner =>
    have released : (world.release owner).2.SoundIfProvided :=
      soundIf.onArena owner fun _ consistent small env =>
        Arena.release_changes consistent small env
    exact fun provided => (released provided).vacated owner
  | log call => exact fun provided => (soundIf provided).congr (fun _ => rfl) rfl rfl

theorem SoundIfProvided.run {world : World} (soundIf : world.SoundIfProvided)
    (actions : List Action) :
    (world.run actions).SoundIfProvided := by
  induction actions generalizing world with
  | nil => exact soundIf
  | cons action rest ih => exact ih (soundIf.act action)

section Frame

variable (world : World)

theorem act_profile (action : Action) : (world.act action).profile = world.profile := by
  cases action with
  | create | write | log => rfl
  | place owner request => exact (world.serve_served owner request).profile
  | grow owner | rewind owner | disable owner | enable owner | release owner | drop owner =>
    exact world.onArena_profile owner _
  | dispose owner depth address disposal =>
    simp only [World.act]
    obtain ⟨kind, change, ⟨failure, _, stopped⟩ | ⟨layout, _, done⟩⟩ :=
      dispose_cases world owner depth address disposal
    · rw [stopped, count_eq]
    · rw [done, onArena_profile, count_eq]

theorem run_profile (actions : List Action) : (world.run actions).profile = world.profile := by
  induction actions generalizing world with
  | nil => rfl
  | cons action rest ih => exact (ih (world.act action)).trans (world.act_profile action)

theorem act_traffic_suffix (action : Action) : world.traffic <:+ (world.act action).traffic := by
  cases action with
  | create | write | log => exact List.suffix_refl _
  | place owner request => exact (world.serve_served owner request).traffic_suffix
  | grow owner | rewind owner | disable owner | enable owner | release owner | drop owner =>
    exact world.onArena_suffix owner _
  | dispose owner depth address disposal =>
    simp only [World.act]
    obtain ⟨kind, change, ⟨failure, _, stopped⟩ | ⟨layout, _, done⟩⟩ :=
      dispose_cases world owner depth address disposal
    · rw [stopped, count_eq]
    · rw [done]
      have suffix := (world.count kind change).onArena_suffix owner fun arena env =>
        arena.deallocate env address layout
      rwa [show (world.count kind change).traffic = world.traffic by rw [count_eq]] at suffix

theorem act_other {action : Action} {owner : Nat} (elsewhere : action.owner? ≠ some owner)
    {arena : Arena} (found : world.arena? owner = some arena) :
    (world.act action).arena? owner = some arena := by
  have different {other : Nat} (about : action.owner? = some other) : owner ≠ other := by
    intro same
    exact elsewhere (by rw [about, same])
  cases action with
  | create builder skew => exact arena?_addArena_of_some found builder.build skew
  | write | log => exact found
  | place other request =>
    exact ((world.serve_served other request).arena?_other (different rfl)).trans found
  | grow other | rewind other | disable other | enable other | release other =>
    exact (world.onArena_other (different rfl) _).trans found
  | drop other =>
    simp only [World.act]
    rw [drop_eq, arena?_vacated_other _ (different rfl)]
    exact (world.onArena_other (different rfl) _).trans found
  | dispose other depth address disposal =>
    simp only [World.act]
    obtain ⟨kind, change, ⟨failure, _, stopped⟩ | ⟨layout, _, done⟩⟩ :=
      dispose_cases world other depth address disposal
    · rw [stopped, count_eq]
      exact found
    · rw [done, onArena_other _ (different rfl), count_eq]
      exact found

end Frame

end World

end ChunkArena
