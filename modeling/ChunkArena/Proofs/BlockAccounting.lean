import ChunkArena.Proofs.BlockConservation
import ChunkArena.Proofs.ChunkRepresentation

/-!
What one call may do with the blocks of an arena. Requests obtain blocks and keep all of them, also
when they fail or stop. Every other call gives back the topmost chunks, newest first, or nothing.
-/

namespace ChunkArena

namespace Arena

variable {profile : Profile} {arena after : Arena} {effects : List Effect}

/-- Whether every block that an operation obtains is a chunk afterwards. At the last serial number a
debug build obtains one block more, and gives it back at once. -/
inductive Takes (profile : Profile) (arena : Arena) (effects : List Effect) (after : Arena) :
    Prop where
  | keeps (fresh : List Chunk) (stack : after.chunks = fresh ++ arena.chunks)
      (passed : ∀ owner, effects.filterMap (Effect.passage? owner) =
        (fresh.map (Chunk.entry owner)).reverse)
  | bounces (chunk : Chunk) (strict : profile.checks = true)
      (full : wordLimit ≤ arena.nextSerial + 1)
      (passed : ∀ owner, effects.filterMap (Effect.passage? owner) =
        [chunk.entry owner, chunk.exit owner])

def Gives (arena : Arena) (effects : List Effect) (after : Arena) : Prop :=
  ∃ gone : List Chunk, arena.chunks = gone ++ after.chunks ∧
    ∀ owner, effects.filterMap (Effect.passage? owner) = gone.map (Chunk.exit owner)

theorem Spill.takes (spill : Spill profile arena effects after) :
    arena.Takes profile effects after := by
  cases spill with
  | idle => exact .keeps [] rfl fun _ => rfl
  | bounce chunk nonempty strict full => exact .bounces chunk strict full fun _ => rfl
  | extend chunk entry link serial nonempty counted => exact .keeps [chunk] rfl fun _ => rfl

theorem Takes.handOut (takes : arena.Takes profile effects after) (start size next : Nat) :
    arena.Takes profile (effects ++ profile.handOut start size) (after.movedTo next) := by
  have same (owner : Nat) : (effects ++ profile.handOut start size).filterMap
      (Effect.passage? owner) = effects.filterMap (Effect.passage? owner) := by
    rw [List.filterMap_append, Profile.handOut, passages_mark, List.append_nil]
  cases takes with
  | keeps fresh stack passed =>
      exact .keeps fresh stack fun owner => (same owner).trans (passed owner)
  | bounces chunk strict full passed =>
    exact .bounces chunk strict full fun owner => (same owner).trans (passed owner)

theorem Answers.takes {size align : Nat} {reply : Reply Nat}
    (answers : arena.Answers profile size align reply) :
    arena.Takes profile reply.effects reply.arena := by
  obtain ⟨mid, effects, spill, ⟨failure, failed⟩ | ⟨start, offers, done⟩⟩ := answers
  · rw [failed]
    exact spill.takes
  · rw [done]
    exact spill.takes.handOut start size (start + size)

theorem gives_nothing (stack : after.chunks = arena.chunks)
    (nothing : ∀ owner, effects.filterMap (Effect.passage? owner) = []) :
    arena.Gives effects after :=
  ⟨[], stack.symm, nothing⟩

theorem gives_all (arena : Arena) (profile : Profile) (generation : Nat) :
    arena.Gives (arena.chunks.flatMap profile.surrender) (arena.emptied generation) :=
  ⟨arena.chunks, (List.append_nil _).symm, fun owner => passages_surrender owner arena.chunks⟩

theorem gives_above (profile : Profile) (saved : Cursor) (handle : Handle) (height : Nat) :
    arena.Gives
      (arena.clearing profile saved handle ++ (arena.above height).flatMap profile.surrender)
      (arena.fallenBack saved height) := by
  refine ⟨arena.above height, arena.above_append_fallenBack saved height, ?_⟩
  intro owner
  rw [List.filterMap_append, passages_clearing, passages_surrender, List.nil_append]

theorem Gives.closes {env : Env} {reply : Reply Unit} (gives : arena.Gives effects after)
    (closes : env.Closes after effects reply) : arena.Gives reply.effects reply.arena := by
  obtain ⟨gone, stack, passed⟩ := gives
  cases closes with
  | silent => exact ⟨gone, stack, passed⟩
  | told entry | failed entry =>
    refine ⟨gone, stack, ?_⟩
    intro owner
    rw [List.filterMap_append, passed]
    simp [Effect.passage?]

theorem release_gives (consistent : arena.Consistent)
    (small : totalCapacity arena.chunks < wordLimit) (env : Env) :
    arena.Gives (arena.release env).effects (arena.release env).arena :=
  (gives_all arena env.profile _).closes (release_closes consistent small env)

theorem Rewinds.gives {env : Env} {snapshot : Snapshot} {reply : Reply Unit}
    (rewinds : arena.Rewinds env snapshot reply) : arena.Gives reply.effects reply.arena := by
  cases rewinds with
  | refused cause same | unwarned handle cause names gone later loud same =>
    rw [same]
    exact gives_nothing rfl fun _ => rfl
  | bare names closes => exact (gives_all arena env.profile _).closes closes
  | live handle chunk names live limit low high closes =>
    exact (gives_above env.profile snapshot.cursor handle _).closes closes
  | released handle names gone later closes =>
    obtain ⟨back, stack, passed⟩ :=
      gives_all arena env.profile ((arena.generation + 1) % wordLimit)
    have warned : arena.Gives (.report arena.label (.alreadyReleased handle.index) ::
        arena.chunks.flatMap env.profile.surrender) (arena.emptied _) := ⟨back, stack, passed⟩
    exact warned.closes closes

theorem grow_gives (consistent : arena.Consistent) (env : Env) (start old new elementSize : Nat) :
    arena.Gives (arena.grow env start old new elementSize).effects
      (arena.grow env start old new elementSize).arena := by
  rcases grow_cases consistent env start old new elementSize with
    ⟨result, _, refused⟩ | ⟨_, done⟩
  · rw [refused]
    exact gives_nothing rfl fun _ => rfl
  · rw [done]
    exact gives_nothing rfl fun owner => passages_mark owner _ _ _

theorem deallocate_gives (env : Env) (address : Nat) (layout : Layout) :
    arena.Gives (arena.deallocate env address layout).effects
      (arena.deallocate env address layout).arena := by
  rcases deallocate_cases arena env address layout with refused | done
  · rw [refused]
    exact gives_nothing rfl fun _ => rfl
  · rw [done]
    exact gives_nothing rfl fun owner => passages_mark owner _ _ _

theorem hold_gives {reply : Reply Unit}
    (holds : ∃ count result, reply = ⟨result, { arena with disabled := count }, []⟩) :
    arena.Gives reply.effects reply.arena := by
  obtain ⟨count, result, same⟩ := holds
  rw [same]
  exact gives_nothing rfl fun _ => rfl

end Arena

namespace World

def Obtains (before after : World) (owner : Nat) : Prop :=
  ∃ fresh : List Chunk, after.chunks owner = fresh ++ before.chunks owner ∧
    passages owner after.traffic =
      fresh.map (Chunk.entry owner) ++ passages owner before.traffic

/-- Whether all that passed meanwhile is the topmost chunks given back, newest first. -/
def Returns (before after : World) (owner : Nat) : Prop :=
  ∃ gone : List Chunk, before.chunks owner = gone ++ after.chunks owner ∧
    passages owner after.traffic =
      (gone.map (Chunk.exit owner)).reverse ++ passages owner before.traffic

theorem returns_of_same {before after : World} {owner : Nat}
    (chunks : after.chunks owner = before.chunks owner)
    (passed : passages owner after.traffic = passages owner before.traffic) :
    before.Returns after owner :=
  ⟨[], chunks.symm, passed⟩

theorem Obtains.refl (world : World) (owner : Nat) : world.Obtains world owner := ⟨[], rfl, rfl⟩

theorem Obtains.trans {first next last : World} {owner : Nat} (head : first.Obtains next owner)
    (tail : next.Obtains last owner) : first.Obtains last owner := by
  obtain ⟨fresh, stack, passed⟩ := head
  obtain ⟨more, stack', passed'⟩ := tail
  refine ⟨more ++ fresh, ?_, ?_⟩
  · rw [stack', stack, List.append_assoc]
  · rw [passed', passed, List.map_append, List.append_assoc]

section Calls

variable {world : World} {owner : Nat}

theorem onArena_returns (sound : world.Sound) (provided : Provided world.traffic) (owner : Nat)
    {α : Type} {call : Arena → Env → Reply α}
    (gives : ∀ arena : Arena, arena.Consistent → totalCapacity arena.chunks < wordLimit →
      ∀ env : Env, arena.Gives (call arena env).effects (call arena env).arena) (other : Nat) :
    world.Returns (world.onArena owner call).2 other := by
  cases found : world.arena? owner with
  | none =>
    obtain ⟨cause, same⟩ := onArena_none found call
    rw [same]
    exact returns_of_same rfl rfl
  | some arena =>
    obtain ⟨skew, same⟩ := onArena_some found call
    rw [same]
    by_cases own : other = owner
    · subst own
      obtain ⟨gone, stack, passed⟩ := gives arena (sound other arena found).consistent
        (sound.small provided found) (world.env skew)
      refine ⟨gone, ?_, ?_⟩
      · rw [chunks_of_some found, chunks_after other world found]
        exact stack
      · rw [passages_after, passed]
    · exact returns_of_same (chunks_after_other _ _ own _ _) (passages_after_other _ _ own _ _)

theorem onArena_obtains (sound : world.Sound) {call : Arena → Env → Reply Nat} {size align : Nat}
    (answers : ∀ arena : Arena, arena.Consistent → ∀ env : Env,
      arena.Answers env.profile size align (call arena env)) {other : Nat}
    (few : world.profile.checks = true →
      obtainedBy other (world.onArena owner call).2.traffic < wordLimit) :
    world.Obtains (world.onArena owner call).2 other := by
  cases found : world.arena? owner with
  | none =>
    obtain ⟨cause, same⟩ := onArena_none found call
    rw [same]
    exact .refl world other
  | some arena =>
    obtain ⟨skew, same⟩ := onArena_some found call
    rw [same] at few ⊢
    have backed := sound owner arena found
    by_cases own : other = owner
    · subst own
      cases (answers arena backed.consistent (world.env skew)).takes with
      | keeps fresh stack passed =>
        refine ⟨fresh, ?_, ?_⟩
        · rw [chunks_of_some found, chunks_after other world found]
          exact stack
        · rw [passages_after, passed, List.reverse_reverse]
      | bounces chunk strict full passed =>
        -- Then there are as many blocks by now as there are words.
        exfalso
        have count := few strict
        have numbered := backed.numbered
        rw [obtainedBy_eq] at numbered
        have more : arrivals (([chunk.entry other, chunk.exit other] : List Traffic).reverse ++
            passages other world.traffic) =
              chunk.entry other :: arrivals (passages other world.traffic) := rfl
        rw [obtainedBy_eq, passages_after, passed, more, List.length_cons] at count
        omega
    · refine ⟨[], ?_, ?_⟩
      · exact chunks_after_other _ _ own _ _
      · exact passages_after_other _ _ own _ _

theorem Served.obtains {first last : World} (served : Served owner first last)
    (soundIf : first.SoundIfProvided) (provided : Provided last.traffic) {other : Nat}
    (few : first.profile.checks = true → obtainedBy other last.traffic < wordLimit) :
    first.Obtains last other := by
  induction served with
  | done world => exact .refl world other
  | @ask first last call size align answers rest ih =>
    have between := provided_of_suffix provided rest.traffic_suffix
    have before := provided_of_suffix between (onArena_suffix first owner call)
    have next := soundIf.onArena owner fun arena consistent _ env =>
      (answers arena consistent env).changes
    refine (onArena_obtains (soundIf before) answers ?_).trans (ih next provided ?_)
    · intro strict
      exact Nat.lt_of_le_of_lt (obtainedBy_suffix rest.traffic_suffix other) (few strict)
    · rw [onArena_profile]
      exact few
  | @note first last memory tally rest ih =>
    exact ih (fun provided => (soundIf provided).congr (fun _ => rfl) rfl rfl) provided few

/-- What one action does with the blocks of any one arena. -/
theorem act_passes (soundIf : world.SoundIfProvided) {action : Action}
    (provided : Provided (world.act action).traffic) {other : Nat}
    (few : world.profile.checks = true →
      obtainedBy other (world.act action).traffic < wordLimit) :
    world.Obtains (world.act action) other ∨ world.Returns (world.act action) other := by
  have before := provided_of_suffix provided (world.act_traffic_suffix action)
  have sound := soundIf before
  cases action with
  | create builder skew =>
    exact Or.inl ⟨[], chunks_addArena world builder skew other, rfl⟩
  | place owner request =>
    exact Or.inl ((world.serve_served owner request).obtains soundIf provided few)
  | grow owner start old new elementSize =>
    exact Or.inr (onArena_returns sound before owner (fun _ consistent _ env =>
      Arena.grow_gives consistent env start old new elementSize) other)
  | dispose owner depth address disposal =>
    right
    simp only [World.act]
    obtain ⟨kind, change, ⟨failure, _, stopped⟩ | ⟨layout, _, done⟩⟩ :=
      dispose_cases world owner depth address disposal
    · rw [stopped, count_eq]
      exact returns_of_same rfl rfl
    · have counted : (world.count kind change).Sound := by
        rw [count_eq]
        exact sound.congr (fun _ => rfl) rfl rfl
      have returns := onArena_returns counted (by rw [count_eq]; exact before) owner
        (fun _ _ _ env => Arena.deallocate_gives env address layout) other
      rw [done]
      rw [count_eq] at returns ⊢
      exact returns
  | write start bytes => exact Or.inl (.refl world other)
  | rewind owner snapshot =>
    exact Or.inr (onArena_returns sound before owner (fun _ consistent small env =>
      (Arena.rewind_rewinds consistent small env snapshot).gives) other)
  | disable owner =>
    exact Or.inr (onArena_returns sound before owner (fun arena _ _ env =>
      Arena.hold_gives (Arena.disable_holds arena env.profile)) other)
  | enable owner =>
    exact Or.inr (onArena_returns sound before owner (fun arena _ _ env =>
      Arena.hold_gives (Arena.enable_holds arena env.profile)) other)
  | release owner =>
    exact Or.inr (onArena_returns sound before owner (fun _ consistent small env =>
      Arena.release_gives consistent small env) other)
  | drop owner =>
    obtain ⟨gone, stack, passed⟩ := onArena_returns sound before owner
      (fun _ consistent small env => Arena.release_gives consistent small env) other
    have bare := release_chunks sound before owner
    refine Or.inr ⟨gone, ?_, passed⟩
    rw [World.act, drop_eq, chunks_vacated _ bare]
    exact stack
  | log call => exact Or.inl (.refl world other)

end Calls

/-- What is known of the blocks of an arena. -/
structure Accounted (world : World) (owner : Nat) : Prop where
  /-- Whenever a block was given back, it was the newest one left. -/
  newest_first : pile (passages owner world.traffic) =
    some ((world.chunks owner).map (Chunk.entry owner))
  whole : (arrivals (passages owner world.traffic)).Perm
    ((world.chunks owner).map (Chunk.entry owner) ++ departures (passages owner world.traffic))
  numbered : obtainedBy owner world.traffic < wordLimit →
    (arrivals (passages owner world.traffic)).map Traffic.serial =
      (List.range (obtainedBy owner world.traffic)).reverse
  distinct : obtainedBy owner world.traffic < wordLimit →
    ((world.chunks owner).map (Chunk.entry owner) ++
      departures (passages owner world.traffic)).Nodup

theorem BlocksConserved.accounted {world : World} {owner : Nat}
    (conserved : world.BlocksConserved owner) :
    world.Accounted owner := by
  obtain ⟨next, account, _⟩ := conserved.account
  have whole := pile_perm account.stacked
  have numbered : obtainedBy owner world.traffic < wordLimit →
      (arrivals (passages owner world.traffic)).map Traffic.serial =
        (List.range (obtainedBy owner world.traffic)).reverse := by
    rw [obtainedBy_eq]
    exact fun few => (account.numbered few).1
  refine ⟨account.stacked, whole, numbered, ?_⟩
  intro few
  have serials : ((arrivals (passages owner world.traffic)).map Traffic.serial).Nodup := by
    rw [numbered few]
    exact List.nodup_reverse.mpr List.nodup_range
  exact whole.nodup_iff.mp (List.Nodup.of_map _ serials)

theorem new_run_conserved (profile : Profile) (site : Site) (logs : Logs) (actions : List Action)
    (provided : Provided ((World.new profile site logs).run actions).traffic) (owner : Nat) :
    ((World.new profile site logs).run actions).BlocksConserved owner :=
  (new_conserved profile site logs owner).sequence
    (run_sequence (new_soundIfProvided profile site logs) actions provided)

theorem run_act (world : World) (actions : List Action) (action : Action) :
    (world.run actions).act action = world.run (actions ++ [action]) := by
  simp [run]

theorem act_drop_chunks {world : World} (soundIf : world.SoundIfProvided) {owner : Nat}
    (provided : Provided (world.act (.drop owner)).traffic) :
    (world.act (.drop owner)).chunks owner = [] := by
  have before := provided_of_suffix provided (world.act_traffic_suffix (.drop owner))
  rw [act, drop_eq, chunks_vacated _ (release_chunks (soundIf before) before owner)]
  exact release_chunks (soundIf before) before owner

end World

/-- In every run, the blocks of every arena are accounted for. Each call obtains blocks, which it
keeps, or gives some back, newest first; this holds even when the call fails or stops, in a debug
build as long as the arena obtained fewer than 2^64 blocks, for which there are serial numbers. When
an arena is dropped, all of its blocks go. -/
theorem blocks_accounted (profile : Profile) (site : Site) (logs : Logs) (earlier : List Action)
    (action : Action) (owner : Nat)
    (provided : Provided (((World.new profile site logs).run earlier).act action).traffic) :
    ((World.new profile site logs).run earlier).Accounted owner ∧
      (((World.new profile site logs).run earlier).act action).Accounted owner ∧
      ((profile = .debug →
          obtainedBy owner (((World.new profile site logs).run earlier).act action).traffic <
            wordLimit) →
        ((World.new profile site logs).run earlier).Obtains
            (((World.new profile site logs).run earlier).act action) owner ∨
          ((World.new profile site logs).run earlier).Returns
            (((World.new profile site logs).run earlier).act action) owner) ∧
      (action = .drop owner →
        (arrivals (passages owner
            (((World.new profile site logs).run earlier).act action).traffic)).Perm
          (departures (passages owner
            (((World.new profile site logs).run earlier).act action).traffic))) := by
  have before := provided_of_suffix provided (World.act_traffic_suffix _ action)
  have soundIf := (World.new_soundIfProvided profile site logs).run earlier
  have accounted := (World.new_run_conserved profile site logs earlier before owner).accounted
  have accounted' : (((World.new profile site logs).run earlier).act action).Accounted owner := by
    rw [World.run_act] at provided ⊢
    exact (World.new_run_conserved profile site logs _ provided owner).accounted
  refine ⟨accounted, accounted', ?_, ?_⟩
  · intro few
    apply World.act_passes soundIf provided
    rw [World.run_profile]
    intro strict
    cases profile with
    | debug => exact few rfl
    | release => cases strict
  · intro dropped
    have whole := accounted'.whole
    rw [dropped] at provided whole ⊢
    rw [World.act_drop_chunks soundIf provided] at whole
    exact whole

def misused : World := (World.new .debug pagedSite (Logs.empty none)).run misuse

theorem misuse_accounted :
    (arrivals (passages 0 (misused.act (.drop 0)).traffic)).length = 6 ∧
      Provided (misused.act (.drop 0)).traffic ∧
      (misused.Obtains (misused.act (.drop 0)) 0 ∨ misused.Returns (misused.act (.drop 0)) 0) ∧
      (arrivals (passages 0 (misused.act (.drop 0)).traffic)).Perm
        (departures (passages 0 (misused.act (.drop 0)).traffic)) := by
  have provided : Provided (misused.act (.drop 0)).traffic := by decide +kernel
  have few : obtainedBy 0 (misused.act (.drop 0)).traffic < wordLimit := by decide +kernel
  have accounted :=
    blocks_accounted .debug pagedSite (Logs.empty none) misuse (.drop 0) 0 provided
  exact ⟨by decide +kernel, provided, accounted.2.2.1 fun _ => few, accounted.2.2.2 rfl⟩

end ChunkArena
