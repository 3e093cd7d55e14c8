import ChunkArena.Proofs.SnapshotHistory

/-!
How the generation of an arena follows its history. It counts the releases, those that a rewind
makes included, and nothing else changes it. So it tells whether there was a release since a
snapshot, as long as there are fewer releases than words.
-/

namespace ChunkArena

theorem tells_discard (profile : Profile) (start count : Nat) :
    (profile.discard start count).any Effect.tellsRelease = false := by
  unfold Profile.discard Profile.mark
  split <;> rfl

theorem tells_surrender (profile : Profile) (gone : List Chunk) :
    (gone.flatMap profile.surrender).any Effect.tellsRelease = false := by
  induction gone with
  | nil => rfl
  | cons chunk rest ih =>
    rw [List.flatMap_cons, List.any_append, ih, Profile.surrender, List.any_append, tells_discard]
    rfl

theorem tells_clearing (arena : Arena) (profile : Profile) (saved : Cursor) (handle : Handle) :
    (arena.clearing profile saved handle).any Effect.tellsRelease = false := by
  apply List.any_eq_false.mpr
  intro effect member
  obtain ⟨used, marked, _⟩ := Arena.mem_clearing member
  exact List.any_eq_false.mp (tells_discard profile _ _) effect marked

theorem Env.tells_unless (env : Env) (arena : Arena) {effects : List Effect}
    (silent : effects.any Effect.tellsRelease = false) {entry : Report}
    (other : ∀ label, Effect.tellsRelease (.report label entry) = false) (nothing : Prop)
    [Decidable nothing] {reply : Reply Unit}
    (same : reply =
      if nothing then ⟨.ok (), arena, effects⟩ else env.conclude arena effects entry) :
    reply.arena = arena ∧ reply.effects.any Effect.tellsRelease = false := by
  rw [same]
  split
  · exact ⟨rfl, silent⟩
  · exact ⟨rfl, by simp [Env.conclude, List.any_append, silent, other]⟩

namespace Arena

variable {arena : Arena} {env : Env} {snapshot : Snapshot} {handle : Handle}

theorem rewind_of_stale (names : snapshot.cursor.chunk = some handle)
    (gone : arena.liveChunk? handle = none) (same : snapshot.generation = arena.generation) :
    arena.rewind env snapshot =
      ⟨.error (.panic (.staleSnapshot arena.label handle.index)), arena, []⟩ := by
  simp only [rewind, names, gone, same, ↓reduceIte]

theorem rewind_of_unwarned (names : snapshot.cursor.chunk = some handle)
    (gone : arena.liveChunk? handle = none) (later : snapshot.generation ≠ arena.generation)
    {cause : Panic} (loud : env.complaint .warn = some cause) :
    arena.rewind env snapshot =
      ⟨.error (.panic cause), arena, [.report arena.label (.alreadyReleased handle.index)]⟩ := by
  simp only [rewind, names, gone, later, ↓reduceIte, restoreReleased, Env.conclude,
    Env.afterReport, Report.level, loud, List.nil_append]

theorem rewind_of_released (names : snapshot.cursor.chunk = some handle)
    (gone : arena.liveChunk? handle = none) (later : snapshot.generation ≠ arena.generation)
    (quiet : env.complaint .warn = none) :
    arena.rewind env snapshot =
      { arena.release env with
        effects := .report arena.label (.alreadyReleased handle.index) ::
          (arena.release env).effects } := by
  simp only [rewind, names, gone, later, ↓reduceIte, restoreReleased, Env.conclude,
    Env.afterReport, Report.level, quiet, List.nil_append, List.singleton_append]

/-- How an operation changes the generation, and how many releases it tells of. -/
def Ages (arena after : Arena) (releases : Nat) : Prop :=
  after.generation = arena.generation ∧ releases = 0 ∨
    after.generation = (arena.generation + 1) % wordLimit ∧ releases = 1

theorem Ages.count_of_same {after : Arena} {releases : Nat} (ages : arena.Ages after releases)
    (small : arena.generation < wordLimit) (same : after.generation = arena.generation) :
    releases = 0 := by
  rcases ages with ⟨_, none_told⟩ | ⟨more, _⟩
  · exact none_told
  · have several : 1 < wordLimit := by decide
    rw [same] at more
    by_cases last : arena.generation + 1 = wordLimit
    · rw [last, Nat.mod_self] at more
      omega
    · rw [Nat.mod_eq_of_lt (by omega)] at more
      omega

theorem Ages.count_of_more {after : Arena} {releases : Nat} (ages : arena.Ages after releases)
    (small : arena.generation < wordLimit)
    (more : after.generation = (arena.generation + 1) % wordLimit) : releases = 1 := by
  rcases ages with ⟨same, _⟩ | ⟨_, one_told⟩
  · have again : arena.Ages after 1 := Or.inr ⟨more, rfl⟩
    exact absurd (again.count_of_same small same) Nat.one_ne_zero
  · exact one_told

theorem rewind_ages (consistent : arena.Consistent) (small : totalCapacity arena.chunks < wordLimit)
    (env : Env) (snapshot : Snapshot) :
    arena.Ages (arena.rewind env snapshot).arena
      (if (arena.rewind env snapshot).effects.any Effect.tellsRelease ∧
          env.complaint .warn = none then 1 else 0) := by
  cases names : snapshot.cursor.chunk with
  | none =>
    obtain ⟨back, silent⟩ := env.tells_unless _ (tells_surrender env.profile arena.chunks)
      (fun _ => rfl) _ (rewind_of_bare consistent small env names)
    rw [back, silent]
    exact Or.inl ⟨rfl, if_neg (by simp)⟩
  | some handle =>
    cases live : arena.liveChunk? handle with
    | some chunk =>
      by_cases own : snapshot.cursor.limit = chunk.finish ∧ chunk.start ≤ snapshot.cursor.next ∧
          snapshot.cursor.next ≤ snapshot.cursor.limit
      · obtain ⟨limit, low, high⟩ := own
        have cleared : (arena.clearing env.profile snapshot.cursor handle ++
            (arena.above (handle.index + 1)).flatMap env.profile.surrender).any
              Effect.tellsRelease = false := by
          rw [List.any_append, tells_clearing, tells_surrender]
          rfl
        obtain ⟨back, silent⟩ := env.tells_unless _ cleared (fun _ => rfl) _
          (rewind_of_live consistent small env names live limit low high)
        rw [back, silent]
        exact Or.inl ⟨rfl, if_neg (by simp)⟩
      · have foreign : snapshot.cursor.limit ≠ chunk.finish ∨
            snapshot.cursor.next < chunk.start ∨
              snapshot.cursor.limit < snapshot.cursor.next := by omega
        have refused : arena.rewind env snapshot =
            ⟨.error (.panic (.foreignSnapshot arena.label)), arena, []⟩ := by
          simp only [rewind, names, live, restore, foreign, ↓reduceIte]
        rw [refused]
        exact Or.inl ⟨rfl, if_neg (by simp)⟩
    | none =>
      by_cases same : snapshot.generation = arena.generation
      · rw [rewind_of_stale names live same]
        exact Or.inl ⟨rfl, if_neg (by simp)⟩
      · cases loud : env.complaint .warn with
        | some cause =>
          rw [rewind_of_unwarned names live same loud]
          exact Or.inl ⟨rfl, if_neg (by simp)⟩
        | none =>
          rw [rewind_of_released names live same loud]
          have after := (release_closes consistent small env).arena_eq
          refine Or.inr ⟨?_, if_pos ⟨rfl, rfl⟩⟩
          rw [after]
          rfl

end Arena

namespace World

variable {world : World} {owner : Nat} {arena : Arena}

theorem reply?_some (found : world.arena? owner = some arena) {α : Type}
    (call : Arena → Env → Reply α) :
    ∃ skew, world.reply? owner call = some (call arena (world.env skew)) ∧
      (world.onArena owner call).2.arena? owner = some (call arena (world.env skew)).arena := by
  have taken := found
  simp only [arena?, Option.bind_eq_some_iff] at taken
  obtain ⟨tenant, place, present⟩ := taken
  refine ⟨tenant.skew, ?_, ?_⟩
  · simp only [reply?, place, present, Option.bind_some, Option.map_some]
  · have inside := (List.getElem?_eq_some_iff.mp place).1
    have committed : (world.onArena owner call).2 =
        (world.commit owner tenant (call arena (world.env tenant.skew))).2 := by
      simp only [onArena, place, present]
    generalize call arena (world.env tenant.skew) = reply at committed ⊢
    let settled : World := { world with
      tenants := world.tenants.set owner { tenant with arena := some reply.arena } }
    have tenants := (foldl_perform_frame owner settled reply.effects).1
    rw [committed, arena?, commit, tenants]
    simp [settled, inside]

theorem act_ages (soundIf : world.SoundIfProvided) {action : Action}
    (provided : Provided (world.act action).traffic) (found : world.arena? owner = some arena)
    {after : Arena} (found' : (world.act action).arena? owner = some after) :
    arena.Ages after (action.releases world owner) := by
  have before := provided_of_suffix provided (world.act_traffic_suffix action)
  have sound := soundIf before
  have backed := sound owner arena found
  by_cases own : action.owner? = some owner
  · cases action with
    | create | write | log => cases own
    | place other request =>
      cases own
      have upholds : world.Upholds owner arena 0 :=
        ⟨arena, found, by rw [Profile.counted_zero]; exact .refl arena⟩
      obtain ⟨last, present, upon⟩ :=
        (world.serve_served owner request).upholds soundIf provided upholds
      cases found'.symm.trans present
      exact Or.inl ⟨upon.generation, rfl⟩
    | grow other start old new elementSize =>
      cases own
      obtain ⟨skew, _, present⟩ := onArena_self found fun arena env =>
        arena.grow env start old new elementSize
      cases found'.symm.trans present
      exact Or.inl ⟨((Arena.Upon.refl arena).grow backed.consistent _ _ _ _ _).generation, rfl⟩
    | dispose other depth address disposal =>
      cases own
      simp only [act] at found'
      obtain ⟨kind, change, ⟨failure, _, stopped⟩ | ⟨layout, _, done⟩⟩ :=
        dispose_cases world owner depth address disposal
      · rw [stopped, count_eq] at found'
        cases found'.symm.trans found
        exact Or.inl ⟨rfl, rfl⟩
      · have counted : (world.count kind change).arena? owner = some arena := by
          rw [count_eq]
          exact found
        obtain ⟨skew, _, present⟩ := onArena_self counted fun arena env =>
          arena.deallocate env address layout
        rw [done] at found'
        cases found'.symm.trans present
        exact Or.inl ⟨((Arena.Upon.refl arena).deallocate _ _ _).generation, rfl⟩
    | rewind other snapshot =>
      cases own
      obtain ⟨skew, replied, present⟩ := reply?_some found fun arena env =>
        arena.rewind env snapshot
      cases found'.symm.trans present
      have ages := Arena.rewind_ages backed.consistent (sound.small before found) (world.env skew)
        snapshot
      have complaint : (world.env skew).complaint = world.logs.complaint := rfl
      rw [complaint] at ages
      simpa only [Action.releases, replied, Option.any_some, true_and] using ages
    | disable other =>
      cases own
      obtain ⟨skew, _, present⟩ := onArena_self found fun arena env => arena.disable env.profile
      obtain ⟨count, result, held⟩ := Arena.disable_holds arena (world.env skew).profile
      rw [held] at present
      cases found'.symm.trans present
      exact Or.inl ⟨rfl, rfl⟩
    | enable other =>
      cases own
      obtain ⟨skew, _, present⟩ := onArena_self found fun arena env => arena.enable env.profile
      obtain ⟨count, result, held⟩ := Arena.enable_holds arena (world.env skew).profile
      rw [held] at present
      cases found'.symm.trans present
      exact Or.inl ⟨rfl, rfl⟩
    | release other =>
      cases own
      obtain ⟨skew, _, present⟩ := onArena_self found Arena.release
      rw [(Arena.release_closes backed.consistent (sound.small before found) _).arena_eq] at present
      cases found'.symm.trans present
      exact Or.inr ⟨rfl, by simp [Action.releases, found]⟩
    | drop other =>
      cases own
      rw [act, drop_eq, arena?_vacated_self] at found'
      cases found'
  · have different {other : Nat} (about : action.owner? = some other) : other ≠ owner := by
      intro here
      exact own (by rw [about, here])
    have none_told : action.releases world owner = 0 := by
      cases action with
      | release other | rewind other => simp [Action.releases, different rfl]
      | _ => rfl
    cases found'.symm.trans (world.act_other own found)
    exact Or.inl ⟨rfl, none_told⟩

end World

end ChunkArena
