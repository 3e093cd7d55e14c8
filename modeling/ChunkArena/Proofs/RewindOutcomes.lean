import ChunkArena.Proofs.MessageDelivery
import ChunkArena.Proofs.ReleaseGenerations

/-!
What a rewind to an arena's own snapshot does is decided by its history. If there was no chunk then,
the arena is emptied. If the chunk from then was never given back, it is the newest again. If it was
given back, the rewind releases the arena once more if there was a release since, and otherwise it
stops and leaves everything as it is. A release that has to be reported first is not made when the
report panics.
-/

namespace ChunkArena

structure Memo.Holds (memo : Memo) (history : History) (owner : Nat) : Prop where
  suffix : memo.traffic <:+ history.world.traffic
  releases : memo.releases ≤ history.releases
  generation : memo.arena.generation = memo.releases % wordLimit
  consistent : memo.arena.Consistent
  stacked : pile (passages owner memo.traffic) = some (memo.arena.chunks.map (Chunk.entry owner))

structure History.Faithful (history : History) (owner : Nat) : Prop where
  soundIf : history.world.SoundIfProvided
  conserved : history.world.BlocksConserved owner
  unborn : history.world.tenants.length ≤ owner → history.releases = 0
  generation : ∀ arena, history.world.arena? owner = some arena →
    arena.generation = history.releases % wordLimit
  memos : ∀ memo ∈ history.memos, memo.Holds history owner

namespace World

variable {world : World} {owner : Nat}

theorem arena?_unborn (outside : world.tenants.length ≤ owner) : world.arena? owner = none := by
  simp [arena?, outside]

theorem releases_missing (missing : world.arena? owner = none) (action : Action) :
    action.releases world owner = 0 := by
  cases action with
  | release other => simp [Action.releases, missing]
  | rewind other snapshot =>
    have silent (call : Arena → Env → Reply Unit) : world.reply? owner call = none := by
      cases place : world.tenants[owner]? with
      | none => simp [reply?, place]
      | some tenant =>
        have gone : tenant.arena = none := by simpa [arena?, place] using missing
        simp [reply?, place, gone]
    simp [Action.releases, silent]
  | _ => rfl

theorem onArena_missing (missing : world.arena? owner = none) {α : Type} (other : Nat)
    (call : Arena → Env → Reply α) : (world.onArena other call).2.arena? owner = none := by
  by_cases own : owner = other
  · subst own
    obtain ⟨cause, same⟩ := onArena_none missing call
    rw [same]
    exact missing
  · rw [onArena_other world own]
    exact missing

theorem Served.missing {other : Nat} {first last : World} (served : Served other first last)
    (missing : first.arena? owner = none) : last.arena? owner = none := by
  induction served with
  | done => exact missing
  | ask call size align answers _ ih => exact ih (onArena_missing missing other call)
  | note memory tally _ ih => exact ih missing

theorem act_missing (missing : world.arena? owner = none) {action : Action} {arena : Arena}
    (found : (world.act action).arena? owner = some arena) :
    world.tenants.length = owner ∧ ∃ builder : Builder, arena = builder.build := by
  have never {after : World} (still : after.arena? owner = none)
      (found : after.arena? owner = some arena) : world.tenants.length = owner ∧
        ∃ builder : Builder, arena = builder.build := by
    rw [still] at found
    cases found
  cases action with
  | create builder skew =>
    rcases arena?_addArena found with old | ⟨last, fresh⟩
    · exact never missing old
    · exact ⟨last.symm, builder, fresh⟩
  | place other request => exact never ((world.serve_served other request).missing missing) found
  | grow other | rewind other | disable other | enable other | release other =>
    exact never (onArena_missing missing other _) found
  | dispose other depth address disposal =>
    simp only [act] at found
    obtain ⟨kind, change, ⟨failure, _, stopped⟩ | ⟨layout, _, done⟩⟩ :=
      dispose_cases world other depth address disposal
    · rw [stopped, count_eq] at found
      exact never missing found
    · have counted : (world.count kind change).arena? owner = none := by
        rw [count_eq]
        exact missing
      rw [done] at found
      exact never (onArena_missing counted other _) found
  | write | log => exact never missing found
  | drop other =>
    have released : (world.release other).2.arena? owner = none := onArena_missing missing other _
    rw [act, drop_eq] at found
    by_cases own : owner = other
    · subst own
      exact never (arena?_vacated_self _ owner) found
    · rw [arena?_vacated_other _ own] at found
      exact never released found

end World

namespace History

variable {history : History} {owner : Nat}

theorem start_faithful (profile : Profile) (site : Site) (logs : Logs) (owner : Nat) :
    (start (World.new profile site logs)).Faithful owner := by
  refine ⟨World.new_soundIfProvided profile site logs, World.new_conserved profile site logs owner,
    fun _ => rfl, ?_, by simp [start]⟩
  intro arena found
  simp [start, World.arena?, World.new] at found

theorem Faithful.act (faithful : history.Faithful owner) {action : Action}
    (provided : Provided (history.world.act action).traffic) :
    (history.act owner action).Faithful owner := by
  have sequence := World.act_sequence faithful.soundIf provided
  refine ⟨faithful.soundIf.act action, faithful.conserved.sequence sequence, ?_, ?_, ?_⟩
  · intro outside
    have before : history.world.tenants.length ≤ owner := Nat.le_trans sequence.tenants_le outside
    have none_then := World.releases_missing (World.arena?_unborn before) action
    simp only [History.act, faithful.unborn before, none_then]
  · intro after found'
    simp only [History.act]
    cases found : history.world.arena? owner with
    | none =>
      obtain ⟨last, builder, fresh⟩ := World.act_missing found found'
      rw [World.releases_missing found, faithful.unborn (Nat.le_of_eq last), fresh]
      rfl
    | some arena =>
      have generation := faithful.generation arena found
      rcases World.act_ages faithful.soundIf provided found found' with
        ⟨same, count⟩ | ⟨more, count⟩
      · rw [count, same]
        exact generation
      · rw [count, more, generation, Nat.mod_add_mod]
  · intro memo listed
    obtain ⟨suffix, releases, generation, consistent, stacked⟩ := faithful.memos memo listed
    exact ⟨suffix.trans (history.world.act_traffic_suffix action),
      Nat.le_trans releases (Nat.le_add_right _ _), generation, consistent, stacked⟩

theorem Faithful.turn (faithful : history.Faithful owner) (turn : Turn)
    (provided : Provided (history.turn owner turn).world.traffic) :
    (history.turn owner turn).Faithful owner := by
  cases turn with
  | save =>
    simp only [History.turn] at provided ⊢
    cases found : history.world.arena? owner with
    | none => exact faithful
    | some arena =>
      rw [found] at provided
      refine ⟨faithful.soundIf, faithful.conserved, faithful.unborn, faithful.generation, ?_⟩
      intro memo listed
      rcases List.mem_cons.mp listed with same | older
      · obtain ⟨next, account, _⟩ := faithful.conserved.account
        have stacked := account.stacked
        rw [World.chunks_of_some found] at stacked
        rw [same]
        exact ⟨List.suffix_refl _, Nat.le_refl _, faithful.generation arena found,
          (faithful.soundIf provided owner arena found).consistent, stacked⟩
      · obtain ⟨suffix, releases, generation, consistent, stacked⟩ := faithful.memos memo older
        exact ⟨suffix, releases, generation, consistent, stacked⟩
  | rewind which =>
    simp only [History.turn] at provided ⊢
    cases listed : history.memos[which]? with
    | none => exact faithful
    | some memo =>
      rw [listed] at provided
      exact faithful.act provided
  | act action => exact faithful.act provided

theorem Faithful.run (faithful : history.Faithful owner) (turns : List Turn)
    (provided : Provided (history.run owner turns).world.traffic) :
    (history.run owner turns).Faithful owner :=
  foldl_keeps (P := fun history : History => history.Faithful owner)
    (fun history => history.world.traffic) (turn_traffic_suffix owner)
    (fun _ turn faithful between => faithful.turn turn between) faithful turns provided

end History

theorem Logs.complaint_of_le {logs : Logs} {low high : Level} {cause : Panic} (above : low ≤ high)
    (below : ¬ Level.error ≤ high) (loud : logs.complaint low = some cause) :
    logs.complaint high = some cause := by
  have below' : ¬ Level.error ≤ low := fun most => below (Nat.le_trans most above)
  rw [complaint_eq, Option.bind_eq_some_iff] at loud ⊢
  obtain ⟨logger, core, stops⟩ := loud
  have accepted : logger.accepts low = true := by
    by_contra dropped
    rw [Logger.stop, if_neg dropped] at stops
    cases stops
  have accepted' : logger.accepts high = true :=
    decide_eq_true (Nat.le_trans (of_decide_eq_true accepted) above)
  rw [logger.stop_of_below below' below accepted accepted'] at stops
  exact ⟨logger, core, stops⟩

theorem Report.level_le_warn (entry : Report) : entry.level ≤ Level.warn := by
  cases entry with
  | alreadyReleased => exact Nat.le_refl _
  | appended | released | emptied | reactivated => exact (by decide : Level.debug ≤ Level.warn)

/-- A call that left the arena like that, gave back the chunks that are not there any more, and
returned, unless it could not report that it gave chunks back. -/
structure Settles (before : World) (owner : Nat) (answer : Except Failure Unit × World)
    (after : Arena) : Prop where
  arena : answer.2.arena? owner = some after
  returns : before.Returns answer.2 owner
  result : answer.1 = .ok () ∨ before.chunks owner ≠ after.chunks ∧
    ∃ cause, before.logs.complaint .debug = some cause ∧ answer.1 = .error (.panic cause)

/-- What a rewind to a snapshot does, for each fate of the snapshot. -/
inductive Rewound (before : World) (owner : Nat) (arena : Arena) (memo : Memo)
    (answer : Except Failure Unit × World) : Fate → Prop where
  | bare (settles : Settles before owner answer { arena with chunks := [], cursor := .empty }) :
      Rewound before owner arena memo answer .bare
  | standing (below : memo.arena.chunks <:+ arena.chunks)
      (settles : Settles before owner answer
        { arena with chunks := memo.arena.chunks, cursor := memo.arena.cursor }) :
      Rewound before owner arena memo answer .standing
  | released (warned : before.logs.complaint .warn = none) (returned : answer.1 = .ok ())
      (settles : Settles before owner answer
        { arena with chunks := [], cursor := .empty, generation := arena.generation + 1 }) :
      Rewound before owner arena memo answer .released
  | unwarned (cause : Panic) (loud : before.logs.complaint .warn = some cause)
      (same : answer = (.error (.panic cause),
        before.perform owner
          (.report arena.label (.alreadyReleased (memo.arena.chunks.length - 1))))) :
      Rewound before owner arena memo answer .released
  | discarded
      (same : answer =
        (.error (.panic (.staleSnapshot arena.label (memo.arena.chunks.length - 1))), before)) :
      Rewound before owner arena memo answer .discarded

namespace World

variable {world : World} {owner : Nat} {arena after : Arena}

theorem rewind_returns (sound : world.Sound) (provided : Provided world.traffic) (owner : Nat)
    (snapshot : Snapshot) : world.Returns (world.rewind owner snapshot).2 owner :=
  onArena_returns sound provided owner (fun _ consistent small env =>
    (Arena.rewind_rewinds consistent small env snapshot).gives) owner

theorem rewind_settles (sound : world.Sound) (provided : Provided world.traffic)
    (found : world.arena? owner = some arena) {snapshot : Snapshot} {effects : Nat → List Effect}
    {entry : Report} {count : Nat}
    (same : ∀ skew, arena.rewind (world.env skew) snapshot =
      if count = 0 then ⟨.ok (), after, effects skew⟩
      else (world.env skew).conclude after (effects skew) entry)
    (level : entry.level = .debug) (some_gone : count ≠ 0 → arena.chunks ≠ after.chunks) :
    Settles world owner (world.rewind owner snapshot) after := by
  obtain ⟨skew, answer, present⟩ := onArena_self found fun arena env => arena.rewind env snapshot
  obtain ⟨back, outcome⟩ := (world.env skew).conclude_unless _ _ _ _ (same skew)
  rw [back] at present
  refine ⟨present, rewind_returns sound provided owner snapshot, ?_⟩
  rw [chunks_of_some found]
  have answer : (world.rewind owner snapshot).1 = _ := answer
  rw [answer]
  rw [level] at outcome
  exact outcome.imp_right fun ⟨more, loud⟩ => ⟨some_gone more, loud⟩

/-- A rewind that releases the arena returns, since what it can report first it can report at the
end. -/
theorem rewind_releases (sound : world.Sound) (provided : Provided world.traffic)
    (found : world.arena? owner = some arena) {snapshot : Snapshot} {handle : Handle}
    (names : snapshot.cursor.chunk = some handle) (gone : arena.liveChunk? handle = none)
    (later : snapshot.generation ≠ arena.generation)
    (warned : world.logs.complaint .warn = none) :
    (world.rewind owner snapshot).1 = .ok () ∧
      Settles world owner (world.rewind owner snapshot)
        (arena.emptied ((arena.generation + 1) % wordLimit)) := by
  obtain ⟨skew, answer, present⟩ := onArena_self found fun arena env => arena.rewind env snapshot
  have answer : (world.rewind owner snapshot).1 = _ := answer
  have quiet : (world.env skew).complaint .warn = none := warned
  have closes := Arena.release_closes (sound owner arena found).consistent
    (sound.small provided found) (world.env skew)
  rw [Arena.rewind_of_released names gone later quiet] at answer present
  have back := closes.arena_eq
  have returned : (arena.release (world.env skew)).result = .ok () := by
    generalize arena.release (world.env skew) = reply at closes
    cases closes with
    | silent | told => rfl
    | failed entry cause loud =>
      have loud : world.logs.complaint entry.level = some cause := loud
      rw [Logs.complaint_of_le entry.level_le_warn (by decide) loud] at warned
      cases warned
  rw [returned] at answer
  rw [back] at present
  exact ⟨answer, present, rewind_returns sound provided owner snapshot, Or.inl answer⟩

theorem rewind_stops (found : world.arena? owner = some arena) {snapshot : Snapshot}
    {cause : Panic} {effects : List Effect}
    (same : ∀ skew,
      arena.rewind (world.env skew) snapshot = ⟨.error (.panic cause), arena, effects⟩) :
    world.rewind owner snapshot = (.error (.panic cause), effects.foldl (perform owner) world) := by
  obtain ⟨skew, answer⟩ := onArena_some found fun arena env => arena.rewind env snapshot
  rw [same skew] at answer
  rw [after, replace_self found] at answer
  exact answer

end World

namespace History

variable {history : History} {owner : Nat} {memo : Memo} {arena : Arena} {chunk : Chunk}
  {rest : List Chunk}

theorem Faithful.piles (faithful : history.Faithful owner) (holds : memo.Holds history owner)
    (found : history.world.arena? owner = some arena) :
    pile (passages owner (since memo.traffic history.world.traffic) ++
      passages owner memo.traffic) = some (arena.chunks.map (Chunk.entry owner)) := by
  obtain ⟨next, account, _⟩ := faithful.conserved.account
  have stacked := account.stacked
  rw [World.chunks_of_some found] at stacked
  rw [← passages_append, since_append holds.suffix]
  exact stacked

theorem Faithful.standing (faithful : history.Faithful owner) (holds : memo.Holds history owner)
    (found : history.world.arena? owner = some arena) (consistent : arena.Consistent)
    (stack : memo.arena.chunks = chunk :: rest)
    (kept : chunk.entry owner ∉
      departures (passages owner (since memo.traffic history.world.traffic))) :
    chunk :: rest <:+ arena.chunks := by
  have before := holds.stacked
  rw [stack, List.map_cons] at before
  have lies := pile_standing before (faithful.piles holds found) kept
  have height : (chunk :: rest).length ≤ arena.chunks.length := by
    simpa using lies.length_le
  have linked := holds.consistent.linked
  rw [stack] at linked
  rw [← List.map_cons, List.suffix_iff_eq_drop, List.length_map, List.length_map,
    ← List.map_drop] at lies
  rw [List.suffix_iff_eq_drop]
  exact chunks_eq_of_entries linked (linked_drop consistent.linked _) lies

theorem Faithful.gone (faithful : history.Faithful owner) (holds : memo.Holds history owner)
    (found : history.world.arena? owner = some arena)
    (few : obtainedBy owner history.world.traffic < wordLimit)
    (departed : chunk.entry owner ∈
      departures (passages owner (since memo.traffic history.world.traffic))) (index : Nat) :
    arena.liveChunk? ⟨index, chunk.serial⟩ = none := by
  have distinct : ((arrivals (passages owner (since memo.traffic history.world.traffic) ++
      passages owner memo.traffic)).map Traffic.serial).Nodup := by
    rw [← passages_append, since_append holds.suffix, faithful.conserved.accounted.numbered few]
    exact List.nodup_reverse.mpr List.nodup_range
  have different := pile_departed (faithful.piles holds found) departed distinct
  cases live : arena.liveChunk? ⟨index, chunk.serial⟩ with
  | none => rfl
  | some other =>
    obtain ⟨place, serial, _⟩ := Arena.liveChunk?_eq_some live
    have member := List.mem_reverse.mp (List.mem_of_getElem? place)
    exact absurd serial (different (other.entry owner) (List.mem_map_of_mem member))

theorem Faithful.rewound_bare (faithful : history.Faithful owner) (holds : memo.Holds history owner)
    (found : history.world.arena? owner = some arena) (before : Provided history.world.traffic)
    (stack : memo.arena.chunks = []) :
    Rewound history.world owner arena memo (history.world.rewind owner memo.arena.snapshot)
      .bare := by
  have sound := faithful.soundIf before
  have seated := holds.consistent.seated
  rw [stack] at seated
  have bare : memo.arena.snapshot.cursor.chunk = none := congrArg Cursor.chunk seated
  apply Rewound.bare
  apply World.rewind_settles sound before found fun skew =>
    Arena.rewind_of_bare (sound owner arena found).consistent (sound.small before found)
      (history.world.env skew) bare
  · rfl
  · intro some_chunk none_left
    exact some_chunk (congrArg List.length none_left)

theorem Faithful.rewound_standing (faithful : history.Faithful owner)
    (holds : memo.Holds history owner) (found : history.world.arena? owner = some arena)
    (before : Provided history.world.traffic) (stack : memo.arena.chunks = chunk :: rest)
    (kept : chunk.entry owner ∉
      departures (passages owner (since memo.traffic history.world.traffic))) :
    Rewound history.world owner arena memo (history.world.rewind owner memo.arena.snapshot)
      .standing := by
  have sound := faithful.soundIf before
  have consistent := (sound owner arena found).consistent
  have seated := holds.consistent.seated
  rw [stack] at seated
  obtain ⟨names, limit, low, high⟩ := seated
  have names : memo.arena.snapshot.cursor.chunk = some ⟨rest.length, chunk.serial⟩ := names
  have limit : memo.arena.snapshot.cursor.limit = chunk.finish := limit
  have within : memo.arena.snapshot.cursor.next ≤ memo.arena.snapshot.cursor.limit := by
    rw [limit]
    exact high
  have below := faithful.standing holds found consistent stack kept
  have live := Arena.live_of_suffix below
  have back : arena.fallenBack memo.arena.snapshot.cursor (rest.length + 1) =
      { arena with chunks := memo.arena.chunks, cursor := memo.arena.cursor } := by
    rw [Arena.fallenBack, stack]
    congr 1
    exact (List.suffix_iff_eq_drop.mp below).symm
  apply Rewound.standing
  · rw [stack]
    exact below
  · rw [← back]
    apply World.rewind_settles sound before found fun skew =>
      Arena.rewind_of_live consistent (sound.small before found) (history.world.env skew) names live
        limit low within
    · rfl
    · intro more same
      rw [back] at same
      simp only [stack] at same
      simp [same] at more

theorem Faithful.same_generation (faithful : history.Faithful owner)
    (holds : memo.Holds history owner) (found : history.world.arena? owner = some arena)
    (few : history.releases < wordLimit) :
    memo.arena.snapshot.generation = arena.generation ↔ memo.releases = history.releases := by
  have generation := faithful.generation arena found
  have generation' : memo.arena.snapshot.generation = memo.releases % wordLimit :=
    holds.generation
  rw [Nat.mod_eq_of_lt few] at generation
  rw [Nat.mod_eq_of_lt (Nat.lt_of_le_of_lt holds.releases few)] at generation'
  rw [generation, generation']

theorem Faithful.rewound_released (faithful : history.Faithful owner)
    (found : history.world.arena? owner = some arena)
    (provided : Provided (history.world.rewind owner memo.arena.snapshot).2.traffic)
    (fewer : (history.act owner (.rewind owner memo.arena.snapshot)).releases < wordLimit)
    {handle : Handle} (names : memo.arena.snapshot.cursor.chunk = some handle)
    (newest : handle.index = memo.arena.chunks.length - 1)
    (gone : arena.liveChunk? handle = none)
    (later : memo.arena.snapshot.generation ≠ arena.generation) :
    Rewound history.world owner arena memo (history.world.rewind owner memo.arena.snapshot)
      .released := by
  have before := provided_of_suffix provided (World.onArena_suffix _ owner _)
  have acted : Provided (history.world.act (.rewind owner memo.arena.snapshot)).traffic := provided
  have total : history.releases < wordLimit := Nat.lt_of_le_of_lt (Nat.le_add_right _ _) fewer
  have generation := faithful.generation arena found
  rw [Nat.mod_eq_of_lt total] at generation
  cases warning : history.world.logs.complaint .warn with
  | some cause =>
    have loud (skew : Nat) : (history.world.env skew).complaint .warn = some cause := warning
    have stops := World.rewind_stops found fun skew =>
      Arena.rewind_of_unwarned names gone later (loud skew)
    rw [newest] at stops
    exact .unwarned cause warning stops
  | none =>
    obtain ⟨returned, settles⟩ :=
      World.rewind_releases (faithful.soundIf before) before found names gone later warning
    have room : arena.generation + 1 < wordLimit := by
      have count := (World.act_ages faithful.soundIf acted found settles.arena).count_of_more
        (by omega) rfl
      simp only [History.act, count] at fewer
      omega
    rw [Nat.mod_eq_of_lt room] at settles
    exact .released warning returned settles

theorem Faithful.rewound (faithful : history.Faithful owner) (listed : memo ∈ history.memos)
    (found : history.world.arena? owner = some arena)
    (provided : Provided (history.world.rewind owner memo.arena.snapshot).2.traffic)
    (few : obtainedBy owner history.world.traffic < wordLimit)
    (fewer : (history.act owner (.rewind owner memo.arena.snapshot)).releases < wordLimit) :
    Rewound history.world owner arena memo (history.world.rewind owner memo.arena.snapshot)
      (history.fate owner memo) := by
  have before := provided_of_suffix provided (World.onArena_suffix _ owner _)
  have holds := faithful.memos memo listed
  have seated := holds.consistent.seated
  cases stack : memo.arena.chunks with
  | nil =>
    simp only [fate, stack]
    exact faithful.rewound_bare holds found before stack
  | cons chunk rest =>
    rw [stack] at seated
    have names : memo.arena.snapshot.cursor.chunk = some ⟨rest.length, chunk.serial⟩ := seated.1
    simp only [fate, stack]
    by_cases kept : chunk.entry owner ∉
        departures (passages owner (since memo.traffic history.world.traffic))
    · rw [if_pos kept]
      exact faithful.rewound_standing holds found before stack kept
    · rw [if_neg kept]
      have gone := faithful.gone holds found few (not_not.mp kept) rest.length
      have older := holds.releases
      have same := faithful.same_generation holds found
        (Nat.lt_of_le_of_lt (Nat.le_add_right _ _) fewer)
      by_cases since_then : memo.releases < history.releases
      · rw [if_pos since_then]
        apply faithful.rewound_released found provided fewer names (by simp [stack]) gone
        rw [ne_eq, same]
        omega
      · rw [if_neg since_then]
        have recent := same.mpr (by omega)
        apply Rewound.discarded
        rw [stack]
        exact World.rewind_stops found fun skew => Arena.rewind_of_stale names gone recent

theorem Faithful.counts (faithful : history.Faithful owner)
    (found : history.world.arena? owner = some arena)
    (provided : Provided (history.world.rewind owner memo.arena.snapshot).2.traffic)
    (rewound : Rewound history.world owner arena memo
      (history.world.rewind owner memo.arena.snapshot) (history.fate owner memo)) :
    (Action.rewind owner memo.arena.snapshot).releases history.world owner =
      if history.fate owner memo = .released ∧ history.world.logs.complaint .warn = none then 1
      else 0 := by
  have acted : Provided (history.world.act (.rewind owner memo.arena.snapshot)).traffic := provided
  have generation : arena.generation < wordLimit := by
    rw [faithful.generation arena found]
    exact Nat.mod_lt _ (by decide)
  have ages {after : Arena}
      (present : (history.world.rewind owner memo.arena.snapshot).2.arena? owner = some after) :
      arena.Ages after _ := World.act_ages faithful.soundIf acted found present
  generalize history.fate owner memo = fate at rewound
  cases rewound with
  | bare settles => simpa using (ages settles.arena).count_of_same generation rfl
  | standing below settles => simpa using (ages settles.arena).count_of_same generation rfl
  | released warned returned settles =>
    rcases ages settles.arena with ⟨same, _⟩ | ⟨_, one_told⟩
    · exact absurd same (Nat.succ_ne_self _)
    · simpa [warned] using one_told
  | unwarned cause loud same =>
    rw [same] at ages
    simpa [loud] using (ages found).count_of_same generation rfl
  | discarded same =>
    rw [same] at ages
    simpa using (ages found).count_of_same generation rfl

end History

/-- In every run, a rewind to any snapshot that the arena took before does what the fate of the
snapshot says. -/
theorem rewind_follows_fate (profile : Profile) (site : Site) (logs : Logs) (owner : Nat)
    (turns : List Turn) {memo : Memo}
    (listed : memo ∈ ((History.start (World.new profile site logs)).run owner turns).memos)
    {arena : Arena}
    (found : ((History.start (World.new profile site logs)).run owner turns).world.arena? owner =
      some arena)
    (provided : Provided (((History.start (World.new profile site logs)).run owner
      turns).world.rewind owner memo.arena.snapshot).2.traffic)
    (few : obtainedBy owner ((History.start (World.new profile site logs)).run owner
      turns).world.traffic < wordLimit)
    (fewer : (((History.start (World.new profile site logs)).run owner turns).act owner
      (.rewind owner memo.arena.snapshot)).releases < wordLimit) :
    Rewound ((History.start (World.new profile site logs)).run owner turns).world owner arena memo
        (((History.start (World.new profile site logs)).run owner turns).world.rewind owner
          memo.arena.snapshot)
        (((History.start (World.new profile site logs)).run owner turns).fate owner memo) ∧
      (Action.rewind owner memo.arena.snapshot).releases
          ((History.start (World.new profile site logs)).run owner turns).world owner =
        if ((History.start (World.new profile site logs)).run owner turns).fate owner memo =
              .released ∧
            ((History.start (World.new profile site logs)).run owner
              turns).world.logs.complaint .warn = none then 1
        else 0 := by
  have before := provided_of_suffix provided (World.onArena_suffix _ owner _)
  have faithful := (History.start_faithful profile site logs owner).run turns before
  have rewound := faithful.rewound listed found provided few fewer
  exact ⟨rewound, faithful.counts found provided rewound⟩

def reversals : List Turn :=
  [.act (.create ⟨"pairs", 16⟩ 0), .save, .act (.place 0 (.bytes 8 8)), .save,
    .act (.release 0), .act (.place 0 (.object .u32 [7])), .save, .act (.place 0 (.bytes 16 8)),
    .save, .rewind 1, .act (.place 0 (.bytes 4 1)),
    .act (.place 0 (.slice .u16 12 (fun _ => [0]) none))]

def reversed : History :=
  (History.start (World.new .debug pagedSite (Logs.empty none))).run 0 reversals

theorem reversed_follows_fates :
    reversed.memos.map (reversed.fate 0) = [.discarded, .standing, .released, .bare] ∧
      ∃ arena, reversed.world.arena? 0 = some arena ∧ ∀ memo ∈ reversed.memos,
        Rewound reversed.world 0 arena memo (reversed.world.rewind 0 memo.arena.snapshot)
          (reversed.fate 0 memo) := by
  have present : (reversed.world.arena? 0).isSome = true := by decide +kernel
  have provided : ∀ memo ∈ reversed.memos,
      Provided (reversed.world.rewind 0 memo.arena.snapshot).2.traffic := by decide +kernel
  have few : obtainedBy 0 reversed.world.traffic < wordLimit := by decide +kernel
  have fewer : ∀ memo ∈ reversed.memos,
      (reversed.act 0 (.rewind 0 memo.arena.snapshot)).releases < wordLimit := by decide +kernel
  obtain ⟨arena, found⟩ := Option.isSome_iff_exists.mp present
  have fates : reversed.memos.map (reversed.fate 0) =
      [.discarded, .standing, .released, .bare] := by decide +kernel
  refine ⟨fates, arena, found, ?_⟩
  intro memo listed
  have provided := provided memo listed
  have fewer := fewer memo listed
  unfold reversed at listed found provided few fewer ⊢
  have rewound := rewind_follows_fate .debug pagedSite (Logs.empty none) 0 reversals listed found
    provided few fewer
  exact rewound.1

/-- With a core logger whose time format does not exist, a rewind that has to warn first stops, and
the arena keeps its chunks. -/
theorem unwritable_warning_stops_rewind :
    let logs := ((Logs.empty none).init Logs.coreName ⟨.warn, "Core", [.stdout], "%Q"⟩).2
    let history := (History.start (World.new .debug pagedSite logs)).run 0
      [.act (.create (Builder.mk "pairs" 16) 0), .act (.place 0 (.bytes 4 1)), .save,
        .act (.release 0), .act (.place 0 (.bytes 4 1))]
    history.memos.map (history.fate 0) = [.released] ∧
      ∀ memo ∈ history.memos,
        Provided (history.world.rewind 0 memo.arena.snapshot).2.traffic ∧
          (history.world.rewind 0 memo.arena.snapshot).1 = .error (.panic .timeFormat) ∧
          ((history.world.rewind 0 memo.arena.snapshot).2.chunks 0).length = 1 := by
  decide +kernel

end ChunkArena
