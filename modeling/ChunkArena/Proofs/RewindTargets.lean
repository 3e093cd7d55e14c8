import ChunkArena.Proofs.RewindOutcomes

/-!
Where a rewind leads. As long as an arena was not released since, its own snapshot leads back to the
place that was saved if the chunks from then are still there, and stops otherwise. The place that
was saved lies below the current one as long as the arena was rewound only to snapshots taken after
it. A rewind to an older snapshot leaves the saved place above the current one; if the chunk is
still there, the cursor goes forward to it again.
-/

namespace ChunkArena

namespace Arena

/-- Whether the position of an arena, that is the number of its chunks and the place in the newest
of them, is not beyond that of another one. -/
def AtMost (arena other : Arena) : Prop :=
  arena.chunks.length < other.chunks.length ∨
    arena.chunks.length = other.chunks.length ∧ arena.cursor.next ≤ other.cursor.next

variable {arena base : Arena}

theorem Upon.atMost {guards : Nat} (upon : arena.Upon base guards) : base.AtMost arena := by
  rcases Nat.lt_or_eq_of_le upon.stack.length_le with fewer | same
  · exact Or.inl fewer
  · exact Or.inr ⟨same, upon.level same.symm⟩

theorem atMost_or_forward (below : base.chunks <:+ arena.chunks) :
    base.AtMost arena ∨ base.chunks = arena.chunks ∧ arena.cursor.next < base.cursor.next := by
  rcases Nat.lt_or_eq_of_le below.length_le with fewer | same
  · exact Or.inl (Or.inl fewer)
  · by_cases level : base.cursor.next ≤ arena.cursor.next
    · exact Or.inl (Or.inr ⟨same, level⟩)
    · exact Or.inr ⟨below.eq_of_length same, Nat.lt_of_not_le level⟩

end Arena

def Action.Onward (owner : Nat) : Action → Prop
  | rewind other _ | release other | drop other => other ≠ owner
  | _ => True

/-- Whether turns rewind an arena only to snapshots out of the last so many, and otherwise neither
rewind nor release it. Snapshots taken on the way join these. -/
def Onward (owner : Nat) : Nat → List Turn → Prop
  | _, [] => True
  | taken, .save :: rest => Onward owner (taken + 1) rest
  | taken, .rewind which :: rest => which < taken ∧ Onward owner taken rest
  | taken, .act action :: rest => action.Onward owner ∧ Onward owner taken rest

namespace World

variable {world : World} {owner : Nat} {base : Arena}

def Rests (world : World) (owner : Nat) (base : Arena) : Prop :=
  ∃ count, world.Upholds owner { base with disabled := count } 0

theorem Rests.upon (rests : world.Rests owner base) {arena : Arena}
    (found : world.arena? owner = some arena) :
    ∃ count, arena.Upon { base with disabled := count } 0 := by
  obtain ⟨count, home, present, upon⟩ := rests
  rw [found] at present
  cases present
  rw [Profile.counted_zero] at upon
  exact ⟨count, upon⟩

theorem Rests.hold (rests : world.Rests owner base) {other : Nat} {call : Arena → Env → Reply Unit}
    (holds : ∀ arena env, ∃ count result,
      call arena env = ⟨result, { arena with disabled := count }, []⟩) :
    (world.onArena other call).2.Rests owner base := by
  by_cases own : owner = other
  · subst own
    obtain ⟨_, arena, found, _⟩ := id rests
    obtain ⟨_, upon⟩ := rests.upon found
    obtain ⟨skew, _, after⟩ := onArena_self found call
    obtain ⟨count, result, same⟩ := holds arena (world.env skew)
    rw [same] at after
    refine ⟨count, _, after, ?_⟩
    rw [Profile.counted_zero]
    exact ⟨upon.label, upon.chunkCapacity, upon.generation, rfl, upon.stack, upon.level⟩
  · obtain ⟨count, arena, found, upon⟩ := rests
    refine ⟨count, arena, (world.onArena_other own call).trans found, ?_⟩
    rw [onArena_profile]
    exact upon

theorem Rests.act (rests : world.Rests owner base) (soundIf : world.SoundIfProvided)
    {action : Action}
    (onward : action.Onward owner) (provided : Provided (world.act action).traffic) :
    (world.act action).Rests owner base := by
  have guarded (between : action.Between owner 0)
      (none_made : action.guardsAfter world owner 0 = 0) : (world.act action).Rests owner base := by
    obtain ⟨count, upholds⟩ := rests
    have after := upholds.act soundIf between provided
    rw [none_made] at after
    exact ⟨count, after⟩
  cases action with
  | disable other => exact rests.hold fun arena env => Arena.disable_holds arena env.profile
  | enable other => exact rests.hold fun arena env => Arena.enable_holds arena env.profile
  | rewind other | release other | drop other => exact guarded onward rfl
  | create | place | grow | dispose | write | log => exact guarded trivial rfl

end World

namespace History

variable {history : History} {owner taken : Nat} {base : Arena}

structure Ahead (history : History) (owner taken : Nat) (base : Arena) : Prop where
  soundIf : history.world.SoundIfProvided
  rests : history.world.Rests owner base
  since : ∀ memo ∈ history.memos.take taken, memo.arena.snapshot.Upon base

theorem Ahead.turn (ahead : history.Ahead owner taken base) (settled : base.Consistent)
    {turn : Turn} {rest : List Turn} (onward : Onward owner taken (turn :: rest))
    (provided : Provided (history.turn owner turn).world.traffic) :
    ∃ more, (history.turn owner turn).Ahead owner more base ∧ Onward owner more rest := by
  have before := provided_of_suffix provided (history.turn_traffic_suffix owner turn)
  have sound := ahead.soundIf before
  obtain ⟨count, arena, found, _⟩ := id ahead.rests
  obtain ⟨count, upon⟩ := ahead.rests.upon found
  cases turn with
  | save =>
    have saved : history.turn owner .save =
        { history with memos :=
          ⟨arena, history.world.traffic, history.releases⟩ :: history.memos } := by
      simp only [History.turn, found, Option.elim_some]
    rw [saved]
    refine ⟨taken + 1, ⟨ahead.soundIf, ahead.rests, ?_⟩, onward⟩
    intro memo listed
    rw [List.take_succ_cons] at listed
    rcases List.mem_cons.mp listed with same | older
    · have taken_now := upon.snapshot (sound owner arena found).consistent
      rw [same]
      exact ⟨taken_now.generation, taken_now.bare, taken_now.high⟩
    · exact ahead.since memo older
  | rewind which =>
    obtain ⟨recent, onward⟩ := onward
    cases listed : history.memos[which]? with
    | none =>
      have idle : history.turn owner (.rewind which) = history := by
        simp only [History.turn, listed, Option.elim_none]
      rw [idle]
      exact ⟨taken, ahead, onward⟩
    | some memo =>
      have rewound : history.turn owner (.rewind which) =
          history.act owner (.rewind owner memo.arena.snapshot) := by
        simp only [History.turn, listed, Option.elim_some]
      have since : memo.arena.snapshot.Upon base := by
        apply ahead.since
        rw [List.mem_take_iff_getElem]
        obtain ⟨inside, same⟩ := List.getElem?_eq_some_iff.mp listed
        exact ⟨which, Nat.lt_min.mpr ⟨recent, inside⟩, same⟩
      rw [rewound] at provided ⊢
      refine ⟨taken, ⟨ahead.soundIf.act _, ⟨count, ?_⟩, ahead.since⟩, onward⟩
      have upholds : history.world.Upholds owner { base with disabled := count } 0 := by
        refine ⟨arena, found, ?_⟩
        rw [Profile.counted_zero]
        exact upon
      apply upholds.onArena
      intro arena env found _ upon
      have rewinds := Arena.rewind_rewinds (sound owner arena found).consistent
        (sound.small before found) env memo.arena.snapshot
      exact upon.rewind ⟨settled.linked, settled.seated, settled.nonempty⟩ rewinds
        ⟨since.generation, since.bare, since.high⟩
  | act action =>
    obtain ⟨onward, later⟩ := onward
    exact ⟨taken, ⟨ahead.soundIf.act action, ahead.rests.act ahead.soundIf onward provided,
      ahead.since⟩, later⟩

theorem Ahead.run (ahead : history.Ahead owner taken base) (settled : base.Consistent)
    {turns : List Turn} (onward : Onward owner taken turns)
    (provided : Provided (history.run owner turns).world.traffic) :
    (history.run owner turns).world.Rests owner base := by
  induction turns generalizing history taken with
  | nil => exact ahead.rests
  | cons turn rest ih =>
    have between := provided_of_suffix provided
      ((history.turn owner turn).run_traffic_suffix owner rest)
    obtain ⟨more, next, onward⟩ := ahead.turn settled onward between
    exact ih next onward provided

theorem turn_memos_suffix (owner : Nat) (history : History) (turn : Turn) :
    history.memos <:+ (history.turn owner turn).memos := by
  cases turn with
  | save =>
    simp only [History.turn]
    cases history.world.arena? owner with
    | none => exact List.suffix_refl _
    | some arena => exact List.suffix_cons _ _
  | rewind which =>
    simp only [History.turn]
    cases history.memos[which]? <;> exact List.suffix_refl _
  | act action => exact List.suffix_refl _

theorem run_memos_suffix (owner : Nat) (history : History) (turns : List Turn) :
    history.memos <:+ (history.run owner turns).memos := by
  induction turns generalizing history with
  | nil => exact List.suffix_refl _
  | cons turn rest ih =>
    exact (history.turn_memos_suffix owner turn).trans (ih (history.turn owner turn))

end History

/-- What a rewind to an arena's own snapshot does if there was no release since. The place that it
goes to is not beyond the one before, unless it is in the same chunk. -/
inductive OwnRewind (before : World) (owner : Nat) (arena base : Arena)
    (answer : Except Failure Unit × World) : Prop where
  | lands (below : base.chunks <:+ arena.chunks)
      (settles : Settles before owner answer
        { arena with chunks := base.chunks, cursor := base.cursor })
      (forward : base.AtMost arena ∨
        base.chunks = arena.chunks ∧ arena.cursor.next < base.cursor.next)
  | stale (gone : ¬ base.chunks <:+ arena.chunks)
      (same : answer =
        (.error (.panic (.staleSnapshot arena.label (base.chunks.length - 1))), before))

theorem History.Faithful.ownRewind {history : History} {owner : Nat}
    (faithful : history.Faithful owner)
    {memo : Memo} (listed : memo ∈ history.memos) {arena : Arena}
    (found : history.world.arena? owner = some arena) (provided : Provided history.world.traffic)
    (few : obtainedBy owner history.world.traffic < wordLimit)
    (recent : memo.releases = history.releases) :
    OwnRewind history.world owner arena memo.arena
      (history.world.rewind owner memo.arena.snapshot) := by
  have holds := faithful.memos memo listed
  have seated := holds.consistent.seated
  cases stack : memo.arena.chunks with
  | nil =>
    rw [stack] at seated
    cases faithful.rewound_bare holds found provided stack with
    | bare settles =>
      have below : memo.arena.chunks <:+ arena.chunks := by
        rw [stack]
        exact List.nil_suffix
      refine .lands below ?_ (Arena.atMost_or_forward below)
      rw [stack, seated]
      exact settles
  | cons chunk rest =>
    rw [stack] at seated
    have names : memo.arena.snapshot.cursor.chunk = some ⟨rest.length, chunk.serial⟩ := seated.1
    by_cases kept : chunk.entry owner ∉
        departures (passages owner (since memo.traffic history.world.traffic))
    · cases faithful.rewound_standing holds found provided stack kept with
      | standing below settles => exact .lands below settles (Arena.atMost_or_forward below)
    · have gone := faithful.gone holds found few (not_not.mp kept) rest.length
      apply OwnRewind.stale
      · intro below
        rw [stack] at below
        rw [Arena.live_of_suffix below] at gone
        cases gone
      · have same : memo.arena.snapshot.generation = arena.generation := by
          rw [faithful.generation arena found, ← recent]
          exact holds.generation
        rw [stack]
        exact World.rewind_stops found fun skew => Arena.rewind_of_stale names gone same

/-- In every run, a rewind to a snapshot from before, with no release since, goes to the place that
was saved or stops as stale and changes nothing. The cursor goes forward only inside of the newest
chunk, and not at all if the arena was rewound only to snapshots taken later. -/
theorem rewind_lands_at_snapshot (profile : Profile) (site : Site) (logs : Logs) (owner : Nat)
    (earlier later : List Turn) {base arena : Arena}
    (saved : ((History.start (World.new profile site logs)).run owner earlier).world.arena? owner =
      some base)
    (found : ((History.start (World.new profile site logs)).run owner
      (earlier ++ .save :: later)).world.arena? owner = some arena)
    (provided : Provided ((History.start (World.new profile site logs)).run owner
      (earlier ++ .save :: later)).world.traffic)
    (few : obtainedBy owner ((History.start (World.new profile site logs)).run owner
      (earlier ++ .save :: later)).world.traffic < wordLimit)
    (recent : ((History.start (World.new profile site logs)).run owner
        (earlier ++ .save :: later)).releases =
      ((History.start (World.new profile site logs)).run owner earlier).releases) :
    OwnRewind ((History.start (World.new profile site logs)).run owner
        (earlier ++ .save :: later)).world owner arena base
        (((History.start (World.new profile site logs)).run owner
          (earlier ++ .save :: later)).world.rewind owner base.snapshot) ∧
      (Onward owner 1 later → base.chunks <:+ arena.chunks ∧ base.AtMost arena) := by
  have whole : (History.start (World.new profile site logs)).run owner (earlier ++ .save :: later) =
      (((History.start (World.new profile site logs)).run owner earlier).turn owner .save).run owner
        later := List.foldl_append
  rw [whole] at found provided few recent ⊢
  have start := History.start_faithful profile site logs owner
  generalize within : (History.start (World.new profile site logs)).run owner earlier = middle at *
  have noted : middle.turn owner .save =
      { middle with memos := ⟨base, middle.world.traffic, middle.releases⟩ :: middle.memos } := by
    simp only [History.turn, saved, Option.elim_some]
  have between :=
    provided_of_suffix provided ((middle.turn owner .save).run_traffic_suffix owner later)
  rw [noted] at found provided few recent between ⊢
  have faithful : middle.Faithful owner := by
    rw [← within]
    exact start.run earlier (by rw [within]; exact between)
  have faithful_noted := faithful.turn .save (by rw [noted]; exact between)
  rw [noted] at faithful_noted
  have listed := (History.run_memos_suffix owner
    { middle with memos := ⟨base, middle.world.traffic, middle.releases⟩ :: middle.memos }
    later).subset List.mem_cons_self
  have backed := faithful.soundIf between owner base saved
  refine ⟨(faithful_noted.run later provided).ownRewind listed found provided few recent.symm, ?_⟩
  intro onward
  have ahead : History.Ahead
      { middle with memos := ⟨base, middle.world.traffic, middle.releases⟩ :: middle.memos }
      owner 1 base := by
    have upon := Arena.Upon.refl base
    refine ⟨faithful.soundIf, ⟨base.disabled, base, saved, ?_⟩, ?_⟩
    · rw [Profile.counted_zero]
      exact upon
    · intro memo recently
      rw [List.take_succ_cons, List.take_zero] at recently
      rw [List.mem_singleton.mp recently]
      exact upon.snapshot backed.consistent
  obtain ⟨count, upon⟩ := (ahead.run backed.consistent onward provided).upon found
  exact ⟨upon.stack, upon.atMost⟩

def innerRewind : List Turn :=
  [.act (.place 0 (.bytes 16 8)), .save, .act (.place 0 (.object .u32 [7])), .act (.disable 0),
    .rewind 0]

theorem innerRewind_lands_below :
    ∃ base arena,
      OwnRewind ((History.start (World.new .debug pagedSite (Logs.empty none))).run 0
          ([.act (.create ⟨"pairs", 16⟩ 0), .act (.place 0 (.bytes 8 8))] ++
            .save :: innerRewind)).world 0 arena base
          (((History.start (World.new .debug pagedSite (Logs.empty none))).run 0
            ([.act (.create ⟨"pairs", 16⟩ 0), .act (.place 0 (.bytes 8 8))] ++
              .save :: innerRewind)).world.rewind 0 base.snapshot) ∧
        base.AtMost arena := by
  obtain ⟨base, saved⟩ := Option.isSome_iff_exists.mp (by decide +kernel :
    (((History.start (World.new .debug pagedSite (Logs.empty none))).run 0
      [.act (.create ⟨"pairs", 16⟩ 0), .act (.place 0 (.bytes 8 8))]).world.arena? 0).isSome = true)
  obtain ⟨arena, found⟩ := Option.isSome_iff_exists.mp (by decide +kernel :
    (((History.start (World.new .debug pagedSite (Logs.empty none))).run 0
      ([.act (.create ⟨"pairs", 16⟩ 0), .act (.place 0 (.bytes 8 8))] ++
        .save :: innerRewind)).world.arena? 0).isSome = true)
  obtain ⟨lands, onward⟩ :=
    rewind_lands_at_snapshot .debug pagedSite (Logs.empty none) 0 _ innerRewind
      saved found (by decide +kernel) (by decide +kernel) (by decide +kernel)
  exact ⟨base, arena, lands, (onward (by simp [Onward, innerRewind, Action.Onward])).2⟩

/-- Two snapshots in one chunk. Rewinding to the older one undoes what the newer one had saved, and
yet the newer one leads forward again, since the chunk is still there. -/
theorem undone_snapshot_leads_forward :
    let history := (History.start (World.new .debug pagedSite (Logs.empty none))).run 0
      [.act (.create ⟨"pairs", 16⟩ 0), .act (.place 0 (.bytes 4 1)), .save,
        .act (.place 0 (.bytes 4 1)), .save, .rewind 1]
    (history.world.arena? 0).map Arena.remaining = some 12 ∧
      ∃ memo ∈ history.memos, memo.releases = history.releases ∧
        (history.world.rewind 0 memo.arena.snapshot).1 = .ok () ∧
        ((history.world.rewind 0 memo.arena.snapshot).2.arena? 0).map Arena.remaining = some 8 ∧
        Provided (history.world.rewind 0 memo.arena.snapshot).2.traffic := by
  decide +kernel

end ChunkArena
