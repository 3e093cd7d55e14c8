import ChunkArena.Proofs.GuardScopes
import ChunkArena.Proofs.BlockAccounting

/-!
What rewind guards promise. However deeply the scopes are nested and whatever happens inside of
them, the end of the newest scope makes one rewind, which succeeds and gives the arena back as it
was when the scope began. So at the end of the outermost scope the arena is as it was before all of
them. Only a report that cannot be written stops the end of a scope, after its work is done.
-/

namespace ChunkArena

namespace World

variable {world : World} {owner : Nat} {arena : Arena}

theorem provided_after {effects : List Effect} {after : Arena} (gives : arena.Gives effects after)
    (provided : Provided world.traffic) : Provided (world.after owner effects after).traffic := by
  obtain ⟨gone, _, passed⟩ := gives
  have none_obtained : ∀ effect ∈ effects, ∀ chunk, effect ≠ .obtain chunk := by
    intro effect member chunk same
    have listed : chunk.entry owner ∈ effects.filterMap (Effect.passage? owner) :=
      List.mem_filterMap.mpr ⟨effect, member, by rw [same]; rfl⟩
    rw [passed owner, List.mem_map] at listed
    obtain ⟨other, _, impossible⟩ := listed
    cases congrArg Traffic.passage impossible
  clear passed
  have steady (start : World) (before : Provided start.traffic) :
      Provided (effects.foldl (perform owner) start).traffic := by
    induction effects generalizing start with
    | nil => exact before
    | cons effect rest ih =>
      refine ih (fun later inside => none_obtained later (List.mem_cons_of_mem effect inside)) _ ?_
      cases effect with
      | obtain chunk => exact absurd rfl (none_obtained _ (by simp) chunk)
      | giveBack chunk => exact ⟨nofun, before⟩
      | fill start count byte => exact before
      | report label entry => exact before
  exact steady (world.replace owner after) provided

theorem rewind_provided (sound : world.Sound) (provided : Provided world.traffic)
    (found : world.arena? owner = some arena) (snapshot : Snapshot) :
    Provided (world.rewind owner snapshot).2.traffic := by
  obtain ⟨skew, same⟩ := onArena_some found fun arena env => arena.rewind env snapshot
  have same : world.rewind owner snapshot = _ := same
  rw [same]
  exact provided_after (Arena.rewind_rewinds (sound owner arena found).consistent
    (sound.small provided found) (world.env skew) snapshot).gives provided

theorem rewind_over (sound : world.Sound) (provided : Provided world.traffic)
    (found : world.arena? owner = some arena) (snapshot : Snapshot) :
    ∃ after, (world.rewind owner snapshot).2.arena? owner = some after ∧
      ∀ base, base.Consistent → snapshot.Upon base → arena.Over base → after.Over base := by
  obtain ⟨skew, _, present⟩ := onArena_self found fun arena env => arena.rewind env snapshot
  refine ⟨_, present, ?_⟩
  intro base settled since higher
  exact higher.rewind settled (Arena.rewind_rewinds (sound owner arena found).consistent
    (sound.small provided found) (world.env skew) snapshot) since

/-- A rewind to where the arena stands, as seen from the world. -/
theorem rewind_back (sound : world.Sound) (provided : Provided world.traffic)
    (found : world.arena? owner = some arena) {base : Arena} (settled : base.Consistent)
    (higher : arena.Over base) :
    (world.rewind owner base.snapshot).2.arena? owner =
        some { base with nextSerial := arena.nextSerial, disabled := arena.disabled } ∧
      ((world.rewind owner base.snapshot).1 = .ok () ∨
        base.chunkCount < arena.chunkCount ∧ ∃ cause, world.logs.complaint .debug = some cause ∧
          (world.rewind owner base.snapshot).1 = .error (.panic cause)) := by
  obtain ⟨count, upon⟩ := higher
  obtain ⟨skew, answer, present⟩ :=
    onArena_self found fun arena env => arena.rewind env base.snapshot
  have answer : (world.rewind owner base.snapshot).1 = _ := answer
  have present : (world.rewind owner base.snapshot).2.arena? owner = _ := present
  obtain ⟨back, outcome⟩ :=
    upon.rewind_back (settled.held count) (sound owner arena found).consistent
      (sound.small provided found) (world.env skew)
  have disabled : arena.disabled = count := upon.disabled
  have back : (arena.rewind (world.env skew) base.snapshot).arena = _ := back
  rw [back] at present
  rw [answer, present, disabled]
  exact ⟨rfl, outcome⟩

end World

namespace Session

variable {session : Session} {owner : Nat} {guards : List Snapshot} {holds : List Bool}

theorem guards_of_lent (lent : session.world.lent owner = some (guards, holds)) :
    session.guards owner = guards := by
  obtain ⟨tenant, place, same⟩ := Option.map_eq_some_iff.mp lent
  cases same
  simp [Session.guards, place]

theorem isHeld_of_lent (lent : session.world.lent owner = some (guards, holds)) :
    session.isHeld owner = holds.any id := by
  obtain ⟨tenant, place, same⟩ := Option.map_eq_some_iff.mp lent
  cases same
  simp [isHeld, place]

def guarded (session : Session) (owner : Nat) (change : List Snapshot → List Snapshot) : Session :=
  session.modifyTenant owner fun tenant => { tenant with guards := change tenant.guards }

theorem lent_guarded (lent : session.world.lent owner = some (guards, holds))
    (change : List Snapshot → List Snapshot) :
    (session.guarded owner change).world.lent owner = some (change guards, holds) := by
  obtain ⟨tenant, place, same⟩ := Option.map_eq_some_iff.mp lent
  cases same
  simp [guarded, modifyTenant, withWorld, World.lent, place]

theorem arena?_guarded (session : Session) (owner : Nat) (change : List Snapshot → List Snapshot)
    (other : Nat) :
    (session.guarded owner change).world.arena? other = session.world.arena? other := by
  simp only [guarded, modifyTenant, withWorld, World.arena?]
  by_cases own : owner = other
  · subst own
    rw [List.getElem?_modify_eq]
    cases session.world.tenants[owner]? <;> rfl
  · rw [List.getElem?_modify_ne _ _ own]

theorem sound_guarded (sound : session.world.Sound) (change : List Snapshot → List Snapshot) :
    (session.guarded owner change).world.Sound :=
  sound.congr (session.arena?_guarded owner change) rfl rfl

theorem rewindTo_eq (session : Session) (owner : Nat) (snapshot : Snapshot) :
    session.rewindTo owner snapshot =
      (.ofResult ((session.world.rewind owner snapshot).1.map fun _ => .done),
        session.withWorld (session.world.rewind owner snapshot).2) := by
  unfold rewindTo
  change session.finish _ (session.world.rewind owner snapshot) = _
  generalize session.world.rewind owner snapshot = answer
  obtain ⟨result, world⟩ := answer
  cases result <;> rfl

theorem rewindTo_traffic_suffix (session : Session) (owner : Nat) (snapshot : Snapshot) :
    session.world.traffic <:+ (session.rewindTo owner snapshot).2.world.traffic := by
  rw [rewindTo_eq]
  exact World.onArena_suffix session.world owner fun arena env => arena.rewind env snapshot

theorem openGuard_eq (lent : session.world.lent owner = some (guards, []))
    {arena : Arena} (found : session.world.arena? owner = some arena) :
    (session.openGuard owner).2 = session.guarded owner fun guards => arena.snapshot :: guards := by
  have free : session.isHeld owner = false := isHeld_of_lent lent
  simp only [World.arena?, Option.bind_eq_some_iff] at found
  obtain ⟨tenant, place, present⟩ := found
  simp only [openGuard, unlessHeld, free, withArena, place, present]
  rfl

theorem closeGuard_eq {newest : Snapshot} {older : List Snapshot}
    (lent : session.world.lent owner = some (newest :: older, [])) :
    session.closeGuard owner = (session.guarded owner fun _ => older).rewindTo owner newest := by
  have free : session.isHeld owner = false := isHeld_of_lent lent
  have listed : session.guards owner = newest :: older := guards_of_lent lent
  simp only [closeGuard, unlessHeld, free, listed]
  rfl

theorem closeGuard_none (unguarded : session.guards owner = []) :
    (session.closeGuard owner).2 = session := by
  simp only [closeGuard, unlessHeld, unguarded]
  split <;> rfl

theorem unwindGuard_snd (session : Session) (owner : Nat) :
    (session.unwindGuard owner).2 = (session.closeGuard owner).2 := by
  simp only [unwindGuard]
  split <;> rfl

theorem saveState_cases (session : Session) (owner : Nat) :
    (session.saveState owner).2 = session ∨
      ∃ arena, session.world.arena? owner = some arena ∧
        (session.saveState owner).2 =
          { session with states := session.states ++ [(arena.snapshot, false)] } := by
  unfold saveState withArena World.arena?
  cases session.world.tenants[owner]? with
  | none => exact Or.inl rfl
  | some tenant =>
    cases present : tenant.arena with
    | none => exact Or.inl (by simp only [present]; rfl)
    | some arena => exact Or.inr ⟨arena, present, by simp only [present]⟩

theorem rewind_cases (session : Session) (owner state : Nat) :
    (session.rewind owner state).2 = session ∨
      ∃ snapshot, session.states[state]? = some (snapshot, false) ∧
        (session.rewind owner state).2 =
          { session with
            world := (session.world.rewind owner snapshot).2
            states := session.states.set state (snapshot, true) } := by
  unfold rewind
  cases listed : session.states[state]? with
  | none => exact Or.inl rfl
  | some entry =>
    obtain ⟨snapshot, used⟩ := entry
    by_cases held : session.isHeld owner = true
    · simp only [unlessHeld, held]
      exact Or.inl rfl
    · cases used with
      | true =>
        simp only [unlessHeld, held]
        exact Or.inl rfl
      | false =>
        refine Or.inr ⟨snapshot, rfl, ?_⟩
        simp only [unlessHeld, held, Bool.false_eq_true, ↓reduceIte, rewindTo_eq]
        rfl

end Session

namespace ScopeStack

variable {stack : ScopeStack} {owner : Nat}

/-- What is known between two steps. Each arena that a guard was made for is still below, and the
states that may be rewound to are from after the newest guard. -/
structure Safe (stack : ScopeStack) (owner : Nat) : Prop where
  soundIf : stack.session.world.SoundIfProvided
  lent : ∀ loans, stack.session.world.lent owner = some loans →
    loans = (stack.scopes.map fun scope => scope.base.snapshot, [])
  higher : ∀ scope ∈ stack.scopes, ∃ arena, stack.session.world.arena? owner = some arena ∧
    arena.Over scope.base
  settled : ∀ scope ∈ stack.scopes, scope.base.Consistent
  nested : stack.scopes.Pairwise fun newer older =>
    newer.base.snapshot.Upon older.base ∧ older.mark ≤ newer.mark
  marked : ∀ scope ∈ stack.scopes, scope.mark ≤ stack.session.states.length
  since : ∀ scope ∈ stack.scopes, ∀ (state : Nat) (snapshot : Snapshot) (used : Bool),
    stack.session.states[state]? = some (snapshot, used) → scope.mark ≤ state →
      snapshot.Upon scope.base

theorem start_safe {world : World} (soundIf : world.SoundIfProvided) (unlent : world.Unlent)
    (owner : Nat) :
    (start world).Safe owner where
  soundIf := soundIf
  lent := unlent owner
  higher := by simp [start]
  settled := by simp [start]
  nested := List.Pairwise.nil
  marked := by simp [start]
  since := by simp [start]

theorem Safe.scopes_of_unlent (safe : stack.Safe owner)
    (unlent : stack.session.world.lent owner = none) : stack.scopes = [] := by
  have vacant : stack.session.world.tenants[owner]? = none := Option.map_eq_none_iff.mp unlent
  rw [List.eq_nil_iff_forall_not_mem]
  intro scope listed
  obtain ⟨arena, present, _⟩ := safe.higher scope listed
  simp [World.arena?, vacant] at present

theorem Safe.guards (safe : stack.Safe owner) :
    stack.session.guards owner = stack.scopes.map fun scope => scope.base.snapshot := by
  cases found : stack.session.world.lent owner with
  | some loans =>
    have same := safe.lent loans found
    rw [same] at found
    exact Session.guards_of_lent found
  | none =>
    have vacant : stack.session.world.tenants[owner]? = none := Option.map_eq_none_iff.mp found
    simp [Session.guards, vacant, safe.scopes_of_unlent found]

theorem Safe.lent_of_some (safe : stack.Safe owner) {arena : Arena}
    (found : stack.session.world.arena? owner = some arena) :
    stack.session.world.lent owner =
      some (stack.scopes.map fun scope => scope.base.snapshot, []) := by
  obtain ⟨loans, lent⟩ := World.lent_of_some found
  rw [lent, safe.lent loans lent]

theorem Safe.guard (safe : stack.Safe owner)
    (provided : Provided stack.session.world.traffic) : (stack.make owner .guard).Safe owner := by
  simp only [make]
  cases found : stack.session.world.arena? owner with
  | none => exact safe
  | some arena =>
    have lent := safe.lent_of_some found
    have consistent := (safe.soundIf provided owner arena found).consistent
    have above (scope : Scope) (listed : scope ∈ stack.scopes) : arena.Over scope.base := by
      obtain ⟨home, present, higher⟩ := safe.higher scope listed
      cases found.symm.trans present
      exact higher
    simp only [Option.elim_some, Session.openGuard_eq lent found]
    have same := stack.session.arena?_guarded owner (arena.snapshot :: ·) owner
    constructor
    · intro given
      exact Session.sound_guarded (safe.soundIf given) _
    · intro loans present
      rw [Session.lent_guarded lent] at present
      exact (Option.some.inj present).symm
    · intro scope listed
      refine ⟨arena, same.trans found, ?_⟩
      rcases List.mem_cons.mp listed with newest | older
      · rw [newest]
        exact .refl arena
      · exact above scope older
    · intro scope listed
      rcases List.mem_cons.mp listed with newest | older
      · rw [newest]
        exact consistent
      · exact safe.settled scope older
    · refine List.pairwise_cons.mpr ⟨?_, safe.nested⟩
      intro older listed
      exact ⟨(above older listed).snapshot consistent, safe.marked older listed⟩
    · intro scope listed
      rcases List.mem_cons.mp listed with newest | older
      · rw [newest]
        exact Nat.le_refl _
      · exact safe.marked scope older
    · intro scope listed state snapshot used saved later
      rcases List.mem_cons.mp listed with newest | older
      · have inside := (List.getElem?_eq_some_iff.mp saved).1
        rw [newest] at later
        exact absurd inside (Nat.not_lt.mpr later)
      · exact safe.since scope older state snapshot used saved later

theorem Safe.close (safe : stack.Safe owner)
    (provided : Provided stack.session.world.traffic) : (stack.make owner .unguard).Safe owner := by
  have listed := safe.guards
  simp only [make]
  cases scopes : stack.scopes with
  | nil =>
    rw [scopes] at listed
    rw [Session.closeGuard_none listed, List.tail_nil, ← scopes]
    exact safe
  | cons newest older =>
    have member : newest ∈ stack.scopes := by simp [scopes]
    obtain ⟨arena, found, _⟩ := safe.higher newest member
    have lent := safe.lent_of_some found
    have nested := safe.nested
    rw [scopes] at lent nested
    obtain ⟨since, nested⟩ := List.pairwise_cons.mp nested
    have earlier (scope : Scope) (inside : scope ∈ older) : scope ∈ stack.scopes := by
      rw [scopes]
      exact List.mem_cons_of_mem newest inside
    rw [Session.closeGuard_eq lent, Session.rewindTo_eq, List.tail_cons]
    generalize popped : stack.session.guarded owner
      (fun _ => older.map fun scope => scope.base.snapshot) = rest
    have lent' := Session.lent_guarded lent fun _ => older.map fun scope => scope.base.snapshot
    have found' : rest.world.arena? owner = some arena := by
      rw [← popped, Session.arena?_guarded]
      exact found
    have sound' : rest.world.Sound := by
      rw [← popped]
      exact Session.sound_guarded (safe.soundIf provided) _
    have provided' : Provided rest.world.traffic := by
      rw [← popped]
      exact provided
    rw [popped] at lent'
    have states : rest.states = stack.session.states := by
      rw [← popped]
      rfl
    obtain ⟨after, present, higher⟩ :=
      World.rewind_over sound' provided' found' newest.base.snapshot
    constructor
    · intro given
      exact World.SoundIfProvided.act (fun _ => sound') (.rewind owner newest.base.snapshot) given
    · intro loans lends
      have kept : (rest.world.rewind owner newest.base.snapshot).2.lent owner = _ :=
        World.lent_onArena owner _ owner
      have lends : (rest.world.rewind owner newest.base.snapshot).2.lent owner = _ := lends
      rw [kept, lent'] at lends
      exact (Option.some.inj lends).symm
    · intro scope inside
      obtain ⟨home, here, upon⟩ := safe.higher scope (earlier scope inside)
      cases found.symm.trans here
      exact ⟨after, present, higher scope.base (safe.settled scope (earlier scope inside))
        (since scope inside).1 upon⟩
    · exact fun scope inside => safe.settled scope (earlier scope inside)
    · exact nested
    · intro scope inside
      have mark := safe.marked scope (earlier scope inside)
      rw [← states] at mark
      exact mark
    · intro scope inside state snapshot used saved
      exact safe.since scope (earlier scope inside) state snapshot used (states ▸ saved)

theorem Safe.save (safe : stack.Safe owner)
    (provided : Provided stack.session.world.traffic) : (stack.make owner .save).Safe owner := by
  simp only [make]
  rcases stack.session.saveState_cases owner with refused | ⟨arena, found, saved⟩
  · rw [refused]
    exact safe
  · rw [saved]
    refine ⟨safe.soundIf, safe.lent, safe.higher, safe.settled, safe.nested, ?_, ?_⟩
    · intro scope listed
      exact Nat.le_trans (safe.marked scope listed) (by simp)
    · intro scope listed state snapshot used place later
      by_cases before : state < stack.session.states.length
      · rw [List.getElem?_append_left before] at place
        exact safe.since scope listed state snapshot used place later
      · rw [List.getElem?_append_right (Nat.not_lt.mp before)] at place
        have last := List.mem_singleton.mp (List.mem_of_getElem? place)
        obtain ⟨home, present, higher⟩ := safe.higher scope listed
        cases found.symm.trans present
        cases last
        exact higher.snapshot (safe.soundIf provided owner arena found).consistent

theorem Safe.rewind (safe : stack.Safe owner) {state : Nat}
    (allowed : stack.Allows owner (.rewind state))
    (provided : Provided stack.session.world.traffic) :
    (stack.make owner (.rewind state)).Safe owner := by
  simp only [make]
  rcases stack.session.rewind_cases owner state with refused | ⟨snapshot, saved, done⟩
  · rw [refused]
    exact safe
  · rw [done]
    have sound := safe.soundIf provided
    -- The marks grow, so a state from after the newest guard is from after them all.
    have later (scope : Scope) (listed : scope ∈ stack.scopes) : scope.mark ≤ state := by
      have nested := safe.nested
      have allowed : ∀ scope ∈ stack.scopes.head?, scope.mark ≤ state := allowed
      cases scopes : stack.scopes with
      | nil => simp [scopes] at listed
      | cons newest older =>
        rw [scopes] at listed nested allowed
        have top : newest.mark ≤ state := allowed newest rfl
        rcases List.mem_cons.mp listed with same | inside
        · rw [same]
          exact top
        · exact Nat.le_trans ((List.pairwise_cons.mp nested).1 scope inside).2 top
    constructor
    · intro given
      exact World.SoundIfProvided.act safe.soundIf (.rewind owner snapshot) given
    · intro loans lends
      have kept : (stack.session.world.rewind owner snapshot).2.lent owner = _ :=
        World.lent_onArena owner _ owner
      exact safe.lent loans (kept.symm.trans lends)
    · intro scope listed
      obtain ⟨arena, found, upon⟩ := safe.higher scope listed
      obtain ⟨after, present, higher⟩ := World.rewind_over sound provided found snapshot
      exact ⟨after, present, higher scope.base (safe.settled scope listed)
        (safe.since scope listed state snapshot false saved (later scope listed)) upon⟩
    · exact safe.settled
    · exact safe.nested
    · intro scope listed
      have mark := safe.marked scope listed
      rw [List.length_set]
      exact mark
    · intro scope listed other mine used place after
      by_cases same : state = other
      · subst same
        have inside := (List.getElem?_eq_some_iff.mp saved).1
        rw [List.getElem?_set_self inside] at place
        cases place
        exact safe.since scope listed state snapshot false saved after
      · rw [List.getElem?_set_ne same] at place
        exact safe.since scope listed other mine used place after

theorem Safe.act (safe : stack.Safe owner) {action : Action}
    (allowed : stack.Allows owner (.act action))
    (provided : Provided (stack.session.world.act action).traffic) :
    (stack.make owner (.act action)).Safe owner := by
  have inside : action.Inside owner := allowed
  constructor
  · exact safe.soundIf.act action
  · intro loans lends
    cases found : stack.session.world.lent owner with
    | some lent => exact safe.lent loans (found.trans (World.act_lent inside found ▸ lends))
    | none =>
      rcases (World.act_sequence safe.soundIf provided).lent owner with same | bare
      · cases (same.trans found).symm.trans lends
      · cases bare.symm.trans lends
        have bare : (stack.make owner (.act action)).scopes = [] := safe.scopes_of_unlent found
        rw [bare]
        rfl
  · intro scope listed
    obtain ⟨arena, found, upon⟩ := safe.higher scope listed
    obtain ⟨after, present, higher⟩ := World.act_over safe.soundIf inside provided found
    exact ⟨after, present, higher scope.base upon⟩
  · exact safe.settled
  · exact safe.nested
  · exact safe.marked
  · exact safe.since

theorem make_traffic_suffix (stack : ScopeStack) (owner : Nat) (scopeStep : ScopeStep) :
    stack.session.world.traffic <:+ (stack.make owner scopeStep).session.world.traffic := by
  have closes : stack.session.world.traffic <:+
      (stack.session.closeGuard owner).2.world.traffic := by
    simp only [Session.closeGuard, Session.unlessHeld]
    split
    · exact List.suffix_refl _
    · split
      · exact List.suffix_refl _
      · rename_i newest older _
        exact (stack.session.guarded owner fun _ => older).rewindTo_traffic_suffix owner newest
  cases scopeStep with
  | guard =>
    simp only [make]
    cases stack.session.world.arena? owner with
    | none => exact List.suffix_refl _
    | some arena =>
      simp only [Option.elim_some, Session.openGuard, Session.unlessHeld, Session.withArena]
      split
      · exact List.suffix_refl _
      · split
        · exact List.suffix_refl _
        · split <;> exact List.suffix_refl _
  | unguard => exact closes
  | unwind =>
    simp only [make, Session.unwindGuard_snd]
    exact closes
  | save =>
    simp only [make]
    rcases stack.session.saveState_cases owner with same | ⟨_, _, same⟩
    · rw [same]
    · rw [same]
  | rewind state =>
    simp only [make]
    rcases stack.session.rewind_cases owner state with same | ⟨snapshot, _, same⟩
    · rw [same]
    · rw [same]
      exact World.onArena_suffix _ owner _
  | act action => exact stack.session.world.act_traffic_suffix action

theorem step_traffic_suffix (stack : ScopeStack) (owner : Nat) (scopeStep : ScopeStep) :
    stack.session.world.traffic <:+ (stack.step owner scopeStep).session.world.traffic := by
  unfold step
  split
  · exact stack.make_traffic_suffix owner scopeStep
  · exact List.suffix_refl _

theorem run_traffic_suffix (stack : ScopeStack) (owner : Nat) (scopeSteps : List ScopeStep) :
    stack.session.world.traffic <:+ (stack.run owner scopeSteps).session.world.traffic :=
  suffix_foldl (fun stack => stack.session.world.traffic)
    (fun stack scopeStep => stack.step_traffic_suffix owner scopeStep) stack scopeSteps

theorem Safe.step (safe : stack.Safe owner) (scopeStep : ScopeStep)
    (provided : Provided (stack.step owner scopeStep).session.world.traffic) :
    (stack.step owner scopeStep).Safe owner := by
  have before := provided_of_suffix provided (stack.step_traffic_suffix owner scopeStep)
  by_cases allowed : stack.Allows owner scopeStep
  · rw [ScopeStack.step, if_pos allowed] at provided ⊢
    cases scopeStep with
    | guard => exact safe.guard before
    | unguard => exact safe.close before
    | unwind =>
      have same : stack.make owner .unwind = stack.make owner .unguard := by
        simp only [make, Session.unwindGuard_snd]
      rw [same]
      exact safe.close before
    | save => exact safe.save before
    | rewind state => exact safe.rewind allowed before
    | act action => exact safe.act allowed provided
  · rw [ScopeStack.step, if_neg allowed]
    exact safe

theorem Safe.run (safe : stack.Safe owner) (scopeSteps : List ScopeStep)
    (provided : Provided (stack.run owner scopeSteps).session.world.traffic) :
    (stack.run owner scopeSteps).Safe owner :=
  foldl_keeps (P := fun stack : ScopeStack => stack.Safe owner)
    (fun stack => stack.session.world.traffic)
    (fun stack scopeStep => stack.step_traffic_suffix owner scopeStep)
    (fun _ scopeStep safe between => safe.step scopeStep between) safe scopeSteps provided

end ScopeStack

end ChunkArena
