import ChunkArena.Session.Step
import ChunkArena.Proofs.WorldSteps
import ChunkArena.Proofs.SnapshotIntervals

/-!
Rewind guards in scopes inside each other. Inside of a scope anything may be called that the guard
lets through: requests, growths, disposals, more guards, and rewinds to states that were saved since
the newest guard was made, used again or stale or not. Scopes end by themselves or by a panic. All
the while the arena stands upon what it was when each of the guards was made, and so does every
state that may be rewound to.
-/

namespace ChunkArena

namespace Arena

/-- Whether an arena has everything that another one had, and any number of disable guards. -/
def Over (arena base : Arena) : Prop := ∃ count, arena.Upon { base with disabled := count } 0

theorem Over.refl (arena : Arena) : arena.Over arena := ⟨arena.disabled, .refl arena⟩

theorem Over.held {arena base : Arena} (higher : arena.Over base) (count : Nat) :
    Over { arena with disabled := count } base := by
  obtain ⟨_, upon⟩ := higher
  exact ⟨count, upon.label, upon.chunkCapacity, upon.generation, rfl, upon.stack, upon.level⟩

theorem Over.snapshot {arena base : Arena} (higher : arena.Over base)
    (consistent : arena.Consistent) : arena.snapshot.Upon base := by
  obtain ⟨_, upon⟩ := higher
  obtain ⟨generation, bare, high⟩ := upon.snapshot consistent
  exact ⟨generation, bare, high⟩

theorem Consistent.held {arena : Arena} (consistent : arena.Consistent) (count : Nat) :
    Consistent { arena with disabled := count } :=
  ⟨consistent.linked, consistent.seated, consistent.nonempty⟩

theorem Over.rewind {arena base : Arena} (higher : arena.Over base) (settled : base.Consistent)
    {env : Env} {snapshot : Snapshot} {reply : Reply Unit}
    (rewinds : arena.Rewinds env snapshot reply) (since : snapshot.Upon base) :
    reply.arena.Over base := by
  obtain ⟨count, upon⟩ := higher
  exact ⟨count, upon.rewind (settled.held count) rewinds ⟨since.generation, since.bare, since.high⟩⟩

end Arena

def Action.Inside (owner : Nat) : Action → Prop
  | rewind other _ | release other | drop other => other ≠ owner
  | _ => True

instance (owner : Nat) : (action : Action) → Decidable (action.Inside owner)
  | .rewind other _ | .release other | .drop other => inferInstanceAs (Decidable (other ≠ owner))
  | .create .. | .place .. | .grow .. | .dispose .. | .write .. | .disable _ | .enable _ | .log _ =>
      .isTrue trivial

namespace World

def lent (world : World) (owner : Nat) : Option (List Snapshot × List Bool) :=
  world.tenants[owner]?.map fun tenant => (tenant.guards, tenant.holds)

variable {world : World} {owner : Nat} {loans : List Snapshot × List Bool}

theorem lent_after (other : Nat) (effects : List Effect) (next : Arena) (owner : Nat) :
    (world.after other effects next).lent owner = world.lent owner := by
  have tenants := (foldl_perform_frame other (world.replace other next) effects).1
  rw [lent, after, tenants, lent]
  by_cases own : other = owner
  · subst own
    simp only [replace, List.getElem?_modify_eq]
    cases world.tenants[other]? <;> rfl
  · simp only [replace, List.getElem?_modify_ne _ _ own]

theorem lent_onArena {α : Type} (other : Nat) (call : Arena → Env → Reply α) (owner : Nat) :
    (world.onArena other call).2.lent owner = world.lent owner := by
  rcases world.onArena_world other call with same | ⟨effects, arena, same⟩
  · rw [same]
  · rw [same, lent_after]

theorem lent_addArena (found : world.lent owner = some loans) (arena : Arena) (skew : Nat) :
    (world.addArena arena skew).lent owner = some loans := by
  simp only [lent, Option.map_eq_some_iff] at found ⊢
  obtain ⟨tenant, place, same⟩ := found
  have inside := (List.getElem?_eq_some_iff.mp place).1
  refine ⟨tenant, ?_, same⟩
  simp only [addArena]
  rw [List.getElem?_append_left inside]
  exact place

theorem lent_vacated {other : Nat} (different : other ≠ owner) :
    (world.vacated other).lent owner = world.lent owner := by
  simp only [lent, vacated, List.getElem?_modify_ne _ _ different]

theorem Served.lent {other : Nat} {first last : World} (served : Served other first last) :
    last.lent owner = first.lent owner := by
  induction served with
  | done => rfl
  | ask call size align answers _ ih => exact ih.trans (lent_onArena other call owner)
  | note memory tally _ ih => exact ih

theorem act_lent {action : Action} (inside : action.Inside owner)
    (found : world.lent owner = some loans) : (world.act action).lent owner = some loans := by
  cases action with
  | create builder skew => exact lent_addArena found builder.build skew
  | place other request => exact (world.serve_served other request).lent.trans found
  | grow other | rewind other | disable other | enable other | release other =>
    exact (lent_onArena other _ owner).trans found
  | dispose other depth address disposal =>
    simp only [act]
    obtain ⟨kind, change, ⟨failure, _, stopped⟩ | ⟨layout, _, done⟩⟩ :=
      dispose_cases world other depth address disposal
    · rw [stopped, count_eq]
      exact found
    · rw [done, lent_onArena, count_eq]
      exact found
  | write | log => exact found
  | drop other =>
    rw [act, drop_eq, lent_vacated inside]
    exact (lent_onArena other _ owner).trans found

theorem Step.lent {first last : World} (step : Step first last) (owner : Nat) :
    last.lent owner = first.lent owner ∨ last.lent owner = some ([], []) := by
  cases step with
  | change => exact Or.inl (lent_after ..)
  | outside => exact Or.inl rfl
  | arrive builder skew =>
    cases found : first.lent owner with
    | some loans => exact Or.inl (lent_addArena found builder.build skew)
    | none =>
      have vacant : first.tenants[owner]? = none := Option.map_eq_none_iff.mp found
      have outside := List.getElem?_eq_none_iff.mp vacant
      simp only [World.lent, addArena]
      rw [List.getElem?_append_right outside]
      cases owner - first.tenants.length with
      | zero => exact Or.inr rfl
      | succ => exact Or.inl rfl
  | leave other =>
    by_cases own : other = owner
    · subst own
      simp only [World.lent, vacated, List.getElem?_modify_eq]
      cases first.tenants[other]? with
      | none => exact Or.inl rfl
      | some tenant => exact Or.inr rfl
    · exact Or.inl (lent_vacated own)

theorem StepSequence.lent {first last : World} (sequence : StepSequence first last) (owner : Nat) :
    last.lent owner = first.lent owner ∨ last.lent owner = some ([], []) := by
  induction sequence with
  | refl => exact Or.inl rfl
  | tail _ step ih =>
    rcases step.lent owner with same | bare
    · rw [same]
      exact ih
    · exact Or.inr bare

def Unlent (world : World) : Prop := ∀ owner loans, world.lent owner = some loans → loans = ([], [])

theorem StepSequence.unlent {first last : World} (sequence : StepSequence first last)
    (unlent : first.Unlent) :
    last.Unlent := by
  intro owner loans found
  rcases sequence.lent owner with same | bare
  · exact unlent owner loans (same.symm.trans found)
  · exact (Option.some.inj (bare.symm.trans found)).symm

theorem lent_of_some {arena : Arena} (found : world.arena? owner = some arena) :
    ∃ loans, world.lent owner = some loans := by
  simp only [arena?, Option.bind_eq_some_iff] at found
  obtain ⟨tenant, place, _⟩ := found
  exact ⟨_, by rw [lent, place]; rfl⟩

section Over

variable {arena base : Arena}

theorem Upholds.act_inside (upholds : world.Upholds owner base 0) (soundIf : world.SoundIfProvided)
    {action : Action} (between : action.Between owner 0)
    (plain : ∀ other, action ≠ .disable other ∧ action ≠ .enable other)
    (provided : Provided (world.act action).traffic) :
    (world.act action).Upholds owner base 0 := by
  have acted := upholds.act soundIf between provided
  cases action with
  | disable other => exact absurd rfl (plain other).1
  | enable other => exact absurd rfl (plain other).2
  | _ => exact acted

/-- Whatever the guards let through leaves the arena standing upon all it stood upon. -/
theorem act_over (soundIf : world.SoundIfProvided) {action : Action} (inside : action.Inside owner)
    (provided : Provided (world.act action).traffic) (found : world.arena? owner = some arena) :
    ∃ after, (world.act action).arena? owner = some after ∧
      ∀ base, arena.Over base → after.Over base := by
  have holds {call : Arena → Env → Reply Unit}
      (held : ∀ (arena : Arena) (env : Env), ∃ count result,
        call arena env = ⟨result, { arena with disabled := count }, []⟩) :
      ∃ after, (world.onArena owner call).2.arena? owner = some after ∧
        ∀ base, arena.Over base → after.Over base := by
    obtain ⟨skew, _, present⟩ := onArena_self found call
    obtain ⟨count, result, same⟩ := held arena (world.env skew)
    rw [same] at present
    exact ⟨_, present, fun base higher => higher.held count⟩
  have plainly (between : action.Between owner 0)
      (plain : ∀ other, action ≠ .disable other ∧ action ≠ .enable other) :
      ∃ after, (world.act action).arena? owner = some after ∧
        ∀ base, arena.Over base → after.Over base := by
    have itself : world.Upholds owner arena 0 :=
      ⟨arena, found, by rw [Profile.counted_zero]; exact .refl arena⟩
    obtain ⟨after, present, _⟩ := itself.act_inside soundIf between plain provided
    refine ⟨after, present, ?_⟩
    rintro base ⟨count, upon⟩
    have upholds : world.Upholds owner { base with disabled := count } 0 :=
      ⟨arena, found, by rw [Profile.counted_zero]; exact upon⟩
    obtain ⟨after', present', upon'⟩ := upholds.act_inside soundIf between plain provided
    cases present.symm.trans present'
    rw [Profile.counted_zero] at upon'
    exact ⟨count, upon'⟩
  cases action with
  | disable other =>
    by_cases own : other = owner
    · subst own
      exact holds fun arena env => Arena.disable_holds arena env.profile
    · exact ⟨arena, world.act_other (by simpa [Action.owner?] using own) found, fun _ same => same⟩
  | enable other =>
    by_cases own : other = owner
    · subst own
      exact holds fun arena env => Arena.enable_holds arena env.profile
    · exact ⟨arena, world.act_other (by simpa [Action.owner?] using own) found, fun _ same => same⟩
  | create | write | log | place | grow | dispose =>
    exact plainly trivial (by simp)
  | rewind | release | drop => exact plainly inside (by simp)

end Over

end World

/-- What the machine remembers of a guard: the arena when it was made, and the number of states that
had been saved. -/
structure Scope where
  base : Arena
  mark : Nat

structure ScopeStack where
  session : Session
  scopes : List Scope

inductive ScopeStep
  | guard
  | unguard
  | unwind
  | save
  | rewind (state : Nat)
  | act (action : Action)

namespace ScopeStack

def start (world : World) : ScopeStack := ⟨⟨world, [], []⟩, []⟩

def Allows (stack : ScopeStack) (owner : Nat) : ScopeStep → Prop
  | .rewind state => ∀ scope ∈ stack.scopes.head?, scope.mark ≤ state
  | .act action => action.Inside owner
  | _ => True

instance (stack : ScopeStack) (owner : Nat) (scopeStep : ScopeStep) :
    Decidable (stack.Allows owner scopeStep) := by
  cases scopeStep <;> unfold Allows <;> infer_instance

def make (owner : Nat) (stack : ScopeStack) : ScopeStep → ScopeStack
  | .guard =>
      (stack.session.world.arena? owner).elim stack fun arena =>
        ⟨(stack.session.openGuard owner).2, ⟨arena, stack.session.states.length⟩ :: stack.scopes⟩
  | .unguard => ⟨(stack.session.closeGuard owner).2, stack.scopes.tail⟩
  | .unwind => ⟨(stack.session.unwindGuard owner).2, stack.scopes.tail⟩
  | .save => ⟨(stack.session.saveState owner).2, stack.scopes⟩
  | .rewind state => ⟨(stack.session.rewind owner state).2, stack.scopes⟩
  | .act action => ⟨stack.session.withWorld (stack.session.world.act action), stack.scopes⟩

def step (owner : Nat) (stack : ScopeStack) (scopeStep : ScopeStep) : ScopeStack :=
  if stack.Allows owner scopeStep then stack.make owner scopeStep else stack

def run (owner : Nat) (stack : ScopeStack) (scopeSteps : List ScopeStep) : ScopeStack :=
  scopeSteps.foldl (step owner) stack

end ScopeStack

end ChunkArena
