import ChunkArena.Proofs.RewindGuardScopes

/-!
What rewind guards promise. However deeply the scopes are nested and whatever happened inside of
them, the end of the newest scope makes one rewind, which gives the arena back as it was when the
scope began, and the end of them all gives it back as it was before the outermost one. Only a report
that cannot be written makes the end of a scope panic, and after its work is done.
-/

namespace ChunkArena

/-- What the end of the newest guard does, by itself or by a panic of its scope: one rewind, back to
the arena from when the guard was made. -/
structure Session.Ends (session : Session) (owner : Nat) (arena base : Arena)
    (older : List Snapshot) : Prop where
  once : session.closeGuard owner =
    (session.guarded owner fun _ => older).rewindTo owner base.snapshot
  older : (session.closeGuard owner).2.guards owner = older
  back : (session.closeGuard owner).2.world.arena? owner =
    some { base with nextSerial := arena.nextSerial, disabled := arena.disabled }
  outcome : (session.closeGuard owner).1 = .ofResult (.ok .done) ∨
    base.chunkCount < arena.chunkCount ∧ ∃ cause,
      session.world.logs.complaint .debug = some cause ∧
        (session.closeGuard owner).1 = .ofResult (.error (.panic cause))
  unwound : (base.chunkCount < arena.chunkCount → session.world.logs.complaint .debug = none) →
    session.unwindGuard owner =
      (.ofResult (.error (.panic .scopeFailed)), (session.closeGuard owner).2)

namespace ScopeStack

structure ScopesRestore (stack : ScopeStack) (owner : Nat) (newest : Scope) (older : List Scope)
    (arena : Arena) : Prop where
  ends : stack.session.Ends owner arena newest.base (older.map fun scope => scope.base.snapshot)
  outermost : ∀ endings : List ScopeStep,
    (∀ scopeStep ∈ endings, scopeStep = .unguard ∨ scopeStep = .unwind) →
      endings.length = older.length + 1 →
        (stack.run owner endings).session.world.arena? owner =
            some { (older.getLastD newest).base with
              nextSerial := arena.nextSerial, disabled := arena.disabled } ∧
          (stack.run owner endings).session.guards owner = []

variable {stack : ScopeStack} {owner : Nat} {newest : Scope} {older : List Scope}

theorem Safe.ends (safe : stack.Safe owner) (provided : Provided stack.session.world.traffic)
    (alive : stack.scopes = newest :: older) :
    ∃ arena, stack.session.world.arena? owner = some arena ∧
      stack.session.Ends owner arena newest.base
        (older.map fun scope => scope.base.snapshot) := by
  have member : newest ∈ stack.scopes := by simp [alive]
  obtain ⟨arena, found, higher⟩ := safe.higher newest member
  have lent := safe.lent_of_some found
  rw [alive] at lent
  have once := Session.closeGuard_eq lent
  have popped := Session.lent_guarded lent fun _ => older.map fun scope => scope.base.snapshot
  have present := stack.session.arena?_guarded owner
    (fun _ => older.map fun scope => scope.base.snapshot) owner
  obtain ⟨back, outcome⟩ := World.rewind_back
    (Session.sound_guarded (safe.soundIf provided) _) provided (present.trans found)
    (safe.settled newest member) higher
  have done : (stack.session.closeGuard owner).1 = .ofResult (.ok .done) ∨
      newest.base.chunkCount < arena.chunkCount ∧ ∃ cause,
        stack.session.world.logs.complaint .debug = some cause ∧
          (stack.session.closeGuard owner).1 = .ofResult (.error (.panic cause)) := by
    rw [once, Session.rewindTo_eq]
    rcases outcome with returned | ⟨more, cause, loud, stopped⟩
    · exact Or.inl (by simp only [returned]; rfl)
    · exact Or.inr ⟨more, cause, loud, by simp only [stopped]; rfl⟩
  refine ⟨arena, found, once, ?_, ?_, done, ?_⟩
  · rw [once, Session.rewindTo_eq]
    apply Session.guards_of_lent
    exact (World.lent_onArena owner _ owner).trans popped
  · rw [once, Session.rewindTo_eq]
    exact back
  · intro quiet
    have returned : (stack.session.closeGuard owner).1 = .ofResult (.ok .done) := by
      rcases done with returned | ⟨more, cause, loud, _⟩
      · exact returned
      · cases (quiet more).symm.trans loud
    simp only [Session.unwindGuard, returned]
    rfl

theorem step_ending (stack : ScopeStack) (owner : Nat) {ending : ScopeStep}
    (ends : ending = .unguard ∨ ending = .unwind) :
    stack.step owner ending = ⟨(stack.session.closeGuard owner).2, stack.scopes.tail⟩ := by
  rcases ends with same | same
  · subst same
    rfl
  · subst same
    change stack.make owner .unwind = _
    simp only [make, Session.unwindGuard_snd]

theorem Safe.endings (safe : stack.Safe owner) (provided : Provided stack.session.world.traffic)
    (alive : stack.scopes = newest :: older) {arena : Arena}
    (found : stack.session.world.arena? owner = some arena) {endings : List ScopeStep}
    (ends : ∀ scopeStep ∈ endings, scopeStep = .unguard ∨ scopeStep = .unwind)
    (length : endings.length = older.length + 1) :
    (stack.run owner endings).session.world.arena? owner =
        some { (older.getLastD newest).base with
          nextSerial := arena.nextSerial, disabled := arena.disabled } ∧
      (stack.run owner endings).session.guards owner = [] := by
  induction endings generalizing stack newest older arena with
  | nil => simp at length
  | cons ending rest ih =>
    obtain ⟨home, present, ended⟩ := safe.ends provided alive
    cases found.symm.trans present
    have stepped := stack.step_ending owner (ends ending (by simp))
    have back := ended.back
    have provided' : Provided (stack.step owner ending).session.world.traffic := by
      rw [stepped, ended.once, Session.rewindTo_eq]
      exact World.rewind_provided (Session.sound_guarded (safe.soundIf provided) _) provided
        ((stack.session.arena?_guarded owner _ owner).trans found) newest.base.snapshot
    have safe' := safe.step ending provided'
    rw [stepped, alive, List.tail_cons] at safe' provided'
    have run : stack.run owner (ending :: rest) =
        ScopeStack.run owner ⟨(stack.session.closeGuard owner).2, older⟩ rest := by
      rw [ScopeStack.run, List.foldl_cons, stepped, alive, List.tail_cons]
      rfl
    rw [run]
    cases older with
    | nil =>
      have finished : rest = [] := List.eq_nil_of_length_eq_zero (by simpa using length)
      subst finished
      exact ⟨back, ended.older⟩
    | cons next further =>
      have later := ih safe' provided' rfl back
        (fun scopeStep inside => ends scopeStep (List.mem_cons_of_mem ending inside))
        (by simpa using length)
      rw [List.getLastD_cons]
      exact later

end ScopeStack

/-- In every run inside of nested scopes, the end of the newest scope, and of them all, gives the
arena back. -/
theorem guards_shelter (profile : Profile) (site : Site) (logs : Logs) (earlier : List Action)
    (owner : Nat) (scopeSteps : List ScopeStep)
    (provided : Provided ((ScopeStack.start ((World.new profile site logs).run earlier)).run owner
      scopeSteps).session.world.traffic) {newest : Scope} {older : List Scope}
    (alive : ((ScopeStack.start ((World.new profile site logs).run earlier)).run owner
      scopeSteps).scopes = newest :: older) :
    ∃ arena, ((ScopeStack.start ((World.new profile site logs).run earlier)).run owner
        scopeSteps).session.world.arena? owner = some arena ∧
      ((ScopeStack.start ((World.new profile site logs).run earlier)).run owner
        scopeSteps).ScopesRestore owner
        newest older arena := by
  have origin := World.new_soundIfProvided profile site logs
  have settled := origin.run earlier
  have before : Provided ((World.new profile site logs).run earlier).traffic :=
    provided_of_suffix provided
      (ScopeStack.run_traffic_suffix (ScopeStack.start _) owner scopeSteps)
  have unlent : ((World.new profile site logs).run earlier).Unlent := by
    refine (World.run_sequence origin earlier before).unlent ?_
    intro owner loans impossible
    cases impossible
  have safe := (ScopeStack.start_safe settled unlent owner).run scopeSteps provided
  obtain ⟨arena, found, ends⟩ := safe.ends provided alive
  exact
    ⟨arena, found, ends, fun endings each length => safe.endings provided alive found each length⟩

def scopeSteps : List ScopeStep :=
  [.guard, .act (.place 0 (.bytes 16 8)), .guard, .save, .act (.place 0 (.object .u32 [7])), .save,
    .rewind 0, .act (.place 0 (.bytes 24 8)), .rewind 1, .act (.disable 0)]

def scopesRun (count : Nat) : ScopeStack :=
  (ScopeStack.start ((World.new .debug pagedSite (Logs.empty none)).run
    [.create ⟨"pairs", 16⟩ 0, .place 0 (.bytes 4 4)])).run 0 (scopeSteps.take count)

theorem stale_scopes_sheltered :
    ((scopesRun 8).session.rewind 0 1).1.result.map (fun _ => ()) =
        .error (.panic (.staleSnapshot "pairs" 2)) ∧
      ∃ newest older arena, (scopesRun 10).scopes = [newest, older] ∧
        (scopesRun 10).session.world.arena? 0 = some arena ∧
          (scopesRun 10).ScopesRestore 0 newest [older] arena := by
  have stale : ((scopesRun 8).session.rewind 0 1).1.result.map (fun _ => ()) =
      .error (.panic (.staleSnapshot "pairs" 2)) := by decide +kernel
  have provided : Provided (scopesRun 10).session.world.traffic := by decide +kernel
  have deep : (scopesRun 10).scopes.length = 2 := by decide +kernel
  obtain ⟨newest, older, alive⟩ := List.length_eq_two.mp deep
  unfold scopesRun at stale provided alive ⊢
  have sheltered := guards_shelter .debug pagedSite (Logs.empty none)
    [.create ⟨"pairs", 16⟩ 0, .place 0 (.bytes 4 4)] 0 (scopeSteps.take 10) provided alive
  obtain ⟨arena, found, shelters⟩ := sheltered
  exact ⟨stale, newest, older, arena, alive, found, shelters⟩

/-- With a core logger whose time format does not exist, the end of a scope panics after it gave the
chunk from inside back. -/
theorem unwritable_report_stops_guard :
    let logs := ((Logs.empty none).init Logs.coreName ⟨.debug, "Core", [.stdout], "%Q"⟩).2
    let stack := (ScopeStack.start ((World.new .debug pagedSite logs).run
      [.create (Builder.mk "pairs" 16) 0])).run 0 [.guard, .act (.place 0 (.bytes 4 4))]
    Provided stack.session.world.traffic ∧ stack.scopes.length = 1 ∧
      (stack.session.closeGuard 0).1.result.map (fun _ => ()) = .error (.panic .timeFormat) ∧
      ((stack.session.closeGuard 0).2.world.chunks 0).length = 0 := by
  decide +kernel

end ChunkArena
