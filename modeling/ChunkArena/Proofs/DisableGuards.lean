import ChunkArena.Proofs.PairedRequests
import ChunkArena.Proofs.GuardIndifference
import ChunkArena.Proofs.StrippedWorlds

/-!
What disable guards suspend. In a debug build an arena counts the guards that were made of it and
not dropped yet, whatever else happens and in whatever order they go. While there is one, every call
that would hand out memory panics and changes nothing but the counts of values: no block, no byte,
no constructor is touched. And once there is none, everything is answered as it would have been
without any guards and without the calls that they stopped.
-/

namespace ChunkArena

namespace World

/-- Whether a world is what another one would be without its disable guards. What was counted about
values may differ, apart from the defaults. -/
structure Unguarded (world bare : World) : Prop where
  profile : bare.profile = world.profile
  site : bare.site = world.site
  memory : bare.memory = world.memory
  traffic : bare.traffic = world.traffic
  logs : bare.logs = world.logs
  tenants : bare.tenants = world.tenants.map Tenant.stripped
  defaults : bare.tally.defaults = world.tally.defaults

namespace Unguarded

variable {world bare : World} {owner : Nat}

theorem env (unguarded : world.Unguarded bare) (skew : Nat) : bare.env skew = world.env skew := by
  simp only [World.env, unguarded.profile, unguarded.site, unguarded.traffic, unguarded.logs]

theorem perform (unguarded : world.Unguarded bare) (owner : Nat) (effect : Effect) :
    (perform owner world effect).Unguarded (perform owner bare effect) := by
  obtain ⟨profile, site, memory, traffic, logs, tenants, defaults⟩ := unguarded
  cases effect with
  | obtain chunk =>
    refine ⟨profile, site, memory, ?_, logs, tenants, defaults⟩
    simp only [World.perform, traffic]
  | giveBack chunk =>
    refine ⟨profile, site, memory, ?_, logs, tenants, defaults⟩
    simp only [World.perform, memory, traffic]
  | fill start count byte =>
    refine ⟨profile, site, ?_, traffic, logs, tenants, defaults⟩
    simp only [World.perform, memory]
  | report label entry =>
    simp only [World.perform, logs]
    exact ⟨profile, site, memory, traffic, rfl, tenants, defaults⟩

theorem performs (unguarded : world.Unguarded bare) (owner : Nat) (effects : List Effect) :
    (effects.foldl (World.perform owner) world).Unguarded
      (effects.foldl (World.perform owner) bare) := by
  induction effects generalizing world bare with
  | nil => exact unguarded
  | cons effect rest ih => exact ih (unguarded.perform owner effect)

theorem onArena (unguarded : world.Unguarded bare) {α : Type} {call : Arena → Env → Reply α}
    (alike : ∀ arena env, world.arena? owner = some arena →
      call (arena.counting 0) env = (call arena env).counting 0) :
    (bare.onArena owner call).1 = (world.onArena owner call).1 ∧
      (world.onArena owner call).2.Unguarded (bare.onArena owner call).2 := by
  have place : bare.tenants[owner]? = (world.tenants[owner]?).map Tenant.stripped := by
    rw [unguarded.tenants, List.getElem?_map]
  unfold World.onArena
  rw [place]
  cases found : world.tenants[owner]? with
  | none => exact ⟨rfl, unguarded⟩
  | some tenant =>
    simp only [Option.map_some, Tenant.stripped]
    cases present : tenant.arena with
    | none => exact ⟨rfl, unguarded⟩
    | some arena =>
      have here : world.arena? owner = some arena := by simp [World.arena?, found, present]
      have same := alike arena (world.env tenant.skew) here
      change call arena.stripped (world.env tenant.skew) = _ at same
      simp only [Option.map_some, unguarded.env, same, commit]
      refine ⟨rfl, performs ?_ owner _⟩
      refine ⟨unguarded.profile, unguarded.site, unguarded.memory, unguarded.traffic,
        unguarded.logs, ?_, unguarded.defaults⟩
      simp only [unguarded.tenants, List.map_set, Tenant.stripped, Reply.counting]
      rfl

theorem count (unguarded : world.Unguarded bare) {change : Tally → Tally}
    (steady : Tally.Steady change) (kind : Kind) :
    (world.count kind change).Unguarded (bare.count kind change) := by
  obtain ⟨profile, site, memory, traffic, logs, tenants, defaults⟩ := unguarded
  unfold World.count
  split
  · exact ⟨profile, site, memory, traffic, logs, tenants, steady _ _ defaults⟩
  · exact ⟨profile, site, memory, traffic, logs, tenants, defaults⟩

theorem store (unguarded : world.Unguarded bare) (start : Nat) (bytes : List UInt8) :
    Unguarded { world with memory := world.memory.store start bytes }
      { bare with memory := bare.memory.store start bytes } :=
  ⟨unguarded.profile, unguarded.site, by simp only [unguarded.memory], unguarded.traffic,
    unguarded.logs, unguarded.tenants, unguarded.defaults⟩

end Unguarded

end World

namespace Request

def haltArray (label : String) (kind : Kind) (number : Nat) : Panic :=
  match kind.layout.array? number with
  | none => .arrayTooLong label number kind.name
  | some _ => .disabled label

/-- The panic of a request while no memory may be handed out. A clone comes before the allocation,
and so does the length of an array. -/
def halt (label : String) : Request → Panic
  | array kind number | slice kind number .. => haltArray label kind number
  | objects kind values _ => haltArray label kind values.length
  | objectCopy _ _ refused => if refused then .cloneRefused else .disabled label
  | _ => .disabled label

def Real : Request → Prop
  | constructSlice _ kind values _ => values.length * kind.size ≤ blockLimit
  | _ => True

end Request

namespace World

/-- What an arena with disable guards answers: panics, and nothing changes but counts of values. -/
structure Suspended (world : World) (owner : Nat) (label : String) : Prop where
  requests : ∀ request : Request, request.Real → ∃ tally,
    tally.defaults = world.tally.defaults ∧
      request.ask world owner =
        ((.error (.panic (request.halt label)), []), { world with tally := tally })
  constructors : ∀ kind inner stops value,
    (Request.objectWith kind inner stops value).ask world owner =
      ((.error (.panic (.disabled label)), []), world)
  growths : ∀ start old new elementSize,
    world.grow owner start old new elementSize = (.error (.panic (.disabled label)), world)

def Stalled (world : World) (cause : Panic) (answer : Except Failure Nat × World) : Prop :=
  ∃ tally, tally.defaults = world.tally.defaults ∧
    answer = (.error (.panic cause), { world with tally := tally })

namespace Stalled

variable {world : World} {cause : Panic} {answer : Except Failure Nat × World} {kind : Kind}

theorem unchanged (cause : Panic) : world.Stalled cause (.error (.panic cause), world) :=
  ⟨world.tally, rfl, rfl⟩

theorem count {change : Tally → Tally} (level : ∀ tally, (change tally).defaults = tally.defaults)
    (stalled : (world.count kind change).Stalled cause answer) : world.Stalled cause answer := by
  obtain ⟨tally, same, done⟩ := stalled
  rw [count_eq] at same done
  refine ⟨tally, same.trans ?_, done⟩
  simp only
  split
  · exact level world.tally
  · rfl

theorem settle (stalled : world.Stalled cause answer) (kind : Kind) (value : Value) :
    world.Stalled cause (World.settle kind value answer) := by
  obtain ⟨tally, same, done⟩ := stalled
  have left : World.settle kind value (.error (.panic cause), { world with tally := tally }) =
      (.error (.panic cause), abandon { world with tally := tally } kind) := rfl
  rw [done, left, abandon, count_eq]
  refine ⟨_, ?_, rfl⟩
  split <;> exact same

end Stalled

section Halting

variable {world : World} {owner : Nat} {arena : Arena}

theorem onArena_refused {α : Type} (found : world.arena? owner = some arena)
    {call : Arena → Env → Reply α} {failure : Failure}
    (refused : ∀ env : Env, env.profile = world.profile →
      call arena env = ⟨.error failure, arena, []⟩) :
    world.onArena owner call = (.error failure, world) := by
  obtain ⟨skew, same⟩ := onArena_some found call
  rw [same, refused (world.env skew) rfl]
  exact congrArg (Except.error failure, ·) (replace_self found)

variable (strict : world.profile = .debug) (found : world.arena? owner = some arena)
  (off : 0 < arena.disabled)

include strict found off

theorem tryAllocate_halts (size align : Nat) :
    (world.onArena owner fun arena env => arena.tryAllocate env size align) =
      (.error (.panic (.disabled arena.label)), world) := by
  apply onArena_refused found
  intro env profile
  simp [Arena.tryAllocate, profile, strict, Profile.checks, Arena.isDisabled, off]

theorem allocate_halts (size align : Nat) :
    world.allocate owner size align = (.error (.panic (.disabled arena.label)), world) := by
  apply onArena_refused found
  intro env profile
  simp [Arena.allocate, Arena.tryAllocate, profile, strict, Profile.checks, Arena.isDisabled, off]

theorem allocateRaw_halts (depth : Nat) (layout : Layout) :
    world.allocateRaw (.nested owner depth) layout =
      (.error (.panic (.disabled arena.label)), world) := by
  rw [allocateRaw_nested]
  exact tryAllocate_halts strict found off layout.size layout.align

theorem allocateArray_halts (kind : Kind) (number : Nat) :
    world.allocateArray owner kind number =
      (.error (.panic (Request.haltArray arena.label kind number)), world) := by
  apply onArena_refused found
  intro env profile
  unfold Arena.allocateArray Request.haltArray
  cases kind.layout.array? number with
  | none => rfl
  | some layout =>
    simp [Arena.allocate, Arena.tryAllocate, profile, strict, Profile.checks, Arena.isDisabled, off]

theorem suspended : world.Suspended owner arena.label := by
  have counted (kind : Kind) (change : Tally → Tally) :
      (world.count kind change).profile = .debug ∧
        (world.count kind change).arena? owner = some arena := by
    rw [count_eq]
    exact ⟨strict, found⟩
  -- What was counted before the allocation is counted whether or not it succeeds.
  have behind (kind : Kind) (value : Value) {change : Tally → Tally}
      (level : ∀ tally, (change tally).defaults = tally.defaults) :
      world.Stalled (.disabled arena.label)
        (settle kind value ((world.count kind change).allocate owner kind.size kind.align)) := by
    rw [allocate_halts (counted kind change).1 (counted kind change).2 off]
    exact (Stalled.count level (.unchanged _)).settle kind value
  have outright {request : Request} {answer : Except Failure Nat × World}
      (same : request.ask world owner = alone answer)
      (stalled : world.Stalled (request.halt arena.label) answer) :
      ∃ tally, tally.defaults = world.tally.defaults ∧ request.ask world owner =
        ((.error (.panic (request.halt arena.label)), []), { world with tally := tally }) := by
    obtain ⟨tally, level, done⟩ := stalled
    exact ⟨tally, level, by rw [same, done]; rfl⟩
  refine ⟨?_, ?_, ?_⟩
  · intro request real
    cases request with
    | bytes size align =>
      apply outright rfl
      rw [allocate_halts strict found off]
      exact .unchanged _
    | tryBytes size align =>
      apply outright rfl
      rw [tryAllocate_halts strict found off]
      exact .unchanged _
    | raw depth layout =>
      apply outright rfl
      rw [allocateRaw_halts strict found off]
      exact .unchanged _
    | array kind number =>
      apply outright rfl
      rw [allocateArray_halts strict found off]
      exact .unchanged _
    | object kind value => exact outright rfl (behind kind value fun _ => rfl)
    | objectCopy kind value refused =>
      apply outright rfl
      cases refused with
      | true => exact .unchanged _
      | false => exact behind kind value fun _ => rfl
    | objectWith kind inner stops value =>
      refine ⟨world.tally, rfl, ?_⟩
      simp only [Request.ask, newObjectWith, allocate_halts strict found off]
      rfl
    | objects kind values stop =>
      apply outright rfl
      simp only [newObjectsCopy, allocateArray_halts strict found off]
      exact .unchanged _
    | slice kind number make stop =>
      apply outright rfl
      simp only [newSlice, allocateArray_halts strict found off]
      exact .unchanged _
    | construct depth kind value dropPanics =>
      apply outright rfl
      obtain ⟨strict', found'⟩ := counted kind fun tally => { tally with moves := tally.moves + 1 }
      simp only [World.construct, moveIn, allocateRaw_halts strict' found' off]
      have moved (tally : Tally) :
          ({ tally with moves := tally.moves + 1 } : Tally).defaults = tally.defaults := rfl
      exact (Stalled.count moved (.unchanged _)).settle kind value
    | constructSlice depth kind values stop =>
      apply outright rfl
      simp only [World.constructSlice, kind.array?_of_real real, allocateRaw_halts strict found off]
      exact .unchanged _
  · intro kind inner stops value
    simp only [Request.ask, newObjectWith, allocate_halts strict found off]
  · intro start old new elementSize
    apply onArena_refused found
    intro env profile
    simp [Arena.grow, profile, strict, Profile.checks, Arena.isDisabled, off]

end Halting

def Stops (world : World) : Action → Prop
  | .place owner _ | .grow owner .. => ∃ arena ∈ world.arena? owner, 0 < arena.disabled
  | _ => False

instance (world : World) : (action : Action) → Decidable (world.Stops action)
  | .place owner _ | .grow owner .. =>
      inferInstanceAs (Decidable (∃ arena ∈ world.arena? owner, 0 < arena.disabled))
  | .create .. | .dispose .. | .write .. | .rewind .. | .disable _ | .enable _ | .release _
  | .drop _ | .log _ => .isFalse id

end World

def Action.Plain : Action → Prop
  | .disable _ | .enable _ => False
  | _ => True

instance : (action : Action) → Decidable action.Plain
  | .disable _ | .enable _ => .isFalse id
  | .create .. | .place .. | .grow .. | .dispose .. | .write .. | .rewind .. | .release _
  | .drop _ | .log _ => .isTrue trivial

/-- A world, and the arenas of the disable guards that were made and not dropped, newest first. One
that is leaked is never dropped. -/
structure GuardedWorld where
  world : World
  guards : List Nat

inductive GuardedStep
  | guard (owner : Nat)
  | unguard (which : Nat)
  | act (action : Action)

namespace GuardedWorld

def start (site : Site) (logs : Logs) : GuardedWorld := ⟨.new .debug site logs, []⟩

def step (guarded : GuardedWorld) : GuardedStep → GuardedWorld
  | .guard owner =>
      let answer := guarded.world.disable owner
      ⟨answer.2, if answer.1.isOk = true then owner :: guarded.guards else guarded.guards⟩
  | .unguard which =>
      (guarded.guards[which]?).elim guarded fun owner =>
        ⟨(guarded.world.enable owner).2, guarded.guards.eraseIdx which⟩
  | .act action =>
      if action.Plain then { guarded with world := guarded.world.act action } else guarded

def run (guarded : GuardedWorld) (guardedSteps : List GuardedStep) : GuardedWorld :=
  guardedSteps.foldl step guarded

/-- What is left of a step without the guards, and without what they stop. -/
def spared (guarded : GuardedWorld) : GuardedStep → List Action
  | .act action => if action.Plain ∧ ¬ guarded.world.Stops action then [action] else []
  | _ => []

def unguarded (guarded : GuardedWorld) : List GuardedStep → List Action
  | [] => []
  | guardedStep :: rest => guarded.spared guardedStep ++ (guarded.step guardedStep).unguarded rest

end GuardedWorld

namespace World

def Enabled (world : World) (owner : Nat) : Prop :=
  ∀ arena, world.arena? owner = some arena → arena.disabled = 0

theorem arena?_onArena {world : World} {owner : Nat} {α : Type} {call : Arena → Env → Reply α}
    {property : Arena → Prop}
    (kept : ∀ arena env, world.arena? owner = some arena → property (call arena env).arena)
    {after : Arena} (found : (world.onArena owner call).2.arena? owner = some after) :
    property after := by
  cases before : world.arena? owner with
  | none =>
    obtain ⟨cause, nothing⟩ := onArena_none before call
    rw [nothing] at found
    cases before.symm.trans found
  | some arena =>
    obtain ⟨skew, _, present⟩ := onArena_self before call
    cases found.symm.trans present
    exact kept arena _ before

theorem Enabled.onArena {world : World} {owner : Nat} (enabled : world.Enabled owner) {α : Type}
    {call : Arena → Env → Reply α}
    (kept : ∀ arena env, (call arena env).arena.disabled = arena.disabled) :
    (world.onArena owner call).2.Enabled owner := by
  intro after found
  apply arena?_onArena (fun arena env before => ?_) found
  exact (kept arena env).trans (enabled arena before)

structure GuardsKnown (guards : List Nat) (world bare : World) : Prop where
  strict : world.profile = .debug
  counted : ∀ owner arena, world.arena? owner = some arena → arena.disabled = guards.count owner
  known : ∀ owner ∈ guards, owner < world.tenants.length
  unguarded : world.Unguarded bare

theorem onArena_tenants_length (world : World) (owner : Nat) {α : Type}
    (call : Arena → Env → Reply α) :
    (world.onArena owner call).2.tenants.length = world.tenants.length := by
  rcases world.onArena_world owner call with same | ⟨effects, arena, same⟩
  · rw [same]
  · rw [same, tenants_after]

namespace GuardsKnown

variable {guards : List Nat} {world bare : World} {owner : Nat}

theorem onArena (guardsKnown : GuardsKnown guards world bare) {α : Type}
    {call : Arena → Env → Reply α}
    (alike : ∀ arena env, world.arena? owner = some arena →
      call (arena.counting 0) env = (call arena env).counting 0)
    (kept : ∀ arena env, (call arena env).arena.disabled = arena.disabled) :
    (bare.onArena owner call).1 = (world.onArena owner call).1 ∧
      GuardsKnown guards (world.onArena owner call).2 (bare.onArena owner call).2 := by
  obtain ⟨same, unguarded⟩ := guardsKnown.unguarded.onArena alike
  refine ⟨same, ?_, ?_, ?_, unguarded⟩
  · rw [onArena_profile]
    exact guardsKnown.strict
  · intro other arena found
    by_cases own : other = owner
    · subst own
      apply arena?_onArena (fun arena env before => ?_) found
      exact (kept arena env).trans (guardsKnown.counted other arena before)
    · rw [onArena_other world own] at found
      exact guardsKnown.counted other arena found
  · rw [onArena_tenants_length]
    exact guardsKnown.known

theorem count (guardsKnown : GuardsKnown guards world bare) {change : Tally → Tally}
    (steady : Tally.Steady change) (kind : Kind) :
    GuardsKnown guards (world.count kind change) (bare.count kind change) := by
  have unguarded := guardsKnown.unguarded.count steady kind
  refine ⟨?_, ?_, ?_, unguarded⟩ <;> rw [count_eq]
  · exact guardsKnown.strict
  · exact guardsKnown.counted
  · exact guardsKnown.known

def unsuspended (guards : List Nat) (owner : Nat) : PairRelation owner owner where
  fine _ _ := True
  suits _ := True
  holds pairings world bare :=
    world.Enabled owner ∧ GuardsKnown guards world bare ∧
      ∀ pairing ∈ pairings, pairing.there = pairing.here
  earlier _ _ _ := trivial
  forgets kept fewer := ⟨kept.1, kept.2.1, fun pairing member => kept.2.2 pairing (fewer member)⟩
  asked := by
    rintro pairings world bare size align call ⟨enabled, guardsKnown, level⟩ asks _ _
    have alike (arena : Arena) (env : Env) (found : world.arena? owner = some arena) :
        call (arena.counting 0) env = (call arena env).counting 0 :=
      Arena.counting_of_enabled call (asks.disabled arena env) (enabled arena found)
    obtain ⟨same, after⟩ := guardsKnown.onArena alike asks.disabled
    have enabled := enabled.onArena asks.disabled
    rw [same]
    cases (world.onArena owner call).1 with
    | error failure => exact ⟨[], .failed failure, enabled, after, level⟩
    | ok start =>
      refine ⟨_, .granted start start, enabled, after, ?_⟩
      intro pairing member
      rcases List.mem_cons.mp member with newest | older
      · rw [newest]
      · exact level pairing older
  stored := by
    rintro pairings world bare pairing bytes ⟨enabled, guardsKnown, level⟩ member _
    rw [level pairing member]
    exact ⟨enabled, ⟨guardsKnown.strict, guardsKnown.counted, guardsKnown.known,
      guardsKnown.unguarded.store pairing.here bytes⟩, level⟩
  counted := by
    rintro pairings world bare change ⟨enabled, guardsKnown, level⟩ steady kind
    refine ⟨?_, guardsKnown.count steady kind, level⟩
    rw [count_eq]
    exact enabled

theorem request (guardsKnown : GuardsKnown guards world bare) (enabled : world.Enabled owner)
    (request : Request) :
    (request.ask bare owner).1 = (request.ask world owner).1 ∧
      GuardsKnown guards (request.ask world owner).2 (request.ask bare owner).2 := by
  have related : (unsuspended guards owner).Related [] world bare :=
    fun _ => ⟨enabled, guardsKnown, by simp⟩
  obtain ⟨more, answered, _, after, level⟩ := related.request request (fun _ _ => trivial) trivial
  rw [List.append_nil] at level
  exact ⟨answered.eq level, after⟩

theorem grow (guardsKnown : GuardsKnown guards world bare) (enabled : world.Enabled owner)
    (start old new elementSize : Nat) :
    (bare.grow owner start old new elementSize).1 =
        (world.grow owner start old new elementSize).1 ∧
      GuardsKnown guards (world.grow owner start old new elementSize).2
        (bare.grow owner start old new elementSize).2 := by
  apply guardsKnown.onArena
  · intro arena env found
    exact Arena.counting_of_enabled (fun arena env => arena.grow env start old new elementSize)
      (arena.grow_disabled env start old new elementSize) (enabled arena found)
  · exact fun arena env => arena.grow_disabled env start old new elementSize

theorem outside (guardsKnown : GuardsKnown guards world bare) (tally : Tally)
    (level : tally.defaults = world.tally.defaults) :
    GuardsKnown guards { world with tally := tally } bare := by
  obtain ⟨profile, site, memory, traffic, logs, tenants, defaults⟩ := guardsKnown.unguarded
  exact ⟨guardsKnown.strict, guardsKnown.counted, guardsKnown.known,
    ⟨profile, site, memory, traffic, logs, tenants, defaults.trans level.symm⟩⟩

theorem vacated (guardsKnown : GuardsKnown guards world bare) (owner : Nat) :
    GuardsKnown guards (world.vacated owner) (bare.vacated owner) := by
  obtain ⟨profile, site, memory, traffic, logs, tenants, defaults⟩ := guardsKnown.unguarded
  refine ⟨guardsKnown.strict, ?_, ?_, ⟨profile, site, memory, traffic, logs, ?_, defaults⟩⟩
  · intro other arena found
    by_cases own : other = owner
    · subst own
      rw [arena?_vacated_self] at found
      cases found
    · rw [arena?_vacated_other world own] at found
      exact guardsKnown.counted other arena found
  · simpa [World.vacated] using guardsKnown.known
  · simp only [World.vacated, tenants]
    apply List.ext_getElem?
    intro other
    by_cases own : owner = other
    · subst own
      simp only [List.getElem?_modify_eq, List.getElem?_map]
      cases world.tenants[owner]? <;> rfl
    · simp only [List.getElem?_modify_ne _ _ own, List.getElem?_map]

theorem addArena (guardsKnown : GuardsKnown guards world bare) (builder : Builder) (skew : Nat) :
    GuardsKnown guards (world.addArena builder.build skew) (bare.addArena builder.build skew) := by
  obtain ⟨profile, site, memory, traffic, logs, tenants, defaults⟩ := guardsKnown.unguarded
  refine ⟨guardsKnown.strict, ?_, ?_, ⟨profile, site, memory, traffic, logs, ?_, defaults⟩⟩
  · intro owner arena found
    rcases arena?_addArena found with old | ⟨newest, fresh⟩
    · exact guardsKnown.counted owner arena old
    · have unknown : owner ∉ guards := by
        intro guarded
        have inside := guardsKnown.known owner guarded
        omega
      rw [fresh, List.count_eq_zero_of_not_mem unknown]
      rfl
  · intro owner guarded
    have inside := guardsKnown.known owner guarded
    simp only [World.addArena, List.length_append, List.length_singleton]
    omega
  · simp only [World.addArena, tenants, List.map_append]
    rfl

theorem dispose (guardsKnown : GuardsKnown guards world bare) (depth address : Nat)
    (disposal : Disposal) :
    GuardsKnown guards (disposal.dispose world (.nested owner depth) address).2
      (disposal.dispose bare (.nested owner depth) address).2 := by
  obtain ⟨kind, number, forms⟩ := dispose_forms disposal
  have steady : Tally.Steady fun tally => { tally with destroyed := tally.destroyed + number } :=
    fun _ _ same => same
  have destroyed : GuardsKnown guards (world.destroy kind number) (bare.destroy kind number) :=
    guardsKnown.count steady kind
  obtain ⟨failure, _, stopped⟩ | ⟨layout, _, done⟩ := forms
  · rw [stopped, stopped]
    exact destroyed
  · rw [done, done]
    exact (destroyed.onArena
      (fun arena env _ => Arena.deallocate_indifferent address layout arena env 0)
      fun arena env => arena.deallocate_disabled env address layout).2

theorem release (guardsKnown : GuardsKnown guards world bare) (owner : Nat) :
    GuardsKnown guards (world.release owner).2 (bare.release owner).2 :=
  (guardsKnown.onArena (fun arena env _ => Arena.release_indifferent arena env 0)
    Arena.release_disabled).2

/-- An action that no guard stops is the same with and without guards. -/
theorem act (guardsKnown : GuardsKnown guards world bare) {action : Action} (plain : action.Plain)
    (goes : ¬ world.Stops action) : GuardsKnown guards (world.act action) (bare.act action) := by
  have enabled {owner : Nat} (goes : ¬ ∃ arena ∈ world.arena? owner, 0 < arena.disabled) :
      world.Enabled owner :=
    fun arena found => Nat.eq_zero_of_not_pos fun off => goes ⟨arena, found, off⟩
  cases action with
  | create builder skew => exact guardsKnown.addArena builder skew
  | place owner request =>
    simp only [World.act, request.serve_eq]
    exact (guardsKnown.request (enabled goes) request).2
  | grow owner start old new elementSize =>
    exact (guardsKnown.grow (enabled goes) start old new elementSize).2
  | dispose owner depth address disposal => exact guardsKnown.dispose depth address disposal
  | write start bytes =>
    exact
      ⟨guardsKnown.strict, guardsKnown.counted, guardsKnown.known,
        guardsKnown.unguarded.store start bytes⟩
  | rewind owner snapshot =>
    exact (guardsKnown.onArena (fun arena env _ => Arena.rewind_indifferent snapshot arena env 0)
      fun arena env => arena.rewind_disabled env snapshot).2
  | release owner => exact guardsKnown.release owner
  | drop owner => exact (guardsKnown.release owner).vacated owner
  | disable | enable => exact absurd plain id
  | log call =>
    obtain ⟨profile, site, memory, traffic, logs, tenants, defaults⟩ := guardsKnown.unguarded
    refine ⟨guardsKnown.strict, guardsKnown.counted, guardsKnown.known,
      ⟨profile, site, memory, traffic, ?_, tenants, defaults⟩⟩
    simp only [World.act, World.log, logs]

/-- An action that a guard stops leaves everything as it is. -/
theorem stopped (guardsKnown : GuardsKnown guards world bare) {action : Action}
    (stops : world.Stops action) : GuardsKnown guards (world.act action) bare := by
  cases action with
  | place owner request =>
    obtain ⟨arena, found, off⟩ := stops
    have stays : ∃ tally, tally.defaults = world.tally.defaults ∧
        (request.ask world owner).2 = { world with tally := tally } := by
      by_cases real : request.Real
      · obtain ⟨tally, level, done⟩ :=
          (suspended guardsKnown.strict found off).requests request real
        exact ⟨tally, level, congrArg Prod.snd done⟩
      · cases request with
        | constructSlice depth kind values =>
          refine ⟨world.tally, rfl, ?_⟩
          simp only [Request.ask, World.constructSlice]
          cases kind.layout.array? values.length with
          | none => rfl
          | some layout => simp only [allocateRaw_halts guardsKnown.strict found off, alone]
        | _ => exact absurd trivial real
    obtain ⟨tally, level, done⟩ := stays
    simp only [World.act, request.serve_eq, done]
    exact guardsKnown.outside tally level
  | grow owner start old new elementSize =>
    obtain ⟨arena, found, off⟩ := stops
    have done := (suspended guardsKnown.strict found off).growths start old new elementSize
    simp only [World.act, done]
    exact guardsKnown
  | _ => cases stops

theorem recount (guardsKnown : GuardsKnown guards world bare) {arena : Arena}
    (found : world.arena? owner = some arena) {left : List Nat}
    (known : ∀ other ∈ left, other < world.tenants.length)
    (others : ∀ other, other ≠ owner → left.count other = guards.count other) :
    GuardsKnown left (world.replace owner (arena.counting (left.count owner))) bare := by
  obtain ⟨profile, site, memory, traffic, logs, tenants, defaults⟩ := guardsKnown.unguarded
  have self := arena?_after_self owner world found [] (arena.counting (left.count owner))
  refine ⟨guardsKnown.strict, ?_, ?_, ⟨profile, site, memory, traffic, logs, ?_, defaults⟩⟩
  · intro other next present
    by_cases own : other = owner
    · subst own
      cases present.symm.trans self
      rfl
    · have elsewhere := arena?_after_other owner world own [] (arena.counting (left.count owner))
      rw [others other own]
      exact guardsKnown.counted other next (elsewhere.symm.trans present)
  · simpa [replace] using known
  · rw [tenants]
    apply List.ext_getElem?
    intro other
    by_cases own : owner = other
    · subst own
      simp only [arena?, Option.bind_eq_some_iff] at found
      obtain ⟨tenant, place, present⟩ := found
      simp only [replace, List.getElem?_map, List.getElem?_modify_eq, place, Option.map_some,
        Tenant.stripped, present]
      rfl
    · simp only [replace, List.getElem?_map, List.getElem?_modify_ne _ _ own]

theorem disable (guardsKnown : GuardsKnown guards world bare) (owner : Nat) :
    GuardsKnown (if (world.disable owner).1.isOk = true then owner :: guards else guards)
      (world.disable owner).2 bare := by
  cases found : world.arena? owner with
  | none =>
    obtain ⟨cause, nothing⟩ := onArena_none found fun arena env => arena.disable env.profile
    have nothing : world.disable owner = _ := nothing
    rw [nothing]
    exact guardsKnown
  | some arena =>
    obtain ⟨skew, same⟩ := onArena_some found fun arena env => arena.disable env.profile
    have same : world.disable owner = _ := same
    have profile : (world.env skew).profile = .debug := guardsKnown.strict
    rw [same, profile]
    have counted := guardsKnown.counted owner arena found
    unfold Arena.disable
    simp only [Profile.checks, ↓reduceIte]
    by_cases room : arena.disabled + 1 < wordLimit
    · rw [Profile.add_ok .debug room]
      have inside := arena?_lt found
      have one_more : arena.disabled + 1 = (owner :: guards).count owner := by
        rw [List.count_cons_self, counted]
      have known : ∀ other ∈ owner :: guards, other < world.tenants.length := by
        intro other member
        rcases List.mem_cons.mp member with same | old
        · rw [same]
          exact inside
        · exact guardsKnown.known other old
      rw [one_more]
      exact guardsKnown.recount found known fun other different =>
        List.count_cons_of_ne different.symm
    · have full : Profile.debug.add arena.disabled 1 = .error .addOverflow := by
        simp [Profile.add, room, Profile.checks]
      simp only [full]
      change GuardsKnown guards (world.replace owner arena) bare
      rw [replace_self found]
      exact guardsKnown

theorem enable (guardsKnown : GuardsKnown guards world bare) {which : Nat}
    (alive : guards[which]? = some owner) :
    GuardsKnown (guards.eraseIdx which) (world.enable owner).2 bare := by
  obtain ⟨inside, same⟩ := List.getElem?_eq_some_iff.mp alive
  have front : (owner :: guards.eraseIdx which).Perm guards := by
    rw [← same]
    exact List.getElem_cons_eraseIdx_perm inside
  have known : ∀ other ∈ guards.eraseIdx which, other < world.tenants.length :=
    fun other member => guardsKnown.known other (List.mem_of_mem_eraseIdx member)
  have others (other : Nat) (different : other ≠ owner) :
      (guards.eraseIdx which).count other = guards.count other := by
    rw [← front.count_eq other, List.count_cons_of_ne different.symm]
  have one_less : guards.count owner = (guards.eraseIdx which).count owner + 1 := by
    rw [← front.count_eq owner, List.count_cons_self]
  cases found : world.arena? owner with
  | none =>
    obtain ⟨cause, nothing⟩ := onArena_none found fun arena env => arena.enable env.profile
    have nothing : world.enable owner = _ := nothing
    rw [nothing]
    refine ⟨guardsKnown.strict, ?_, known, guardsKnown.unguarded⟩
    intro other arena present
    have different : other ≠ owner := by
      rintro rfl
      cases found.symm.trans present
    rw [others other different]
    exact guardsKnown.counted other arena present
  | some arena =>
    obtain ⟨skew, same⟩ := onArena_some found fun arena env => arena.enable env.profile
    have same : world.enable owner = _ := same
    have profile : (world.env skew).profile = .debug := guardsKnown.strict
    have counted := guardsKnown.counted owner arena found
    have some_alive : ¬ arena.disabled = 0 := by omega
    have left : arena.disabled - 1 = (guards.eraseIdx which).count owner := by omega
    rw [same, profile]
    simp only [Arena.enable, Profile.checks, ↓reduceIte, if_neg some_alive, left]
    exact guardsKnown.recount found known others

end GuardsKnown

end World

namespace GuardedWorld

theorem step_guardsKnown {guarded : GuardedWorld} {bare : World}
    (guardsKnown : World.GuardsKnown guarded.guards guarded.world bare)
    (guardedStep : GuardedStep) :
    World.GuardsKnown (guarded.step guardedStep).guards (guarded.step guardedStep).world
      (bare.run (guarded.spared guardedStep)) := by
  cases guardedStep with
  | guard owner => exact guardsKnown.disable owner
  | unguard which =>
    simp only [step, spared]
    cases alive : guarded.guards[which]? with
    | none => exact guardsKnown
    | some owner => exact guardsKnown.enable alive
  | act action =>
    simp only [step, spared]
    by_cases plain : action.Plain
    · by_cases stops : guarded.world.Stops action
      · simp only [plain, stops, ↓reduceIte, not_true_eq_false, and_false]
        exact guardsKnown.stopped stops
      · simp only [plain, stops, ↓reduceIte, not_false_eq_true, and_self]
        exact guardsKnown.act plain stops
    · simp only [plain, ↓reduceIte, false_and]
      exact guardsKnown

theorem run_guardsKnown {guarded : GuardedWorld} {bare : World}
    (guardsKnown : World.GuardsKnown guarded.guards guarded.world bare)
    (guardedSteps : List GuardedStep) :
    World.GuardsKnown (guarded.run guardedSteps).guards (guarded.run guardedSteps).world
      (bare.run (guarded.unguarded guardedSteps)) := by
  induction guardedSteps generalizing guarded bare with
  | nil => exact guardsKnown
  | cons guardedStep rest ih =>
    have lodgeShared : bare.run (guarded.unguarded (guardedStep :: rest)) =
        (bare.run (guarded.spared guardedStep)).run ((guarded.step guardedStep).unguarded rest) :=
      List.foldl_append
    rw [lodgeShared]
    exact ih (step_guardsKnown guardsKnown guardedStep)

end GuardedWorld

/-- What an arena answers without disable guards: what it would have answered if there had never
been any. -/
structure World.Resumed (world bare : World) (owner : Nat) : Prop where
  unguarded : world.Unguarded bare
  requests : ∀ request : Request, (request.ask bare owner).1 = (request.ask world owner).1 ∧
    (request.ask world owner).2.Unguarded (request.ask bare owner).2
  growths : ∀ start old new elementSize,
    (bare.grow owner start old new elementSize).1 =
        (world.grow owner start old new elementSize).1 ∧
      (world.grow owner start old new elementSize).2.Unguarded
        (bare.grow owner start old new elementSize).2

/-- Guards suspend an arena as long as there are any, and leave no trace. -/
theorem guards_suspend (site : Site) (logs : Logs) (guardedSteps : List GuardedStep) {owner : Nat}
    {arena : Arena} {guarded : GuardedWorld}
    (reached : guarded = (GuardedWorld.start site logs).run guardedSteps)
    (found : guarded.world.arena? owner = some arena) :
    arena.disabled = guarded.guards.count owner ∧
      (arena.isDisabled = true ↔ 0 < guarded.guards.count owner) ∧
      (0 < guarded.guards.count owner → guarded.world.Suspended owner arena.label) ∧
      (guarded.guards.count owner = 0 →
        guarded.world.Resumed
          ((World.new .debug site logs).run ((GuardedWorld.start site logs).unguarded guardedSteps))
          owner) := by
  have beginning : World.GuardsKnown (GuardedWorld.start site logs).guards
      (GuardedWorld.start site logs).world
        (World.new .debug site logs) := by
    refine ⟨rfl, ?_, by simp [GuardedWorld.start], ⟨rfl, rfl, rfl, rfl, rfl, rfl, rfl⟩⟩
    intro owner arena present
    cases present
  have guardsKnown := GuardedWorld.run_guardsKnown beginning guardedSteps
  rw [← reached] at guardsKnown
  have counted := guardsKnown.counted owner arena found
  refine ⟨counted, ?_, ?_, ?_⟩
  · simp [Arena.isDisabled, counted]
  · intro some_alive
    exact World.suspended guardsKnown.strict found (by omega)
  · intro none_alive
    have enabled : guarded.world.Enabled owner := by
      intro other present
      cases found.symm.trans present
      omega
    refine ⟨guardsKnown.unguarded, ?_, ?_⟩
    · intro request
      obtain ⟨same, after⟩ := guardsKnown.request enabled request
      exact ⟨same, after.unguarded⟩
    · intro start old new elementSize
      obtain ⟨same, after⟩ := guardsKnown.grow enabled start old new elementSize
      exact ⟨same, after.unguarded⟩

def overlappingGuards : List GuardedStep :=
  [.act (.create ⟨"pairs", 16⟩ 0), .act (.create ⟨"lines", 64⟩ 0),
    .act (.place 1 (.object .token [7])), .guard 0, .guard 1, .guard 1, .unguard 1,
    .act (.place 1 (.objectCopy .token [5] false)),
    .act (.place 0 (.slice .u16 3 (fun _ => [0]) none)), .unguard 0,
    .act (.place 1 (.slice .token 2 (fun i => [i]) none))]

theorem overlappingGuards_suspends :
    ∃ guarded, guarded = (GuardedWorld.start pagedSite (Logs.empty none)).run overlappingGuards ∧
      guarded.guards = [0] ∧ guarded.world.Suspended 0 "pairs" ∧
      guarded.world.Resumed ((World.new .debug pagedSite (Logs.empty none)).run
        [.create ⟨"pairs", 16⟩ 0, .create ⟨"lines", 64⟩ 0, .place 1 (.object .token [7]),
          .place 1 (.slice .token 2 (fun i => [i]) none)]) 1 := by
  have left :
      ((GuardedWorld.start pagedSite (Logs.empty none)).run overlappingGuards).guards = [0] := by
    decide +kernel
  have labels :
      ((((GuardedWorld.start pagedSite (Logs.empty none)).run
          overlappingGuards).world.arena? 0).map Arena.label,
        (((GuardedWorld.start pagedSite (Logs.empty none)).run
          overlappingGuards).world.arena? 1).map Arena.label) =
      (some "pairs", some "lines") := by
    decide +kernel
  obtain ⟨first, second⟩ := Prod.mk.inj labels
  obtain ⟨pairs, found, label⟩ := Option.map_eq_some_iff.mp first
  obtain ⟨lines, found', _⟩ := Option.map_eq_some_iff.mp second
  obtain ⟨_, _, suspends, _⟩ :=
    guards_suspend pagedSite (Logs.empty none) overlappingGuards rfl found
  obtain ⟨_, _, _, resumes⟩ :=
    guards_suspend pagedSite (Logs.empty none) overlappingGuards rfl found'
  rw [left] at suspends resumes
  rw [label] at suspends
  exact ⟨_, rfl, left, suspends (by decide), resumes (by decide)⟩

end ChunkArena
