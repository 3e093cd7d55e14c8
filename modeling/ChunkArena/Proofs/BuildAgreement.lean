import ChunkArena.Proofs.RequestAgreement
import ChunkArena.Proofs.GuardIndifference
import ChunkArena.Proofs.RecordingClients

/-!
A debug build and a release build side by side. The debug build counts the disable guards of every
arena, and while an arena has one it serves no requests. Any other call of a client that keeps to
the rules is answered alike by both, and leaves two worlds that are the same up to the guards, with
every guard counted.
-/

namespace ChunkArena

theorem Arena.stripped_inj {first last : Arena} (same : first.disabled = last.disabled) :
    first.stripped = last.stripped ↔ first = last := by
  constructor
  · intro alike
    have whole (arena : Arena) : { arena.stripped with disabled := arena.disabled } = arena := rfl
    rw [← whole first, ← whole last, alike, same]
  · exact congrArg stripped

namespace World

/-- Worlds that are the same up to their guards, the first of a debug build with these disable
guards. -/
structure InStep (guards : List Nat) (world twin : World) : Prop where
  upToGuards : world.UpToGuards twin
  strict : world.profile = .debug
  sound : world.Sound
  conserved : ∀ owner, world.BlocksConserved owner
  counted : ∀ owner arena, world.arena? owner = some arena → arena.disabled = guards.count owner
  known : ∀ owner ∈ guards, owner < world.tenants.length

def Matches {α : Type} (guards : List Nat) (answer answer' : α × World) : Prop :=
  answer'.1 = answer.1 ∧ InStep guards answer.2 answer'.2

namespace InStep

variable {guards left : List Nat} {world twin last last' : World} {owner : Nat}

theorem start (site : Site) (blind : Blind site) (logs : Logs) :
    InStep [] (World.new .debug site logs) (World.new .release site logs) := by
  refine ⟨⟨rfl, rfl, blind, rfl, rfl, rfl, rfl⟩, rfl, ?_, ?_, ?_, ?_⟩
  · exact new_soundIfProvided .debug site logs trivial
  · exact new_conserved .debug site logs
  · intro owner arena found
    simp [arena?, World.new] at found
  · intro owner guard
    cases guard

/-- A sequence of steps keeps the two in step if it counts the guards. -/
theorem follow (inStep : InStep guards world twin) (sequence : StepSequence world last)
    (provided : Provided last.traffic) (upToGuards : last.UpToGuards last')
    (counted : ∀ owner arena, last.arena? owner = some arena →
      arena.disabled = left.count owner)
    (known : ∀ owner ∈ left, owner < world.tenants.length) : InStep left last last' := by
  refine ⟨upToGuards, sequence.profile.trans inStep.strict, ?_, ?_, counted, ?_⟩
  · exact sequence.soundIf (fun _ => inStep.sound) provided
  · exact fun owner => (inStep.conserved owner).sequence sequence
  · exact fun owner guard => Nat.lt_of_lt_of_le (known owner guard) sequence.tenants_le

theorem outside (inStep : InStep guards world twin) (memory memory' : Memory)
    (change : Tally → Tally) {logs logs' : Logs} (lines : logs' = logs) :
    InStep guards { world with memory := memory, tally := change world.tally, logs := logs }
      { twin with memory := memory', tally := change twin.tally, logs := logs' } := by
  have upToGuards :=
    inStep.upToGuards.outside memory memory' (congrArg change inStep.upToGuards.tally) lines
  refine ⟨upToGuards, inStep.strict, inStep.sound.congr (fun _ => rfl) rfl rfl, ?_, inStep.counted,
    inStep.known⟩
  exact fun owner =>
    (inStep.conserved owner).sequence (Step.outside world memory (change world.tally) logs).sequence

theorem count (inStep : InStep guards world twin) (kind : Kind) (change : Tally → Tally) :
    InStep guards (world.count kind change) (twin.count kind change) := by
  unfold World.count
  split
  · exact inStep.outside world.memory twin.memory change inStep.upToGuards.logs
  · exact inStep

theorem onArena (inStep : InStep guards world twin) (owner : Nat) {α : Type}
    {call : Arena → Env → Reply α}
    (changes : ∀ arena : Arena, arena.Consistent → totalCapacity arena.chunks < wordLimit →
      ∀ env : Env, Arena.Changes env.profile arena (call arena env).effects (call arena env).arena)
    (provided : Provided (world.onArena owner call).2.traffic)
    (others : ∀ other, other ≠ owner → left.count other = guards.count other)
    (known : ∀ other ∈ left, other < world.tenants.length)
    (alike : ∀ (arena : Arena) (env : Env), world.arena? owner = some arena → arena.Consistent →
      totalCapacity arena.chunks < wordLimit → env.profile = .debug →
        arena.disabled = guards.count owner →
        call arena.stripped env.stripped = (call arena env).stripped ∧
          (call arena env).arena.disabled = left.count owner) :
    Matches left (world.onArena owner call) (twin.onArena owner call) := by
  have before := provided_of_suffix provided (world.onArena_suffix owner call)
  have sequence := onArena_sequence inStep.sound before owner changes
  have agree (arena : Arena) (skew : Nat) (found : world.arena? owner = some arena) :=
    alike arena (world.env skew) found (inStep.sound owner arena found).consistent
      (inStep.sound.small before found) inStep.strict (inStep.counted owner arena found)
  obtain ⟨same, upToGuards⟩ := inStep.upToGuards.onArena owner fun arena skew found =>
    (agree arena skew found).1
  refine ⟨same, inStep.follow sequence provided upToGuards ?_ known⟩
  intro other after present
  by_cases own : other = owner
  · subst own
    cases found : world.arena? other with
    | none =>
      obtain ⟨cause, nothing⟩ := onArena_none found call
      rw [nothing, found] at present
      cases present
    | some arena =>
      obtain ⟨skew, _, next⟩ := onArena_self found call
      cases present.symm.trans next
      exact (agree arena skew found).2
  · rw [onArena_other world own] at present
    rw [others other own]
    exact inStep.counted other after present

theorem steady (inStep : InStep guards world twin) (owner : Nat) {α : Type}
    {call : Arena → Env → Reply α}
    (changes : ∀ arena : Arena, arena.Consistent → totalCapacity arena.chunks < wordLimit →
      ∀ env : Env, Arena.Changes env.profile arena (call arena env).effects (call arena env).arena)
    (provided : Provided (world.onArena owner call).2.traffic)
    (alike : ∀ (arena : Arena) (env : Env), world.arena? owner = some arena → arena.Consistent →
      totalCapacity arena.chunks < wordLimit → arena.disabled = guards.count owner →
        call arena.stripped env.stripped = (call arena env).stripped ∧
          (call arena env).arena.disabled = arena.disabled) :
    Matches guards (world.onArena owner call) (twin.onArena owner call) := by
  apply inStep.onArena owner changes provided (fun _ _ => rfl) inStep.known
  intro arena env found consistent small _ counted
  obtain ⟨same, still⟩ := alike arena env found consistent small counted
  exact ⟨same, still.trans counted⟩

theorem ask (inStep : InStep guards world twin) (enabled : owner ∉ guards) (request : Request)
    (roomy : Roomy owner (request.ask world owner).2.traffic) :
    Matches guards (request.ask world owner) (request.ask twin owner) := by
  have level : ReadyUpToGuards owner world twin := by
    refine ⟨inStep.upToGuards, inStep.sound, inStep.conserved owner, ?_⟩
    intro arena found
    rw [inStep.counted owner arena found, List.count_eq_zero_of_not_mem enabled]
  have served := world.serve_served owner request
  rw [request.serve_eq] at served
  have sequence := served.sequence (fun _ => inStep.sound) roomy.provided
  obtain ⟨same, readyUpToGuards⟩ := level.request request roomy
  refine ⟨same, inStep.follow sequence roomy.provided readyUpToGuards.upToGuards ?_ inStep.known⟩
  intro other arena present
  by_cases own : other = owner
  · subst own
    rw [readyUpToGuards.ready.enabled arena present, List.count_eq_zero_of_not_mem enabled]
  · rw [served.arena?_other own] at present
    exact inStep.counted other arena present

theorem grow (inStep : InStep guards world twin) (enabled : owner ∉ guards)
    (start old new elementSize : Nat)
    (provided : Provided (world.grow owner start old new elementSize).2.traffic) :
    Matches guards (world.grow owner start old new elementSize)
      (twin.grow owner start old new elementSize) := by
  have changes (arena : Arena) (consistent : arena.Consistent)
      (_ : totalCapacity arena.chunks < wordLimit) (env : Env) :=
    Arena.grow_changes consistent env start old new elementSize
  apply inStep.steady owner changes provided
  intro arena env _ consistent _ counted
  rw [List.count_eq_zero_of_not_mem enabled] at counted
  exact ⟨Arena.grow_stripped consistent counted env start old new elementSize,
    arena.grow_disabled env start old new elementSize⟩

theorem dispose (inStep : InStep guards world twin) (depth : Nat) {address : Nat}
    (owns : ∀ arena, world.arena? owner = some arena → arena.owns address = true)
    (disposal : Disposal)
    (provided : Provided (disposal.dispose world (.nested owner depth) address).2.traffic) :
    Matches guards (disposal.dispose world (.nested owner depth) address)
      (disposal.dispose twin (.nested owner depth) address) := by
  obtain ⟨kind, number, forms⟩ := dispose_forms disposal
  have counted : InStep guards (world.destroy kind number) (twin.destroy kind number) :=
    inStep.count kind _
  obtain ⟨failure, _, stopped⟩ | ⟨layout, _, done⟩ := forms
  · rw [stopped, stopped]
    exact ⟨rfl, counted⟩
  · rw [done] at provided
    rw [done, done]
    have changes (arena : Arena) (_ : arena.Consistent)
        (_ : totalCapacity arena.chunks < wordLimit) (env : Env) :=
      arena.deallocate_changes env address layout
    apply counted.steady owner changes provided
    intro arena env found _ _ _
    rw [destroy, count_eq] at found
    exact ⟨Arena.deallocate_stripped (owns arena found) env layout,
      arena.deallocate_disabled env address layout⟩

theorem rewind (inStep : InStep guards world twin) (owner : Nat) (snapshot : Snapshot)
    (provided : Provided (world.rewind owner snapshot).2.traffic) :
    Matches guards (world.rewind owner snapshot) (twin.rewind owner snapshot) := by
  have changes (arena : Arena) (consistent : arena.Consistent)
      (small : totalCapacity arena.chunks < wordLimit) (env : Env) :=
    (Arena.rewind_rewinds consistent small env snapshot).changes
  apply inStep.steady owner changes provided
  intro arena env _ consistent small _
  exact ⟨Arena.rewind_stripped consistent small env snapshot,
    arena.rewind_disabled env snapshot⟩

theorem release (inStep : InStep guards world twin) (owner : Nat)
    (provided : Provided (world.release owner).2.traffic) :
    Matches guards (world.release owner) (twin.release owner) := by
  have changes (arena : Arena) (consistent : arena.Consistent)
      (small : totalCapacity arena.chunks < wordLimit) (env : Env) :=
    Arena.release_changes consistent small env
  apply inStep.steady owner changes provided
  intro arena env _ consistent small _
  refine ⟨Arena.release_stripped consistent small env, ?_⟩
  rw [(Arena.release_closes consistent small env).arena_eq, Arena.emptied]

theorem vacated (inStep : InStep guards world twin) (bare : world.chunks owner = [])
    (provided : Provided world.traffic) :
    InStep guards (world.vacated owner) (twin.vacated owner) := by
  have upToGuards := inStep.upToGuards
  have sequence := (Step.leave world owner bare).sequence
  refine inStep.follow sequence provided ?_ ?_ inStep.known
  · refine
      ⟨upToGuards.build, upToGuards.site, upToGuards.blind, upToGuards.traffic, upToGuards.tally,
        upToGuards.logs, ?_⟩
    simp only [World.vacated, upToGuards.tenants]
    apply List.ext_getElem?
    intro other
    by_cases own : owner = other
    · subst own
      simp only [List.getElem?_modify_eq, List.getElem?_map]
      cases world.tenants[owner]? <;> rfl
    · simp only [List.getElem?_modify_ne _ _ own, List.getElem?_map]
  · intro other arena present
    by_cases own : other = owner
    · rw [own, arena?_vacated_self] at present
      cases present
    · rw [arena?_vacated_other world own] at present
      exact inStep.counted other arena present

theorem drop (inStep : InStep guards world twin) (owner : Nat)
    (provided : Provided (world.drop owner).2.traffic) :
    Matches guards (world.drop owner) (twin.drop owner) := by
  rw [drop_eq] at provided
  obtain ⟨same, released⟩ := inStep.release owner provided
  have before := provided_of_suffix provided (world.onArena_suffix owner Arena.release)
  exact ⟨same, released.vacated (release_chunks inStep.sound before owner) provided⟩

theorem disable (inStep : InStep guards world twin) (few : guards.length + 1 < wordLimit)
    (owner : Nat) (provided : Provided (world.disable owner).2.traffic) :
    Matches (if (world.disable owner).1.isOk = true then owner :: guards else guards)
      (world.disable owner) (twin.disable owner) := by
  have changes (arena : Arena) (_ : arena.Consistent)
      (_ : totalCapacity arena.chunks < wordLimit) (env : Env) :
      Arena.Changes env.profile arena (arena.disable env.profile).effects
        (arena.disable env.profile).arena :=
    Arena.hold_changes (Arena.disable_holds arena env.profile)
  have counts {arena : Arena} (counted : arena.disabled = guards.count owner) :
      arena.disabled + 1 < wordLimit := by
    have bound : guards.count owner ≤ guards.length := List.count_le_length
    omega
  have counting (arena : Arena) (env : Env) (strict : env.profile = .debug)
      (counted : arena.disabled = guards.count owner) :
      arena.disable env.profile = ⟨.ok (), { arena with disabled := arena.disabled + 1 }, []⟩ := by
    simp only [Arena.disable, strict, Profile.checks, ↓reduceIte,
      Profile.add_ok _ (counts counted)]
  cases found : world.arena? owner with
  | none =>
    obtain ⟨cause, nothing⟩ := onArena_none found fun arena env => arena.disable env.profile
    have failed : (world.disable owner).1.isOk = false := congrArg (·.1.isOk) nothing
    rw [failed, if_neg Bool.false_ne_true]
    apply inStep.onArena owner changes provided (fun _ _ => rfl) inStep.known
    intro arena env present
    cases found.symm.trans present
  | some arena =>
    obtain ⟨skew, answer, _⟩ := onArena_self found fun arena env => arena.disable env.profile
    have done : (world.disable owner).1.isOk = true := by
      rw [World.disable, answer, counting arena _ inStep.strict (inStep.counted owner arena found)]
      rfl
    rw [if_pos done]
    apply inStep.onArena owner changes provided
    · exact fun other different => List.count_cons_of_ne different.symm
    · intro other guard
      rcases List.mem_cons.mp guard with here | older
      · rw [here]
        exact arena?_lt found
      · exact inStep.known other older
    · intro arena env _ _ _ strict counted
      refine ⟨Arena.disable_stripped (counts counted) env.profile, ?_⟩
      rw [counting arena env strict counted, List.count_cons_self, counted]

theorem enable (inStep : InStep guards world twin) (alive : owner ∈ guards)
    (provided : Provided (world.enable owner).2.traffic) :
    Matches (guards.erase owner) (world.enable owner) (twin.enable owner) := by
  have changes (arena : Arena) (_ : arena.Consistent)
      (_ : totalCapacity arena.chunks < wordLimit) (env : Env) :
      Arena.Changes env.profile arena (arena.enable env.profile).effects
        (arena.enable env.profile).arena :=
    Arena.hold_changes (Arena.enable_holds arena env.profile)
  apply inStep.onArena owner changes provided
  · exact fun other different => List.count_erase_of_ne different
  · exact fun other guard => inStep.known other (List.mem_of_mem_erase guard)
  · intro arena env _ _ _ strict counted
    have some_guard : 0 < arena.disabled := by
      rw [counted]
      exact List.count_pos_iff.mpr alive
    refine ⟨Arena.enable_stripped some_guard env.profile, ?_⟩
    rw [Arena.enable, strict, if_neg (Nat.ne_of_gt some_guard), List.count_erase_self, ← counted]
    rfl

theorem addArena (inStep : InStep guards world twin) (builder : Builder) (skew : Nat)
    (provided : Provided world.traffic) :
    InStep guards (world.addArena builder.build skew) (twin.addArena builder.build skew) := by
  have upToGuards := inStep.upToGuards
  have sequence := (Step.arrive world builder skew).sequence
  refine inStep.follow sequence provided ?_ ?_ inStep.known
  · refine
      ⟨upToGuards.build, upToGuards.site, upToGuards.blind, upToGuards.traffic, upToGuards.tally,
        upToGuards.logs, ?_⟩
    simp only [World.addArena, upToGuards.tenants, List.map_append]
    rfl
  · intro owner arena present
    rcases arena?_addArena present with old | ⟨here, fresh⟩
    · exact inStep.counted owner arena old
    · have nobody : owner ∉ guards := by
        intro guard
        have inside := inStep.known owner guard
        omega
      rw [fresh, List.count_eq_zero_of_not_mem nobody]
      rfl

theorem effective (inStep : InStep guards world twin)
    {answer answer' : Except Failure Unit × World} (matched : Matches guards answer answer') :
    Client.Effective twin owner answer' ↔ Client.Effective world owner answer := by
  obtain ⟨result, after⟩ := matched
  have same : answer'.2.arena? owner = twin.arena? owner ↔
      answer.2.arena? owner = world.arena? owner := by
    rw [after.upToGuards.arena?, inStep.upToGuards.arena?]
    cases present : answer.2.arena? owner with
    | none => cases world.arena? owner <;> simp
    | some next =>
      cases found : world.arena? owner with
      | none => simp
      | some arena =>
        have alike := (after.counted owner next present).trans
          (inStep.counted owner arena found).symm
        simpa using Arena.stripped_inj alike
  simp only [Client.Effective, ne_eq, same, result]

end InStep

theorem UpToGuards.remaining {world twin : World} (upToGuards : world.UpToGuards twin)
    (holdings : List Holding) :
    ChunkArena.remaining twin holdings = ChunkArena.remaining world holdings := by
  have alike (owner : Nat) : twin.hasChunks owner = world.hasChunks owner := by
    rw [hasChunks, hasChunks, upToGuards.arena?]
    cases world.arena? owner <;> rfl
  simp only [ChunkArena.remaining, alike]

end World

end ChunkArena
