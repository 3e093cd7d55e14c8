import ChunkArena.Proofs.BorrowChecks
import ChunkArena.Proofs.BlockConservation
import ChunkArena.Proofs.RequestFailures
import ChunkArena.Proofs.RewindOutcomes
import ChunkArena.Proofs.SnapshotIntervals
import ChunkArena.Proofs.BuildAgreement

/-!
Which panics there are. Clients may call whatever they like with any arguments; only a disable guard
can be dropped no more than once. As long as there were fewer calls than there are words, no call
fails in any other way than the named ones, and none of these is an internal check: additions and
subtractions stay within words, the stack of chunks is in sync with its links, and the guards are
counted right. The one panic that no operation has a name for is the one of its report: the core
logger can be set up to accept lines that it cannot write. And no borrow of the chunks is refused,
even if the logger and the code of clients call arenas whenever they run.
-/

namespace ChunkArena

theorem Profile.counted_le (profile : Profile) (guards : Nat) :
    profile.counted guards ≤ guards := by
  unfold counted
  split
  · exact Nat.le_refl guards
  · exact Nat.zero_le guards

namespace Arena

theorem Rewinds.nextSerial {arena : Arena} {env : Env} {snapshot : Snapshot}
    {reply : Reply Unit} (rewinds : arena.Rewinds env snapshot reply) :
    reply.arena.nextSerial = arena.nextSerial := by
  cases rewinds with
  | refused cause same | unwarned handle cause names gone later loud same => rw [same]
  | bare names closes => rw [closes.arena_eq, emptied]
  | live handle chunk names live limit low high closes => rw [closes.arena_eq, fallenBack]
  | released handle names gone later closes => rw [closes.arena_eq, emptied]

theorem grow_nextSerial {arena : Arena} (consistent : arena.Consistent) (env : Env)
    (start old new elementSize : Nat) :
    (arena.grow env start old new elementSize).arena.nextSerial = arena.nextSerial := by
  rcases grow_cases consistent env start old new elementSize with
    ⟨result, _, refused⟩ | ⟨_, done⟩
  · rw [refused]
  · rw [done, movedTo]

theorem deallocate_nextSerial (arena : Arena) (env : Env) (address : Nat) (layout : Layout) :
    (arena.deallocate env address layout).arena.nextSerial = arena.nextSerial := by
  rcases deallocate_cases arena env address layout with refused | done
  · rw [refused]
  · rw [done]

theorem disable_of_room {arena : Arena} (room : arena.disabled + 1 < wordLimit)
    (profile : Profile) : (arena.disable profile).result = .ok () := by
  unfold disable
  split
  · simp only [Profile.add_ok profile room]
  · rfl

theorem enable_of_counted {arena : Arena} {profile : Profile} {guards : Nat}
    (counted : arena.disabled = profile.counted guards) (alive : 0 < guards) :
    arena.enable profile =
      ⟨.ok (), { arena with disabled := arena.disabled - profile.counted 1 }, []⟩ := by
  rcases enable_cases arena profile with ⟨checks, none_left, _⟩ | done
  · rw [Profile.counted, if_pos checks] at counted
    omega
  · exact done

end Arena

def Action.calls : Action → Nat
  | place _ request => request.calls
  | _ => 1

def Action.callsOf : List Action → Nat
  | [] => 0
  | action :: rest => action.calls + callsOf rest

def failureOf {α : Type} : Except Failure α → Option Failure
  | .ok _ => none
  | .error failure => some failure

def Action.failure? (world : World) : Action → Option Failure
  | create .. | write .. | log .. => none
  | place owner request => failureOf (request.ask world owner).1.1
  | grow owner start old new elementSize =>
      failureOf (world.grow owner start old new elementSize).1
  | dispose owner depth address disposal =>
      failureOf (disposal.dispose world (.nested owner depth) address).1
  | rewind owner snapshot => failureOf (world.rewind owner snapshot).1
  | disable owner => failureOf (world.disable owner).1
  | enable owner => failureOf (world.enable owner).1
  | release owner => failureOf (world.release owner).1
  | drop owner => failureOf (world.drop owner).1

/-- The named failures of actions on an arena with that label. -/
inductive Action.Fails (label : String) : Action → Failure → Prop
  | place {owner : Nat} {request : Request} {failure : Failure}
      (expected : failure.OfRequest label) : Fails label (.place owner request) failure
  | grow {owner start old new elementSize : Nat} :
      Fails label (.grow owner start old new elementSize) (.panic (.disabled label))
  | notOwned {owner depth address : Nat} {disposal : Disposal} :
      Fails label (.dispose owner depth address disposal) (.error .notFromAllocator)
  | destroy {owner depth address : Nat} {disposal : Disposal} {failure : Failure}
      (stops : Disposal.Stops failure) : Fails label (.dispose owner depth address disposal) failure
  | rewind {owner : Nat} {snapshot : Snapshot} {failure : Failure}
      (expected : failure.OfRewind label) : Fails label (.rewind owner snapshot) failure

/-- A world in which disable guards are dropped at most once. -/
structure Usage where
  world : World
  guards : List Nat

namespace Usage

def Allows (usage : Usage) : Action → Prop
  | .enable owner => owner ∈ usage.guards
  | _ => True

instance (usage : Usage) : (action : Action) → Decidable (usage.Allows action)
  | .enable owner => inferInstanceAs (Decidable (owner ∈ usage.guards))
  | .create .. | .place .. | .grow .. | .dispose .. | .write .. | .rewind .. | .disable _
  | .release _ | .drop _ | .log _ => .isTrue trivial

def guardsAfter (usage : Usage) : Action → List Nat
  | .disable owner =>
      if (usage.world.disable owner).1.isOk = true then owner :: usage.guards else usage.guards
  | .enable owner => usage.guards.erase owner
  | _ => usage.guards

def act (usage : Usage) (action : Action) : Usage :=
  if usage.Allows action then ⟨usage.world.act action, usage.guardsAfter action⟩ else usage

def run (usage : Usage) (actions : List Action) : Usage := actions.foldl act usage

/-- What the serial numbers and the guards of arenas come to after that many calls. -/
structure WellFormed (usage : Usage) (calls : Nat) : Prop where
  sound : usage.world.Sound
  counted : ∀ owner arena, usage.world.arena? owner = some arena → arena.nextSerial ≤ calls ∧
    arena.disabled = usage.world.profile.counted (usage.guards.count owner)
  few : usage.guards.length ≤ calls
  known : ∀ owner ∈ usage.guards, owner < usage.world.tenants.length

variable {usage : Usage} {calls : Nat}

theorem new_wellFormed (profile : Profile) (site : Site) (logs : Logs) :
    WellFormed ⟨World.new profile site logs, []⟩ 0 := by
  refine ⟨World.new_soundIfProvided profile site logs trivial, ?_, Nat.le_refl 0, by simp⟩
  intro owner arena found
  simp [World.arena?, World.new] at found

theorem act_traffic_suffix (usage : Usage) (action : Action) :
    usage.world.traffic <:+ (usage.act action).world.traffic := by
  unfold act
  split
  · exact usage.world.act_traffic_suffix action
  · exact List.suffix_refl _

theorem run_traffic_suffix (usage : Usage) (actions : List Action) :
    usage.world.traffic <:+ (usage.run actions).world.traffic :=
  suffix_foldl (fun usage => usage.world.traffic) act_traffic_suffix usage actions

/-- What a run does to the cell of an arena. -/
def accesses (owner : Nat) : Usage → List Action → List Access
  | _, [] => []
  | usage, action :: rest =>
      (if usage.Allows action ∧ action.owner? = some owner then
          (usage.world.actTraced action).accesses
        else []) ++ accesses owner (usage.act action) rest

theorem accesses_leavesFree (owner : Nat) (usage : Usage) (actions : List Action) :
    LeavesFree (usage.accesses owner actions) := by
  induction actions generalizing usage with
  | nil => rfl
  | cons action rest ih =>
    rw [accesses]
    apply LeavesFree.append _ (ih (usage.act action))
    split
    · obtain ⟨after, settles, _⟩ := usage.world.actTraced_settles action
      exact settles.leavesFree
    · rfl

namespace WellFormed

theorem more (wellFormed : usage.WellFormed calls) {total : Nat} (enough : calls ≤ total) :
    usage.WellFormed total := by
  refine ⟨wellFormed.sound, ?_, Nat.le_trans wellFormed.few enough, wellFormed.known⟩
  intro owner arena found
  obtain ⟨serial, disabled⟩ := wellFormed.counted owner arena found
  exact ⟨Nat.le_trans serial enough, disabled⟩

theorem follow (wellFormed : usage.WellFormed calls) {last : World}
    {guards : List Nat} {total : Nat} (owner : Nat) (sequence : World.StepSequence usage.world last)
    (provided : Provided last.traffic) (enough : calls ≤ total)
    (others : ∀ other, other ≠ owner → last.arena? other = usage.world.arena? other ∧
      guards.count other = usage.guards.count other)
    (counted : ∀ arena, last.arena? owner = some arena → arena.nextSerial ≤ total ∧
      arena.disabled = usage.world.profile.counted (guards.count owner))
    (few : guards.length ≤ total) (known : ∀ other ∈ guards, other < usage.world.tenants.length) :
    WellFormed ⟨last, guards⟩ total := by
  refine ⟨sequence.soundIf (fun _ => wellFormed.sound) provided, ?_, few, ?_⟩
  · intro other arena found
    rw [sequence.profile]
    by_cases own : other = owner
    · subst own
      exact counted arena found
    · obtain ⟨still, count⟩ := others other own
      obtain ⟨serial, disabled⟩ := wellFormed.counted other arena (still ▸ found)
      exact ⟨Nat.le_trans serial enough, by rw [disabled, count]⟩
  · exact fun other guard => Nat.lt_of_lt_of_le (known other guard) sequence.tenants_le

theorem onArena (wellFormed : usage.WellFormed calls) (owner : Nat) {α : Type}
    {call : Arena → Env → Reply α} {guards : List Nat}
    (changes : ∀ arena : Arena, arena.Consistent → totalCapacity arena.chunks < wordLimit →
      ∀ env : Env, Arena.Changes env.profile arena (call arena env).effects (call arena env).arena)
    (provided : Provided (usage.world.onArena owner call).2.traffic)
    (others : ∀ other, other ≠ owner → guards.count other = usage.guards.count other)
    (few : guards.length ≤ calls + 1) (known : ∀ other ∈ guards, other < usage.world.tenants.length)
    (counted : ∀ (arena : Arena) (env : Env), usage.world.arena? owner = some arena →
      env.profile = usage.world.profile → arena.Consistent →
        totalCapacity arena.chunks < wordLimit →
          (call arena env).arena.nextSerial = arena.nextSerial ∧ (call arena env).arena.disabled =
            usage.world.profile.counted (guards.count owner)) :
    WellFormed ⟨(usage.world.onArena owner call).2, guards⟩ (calls + 1) := by
  have before := provided_of_suffix provided (usage.world.onArena_suffix owner call)
  have sequence := World.onArena_sequence wellFormed.sound before owner changes
  refine wellFormed.follow owner sequence provided (Nat.le_succ calls) ?_ ?_ few known
  · exact fun other different =>
      ⟨World.onArena_other usage.world different call, others other different⟩
  · intro after present
    cases found : usage.world.arena? owner with
    | none =>
      obtain ⟨cause, nothing⟩ := World.onArena_none found call
      rw [nothing, found] at present
      cases present
    | some arena =>
      obtain ⟨skew, _, next⟩ := World.onArena_self found call
      cases present.symm.trans next
      obtain ⟨serial, disabled⟩ := counted arena (usage.world.env skew) found rfl
        (wellFormed.sound owner arena found).consistent (wellFormed.sound.small before found)
      have small := (wellFormed.counted owner arena found).1
      exact ⟨by omega, disabled⟩

theorem steady (wellFormed : usage.WellFormed calls) (owner : Nat) {α : Type}
    {call : Arena → Env → Reply α}
    (changes : ∀ arena : Arena, arena.Consistent → totalCapacity arena.chunks < wordLimit →
      ∀ env : Env, Arena.Changes env.profile arena (call arena env).effects (call arena env).arena)
    (provided : Provided (usage.world.onArena owner call).2.traffic)
    (still : ∀ (arena : Arena) (env : Env), arena.Consistent →
      totalCapacity arena.chunks < wordLimit →
        (call arena env).arena.nextSerial = arena.nextSerial ∧
          (call arena env).arena.disabled = arena.disabled) :
    WellFormed ⟨(usage.world.onArena owner call).2, usage.guards⟩ (calls + 1) := by
  apply wellFormed.onArena owner changes provided (fun _ _ => rfl)
    (Nat.le_succ_of_le wellFormed.few)
    wellFormed.known
  intro arena env found _ consistent small
  obtain ⟨serial, disabled⟩ := still arena env consistent small
  exact ⟨serial, disabled.trans (wellFormed.counted owner arena found).2⟩

theorem outside (wellFormed : usage.WellFormed calls) (memory : Memory) (tally : Tally)
    (logs : Logs) :
    WellFormed ⟨{ usage.world with memory := memory, tally := tally, logs := logs }, usage.guards⟩
      calls :=
  ⟨wellFormed.sound.congr (fun _ => rfl) rfl rfl, wellFormed.counted, wellFormed.few,
    wellFormed.known⟩

theorem count (wellFormed : usage.WellFormed calls) (kind : Kind) (change : Tally → Tally) :
    WellFormed ⟨usage.world.count kind change, usage.guards⟩ calls := by
  rw [World.count_eq]
  exact wellFormed.outside usage.world.memory _ usage.world.logs

theorem suits (wellFormed : usage.WellFormed calls) {owner : Nat} {arena : Arena}
    (found : usage.world.arena? owner = some arena) (more : Nat) :
    usage.world.Suits
      ⟨owner, arena.label, arena.disabled, usage.world.logs.complaint, calls + more⟩ more := by
  intro _
  refine ⟨wellFormed.sound, rfl, ?_⟩
  intro same present
  rw [found] at present
  cases present
  have serial := (wellFormed.counted owner arena found).1
  exact ⟨rfl, rfl, Nat.add_le_add_right serial more⟩

theorem place (wellFormed : usage.WellFormed calls) (owner : Nat) (request : Request)
    (few : calls + request.calls < wordLimit)
    (provided : Provided (request.ask usage.world owner).2.traffic) :
    WellFormed ⟨(request.ask usage.world owner).2, usage.guards⟩ (calls + request.calls) := by
  have served := usage.world.serve_served owner request
  rw [request.serve_eq] at served
  have sequence := served.sequence (fun _ => wellFormed.sound) provided
  refine wellFormed.follow owner sequence provided (Nat.le_add_right _ _) ?_ ?_
    (Nat.le_trans wellFormed.few (Nat.le_add_right _ _)) wellFormed.known
  · exact fun other different => ⟨served.arena?_other different, rfl⟩
  · intro after present
    cases found : usage.world.arena? owner with
    | none =>
      have missing := served.missing found
      rw [present] at missing
      cases missing
    | some arena =>
      obtain ⟨_, fits⟩ := request.behaves (wellFormed.suits found request.calls) few provided
      obtain ⟨_, disabled, room⟩ := fits.room after present
      exact ⟨room, disabled.trans (wellFormed.counted owner arena found).2⟩

theorem disable (wellFormed : usage.WellFormed calls) (owner : Nat)
    (provided : Provided (usage.world.disable owner).2.traffic) :
    WellFormed ⟨(usage.world.disable owner).2, usage.guardsAfter (.disable owner)⟩ (calls + 1) := by
  have changes (arena : Arena) (_ : arena.Consistent)
      (_ : totalCapacity arena.chunks < wordLimit) (env : Env) :
      Arena.Changes env.profile arena (arena.disable env.profile).effects
        (arena.disable env.profile).arena :=
    Arena.hold_changes (Arena.disable_holds arena env.profile)
  cases found : usage.world.arena? owner with
  | none =>
    obtain ⟨cause, nothing⟩ :=
      World.onArena_none found fun arena env => arena.disable env.profile
    have same : usage.world.disable owner = (.error (.refused cause), usage.world) := nothing
    simp only [guardsAfter, same, Except.isOk, Except.toBool, Bool.false_eq_true, ↓reduceIte]
    exact wellFormed.more (Nat.le_succ calls)
  | some arena =>
    obtain ⟨skew, answer, _⟩ :=
      World.onArena_self found fun arena env => arena.disable env.profile
    have answer : (usage.world.disable owner).1 = (arena.disable usage.world.profile).result :=
      answer
    have disabled := (wellFormed.counted owner arena found).2
    rcases Arena.disable_cases arena usage.world.profile with overflow | done
    · have failed : (usage.world.disable owner).1.isOk = false := by
        rw [answer, overflow]
        rfl
      simp only [guardsAfter, failed, Bool.false_eq_true, ↓reduceIte]
      apply wellFormed.onArena owner changes provided (fun _ _ => rfl)
        (Nat.le_succ_of_le wellFormed.few)
        wellFormed.known
      intro same env present profile _ _
      cases found.symm.trans present
      rw [profile, overflow]
      exact ⟨rfl, disabled⟩
    · have counted : (usage.world.disable owner).1.isOk = true := by
        rw [answer, done]
        rfl
      simp only [guardsAfter, counted, ↓reduceIte]
      apply wellFormed.onArena owner changes provided
      · exact fun other different => List.count_cons_of_ne different.symm
      · exact Nat.succ_le_succ wellFormed.few
      · intro other guard
        rcases List.mem_cons.mp guard with here | older
        · rw [here]
          exact World.arena?_lt found
        · exact wellFormed.known other older
      · intro same env present profile _ _
        cases found.symm.trans present
        rw [profile, done, List.count_cons_self, Profile.counted_succ _ (usage.guards.count owner),
          ← disabled]
        exact ⟨rfl, rfl⟩

theorem enable (wellFormed : usage.WellFormed calls) {owner : Nat} (alive : owner ∈ usage.guards)
    (provided : Provided (usage.world.enable owner).2.traffic) :
    WellFormed ⟨(usage.world.enable owner).2, usage.guards.erase owner⟩ (calls + 1) := by
  have changes (arena : Arena) (_ : arena.Consistent)
      (_ : totalCapacity arena.chunks < wordLimit) (env : Env) :
      Arena.Changes env.profile arena (arena.enable env.profile).effects
        (arena.enable env.profile).arena :=
    Arena.hold_changes (Arena.enable_holds arena env.profile)
  apply wellFormed.onArena owner changes provided
  · exact fun other different => List.count_erase_of_ne different
  · exact Nat.le_succ_of_le (Nat.le_trans List.length_erase_le wellFormed.few)
  · exact fun other guard => wellFormed.known other (List.mem_of_mem_erase guard)
  · intro arena env found profile _ _
    have some_guard := List.count_pos_iff.mpr alive
    have disabled := (wellFormed.counted owner arena found).2
    have split := usage.world.profile.counted_succ (usage.guards.count owner - 1)
    rw [Nat.sub_add_cancel some_guard] at split
    rw [profile, Arena.enable_of_counted disabled some_guard, List.count_erase_self]
    exact ⟨rfl, by simp only; omega⟩

theorem release (wellFormed : usage.WellFormed calls) (owner : Nat)
    (provided : Provided (usage.world.release owner).2.traffic) :
    WellFormed ⟨(usage.world.release owner).2, usage.guards⟩ (calls + 1) := by
  apply wellFormed.steady owner (fun _ consistent small env =>
    Arena.release_changes consistent small env) provided
  intro arena env consistent small
  rw [(Arena.release_closes consistent small env).arena_eq]
  exact ⟨rfl, rfl⟩

theorem vacated {world : World} {guards : List Nat} (wellFormed : WellFormed ⟨world, guards⟩ calls)
    (owner : Nat) : WellFormed ⟨world.vacated owner, guards⟩ calls := by
  refine ⟨wellFormed.sound.vacated owner, ?_, wellFormed.few, ?_⟩
  · intro other arena present
    by_cases own : other = owner
    · rw [own, World.arena?_vacated_self] at present
      cases present
    · rw [World.arena?_vacated_other world own] at present
      exact wellFormed.counted other arena present
  · intro other guard
    have inside := wellFormed.known other guard
    simpa [World.vacated] using inside

theorem act (wellFormed : usage.WellFormed calls) (action : Action)
    (few : calls + action.calls < wordLimit)
    (provided : Provided (usage.act action).world.traffic) :
    (usage.act action).WellFormed (calls + action.calls) := by
  unfold Usage.act at provided ⊢
  split
  · rename_i allowed
    rw [if_pos allowed] at provided
    cases action with
    | create builder skew =>
      have sequence := (World.Step.arrive usage.world builder skew).sequence
      refine
        ⟨sequence.soundIf (fun _ => wellFormed.sound) provided, ?_,
          Nat.le_succ_of_le wellFormed.few, ?_⟩
      · intro owner arena present
        rcases World.arena?_addArena present with old | ⟨here, fresh⟩
        · exact (wellFormed.more (Nat.le_succ calls)).counted owner arena old
        · have nobody : owner ∉ usage.guards := by
            intro guard
            have inside := wellFormed.known owner guard
            omega
          rw [fresh]
          refine ⟨Nat.zero_le _, ?_⟩
          simp only [guardsAfter]
          rw [List.count_eq_zero_of_not_mem nobody, Profile.counted_zero]
          rfl
      · exact fun owner guard =>
          Nat.lt_of_lt_of_le (wellFormed.known owner guard) sequence.tenants_le
    | place owner request =>
      simp only [World.act, request.serve_eq] at provided ⊢
      exact wellFormed.place owner request few provided
    | grow owner start old new elementSize =>
      apply wellFormed.steady owner (fun _ consistent _ env =>
        Arena.grow_changes consistent env start old new elementSize) provided
      intro arena env consistent _
      exact ⟨Arena.grow_nextSerial consistent env start old new elementSize,
        arena.grow_disabled env start old new elementSize⟩
    | dispose owner depth address disposal =>
      simp only [World.act] at provided ⊢
      obtain ⟨kind, change, ⟨failure, _, stopped⟩ | ⟨layout, _, done⟩⟩ :=
        dispose_cases usage.world owner depth address disposal
      · rw [stopped]
        exact (wellFormed.count kind change).more (Nat.le_succ calls)
      · rw [done] at provided ⊢
        apply (wellFormed.count kind change).steady owner (fun arena _ _ env =>
          arena.deallocate_changes env address layout) provided
        intro arena env _ _
        exact ⟨arena.deallocate_nextSerial env address layout,
          arena.deallocate_disabled env address layout⟩
    | write start bytes | log call =>
      exact (wellFormed.outside _ _ _).more (Nat.le_succ calls)
    | rewind owner snapshot =>
      apply wellFormed.steady owner (fun _ consistent small env =>
        (Arena.rewind_rewinds consistent small env snapshot).changes) provided
      intro arena env consistent small
      have rewinds := Arena.rewind_rewinds consistent small env snapshot
      exact ⟨rewinds.nextSerial, arena.rewind_disabled env snapshot⟩
    | disable owner => exact wellFormed.disable owner provided
    | enable owner => exact wellFormed.enable allowed provided
    | release owner => exact wellFormed.release owner provided
    | drop owner =>
      simp only [World.act, World.drop_eq] at provided ⊢
      exact (wellFormed.release owner provided).vacated owner
  · exact wellFormed.more (Nat.le_add_right _ _)

theorem run (wellFormed : usage.WellFormed calls) (actions : List Action)
    (few : calls + Action.callsOf actions < wordLimit)
    (provided : Provided (usage.run actions).world.traffic) :
    (usage.run actions).WellFormed (calls + Action.callsOf actions) := by
  induction actions generalizing usage calls with
  | nil => exact wellFormed
  | cons action rest ih =>
    rw [Action.callsOf, ← Nat.add_assoc] at few ⊢
    have between := provided_of_suffix provided ((usage.act action).run_traffic_suffix rest)
    exact ih (wellFormed.act action (by omega) between) few provided

end WellFormed

end Usage

section Panics

theorem World.onArena_fails {world : World} {owner : Nat} {arena : Arena} {α : Type}
    {named : Failure → Prop} (found : world.arena? owner = some arena)
    {call : Arena → Env → Reply α}
    (fails : ∀ env : Env, env.profile = world.profile →
      FailsOnly env.complaint named (call arena env).result) :
    FailsOnly world.logs.complaint named (world.onArena owner call).1 := by
  obtain ⟨skew, answer, _⟩ := onArena_self found call
  rw [answer]
  exact fails (world.env skew) rfl

theorem failureOf_eq_some {α : Type} {result : Except Failure α} {failure : Failure}
    (failed : failureOf result = some failure) : result = .error failure := by
  cases result with
  | ok value => cases failed
  | error other =>
    cases failed
    rfl

def World.Unwritable (world : World) (failure : Failure) : Prop :=
  ∃ level cause, world.logs.complaint level = some cause ∧ failure = .panic cause

theorem FailsOnly.settle {α : Type} {world : World} {named : Failure → Prop}
    {result : Except Failure α} {failure : Failure}
    (fails : FailsOnly world.logs.complaint named result)
    (failed : failureOf result = some failure) : named failure ∨ world.Unwritable failure := by
  rcases fails failure (failureOf_eq_some failed) with expected | ⟨entry, cause, loud, same⟩
  · exact Or.inl expected
  · exact Or.inr ⟨entry.level, cause, loud, same⟩

theorem Usage.WellFormed.fails {usage : Usage} {calls : Nat} (wellFormed : usage.WellFormed calls)
    {action : Action} (few : calls + action.calls < wordLimit) (allowed : usage.Allows action)
    {owner : Nat} (about : action.owner? = some owner) {arena : Arena}
    (found : usage.world.arena? owner = some arena)
    (provided : Provided (usage.world.act action).traffic) {failure : Failure}
    (failed : action.failure? usage.world = some failure) :
    action.Fails arena.label failure ∨ usage.world.Unwritable failure := by
  have before := provided_of_suffix provided (usage.world.act_traffic_suffix action)
  have consistent := (wellFormed.sound owner arena found).consistent
  have small := wellFormed.sound.small before found
  obtain ⟨serial, disabled⟩ := wellFormed.counted owner arena found
  cases action with
  | create | write | log => cases about
  | place other request =>
    cases about
    simp only [World.act, request.serve_eq] at provided
    have fails := (request.behaves (wellFormed.suits found request.calls) few provided).1
    exact (fails.settle failed).imp_left .place
  | grow other start old new elementSize =>
    cases about
    have fails : FailsOnly usage.world.logs.complaint (· = .panic (.disabled arena.label))
        (usage.world.grow owner start old new elementSize).1 :=
      World.onArena_fails found fun env _ =>
        Arena.grow_fails consistent env start old new elementSize _ rfl
    rcases fails.settle failed with same | loud
    · rw [same]
      exact Or.inl .grow
    · exact Or.inr loud
  | dispose other depth address disposal =>
    cases about
    simp only [Action.failure?] at failed
    obtain ⟨kind, change, ⟨failure, stops, stopped⟩ | ⟨layout, _, done⟩⟩ :=
      dispose_cases usage.world owner depth address disposal
    · rw [stopped] at failed
      cases failed
      exact Or.inl (.destroy stops)
    · have counted : World.arena? (usage.world.count kind change) owner = some arena := by
        rw [World.count_eq]
        exact found
      have fails : FailsOnly (usage.world.count kind change).logs.complaint
          (· = .error .notFromAllocator)
          (disposal.dispose usage.world (.nested owner depth) address).1 := by
        rw [done]
        exact World.onArena_fails counted fun env _ =>
          arena.deallocate_fails env address layout _ rfl
      rw [World.count_eq] at fails
      rcases fails.settle failed with same | loud
      · rw [same]
        exact Or.inl .notOwned
      · exact Or.inr loud
  | rewind other snapshot =>
    cases about
    have fails : FailsOnly usage.world.logs.complaint (Failure.OfRewind arena.label)
        (usage.world.rewind owner snapshot).1 :=
      World.onArena_fails found fun env _ => Arena.rewind_fails consistent small env snapshot
    exact (fails.settle failed).imp_left .rewind
  | disable other =>
    cases about
    have bound : usage.world.profile.counted (usage.guards.count owner) ≤ usage.guards.length :=
      Nat.le_trans (Profile.counted_le _ _) List.count_le_length
    have room : calls + 1 < wordLimit := few
    have enough := wellFormed.few
    have fails : FailsOnly usage.world.logs.complaint (fun _ => False)
        (usage.world.disable owner).1 := by
      refine World.onArena_fails found fun env _ => ?_
      rw [Arena.disable_of_room (by omega)]
      exact .ok ()
    exact (fails.settle failed).imp_left False.elim
  | enable other =>
    cases about
    have fails : FailsOnly usage.world.logs.complaint (fun _ => False)
        (usage.world.enable owner).1 := by
      refine World.onArena_fails found fun env profile => ?_
      rw [profile, Arena.enable_of_counted disabled (List.count_pos_iff.mpr allowed)]
      exact .ok ()
    exact (fails.settle failed).imp_left False.elim
  | release other | drop other =>
    cases about
    have fails : FailsOnly usage.world.logs.complaint (fun _ => False)
        (usage.world.release owner).1 :=
      World.onArena_fails found fun env _ =>
        (Arena.release_closes consistent small env).fails fun _ => False
    exact (fails.settle failed).imp_left False.elim

/-- After any calls that are fewer than there are words, an action on an arena panics only in the
ways that have a name, apart from reports that the core logger accepts and cannot write. The bytes
left in the arena's newest chunk are a difference of words all along, and no borrow of its chunks is
refused, whatever calls others make in between. -/
theorem panics_are_named (profile : Profile) (site : Site) (logs : Logs) (actions : List Action)
    (action : Action) (few : Action.callsOf actions + action.calls < wordLimit)
    (allowed : ((Usage.mk (World.new profile site logs) []).run actions).Allows action)
    (owner : Nat) (about : action.owner? = some owner) (arena : Arena)
    (found : ((Usage.mk (World.new profile site logs) []).run actions).world.arena? owner =
      some arena)
    (provided : Provided
      (((Usage.mk (World.new profile site logs) []).run actions).world.act action).traffic) :
    let world := ((Usage.mk (World.new profile site logs) []).run actions).world
    (∀ whole,
      Interleaved
        ((Usage.mk (World.new profile site logs) []).accesses owner (actions ++ [action])) whole →
        Cell.free.follow whole = some .free) ∧
      arena.remaining + arena.cursor.next = arena.cursor.limit ∧
      ∀ cause, action.failure? world = some (.panic cause) →
        action.Fails arena.label (.panic cause) ∨
          cause.OfLine world.logs.outputs.fault ∧
            ∃ level, world.logs.complaint level = some cause := by
  have usual := (Usage.new_wellFormed profile site logs).run actions
  rw [← Nat.zero_add (Action.callsOf actions)] at few
  refine ⟨fun whole interleaved => interleaved.follow (Usage.accesses_leavesFree owner _ _), ?_⟩
  generalize (Usage.mk (World.new profile site logs) []).run actions = usage at *
  have before := provided_of_suffix provided (usage.world.act_traffic_suffix action)
  have wellFormed := usual (by omega) before
  have bound := (wellFormed.sound owner arena found).consistent.limit_bound
  refine ⟨Nat.sub_add_cancel bound, ?_⟩
  intro cause panicked
  rcases wellFormed.fails few allowed about found provided panicked with
    named | ⟨level, cause, loud, same⟩
  · exact Or.inl named
  · cases same
    exact Or.inr ⟨Logs.complaint_ofLine loud, level, loud⟩

def failingActions : List Action :=
  [.create ⟨"pairs", 16⟩ 0, .place 0 (.bytes 3 3), .place 0 (.bytes (wordLimit - 1) 8),
    .place 0 (.array .u32 (wordLimit - 1)), .place 0 (.bytes 4 4), .disable 0]

theorem failing_panics_are_named :
    let start := Usage.mk (World.new .debug pagedSite (Logs.empty none)) []
    let world := (start.run failingActions).world
    let accesses := start.accesses 0 (failingActions ++ [.place 0 (.bytes 4 4)])
    ∃ arena, world.arena? 0 = some arena ∧
      Access.beginWrite ∈ accesses ∧
        (∀ whole, Interleaved accesses whole → Cell.free.follow whole = some .free) ∧
      (Action.place 0 (.bytes 4 4)).failure? world = some (.panic (.disabled "pairs")) ∧
      (Action.Fails arena.label (.place 0 (.bytes 4 4)) (.panic (.disabled "pairs")) ∨
        (Panic.disabled "pairs").OfLine world.logs.outputs.fault ∧
          ∃ level, world.logs.complaint level = some (.disabled "pairs")) := by
  have few : Action.callsOf failingActions + (Action.place 0 (.bytes 4 4)).calls < wordLimit := by
    decide +kernel
  have allowed :
    ((Usage.mk (World.new .debug pagedSite (Logs.empty none)) []).run failingActions).Allows
      (.place 0 (.bytes 4 4)) := trivial
  have present : (((Usage.mk (World.new .debug pagedSite (Logs.empty none)) []).run
      failingActions).world.arena? 0).isSome = true := by decide +kernel
  have provided : Provided (((Usage.mk (World.new .debug pagedSite (Logs.empty none)) []).run
      failingActions).world.act (.place 0 (.bytes 4 4))).traffic := by decide +kernel
  have panicked : (Action.place 0 (.bytes 4 4)).failure? ((Usage.mk
      (World.new .debug pagedSite (Logs.empty none)) []).run failingActions).world =
        some (.panic (.disabled "pairs")) := by decide +kernel
  obtain ⟨arena, found⟩ := Option.isSome_iff_exists.mp present
  have named :=
    panics_are_named .debug pagedSite (Logs.empty none) failingActions (.place 0 (.bytes 4 4))
      few allowed 0 rfl arena found provided
  exact ⟨arena, found, by decide +kernel, named.1, panicked, named.2.2 _ panicked⟩

/-- An allocation that needs a chunk panics when its report cannot be written, which is none of the
panics that requests have names for. -/
theorem unwritable_report_stops_request :
    let logs := ((Logs.empty none).init Logs.coreName ⟨.debug, "Core", [.stdout], "%Q"⟩).2
    let usage := (Usage.mk (World.new .debug pagedSite logs) []).run [.create ⟨"pairs", 16⟩ 0]
    (usage.world.arena? 0).map Arena.label = some "pairs" ∧
      Provided (usage.world.act (.place 0 (.bytes 4 4))).traffic ∧
      (Action.place 0 (.bytes 4 4)).failure? usage.world = some (.panic .timeFormat) ∧
      ¬ Action.Fails "pairs" (.place 0 (.bytes 4 4)) (.panic .timeFormat) := by
  refine ⟨by decide +kernel, by decide +kernel, by decide +kernel, ?_⟩
  intro named
  cases named with
  | place expected =>
    cases expected with
    | attempted known => cases known

end Panics

end ChunkArena
