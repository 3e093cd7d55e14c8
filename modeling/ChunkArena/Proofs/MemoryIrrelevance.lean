import ChunkArena.Proofs.PairedRequests
import ChunkArena.Proofs.StrippedWorlds

/-!
What memory holds decides nothing. Two worlds that differ in their memories, and in the marks on
blocks that went back, take every action alike: the same arenas, logs and counts come out of it, and
the system is asked for the same blocks. If the system does not look at the marks, it puts them at
the same places, and every request is served at the same addresses.
-/

namespace ChunkArena

namespace World

/-- Whether two worlds differ in their memories, and in what was in the blocks that went back, at
most. -/
structure Parallels (world twin : World) : Prop where
  profile : twin.profile = world.profile
  site : twin.site = world.site
  blind : Blind world.site
  traffic : twin.traffic.map Traffic.plain = world.traffic.map Traffic.plain
  tally : twin.tally = world.tally
  logs : twin.logs = world.logs
  tenants : twin.tenants = world.tenants

namespace Parallels

variable {world twin : World}

theorem env (akin : world.Parallels twin) (skew : Nat) : twin.env skew = world.env skew := by
  have place := akin.blind twin.traffic world.traffic akin.traffic
  simp only [World.env, akin.profile, akin.site, akin.logs, place]

theorem outside (akin : world.Parallels twin) (memory memory' : Memory) (change : Tally → Tally) :
    Parallels { world with memory := memory, tally := change world.tally }
      { twin with memory := memory', tally := change twin.tally } :=
  ⟨akin.profile, akin.site, akin.blind, akin.traffic, congrArg change akin.tally,
    akin.logs, akin.tenants⟩

theorem perform (akin : world.Parallels twin) (owner : Nat) (effect : Effect) :
    (perform owner world effect).Parallels (perform owner twin effect) := by
  cases effect with
  | obtain chunk =>
    refine ⟨akin.profile, akin.site, akin.blind, ?_, akin.tally, akin.logs,
      akin.tenants⟩
    simp only [World.perform, List.map_cons, akin.traffic]
  | giveBack chunk =>
    refine ⟨akin.profile, akin.site, akin.blind, ?_, akin.tally, akin.logs,
      akin.tenants⟩
    simp only [World.perform, List.map_cons, akin.traffic, Traffic.plain]
  | fill start count byte => exact akin.outside _ _ id
  | report label entry =>
    simp only [World.perform, akin.logs]
    exact ⟨akin.profile, akin.site, akin.blind, akin.traffic, akin.tally, rfl, akin.tenants⟩

theorem performs (akin : world.Parallels twin) (owner : Nat) (effects : List Effect) :
    (effects.foldl (World.perform owner) world).Parallels
      (effects.foldl (World.perform owner) twin) := by
  induction effects generalizing world twin with
  | nil => exact akin
  | cons effect rest ih => exact ih (akin.perform owner effect)

/-- A call on an arena gets the same answer. -/
theorem onArena (akin : world.Parallels twin) (owner : Nat) {α : Type}
    (call : Arena → Env → Reply α) :
    (twin.onArena owner call).1 = (world.onArena owner call).1 ∧
      (world.onArena owner call).2.Parallels (twin.onArena owner call).2 := by
  unfold World.onArena
  rw [akin.tenants]
  cases world.tenants[owner]? with
  | none => exact ⟨rfl, akin⟩
  | some tenant =>
    simp only
    cases tenant.arena with
    | none => exact ⟨rfl, akin⟩
    | some arena =>
      simp only [akin.env, commit, true_and]
      apply performs
      refine ⟨akin.profile, akin.site, akin.blind, akin.traffic, akin.tally,
        akin.logs, ?_⟩
      simp only [akin.tenants]

theorem count (akin : world.Parallels twin) (kind : Kind) (change : Tally → Tally) :
    (world.count kind change).Parallels (twin.count kind change) := by
  unfold World.count
  split
  · exact akin.outside _ _ _
  · exact akin

end Parallels

def paralleling (owner : Nat) : PairRelation owner owner where
  fine _ _ := True
  suits _ := True
  holds pairings world twin :=
    world.Parallels twin ∧ ∀ pairing ∈ pairings, pairing.there = pairing.here
  earlier _ _ _ := trivial
  forgets kept fewer := ⟨kept.1, fun pairing member => kept.2 pairing (fewer member)⟩
  asked := by
    intro pairings world twin size align call kept _ _ _
    obtain ⟨same, after⟩ := kept.1.onArena owner call
    rw [same]
    cases (world.onArena owner call).1 with
    | error failure => exact ⟨[], .failed failure, after, kept.2⟩
    | ok start =>
      refine ⟨_, .granted start start, after, ?_⟩
      intro pairing member
      rcases List.mem_cons.mp member with newest | older
      · rw [newest]
      · exact kept.2 pairing older
  stored kept _ _ := ⟨kept.1.outside _ _ id, kept.2⟩
  counted kept _ kind := ⟨kept.1.count kind _, kept.2⟩

namespace Parallels

variable {world twin : World}

theorem request (akin : world.Parallels twin) (owner : Nat) (request : Request) :
    (request.ask twin owner).1 = (request.ask world owner).1 ∧
      (request.ask world owner).2.Parallels (request.ask twin owner).2 := by
  have related : (paralleling owner).Related [] world twin := fun _ => ⟨akin, by simp⟩
  obtain ⟨more, answered, after, same⟩ := related.request request (fun _ _ => trivial) trivial
  rw [List.append_nil] at same
  exact ⟨answered.eq same, after⟩

theorem serve (akin : world.Parallels twin) (owner : Nat) (request : Request) :
    (request.serve twin owner).1 = (request.serve world owner).1 ∧
      (request.serve world owner).2.Parallels (request.serve twin owner).2 := by
  obtain ⟨same, after⟩ := akin.request owner request
  rw [request.serve_eq, request.serve_eq, same]
  exact ⟨rfl, after⟩

theorem dispose (akin : world.Parallels twin) (owner depth address : Nat) (disposal : Disposal) :
    (disposal.dispose world (.nested owner depth) address).2.Parallels
      (disposal.dispose twin (.nested owner depth) address).2 := by
  obtain ⟨kind, number, ⟨failure, _, stopped⟩ | ⟨layout, _, done⟩⟩ := dispose_forms disposal
  · have destroyed : (world.destroy kind number).Parallels (twin.destroy kind number) :=
      akin.count kind _
    rw [stopped, stopped]
    exact destroyed
  · rw [done, done]
    exact ((akin.count kind _).onArena owner _).2

theorem act (akin : world.Parallels twin) (action : Action) :
    (world.act action).Parallels (twin.act action) := by
  cases action with
  | create builder skew =>
    refine ⟨akin.profile, akin.site, akin.blind, akin.traffic, akin.tally, akin.logs, ?_⟩
    simp only [World.act, addArena, akin.tenants]
  | place owner request => exact (akin.serve owner request).2
  | grow owner start old new elementSize => exact (akin.onArena owner _).2
  | dispose owner depth address disposal => exact akin.dispose owner depth address disposal
  | write start bytes => exact akin.outside _ _ id
  | rewind owner snapshot => exact (akin.onArena owner _).2
  | disable owner => exact (akin.onArena owner _).2
  | enable owner => exact (akin.onArena owner _).2
  | release owner => exact (akin.onArena owner _).2
  | drop owner =>
    have released := (akin.onArena owner Arena.release).2
    simp only [World.act, drop_eq]
    refine ⟨released.profile, released.site, released.blind, released.traffic, released.tally,
      released.logs, ?_⟩
    have same := released.tenants
    simp only [World.vacated, World.release, same]
  | log call =>
    refine ⟨akin.profile, akin.site, akin.blind, akin.traffic, akin.tally, ?_,
      akin.tenants⟩
    simp only [World.act, World.log, akin.logs]

theorem run (akin : world.Parallels twin) (actions : List Action) :
    (world.run actions).Parallels (twin.run actions) := by
  induction actions generalizing world twin with
  | nil => exact akin
  | cons action rest ih => exact ih (akin.act action)

end Parallels

end World

end ChunkArena
