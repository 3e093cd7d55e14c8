import ChunkArena.Proofs.BlockAccounting
import ChunkArena.Proofs.PairedRequests
import ChunkArena.Proofs.StrippedWorlds

/-!
Requests agree in both builds. While an arena has no disable guard alive and its serial numbers have
not run out, every request to it answers alike in a world and in one that is the same up to the
guards: the same addresses, the same errors, the same panics. What is stored and counted on the way
is the same too.
-/

namespace ChunkArena

structure Roomy (owner : Nat) (traffic : List Traffic) : Prop where
  provided : Provided traffic
  few : obtainedBy owner traffic + 1 < wordLimit

theorem Roomy.of_suffix {owner : Nat} {earlier later : List Traffic} (roomy : Roomy owner later)
    (suffix : earlier <:+ later) : Roomy owner earlier := by
  have fewer := obtainedBy_suffix suffix owner
  have few := roomy.few
  exact ⟨provided_of_suffix roomy.provided suffix, by omega⟩

theorem Roomy.small {owner : Nat} {earlier later : List Traffic} (roomy : Roomy owner later)
    (suffix : earlier <:+ later) : obtainedBy owner earlier < wordLimit :=
  Nat.lt_of_succ_lt (roomy.of_suffix suffix).few

theorem Arena.Asks.stripped {size align : Nat} {call : Arena → Env → Reply Nat}
    (asks : Arena.Asks size align call) {arena : Arena} (consistent : arena.Consistent)
    (counted : arena.nextSerial + 1 < wordLimit) (enabled : arena.disabled = 0) (env : Env) :
    call arena.stripped env.stripped = (call arena env).stripped := by
  cases asks with
  | allocate => exact Arena.allocate_stripped consistent counted enabled env size align
  | tryAllocate => exact Arena.tryAllocate_stripped consistent counted enabled env size align
  | allocateArray kind count =>
    exact Arena.allocateArray_stripped consistent counted enabled env kind count

namespace World

structure Ready (world : World) (owner : Nat) : Prop where
  sound : world.Sound
  conserved : world.BlocksConserved owner
  enabled : ∀ arena, world.arena? owner = some arena → arena.disabled = 0

variable {world twin : World} {owner : Nat}

theorem BlocksConserved.counted (conserved : world.BlocksConserved owner)
    (roomy : Roomy owner world.traffic) {arena : Arena} (found : world.arena? owner = some arena) :
    arena.nextSerial + 1 < wordLimit := by
  obtain ⟨next, account, number⟩ := conserved.account
  have few := roomy.few
  rw [obtainedBy_eq] at few
  obtain ⟨_, count⟩ := account.numbered (by omega)
  have serial := number arena found
  omega

structure ReadyUpToGuards (owner : Nat) (world twin : World) : Prop where
  upToGuards : world.UpToGuards twin
  ready : world.Ready owner

theorem ReadyUpToGuards.ask (readyUpToGuards : ReadyUpToGuards owner world twin) {size align : Nat}
    {call : Arena → Env → Reply Nat} (asks : Arena.Asks size align call)
    (roomy : Roomy owner (world.onArena owner call).2.traffic) :
    (twin.onArena owner call).1 = (world.onArena owner call).1 ∧
      ReadyUpToGuards owner (world.onArena owner call).2 (twin.onArena owner call).2 := by
  have before := roomy.of_suffix (world.onArena_suffix owner call)
  obtain ⟨upToGuards, ready⟩ := readyUpToGuards
  have soundIf : world.SoundIfProvided := fun _ => ready.sound
  have changes (arena : Arena) (consistent : arena.Consistent)
      (_ : totalCapacity arena.chunks < wordLimit) (env : Env) :=
    (asks.answers consistent env).changes
  obtain ⟨same, after⟩ := upToGuards.onArena owner fun arena skew found =>
    asks.stripped (ready.sound owner arena found).consistent (ready.conserved.counted before found)
      (ready.enabled arena found) (world.env skew)
  refine ⟨same, after, soundIf.onArena owner changes roomy.provided, ?_, ?_⟩
  · exact ready.conserved.sequence (onArena_sequence ready.sound before.provided owner changes)
  · intro arena present
    cases found : world.arena? owner with
    | none =>
      obtain ⟨cause, nothing⟩ := onArena_none found call
      rw [nothing] at present
      exact ready.enabled arena present
    | some base =>
      obtain ⟨skew, _, next⟩ := onArena_self found call
      cases present.symm.trans next
      rw [(asks.answers (ready.sound owner base found).consistent _).counts.2.1]
      exact ready.enabled base found

theorem ReadyUpToGuards.outside (readyUpToGuards : ReadyUpToGuards owner world twin)
    (memory memory' : Memory) (change : Tally → Tally) :
    ReadyUpToGuards owner { world with memory := memory, tally := change world.tally }
      { twin with memory := memory', tally := change twin.tally } := by
  obtain ⟨upToGuards, ready⟩ := readyUpToGuards
  refine
    ⟨upToGuards.outside memory memory' (congrArg change upToGuards.tally) upToGuards.logs, ?_, ?_,
    ready.enabled⟩
  · exact ready.sound.congr (fun _ => rfl) rfl rfl
  · exact ready.conserved.sequence (Step.outside world memory _ world.logs).sequence

def readyUpToGuards (owner : Nat) : PairRelation owner owner where
  fine traffic _ := Roomy owner traffic
  suits _ := True
  holds pairings world twin :=
    ReadyUpToGuards owner world twin ∧ ∀ pairing ∈ pairings, pairing.there = pairing.here
  earlier roomy suffix _ := roomy.of_suffix suffix
  forgets kept fewer := ⟨kept.1, fun pairing member => kept.2 pairing (fewer member)⟩
  asked := by
    intro pairings world twin size align call kept asks _ roomy
    obtain ⟨same, after⟩ := kept.1.ask asks roomy
    rw [same]
    cases (world.onArena owner call).1 with
    | error failure => exact ⟨[], .failed failure, after, kept.2⟩
    | ok start =>
      refine ⟨_, .granted start start, after, ?_⟩
      intro pairing member
      rcases List.mem_cons.mp member with newest | older
      · rw [newest]
      · exact kept.2 pairing older
  stored kept member _ := by
    rw [kept.2 _ member]
    exact ⟨kept.1.outside _ _ id, kept.2⟩
  counted kept _ kind := by
    unfold World.count
    split
    · exact ⟨kept.1.outside _ _ _, kept.2⟩
    · exact kept

theorem ReadyUpToGuards.request (together : ReadyUpToGuards owner world twin) (request : Request)
    (roomy : Roomy owner (request.ask world owner).2.traffic) :
    (request.ask twin owner).1 = (request.ask world owner).1 ∧
      ReadyUpToGuards owner (request.ask world owner).2 (request.ask twin owner).2 := by
  have related : (readyUpToGuards owner).Related [] world twin := fun _ => ⟨together, by simp⟩
  obtain ⟨more, answered, after, same⟩ := related.request request (fun _ _ => trivial) roomy
  rw [List.append_nil] at same
  exact ⟨answered.eq same, after⟩

end World

end ChunkArena
