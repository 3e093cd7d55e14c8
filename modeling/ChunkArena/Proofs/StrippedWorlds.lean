import ChunkArena.Proofs.StrippedOperations
import ChunkArena.Proofs.BlockConservation

/-!
The world that a release build would be in. It has the same blocks, logs and counts, and the same
arenas but for their disable guards. Only the memory may differ. An operation that answers alike
when it is stripped answers alike in both worlds, and leaves them the same up to the guards. So does
every request while no disable guard is alive.
-/

namespace ChunkArena

/-- Whether the places of blocks do not depend on what was in the blocks that came back. -/
def Blind (site : Site) : Prop :=
  ∀ first last : List Traffic, first.map Traffic.plain = last.map Traffic.plain →
    site.place first = site.place last

theorem frontier_plain (traffic : List Traffic) :
    frontier (traffic.map Traffic.plain) = frontier traffic := by
  induction traffic with
  | nil => rfl
  | cons entry older ih =>
    have start : entry.plain.start = entry.start := by
      unfold Traffic.plain
      split <;> rfl
    have layout : entry.plain.layout = entry.layout := by
      unfold Traffic.plain
      split <;> rfl
    rw [List.map_cons, frontier, frontier, ih, start, layout]

theorem pagedSite_blind : Blind pagedSite := by
  intro first last same
  have level : frontier first = frontier last := by
    rw [← frontier_plain first, ← frontier_plain last, same]
  funext skew layout
  simp only [pagedSite, level]

theorem held_plain (traffic : List Traffic) : held (traffic.map Traffic.plain) = held traffic := by
  induction traffic with
  | nil => rfl
  | cons entry older ih =>
    cases way : entry.passage with
    | obtained =>
      have plain : entry.plain = entry := by simp [Traffic.plain, way]
      rw [List.map_cons, plain, held_obtained way, held_obtained way, ih]
    | returned discarded =>
      have plain : entry.plain = { entry with passage := .returned false } := by
        simp [Traffic.plain, way]
      have way' : entry.plain.passage = .returned false := by rw [plain]
      rw [List.map_cons, held_returned way', held_returned way, ih, plain]
      rfl

theorem provided_plain (traffic : List Traffic) :
    Provided (traffic.map Traffic.plain) ↔ Provided traffic := by
  induction traffic with
  | nil => exact Iff.rfl
  | cons entry older ih =>
    simp only [List.map_cons, Provided, ih, held_plain]
    cases way : entry.passage with
    | obtained => simp [Traffic.plain, way]
    | returned discarded => simp [Traffic.plain, way]

theorem provided_of_plain {first last : List Traffic}
    (same : first.map Traffic.plain = last.map Traffic.plain) (provided : Provided first) :
    Provided last := by
  rw [← provided_plain] at provided ⊢
  rwa [← same]

def Tenant.stripped (tenant : Tenant) : Tenant :=
  { tenant with arena := tenant.arena.map Arena.stripped }

namespace World

structure UpToGuards (world twin : World) : Prop where
  build : twin.profile = .release
  site : twin.site = world.site
  blind : Blind world.site
  traffic : twin.traffic.map Traffic.plain = world.traffic.map Traffic.plain
  tally : twin.tally = world.tally
  logs : twin.logs = world.logs
  tenants : twin.tenants = world.tenants.map Tenant.stripped

namespace UpToGuards

variable {world twin : World} {owner : Nat}

theorem arena? (upToGuards : world.UpToGuards twin) (owner : Nat) :
    twin.arena? owner = (world.arena? owner).map Arena.stripped := by
  simp only [World.arena?, upToGuards.tenants, List.getElem?_map]
  cases world.tenants[owner]? <;> rfl

theorem env (upToGuards : world.UpToGuards twin) (skew : Nat) :
    twin.env skew = (world.env skew).stripped := by
  have place := upToGuards.blind twin.traffic world.traffic upToGuards.traffic
  simp only [World.env, Env.stripped, upToGuards.build, upToGuards.site, upToGuards.logs, place]

theorem outside (upToGuards : world.UpToGuards twin) (memory memory' : Memory)
    {tally tally' : Tally} {logs logs' : Logs} (counts : tally' = tally) (lines : logs' = logs) :
    UpToGuards { world with memory := memory, tally := tally, logs := logs }
      { twin with memory := memory', tally := tally', logs := logs' } :=
  ⟨upToGuards.build, upToGuards.site, upToGuards.blind, upToGuards.traffic, counts, lines,
    upToGuards.tenants⟩

theorem perform (upToGuards : world.UpToGuards twin) (owner : Nat) (effect : Effect) :
    (perform owner world effect).UpToGuards
      (if effect.lasts = true then perform owner twin effect else twin) := by
  cases effect with
  | obtain chunk =>
    refine
      ⟨upToGuards.build, upToGuards.site, upToGuards.blind, ?_, upToGuards.tally, upToGuards.logs,
        upToGuards.tenants⟩
    simp only [World.perform, Effect.lasts, ↓reduceIte, List.map_cons, upToGuards.traffic]
  | giveBack chunk =>
    refine
      ⟨upToGuards.build, upToGuards.site, upToGuards.blind, ?_, upToGuards.tally, upToGuards.logs,
        upToGuards.tenants⟩
    simp only [World.perform, Effect.lasts, ↓reduceIte, List.map_cons, upToGuards.traffic,
      Traffic.plain]
  | fill start count byte =>
    exact
      ⟨upToGuards.build, upToGuards.site, upToGuards.blind, upToGuards.traffic, upToGuards.tally,
        upToGuards.logs,
      upToGuards.tenants⟩
  | report label entry =>
    simp only [World.perform, Effect.lasts, ↓reduceIte, upToGuards.logs]
    exact upToGuards.outside world.memory twin.memory upToGuards.tally rfl

theorem performs (upToGuards : world.UpToGuards twin) (owner : Nat) (effects : List Effect) :
    (effects.foldl (World.perform owner) world).UpToGuards
      ((unfilled effects).foldl (World.perform owner) twin) := by
  induction effects generalizing world twin with
  | nil => exact upToGuards
  | cons effect rest ih =>
    have next := upToGuards.perform owner effect
    cases lasts : effect.lasts with
    | true =>
      rw [if_pos lasts] at next
      have more : unfilled (effect :: rest) = effect :: unfilled rest :=
        List.filter_cons_of_pos lasts
      rw [more]
      exact ih next
    | false =>
      rw [lasts] at next
      have same : unfilled (effect :: rest) = unfilled rest :=
        List.filter_cons_of_neg (by simp [lasts])
      rw [same]
      exact ih next

theorem onArena (upToGuards : world.UpToGuards twin) (owner : Nat) {α : Type}
    {call : Arena → Env → Reply α}
    (alike : ∀ arena skew, world.arena? owner = some arena →
      call arena.stripped (world.env skew).stripped = (call arena (world.env skew)).stripped) :
    (twin.onArena owner call).1 = (world.onArena owner call).1 ∧
      (world.onArena owner call).2.UpToGuards (twin.onArena owner call).2 := by
  have place : twin.tenants[owner]? = (world.tenants[owner]?).map Tenant.stripped := by
    rw [upToGuards.tenants, List.getElem?_map]
  unfold World.onArena
  rw [place]
  cases found : world.tenants[owner]? with
  | none => exact ⟨rfl, upToGuards⟩
  | some tenant =>
    simp only [Option.map_some, Tenant.stripped]
    cases present : tenant.arena with
    | none => exact ⟨rfl, upToGuards⟩
    | some arena =>
      have here : world.arena? owner = some arena := by simp [World.arena?, found, present]
      simp only [Option.map_some, upToGuards.env, alike arena tenant.skew here, commit]
      refine ⟨rfl, ?_⟩
      apply UpToGuards.performs
      refine
        ⟨upToGuards.build, upToGuards.site, upToGuards.blind, upToGuards.traffic, upToGuards.tally,
          upToGuards.logs, ?_⟩
      simp only [upToGuards.tenants, List.map_set, Tenant.stripped, Reply.stripped]
      rfl

end UpToGuards

end World

end ChunkArena
