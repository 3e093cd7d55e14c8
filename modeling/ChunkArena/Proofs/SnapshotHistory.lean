import ChunkArena.Proofs.BlockAccounting
import ChunkArena.Proofs.SnapshotIntervals

/-!
The history of one arena. Whenever a snapshot is taken, the history keeps the arena as it is, the
traffic so far and the number of releases so far. A release is a call of it, or a rewind that
reports that it releases the arena, unless that report panics. What became of a snapshot's chunk is
read off the traffic alone: whether it was given back since, and whether a release came in between.
-/

namespace ChunkArena

def since (earlier later : List Traffic) : List Traffic :=
  later.take (later.length - earlier.length)

theorem since_append {earlier later : List Traffic} (suffix : earlier <:+ later) :
    since earlier later ++ earlier = later := by
  obtain ⟨fresh, whole⟩ := suffix
  rw [since, ← whole, List.length_append, Nat.add_sub_cancel, List.take_left]

theorem passages_append (owner : Nat) (fresh earlier : List Traffic) :
    passages owner (fresh ++ earlier) = passages owner fresh ++ passages owner earlier := by
  rw [passages, List.filter_append, List.map_append]
  rfl

theorem pile_standing {fresh earlier blocks below : List Traffic} {block : Traffic}
    (before : pile earlier = some (block :: below)) (now : pile (fresh ++ earlier) = some blocks)
    (kept : block ∉ departures fresh) : block :: below <:+ blocks := by
  induction fresh generalizing blocks with
  | nil =>
    rw [List.nil_append, before] at now
    cases now
    exact List.suffix_refl _
  | cons entry fresh ih =>
    obtain ⟨between, stacked, same⟩ := Option.bind_eq_some_iff.mp now
    cases way : entry.passage with
    | obtained =>
      have kept' : block ∉ departures fresh := by simpa [departures, way] using kept
      simp only [Traffic.stacked, way] at same
      cases same
      exact (ih stacked kept').trans (List.suffix_cons _ _)
    | returned discarded =>
      have apart : block ≠ entry.origin ∧ block ∉ departures fresh := by
        simpa [departures, way] using kept
      have lies := ih stacked apart.2
      cases between with
      | nil =>
        simp only [Traffic.stacked, way] at same
        cases same
      | cons top rest =>
        simp only [Traffic.stacked, way, Option.ite_none_right_eq_some] at same
        obtain ⟨newest, same⟩ := same
        cases same
        rcases List.suffix_cons_iff.mp lies with here | inside
        · cases here
          exact absurd newest apart.1
        · exact inside

theorem pile_departed {fresh earlier blocks : List Traffic} {block : Traffic}
    (now : pile (fresh ++ earlier) = some blocks) (gone : block ∈ departures fresh)
    (distinct : ((arrivals (fresh ++ earlier)).map Traffic.serial).Nodup) :
    ∀ other ∈ blocks, other.serial ≠ block.serial := by
  have whole := ((pile_perm now).map Traffic.serial).nodup_iff.mp distinct
  rw [List.map_append] at whole
  have departed : block ∈ departures (fresh ++ earlier) := by
    rw [departures, List.filter_append, List.map_append]
    exact List.mem_append_left _ gone
  intro other member same
  exact List.disjoint_of_nodup_append whole (List.mem_map_of_mem member)
    (same ▸ List.mem_map_of_mem departed)

theorem chunks_eq_of_entries {owner : Nat} {first second : List Chunk} (linked : Linked first)
    (linked' : Linked second)
    (same : first.map (Chunk.entry owner) = second.map (Chunk.entry owner)) : first = second := by
  induction first generalizing second with
  | nil =>
    cases second with
    | nil => rfl
    | cons chunk rest => cases same
  | cons chunk rest ih =>
    cases second with
    | nil => cases same
    | cons chunk' rest' =>
      rw [List.map_cons, List.map_cons, List.cons.injEq] at same
      obtain ⟨here, below⟩ := same
      have rests := ih linked.2 linked'.2 below
      have links : chunk.previous = chunk'.previous := by
        rw [linked.1, linked'.1, rests]
      obtain ⟨previous, serial, start, layout⟩ := chunk
      obtain ⟨previous', serial', start', layout'⟩ := chunk'
      cases here
      cases links
      rw [rests]

def Effect.tellsRelease : Effect → Bool
  | report _ (.alreadyReleased _) => true
  | _ => false

def World.reply? {α : Type} (world : World) (owner : Nat) (call : Arena → Env → Reply α) :
    Option (Reply α) :=
  world.tenants[owner]?.bind fun tenant =>
    tenant.arena.map fun arena => call arena (world.env tenant.skew)

/-- The number of releases of an arena in one action. -/
def Action.releases (world : World) (owner : Nat) : Action → Nat
  | release other => if other = owner ∧ (world.arena? owner).isSome then 1 else 0
  | rewind other snapshot =>
      if other = owner ∧ (world.reply? owner fun arena env => arena.rewind env snapshot).any
          (·.effects.any Effect.tellsRelease) ∧ world.logs.complaint .warn = none then 1
      else 0
  | _ => 0

structure Memo where
  arena : Arena
  traffic : List Traffic
  releases : Nat

structure History where
  world : World
  memos : List Memo
  releases : Nat

/-- What may have become of a snapshot: it has no chunk, its chunk was never given back, or it was
given back, with a release since or without one. -/
inductive Fate
  | bare
  | standing
  | released
  | discarded
  deriving DecidableEq

namespace History

def start (world : World) : History := ⟨world, [], 0⟩

def act (owner : Nat) (history : History) (action : Action) : History where
  world := history.world.act action
  memos := history.memos
  releases := history.releases + action.releases history.world owner

def turn (owner : Nat) (history : History) : Turn → History
  | .save =>
      (history.world.arena? owner).elim history fun arena =>
        { history with memos := ⟨arena, history.world.traffic, history.releases⟩ :: history.memos }
  | .rewind which =>
      (history.memos[which]?).elim history fun memo =>
        history.act owner (.rewind owner memo.arena.snapshot)
  | .act action => history.act owner action

def run (owner : Nat) (history : History) (turns : List Turn) : History :=
  turns.foldl (turn owner) history

/-- What became of a snapshot, by the history alone. -/
def fate (history : History) (owner : Nat) (memo : Memo) : Fate :=
  match memo.arena.chunks with
  | [] => .bare
  | chunk :: _ =>
      if chunk.entry owner ∉ departures (passages owner (since memo.traffic history.world.traffic))
      then .standing
      else if memo.releases < history.releases then .released else .discarded

theorem turn_world (owner : Nat) (history : History) (turn : Turn) :
    (history.turn owner turn).world = history.world ∨
      ∃ action, history.turn owner turn = history.act owner action := by
  cases turn with
  | save =>
    simp only [History.turn]
    cases history.world.arena? owner <;> exact Or.inl rfl
  | rewind which =>
    simp only [History.turn]
    cases history.memos[which]? with
    | none => exact Or.inl rfl
    | some memo => exact Or.inr ⟨.rewind owner memo.arena.snapshot, rfl⟩
  | act action => exact Or.inr ⟨action, rfl⟩

theorem turn_traffic_suffix (owner : Nat) (history : History) (turn : Turn) :
    history.world.traffic <:+ (history.turn owner turn).world.traffic := by
  rcases history.turn_world owner turn with same | ⟨action, acted⟩
  · rw [same]
  · rw [acted]
    exact history.world.act_traffic_suffix action

theorem run_traffic_suffix (owner : Nat) (history : History) (turns : List Turn) :
    history.world.traffic <:+ (history.run owner turns).world.traffic :=
  suffix_foldl (fun history => history.world.traffic) (turn_traffic_suffix owner) history turns

end History

end ChunkArena
