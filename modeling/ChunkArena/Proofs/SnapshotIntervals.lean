import ChunkArena.Proofs.ClientHoldings
import ChunkArena.Proofs.EarlierStates

/-!
What may come between a snapshot of an arena and the rewind to it. Requests, growths, disposals and
guards of that arena may come in any order, with any arguments and whatever they answer, and so may
rewinds to snapshots that were taken in between, used again or stale or not; the other arenas, the
memory and the logs are free. Only the arena's own releases, its end, rewinds to any other snapshots
and the end of guards from before are kept out. Through all of this the arena stands upon what it
was, and what its chunks held then is still there, unless the client itself touched it.
-/

namespace ChunkArena

namespace Action

/-- Whether an action may come between, with that many disable guards made meanwhile and alive. -/
def Between (owner guards : Nat) : Action → Prop
  | rewind other _ | release other | drop other => other ≠ owner
  | enable other => other = owner → 0 < guards
  | _ => True

instance (owner guards : Nat) (action : Action) : Decidable (action.Between owner guards) := by
  cases action <;> unfold Between <;> infer_instance

def guardsAfter (world : World) (owner guards : Nat) : Action → Nat
  | disable other =>
      if other = owner ∧ (world.disable other).1.isOk = true then guards + 1 else guards
  | enable other => if other = owner then guards - 1 else guards
  | _ => guards

theorem guardsAfter_elsewhere (world : World) {action : Action} {owner : Nat}
    (elsewhere : action.owner? ≠ some owner) (guards : Nat) :
    action.guardsAfter world owner guards = guards := by
  have different {other : Nat} (about : action.owner? = some other) : other ≠ owner := by
    intro here
    exact elsewhere (by rw [about, here])
  cases action with
  | disable other => simp only [guardsAfter, different rfl, false_and, ↓reduceIte]
  | enable other => simp only [guardsAfter, different rfl, ↓reduceIte]
  | _ => rfl

def touches (world : World) : Action → List (Nat × Nat)
  | write start bytes => [(start, bytes.length)]
  | dispose owner depth address disposal =>
      if (disposal.dispose world (.nested owner depth) address).1.isOk = true then
        [(address, disposal.size)]
      else []
  | _ => []

end Action

def Untouched (ranges : List (Nat × Nat)) (address : Nat) : Prop :=
  ∀ range ∈ ranges, ¬ (range.1 ≤ address ∧ address < range.1 + range.2)

instance (ranges : List (Nat × Nat)) (address : Nat) : Decidable (Untouched ranges address) :=
  inferInstanceAs (Decidable (∀ range ∈ ranges, _))

structure SnapshotInterval where
  world : World
  taken : List Snapshot
  guards : Nat
  touched : List (Nat × Nat)

inductive Turn
  | save
  | rewind (which : Nat)
  | act (action : Action)

namespace SnapshotInterval

def start (world : World) : SnapshotInterval := ⟨world, [], 0, []⟩

def rewind (interval : SnapshotInterval) (owner : Nat) (snapshot : Snapshot) : SnapshotInterval :=
  { interval with world := (interval.world.rewind owner snapshot).2 }

def act (interval : SnapshotInterval) (owner : Nat) (action : Action) : SnapshotInterval where
  world := interval.world.act action
  taken := interval.taken
  guards := action.guardsAfter interval.world owner interval.guards
  touched := action.touches interval.world ++ interval.touched

def turn (owner : Nat) (interval : SnapshotInterval) : Turn → SnapshotInterval
  | .save =>
      (interval.world.arena? owner).elim interval fun arena =>
        { interval with taken := arena.snapshot :: interval.taken }
  | .rewind which => (interval.taken[which]?).elim interval (interval.rewind owner)
  | .act action =>
      if action.Between owner interval.guards then interval.act owner action else interval

def run (owner : Nat) (interval : SnapshotInterval) (turns : List Turn) : SnapshotInterval :=
  turns.foldl (turn owner) interval

theorem turn_world (owner : Nat) (interval : SnapshotInterval) (turn : Turn) :
    (interval.turn owner turn).world = interval.world ∨
      ∃ action, (interval.turn owner turn).world = interval.world.act action := by
  cases turn with
  | save =>
    simp only [SnapshotInterval.turn]
    cases interval.world.arena? owner <;> exact Or.inl rfl
  | rewind which =>
    simp only [SnapshotInterval.turn]
    cases interval.taken[which]? with
    | none => exact Or.inl rfl
    | some snapshot => exact Or.inr ⟨.rewind owner snapshot, rfl⟩
  | act action =>
    simp only [SnapshotInterval.turn]
    split
    · exact Or.inr ⟨action, rfl⟩
    · exact Or.inl rfl

theorem turn_traffic_suffix (owner : Nat) (interval : SnapshotInterval) (turn : Turn) :
    interval.world.traffic <:+ (interval.turn owner turn).world.traffic := by
  rcases interval.turn_world owner turn with same | ⟨action, acted⟩
  · rw [same]
  · rw [acted]
    exact interval.world.act_traffic_suffix action

theorem run_traffic_suffix (owner : Nat) (interval : SnapshotInterval) (turns : List Turn) :
    interval.world.traffic <:+ (interval.run owner turns).world.traffic :=
  suffix_foldl (fun interval => interval.world.traffic) (turn_traffic_suffix owner) interval turns

theorem turn_profile (owner : Nat) (interval : SnapshotInterval) (turn : Turn) :
    (interval.turn owner turn).world.profile = interval.world.profile := by
  rcases interval.turn_world owner turn with same | ⟨action, acted⟩
  · rw [same]
  · rw [acted, World.act_profile]

theorem run_profile (owner : Nat) (interval : SnapshotInterval) (turns : List Turn) :
    (interval.run owner turns).world.profile = interval.world.profile := by
  induction turns generalizing interval with
  | nil => rfl
  | cons turn rest ih =>
    exact (ih (interval.turn owner turn)).trans (interval.turn_profile owner turn)

end SnapshotInterval

theorem Profile.counted_zero (profile : Profile) : profile.counted 0 = 0 := by
  unfold counted
  split <;> rfl

theorem Profile.counted_succ (profile : Profile) (guards : Nat) :
    profile.counted (guards + 1) = profile.counted guards + profile.counted 1 := by
  unfold counted
  split <;> rfl

namespace World

/-- Whether an arena of the world stands upon an earlier state. -/
def Upholds (world : World) (owner : Nat) (base : Arena) (guards : Nat) : Prop :=
  ∃ arena, world.arena? owner = some arena ∧ arena.Upon base (world.profile.counted guards)

variable {world : World} {owner guards : Nat} {base : Arena}

theorem Upholds.onArena (upholds : world.Upholds owner base guards) {α : Type}
    {call : Arena → Env → Reply α} {more : Nat}
    (soundIf : ∀ arena env, world.arena? owner = some arena → env.profile = world.profile →
      arena.Upon base (world.profile.counted guards) →
        (call arena env).arena.Upon base (world.profile.counted more)) :
    (world.onArena owner call).2.Upholds owner base more := by
  obtain ⟨arena, found, upon⟩ := upholds
  obtain ⟨skew, _, after⟩ := onArena_self found call
  refine ⟨_, after, ?_⟩
  rw [onArena_profile]
  exact soundIf arena (world.env skew) found rfl upon

theorem Served.upholds {first last : World} (served : Served owner first last)
    (soundIf : first.SoundIfProvided) (provided : Provided last.traffic)
    (upholds : first.Upholds owner base guards) : last.Upholds owner base guards := by
  induction served with
  | done => exact upholds
  | @ask first last call size align answers rest ih =>
    have between := provided_of_suffix provided rest.traffic_suffix
    have before := provided_of_suffix between (first.onArena_suffix owner call)
    refine ih (soundIf.onArena owner fun arena consistent _ env =>
      (answers arena consistent env).changes) provided (upholds.onArena ?_)
    intro arena env found _ upon
    exact upon.answers (answers arena (soundIf before owner arena found).consistent env)
  | note memory tally rest ih =>
    exact ih (fun provided => (soundIf provided).congr (fun _ => rfl) rfl rfl) provided upholds

theorem Upholds.disable (upholds : world.Upholds owner base guards) :
    (world.disable owner).2.Upholds owner base
      (if (world.disable owner).1.isOk = true then guards + 1 else guards) := by
  obtain ⟨arena, found, upon⟩ := upholds
  obtain ⟨skew, answer, after⟩ := onArena_self found fun arena env => arena.disable env.profile
  have answer : (world.disable owner).1 = _ := answer
  have after : (world.disable owner).2.arena? owner = _ := after
  have profile : (world.disable owner).2.profile = world.profile := world.onArena_profile owner _
  refine ⟨_, after, ?_⟩
  rw [answer, profile]
  rcases Arena.disable_cases arena (world.env skew).profile with overflow | done
  · rw [overflow]
    exact upon
  · rw [done]
    apply upon.held
    simp only [Except.isOk, Except.toBool, ↓reduceIte]
    rw [upon.disabled, world.profile.counted_succ guards, Nat.add_assoc]
    rfl

theorem Upholds.enable (upholds : world.Upholds owner base guards) (alive : 0 < guards) :
    (world.enable owner).2.Upholds owner base (guards - 1) := by
  apply upholds.onArena
  intro arena env _ profile upon
  have disabled := upon.disabled
  have split := world.profile.counted_succ (guards - 1)
  rw [Nat.sub_add_cancel alive] at split
  rcases Arena.enable_cases arena env.profile with ⟨checks, none_left, _⟩ | done
  · have counted : world.profile.counted guards = guards := by
      rw [← profile, Profile.counted, if_pos checks]
    omega
  · rw [done, profile]
    exact upon.held (by omega)

theorem Upholds.act (upholds : world.Upholds owner base guards) (soundIf : world.SoundIfProvided)
    {action : Action} (between : action.Between owner guards)
    (provided : Provided (world.act action).traffic) :
    (world.act action).Upholds owner base (action.guardsAfter world owner guards) := by
  have sound := soundIf (provided_of_suffix provided (world.act_traffic_suffix action))
  by_cases own : action.owner? = some owner
  · cases action with
    | create | write | log => cases own
    | place other request =>
      cases own
      exact (world.serve_served owner request).upholds soundIf provided upholds
    | grow other start old new elementSize =>
      cases own
      apply upholds.onArena
      intro arena env found _ upon
      exact upon.grow (sound owner arena found).consistent env start old new elementSize
    | dispose other depth address disposal =>
      cases own
      simp only [World.act]
      obtain ⟨kind, change, ⟨failure, _, stopped⟩ | ⟨layout, _, done⟩⟩ :=
        dispose_cases world owner depth address disposal
      · rw [stopped, count_eq]
        exact upholds
      · have counted : (world.count kind change).Upholds owner base guards := by
          rw [count_eq]
          exact upholds
        rw [done]
        apply counted.onArena
        intro arena env _ _ upon
        exact upon.deallocate env address layout
    | rewind other | release other | drop other => exact absurd (Option.some.inj own) between
    | disable other =>
      cases own
      simp only [Action.guardsAfter, true_and]
      exact upholds.disable
    | enable other =>
      cases own
      simp only [Action.guardsAfter, ↓reduceIte]
      exact upholds.enable (between rfl)
  · obtain ⟨arena, found, upon⟩ := upholds
    refine ⟨arena, world.act_other own found, ?_⟩
    rw [world.act_profile, Action.guardsAfter_elsewhere world own]
    exact upon

end World

namespace SnapshotInterval

/-- The arena stands upon what it was, and so did it whenever a snapshot was taken. -/
structure AllUpon (interval : SnapshotInterval) (owner : Nat) (base : Arena) : Prop where
  sound : interval.world.Sound
  upholds : interval.world.Upholds owner base interval.guards
  since : ∀ snapshot ∈ interval.taken, snapshot.Upon base

variable {interval : SnapshotInterval} {owner : Nat} {base : Arena}

theorem AllUpon.start {world : World} (sound : world.Sound)
    (found : world.arena? owner = some base) :
    (SnapshotInterval.start world).AllUpon owner base := by
  refine ⟨sound, ⟨base, found, ?_⟩, by simp [SnapshotInterval.start]⟩
  simp only [SnapshotInterval.start, Profile.counted_zero]
  exact .refl base

theorem AllUpon.turn (allUpon : interval.AllUpon owner base) (settled : base.Consistent)
    (turn : Turn) (provided : Provided (interval.turn owner turn).world.traffic) :
    (interval.turn owner turn).AllUpon owner base := by
  have soundIf : interval.world.SoundIfProvided := fun _ => allUpon.sound
  have before := provided_of_suffix provided (interval.turn_traffic_suffix owner turn)
  cases turn with
  | save =>
    simp only [SnapshotInterval.turn] at provided ⊢
    cases found : interval.world.arena? owner with
    | none => exact allUpon
    | some arena =>
      refine ⟨allUpon.sound, allUpon.upholds, ?_⟩
      intro snapshot listed
      rcases List.mem_cons.mp listed with same | older
      · obtain ⟨home, present, upon⟩ := allUpon.upholds
        rw [found] at present
        cases present
        rw [same]
        exact upon.snapshot (allUpon.sound owner arena found).consistent
      · exact allUpon.since snapshot older
  | rewind which =>
    simp only [SnapshotInterval.turn] at provided ⊢
    cases listed : interval.taken[which]? with
    | none => exact allUpon
    | some snapshot =>
      rw [listed] at provided
      refine ⟨soundIf.act (.rewind owner snapshot) provided, allUpon.upholds.onArena ?_,
        allUpon.since⟩
      intro arena env found _ upon
      have rewinds := Arena.rewind_rewinds (allUpon.sound owner arena found).consistent
        (allUpon.sound.small before found) env snapshot
      exact upon.rewind settled rewinds (allUpon.since snapshot (List.mem_of_getElem? listed))
  | act action =>
    simp only [SnapshotInterval.turn] at provided ⊢
    split
    · rename_i between
      rw [if_pos between] at provided
      exact ⟨soundIf.act action provided, allUpon.upholds.act soundIf between provided,
        allUpon.since⟩
    · exact allUpon

theorem AllUpon.run (allUpon : interval.AllUpon owner base) (settled : base.Consistent)
    (turns : List Turn) (provided : Provided (interval.run owner turns).world.traffic) :
    (interval.run owner turns).AllUpon owner base :=
  foldl_keeps (P := fun interval : SnapshotInterval => interval.AllUpon owner base)
    (fun interval => interval.world.traffic) (turn_traffic_suffix owner)
    (fun _ turn allUpon between => allUpon.turn settled turn between) allUpon turns provided

end SnapshotInterval

end ChunkArena
