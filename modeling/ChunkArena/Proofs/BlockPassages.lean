import ChunkArena.Proofs.WorldSteps

/-!
The blocks that pass between an arena and the system. A change of an arena obtains one block and
puts it on top of the chunks, or gives back the topmost ones, newest first, or passes none at all.
Only at the last serial number does a debug build obtain a block and give it back at once.
-/

namespace ChunkArena

namespace Traffic

/-- An entry without the look at memory that goes with a return. -/
def plain (entry : Traffic) : Traffic :=
  match entry.passage with
  | .obtained => entry
  | .returned _ => { entry with passage := .returned false }

def origin (entry : Traffic) : Traffic := { entry with passage := .obtained }

end Traffic

def Chunk.exit (owner : Nat) (chunk : Chunk) : Traffic :=
  ⟨some owner, chunk.serial, chunk.start, chunk.layout, .returned false⟩

/-- The blocks that went from and to an arena, newest first. -/
def passages (owner : Nat) (traffic : List Traffic) : List Traffic :=
  (traffic.filter fun entry => entry.owner == some owner).map Traffic.plain

def arrivals (passed : List Traffic) : List Traffic :=
  passed.filter fun entry => entry.passage == .obtained

def departures (passed : List Traffic) : List Traffic :=
  (passed.filter fun entry => entry.passage != .obtained).map Traffic.origin

theorem passages_cons (owner : Nat) (entry : Traffic) (traffic : List Traffic) :
    passages owner (entry :: traffic) =
      if entry.owner = some owner then entry.plain :: passages owner traffic
      else passages owner traffic := by
  by_cases own : entry.owner = some owner
  · simp [passages, own]
  · simp [passages, own]

theorem obtainedBy_eq (owner : Nat) (traffic : List Traffic) :
    obtainedBy owner traffic = (arrivals (passages owner traffic)).length := by
  induction traffic with
  | nil => rfl
  | cons entry older ih =>
    simp only [obtainedBy, List.countP_cons, passages_cons] at ih ⊢
    rw [ih]
    by_cases own : entry.owner = some owner
    · cases way : entry.passage with
      | obtained => simp [own, arrivals, Traffic.plain, way]
      | returned discarded => simp [own, arrivals, Traffic.plain, way]
    · simp [own]

theorem arrived_of_held {traffic : List Traffic} {block : Traffic} (member : block ∈ held traffic) :
    block ∈ arrivals traffic := by
  induction traffic with
  | nil => cases member
  | cons entry older ih =>
    cases way : entry.passage with
    | obtained =>
      have more : arrivals (entry :: older) = entry :: arrivals older := by simp [arrivals, way]
      rw [held_obtained way] at member
      rw [more]
      rcases List.mem_cons.mp member with same | before
      · rw [same]
        exact List.mem_cons_self
      · exact List.mem_cons_of_mem _ (ih before)
    | returned discarded =>
      have same : arrivals (entry :: older) = arrivals older := by simp [arrivals, way]
      rw [held_returned way] at member
      rw [same]
      exact ih (List.mem_filter.mp member).1

theorem arrived_of_passages {owner : Nat} {traffic : List Traffic} {block : Traffic}
    (member : block ∈ arrivals (passages owner traffic)) : block ∈ arrivals traffic := by
  obtain ⟨listed, came⟩ := List.mem_filter.mp member
  obtain ⟨entry, present, same⟩ := List.mem_map.mp listed
  have inside := (List.mem_filter.mp present).1
  cases way : entry.passage with
  | obtained =>
    have plain : entry.plain = entry := by simp [Traffic.plain, way]
    rw [← same, plain] at came ⊢
    exact List.mem_filter.mpr ⟨inside, came⟩
  | returned discarded =>
    rw [← same] at came
    simp [Traffic.plain, way] at came

def Effect.passage? (owner : Nat) : Effect → Option Traffic
  | obtain chunk => some (chunk.entry owner)
  | giveBack chunk => some (chunk.exit owner)
  | fill .. => none
  | report .. => none

namespace World

section Effects

variable (owner : Nat) (world : World)

theorem passages_perform (effect : Effect) :
    passages owner (perform owner world effect).traffic =
      (effect.passage? owner).toList ++ passages owner world.traffic := by
  cases effect with
  | obtain chunk => simp [perform, passages_cons, Effect.passage?, Traffic.plain, Chunk.entry]
  | giveBack chunk => simp [perform, passages_cons, Effect.passage?, Traffic.plain, Chunk.exit]
  | fill start count byte => rfl
  | report label entry => rfl

theorem passages_after (effects : List Effect) (next : Arena) :
    passages owner (world.after owner effects next).traffic =
      (effects.filterMap (Effect.passage? owner)).reverse ++ passages owner world.traffic := by
  have grows (start : World) :
      passages owner (effects.foldl (perform owner) start).traffic =
        (effects.filterMap (Effect.passage? owner)).reverse ++ passages owner start.traffic := by
    induction effects generalizing start with
    | nil => rfl
    | cons effect rest ih =>
      rw [List.foldl_cons, ih, passages_perform]
      cases passed : effect.passage? owner with
      | none => simp [passed]
      | some entry => simp [passed]
  exact grows (world.replace owner next)

theorem entries_after_other {other : Nat} (different : other ≠ owner) (effects : List Effect)
    (next : Arena) :
    (world.after owner effects next).traffic.filter (fun entry => entry.owner == some other) =
      world.traffic.filter fun entry => entry.owner == some other := by
  have steady (start : World) :
      (effects.foldl (perform owner) start).traffic.filter
          (fun entry => entry.owner == some other) =
        start.traffic.filter fun entry => entry.owner == some other := by
    induction effects generalizing start with
    | nil => rfl
    | cons effect rest ih =>
      rw [List.foldl_cons, ih]
      cases effect with
      | obtain chunk => simp [perform, different.symm]
      | giveBack chunk => simp [perform, different.symm]
      | fill start count byte => rfl
      | report label entry => rfl
  exact steady (world.replace owner next)

theorem passages_after_other {other : Nat} (different : other ≠ owner) (effects : List Effect)
    (next : Arena) :
    passages other (world.after owner effects next).traffic = passages other world.traffic := by
  rw [passages, passages, entries_after_other owner world different]

theorem tenants_after (effects : List Effect) (next : Arena) :
    (world.after owner effects next).tenants.length = world.tenants.length := by
  have tenants := (foldl_perform_frame owner (world.replace owner next) effects).1
  rw [after, tenants]
  simp [replace]

theorem chunks_after {arena : Arena} (found : world.arena? owner = some arena)
    (effects : List Effect) (next : Arena) :
    (world.after owner effects next).chunks owner = next.chunks :=
  chunks_of_some (arena?_after_self owner world found effects next)

theorem chunks_after_other {other : Nat} (different : other ≠ owner) (effects : List Effect)
    (next : Arena) : (world.after owner effects next).chunks other = world.chunks other := by
  rw [chunks, arena?_after_other owner world different, ← chunks]

end Effects

theorem chunks_addArena (world : World) (builder : Builder) (skew owner : Nat) :
    (world.addArena builder.build skew).chunks owner = world.chunks owner := by
  cases found : world.arena? owner with
  | some arena =>
    rw [chunks_of_some found, chunks_of_some (arena?_addArena_of_some found builder.build skew)]
  | none =>
    rw [chunks_of_none found]
    cases present : (world.addArena builder.build skew).arena? owner with
    | none => exact chunks_of_none present
    | some arena =>
      rcases arena?_addArena present with old | ⟨_, fresh⟩
      · rw [found] at old
        cases old
      · rw [chunks_of_some present, fresh]
        rfl

theorem chunks_vacated (world : World) {owner : Nat} (bare : world.chunks owner = [])
    (other : Nat) : (world.vacated owner).chunks other = world.chunks other := by
  by_cases own : other = owner
  · subst own
    rw [bare]
    exact chunks_of_none (world.arena?_vacated_self other)
  · rw [chunks, arena?_vacated_other world own, ← chunks]

end World

section Returns

variable {profile : Profile} (owner : Nat)

theorem passages_mark (byte : UInt8) (start count : Nat) :
    (profile.mark byte start count).filterMap (Effect.passage? owner) = [] := by
  unfold Profile.mark
  split <;> rfl

theorem passages_surrender (gone : List Chunk) :
    (gone.flatMap profile.surrender).filterMap (Effect.passage? owner) =
      gone.map (Chunk.exit owner) := by
  induction gone with
  | nil => rfl
  | cons chunk rest ih =>
    rw [List.flatMap_cons, List.filterMap_append, ih, Profile.surrender, List.filterMap_append,
      Profile.discard, passages_mark]
    rfl

theorem passages_clearing (arena : Arena) (saved : Cursor) (handle : Handle) :
    (arena.clearing profile saved handle).filterMap (Effect.passage? owner) = [] := by
  apply List.filterMap_eq_nil_iff.mpr
  intro effect member
  obtain ⟨used, marked, _⟩ := Arena.mem_clearing member
  exact List.filterMap_eq_nil_iff.mp (passages_mark owner _ _ _) effect marked

end Returns

namespace Arena

theorem above_append_fallenBack (arena : Arena) (saved : Cursor) (height : Nat) :
    arena.chunks = arena.above height ++ (arena.fallenBack saved height).chunks :=
  (List.take_append_drop _ _).symm

inductive Passing (profile : Profile) (owner : Nat) (arena after : Arena) :
    List Traffic → Prop where
  | still (stack : after.chunks = arena.chunks) (number : after.nextSerial = arena.nextSerial) :
      Passing profile owner arena after []
  | obtain (chunk : Chunk) (serial : chunk.serial = arena.nextSerial)
      (stack : after.chunks = chunk :: arena.chunks)
      (number : after.nextSerial = (arena.nextSerial + 1) % wordLimit) :
      Passing profile owner arena after [chunk.entry owner]
  | bounce (chunk : Chunk) (strict : profile.checks = true)
      (full : wordLimit ≤ arena.nextSerial + 1) (stack : after.chunks = arena.chunks)
      (number : after.nextSerial = arena.nextSerial) :
      Passing profile owner arena after [chunk.exit owner, chunk.entry owner]
  | giveBack (gone : List Chunk) (stack : arena.chunks = gone ++ after.chunks)
      (number : after.nextSerial = arena.nextSerial) :
      Passing profile owner arena after (gone.map (Chunk.exit owner)).reverse

theorem Change.passing {profile : Profile} {arena after : Arena} {effects : List Effect}
    (change : Change profile arena effects after) (owner : Nat) :
    Passing profile owner arena after (effects.filterMap (Effect.passage? owner)).reverse := by
  cases change with
  | report label entry => exact .still rfl rfl
  | hold count => exact .still rfl rfl
  | mark start count =>
    rw [Profile.discard, passages_mark]
    exact .still rfl rfl
  | bounce chunk nonempty strict full => exact .bounce chunk strict full rfl rfl
  | extend chunk link serial nonempty counted => exact .obtain chunk serial rfl rfl
  | advance start size some_chunk low high =>
    rw [Profile.handOut, passages_mark]
    exact .still rfl rfl
  | fallBack saved handle chunk names live limit low high =>
    rw [List.filterMap_append, passages_clearing, passages_surrender, List.nil_append]
    exact .giveBack _ (arena.above_append_fallenBack saved _) rfl
  | empty generation =>
    rw [passages_surrender]
    exact .giveBack arena.chunks (List.append_nil _).symm rfl

end Arena

end ChunkArena
