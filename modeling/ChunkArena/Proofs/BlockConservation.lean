import ChunkArena.Proofs.BlockPassages

/-!
No block is lost. Every block that an arena ever obtained is one of its chunks or was given back,
and nothing is given back but the newest block that is still there. A call that stops, for whatever
reason, keeps every block it obtained. When an arena is gone, all of its blocks have been given
back.
-/

namespace ChunkArena

namespace Traffic

/-- A stack of blocks after one of them passed; nothing if one was given back that was not on top.
-/
def stacked (entry : Traffic) (blocks : List Traffic) : Option (List Traffic) :=
  match entry.passage, blocks with
  | .obtained, _ => some (entry :: blocks)
  | .returned _, [] => none
  | .returned _, top :: rest => if top = entry.origin then some rest else none

end Traffic

/-- The blocks that were obtained and not given back, as long as each was on top when it was given
back. -/
def pile : List Traffic → Option (List Traffic)
  | [] => some []
  | entry :: older => (pile older).bind entry.stacked

theorem pile_obtained {owner : Nat} {traffic blocks : List Traffic}
    (below : pile traffic = some blocks) (chunk : Chunk) :
    pile (chunk.entry owner :: traffic) = some (chunk.entry owner :: blocks) := by
  rw [pile, below]
  rfl

theorem pile_returned {owner : Nat} {gone left : List Chunk} {traffic : List Traffic}
    (below : pile traffic = some ((gone ++ left).map (Chunk.entry owner))) :
    pile ((gone.map (Chunk.exit owner)).reverse ++ traffic) =
      some (left.map (Chunk.entry owner)) := by
  induction gone generalizing traffic with
  | nil => exact below
  | cons chunk rest ih =>
    have top : pile (chunk.exit owner :: traffic) =
        some ((rest ++ left).map (Chunk.entry owner)) := by
      rw [pile, below]
      simp [Traffic.stacked, Traffic.origin, Chunk.exit, Chunk.entry]
    rw [List.map_cons, List.reverse_cons, List.append_assoc]
    exact ih top

theorem pile_perm {passed blocks : List Traffic} (stacked : pile passed = some blocks) :
    (arrivals passed).Perm (blocks ++ departures passed) := by
  induction passed generalizing blocks with
  | nil =>
    cases stacked
    exact .refl []
  | cons entry older ih =>
    obtain ⟨below, before, same⟩ := Option.bind_eq_some_iff.mp stacked
    have rest := ih before
    cases way : entry.passage with
    | obtained =>
      simp only [Traffic.stacked, way] at same
      cases same
      have more : arrivals (entry :: older) = entry :: arrivals older := by simp [arrivals, way]
      have less : departures (entry :: older) = departures older := by simp [departures, way]
      rw [more, less]
      exact rest.cons entry
    | returned discarded =>
      have less : arrivals (entry :: older) = arrivals older := by simp [arrivals, way]
      have more : departures (entry :: older) = entry.origin :: departures older := by
        simp [departures, way]
      rw [more, less]
      cases below with
      | nil =>
        simp only [Traffic.stacked, way] at same
        cases same
      | cons top left =>
        simp only [Traffic.stacked, way, Option.ite_none_right_eq_some] at same
        obtain ⟨newest, same⟩ := same
        cases same
        rw [← newest]
        exact rest.trans List.perm_middle.symm

structure BlockAccount (owner : Nat) (passed : List Traffic) (chunks : List Chunk) (next : Nat) :
    Prop where
  stacked : pile passed = some (chunks.map (Chunk.entry owner))
  numbered : (arrivals passed).length < wordLimit →
    (arrivals passed).map Traffic.serial = (List.range (arrivals passed).length).reverse ∧
      next = (arrivals passed).length

namespace BlockAccount

variable {owner next : Nat} {passed : List Traffic} {chunks : List Chunk}

theorem blank (owner : Nat) : BlockAccount owner [] [] 0 := ⟨rfl, fun _ => ⟨rfl, rfl⟩⟩

theorem obtain (account : BlockAccount owner passed chunks next) {chunk : Chunk}
    (serial : chunk.serial = next) :
    BlockAccount owner (chunk.entry owner :: passed) (chunk :: chunks)
      ((next + 1) % wordLimit) := by
  have more : arrivals (chunk.entry owner :: passed) = chunk.entry owner :: arrivals passed := rfl
  refine ⟨pile_obtained account.stacked chunk, ?_⟩
  rw [more, List.length_cons]
  intro few
  obtain ⟨serials, count⟩ := account.numbered (by omega)
  have number : (chunk.entry owner).serial = (arrivals passed).length := serial.trans count
  constructor
  · rw [List.map_cons, serials, number, List.range_succ, List.reverse_append]
    rfl
  · rw [count, Nat.mod_eq_of_lt few]

theorem giveBack {gone : List Chunk} (account : BlockAccount owner passed (gone ++ chunks) next) :
    BlockAccount owner ((gone.map (Chunk.exit owner)).reverse ++ passed) chunks next := by
  have none_came : arrivals (gone.map (Chunk.exit owner)).reverse = [] := by
    simp [arrivals, List.filter_eq_nil_iff, Chunk.exit]
  have same : arrivals ((gone.map (Chunk.exit owner)).reverse ++ passed) = arrivals passed := by
    rw [arrivals, List.filter_append, ← arrivals, none_came]
    rfl
  refine ⟨pile_returned account.stacked, ?_⟩
  rw [same]
  exact account.numbered

/-- A block that is given back at once came with the last serial number, so from then on nothing is
known of numbers. -/
theorem bounce (account : BlockAccount owner passed chunks next) (full : wordLimit ≤ next + 1)
    (chunk : Chunk) :
    BlockAccount owner (chunk.exit owner :: chunk.entry owner :: passed) chunks next := by
  have more : arrivals (chunk.exit owner :: chunk.entry owner :: passed) =
      chunk.entry owner :: arrivals passed := rfl
  have came : pile (chunk.entry owner :: passed) =
      some (([chunk] ++ chunks).map (Chunk.entry owner)) := pile_obtained account.stacked chunk
  refine ⟨pile_returned came, ?_⟩
  rw [more, List.length_cons]
  intro few
  obtain ⟨_, count⟩ := account.numbered (by omega)
  omega

theorem passing {profile : Profile} {arena after : Arena} {fresh : List Traffic}
    (account : BlockAccount owner passed arena.chunks arena.nextSerial)
    (passing : arena.Passing profile owner after fresh) :
    BlockAccount owner (fresh ++ passed) after.chunks after.nextSerial := by
  cases passing with
  | still stack number =>
    rw [stack, number]
    exact account
  | obtain chunk serial stack number =>
    rw [stack, number]
    exact account.obtain serial
  | bounce chunk strict full stack number =>
    rw [stack, number]
    exact account.bounce full chunk
  | giveBack gone stack number =>
    rw [stack] at account
    rw [number]
    exact account.giveBack

end BlockAccount

namespace World

/-- Whether what an arena has agrees with the blocks that passed. Before there is an arena nothing
passes. -/
structure BlocksConserved (world : World) (owner : Nat) : Prop where
  unborn : world.tenants.length ≤ owner → passages owner world.traffic = []
  account : ∃ next, BlockAccount owner (passages owner world.traffic) (world.chunks owner) next ∧
    ∀ arena, world.arena? owner = some arena → arena.nextSerial = next

theorem arena?_lt {world : World} {owner : Nat} {arena : Arena}
    (found : world.arena? owner = some arena) : owner < world.tenants.length := by
  simp only [arena?, Option.bind_eq_some_iff] at found
  obtain ⟨tenant, place, _⟩ := found
  exact (List.getElem?_eq_some_iff.mp place).1

theorem new_conserved (profile : Profile) (site : Site) (logs : Logs) (owner : Nat) :
    (World.new profile site logs).BlocksConserved owner := by
  refine ⟨fun _ => rfl, 0, BlockAccount.blank owner, ?_⟩
  intro arena found
  simp [arena?, World.new] at found

theorem Step.tenants_le {first last : World} (step : Step first last) :
    first.tenants.length ≤ last.tenants.length := by
  cases step with
  | change found change => exact Nat.le_of_eq (tenants_after ..).symm
  | outside => exact Nat.le_refl _
  | arrive builder skew => simp [addArena]
  | leave other => simp [vacated]

theorem StepSequence.tenants_le {first last : World} (sequence : StepSequence first last) :
    first.tenants.length ≤ last.tenants.length := by
  induction sequence with
  | refl => exact Nat.le_refl _
  | tail _ step ih => exact Nat.le_trans ih step.tenants_le

theorem BlocksConserved.step {first last : World} {owner : Nat}
    (conserved : first.BlocksConserved owner)
    (step : Step first last) : last.BlocksConserved owner := by
  obtain ⟨unborn, next, account, number⟩ := conserved
  cases step with
  | @change other arena later effects found change =>
    by_cases own : owner = other
    · subst own
      rw [number arena found |>.symm, chunks_of_some found] at account
      refine ⟨?_, later.nextSerial, ?_, ?_⟩
      · intro outside
        rw [tenants_after] at outside
        have inside := arena?_lt found
        omega
      · rw [passages_after, chunks_after owner first found]
        exact account.passing (change.passing owner)
      · intro present same
        rw [arena?_after_self owner first found] at same
        cases same
        rfl
    · refine ⟨?_, next, ?_, ?_⟩
      · rw [tenants_after, passages_after_other _ _ own]
        exact unborn
      · rw [passages_after_other _ _ own, chunks_after_other _ _ own]
        exact account
      · rw [arena?_after_other _ _ own]
        exact number
  | outside memory tally logs => exact ⟨unborn, next, account, number⟩
  | arrive builder skew =>
    have more : (first.addArena builder.build skew).tenants.length = first.tenants.length + 1 := by
      simp [addArena]
    have sameBooks : BlockAccount owner (passages owner (first.addArena builder.build skew).traffic)
        ((first.addArena builder.build skew).chunks owner) next := by
      rw [chunks_addArena]
      exact account
    by_cases fresh : owner = first.tenants.length
    · -- Nothing has passed for the new arena, so its account is blank.
      have nothing := unborn (Nat.le_of_eq fresh.symm)
      refine ⟨fun _ => nothing, 0, ?_, ?_⟩
      · have nowhere : first.chunks owner = [] := by
          apply chunks_of_none
          simp [arena?, fresh]
        rw [chunks_addArena, nowhere]
        change BlockAccount owner (passages owner first.traffic) [] 0
        rw [nothing]
        exact BlockAccount.blank owner
      · intro arena present
        rcases arena?_addArena present with old | ⟨_, new⟩
        · have inside := arena?_lt old
          omega
        · rw [new]
          rfl
    · refine ⟨?_, next, sameBooks, ?_⟩
      · intro outside
        exact unborn (by omega)
      · intro arena present
        rcases arena?_addArena present with old | ⟨here, _⟩
        · exact number arena old
        · exact absurd here fresh
  | leave other bare =>
    refine ⟨?_, next, ?_, ?_⟩
    · intro outside
      apply unborn
      simpa [vacated] using outside
    · rw [chunks_vacated first bare]
      exact account
    · intro arena present
      by_cases own : owner = other
      · rw [own, arena?_vacated_self] at present
        cases present
      · rw [arena?_vacated_other first own] at present
        exact number arena present

theorem BlocksConserved.sequence {first last : World} {owner : Nat}
    (conserved : first.BlocksConserved owner)
    (sequence : StepSequence first last) : last.BlocksConserved owner := by
  induction sequence with
  | refl => exact conserved
  | tail _ step ih => exact ih.step step

end World

end ChunkArena
