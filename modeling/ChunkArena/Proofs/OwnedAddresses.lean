import ChunkArena.Proofs.GrowableArrays
import ChunkArena.Proofs.MemoryIrrelevance

/-!
Which addresses an arena recognises as its own when memory is given up. An arena only compares the
address with the bounds of its chunks, one past the end included, and knows nothing of what it
handed out. Nevertheless it accepts an address that was handed out exactly if it handed it out
itself and the address's block was not given back since, provided that blocks of the system never
touch and that their addresses never come again. This also holds for arrays without bytes, which may
lie at the very end of a chunk. What is given up is marked and nothing else happens, so no later
allocation notices.
-/

namespace ChunkArena

theorem mem_pile_of_held {owner : Nat} {traffic blocks : List Traffic} {block : Traffic}
    (stacked : pile (passages owner traffic) = some blocks) (member : block ∈ held traffic)
    (owned : block.owner = some owner) : block ∈ blocks := by
  induction traffic generalizing blocks with
  | nil => cases member
  | cons entry older ih =>
    rw [passages_cons] at stacked
    by_cases own : entry.owner = some owner
    · rw [if_pos own, pile, Option.bind_eq_some_iff] at stacked
      obtain ⟨below, earlier, stacked⟩ := stacked
      cases way : entry.passage with
      | obtained =>
        have plain : entry.plain = entry := by simp [Traffic.plain, way]
        rw [held_obtained way] at member
        simp only [plain, Traffic.stacked, way, Option.some.injEq] at stacked
        rw [← stacked]
        rcases List.mem_cons.mp member with newest | before
        · rw [newest]
          exact List.mem_cons_self
        · exact List.mem_cons_of_mem _ (ih earlier before)
      | returned discarded =>
        have plain : entry.plain = { entry with passage := .returned false } := by
          simp [Traffic.plain, way]
        rw [held_returned way, List.mem_filter] at member
        obtain ⟨before, kept⟩ := member
        have known := ih earlier before
        cases below with
        | nil => cases known
        | cons top rest =>
          simp only [plain, Traffic.stacked] at stacked
          split at stacked
          · next same =>
            cases stacked
            rcases List.mem_cons.mp known with newest | others
            · -- The block on top is the one that the entry tells of.
              rw [newest, same] at kept
              simp [Traffic.concerns, Traffic.origin] at kept
            · exact others
          · cases stacked
    · rw [if_neg own] at stacked
      cases way : entry.passage with
      | obtained =>
        rw [held_obtained way] at member
        rcases List.mem_cons.mp member with newest | before
        · rw [newest] at owned
          exact absurd owned own
        · exact ih stacked before
      | returned discarded =>
        rw [held_returned way, List.mem_filter] at member
        exact ih stacked member.1

theorem Spaced.eq_of_reach {traffic : List Traffic} (spaced : Spaced traffic) {a b : Traffic}
    (first : a ∈ arrivals traffic) (second : b ∈ arrivals traffic) {address : Nat}
    (reaches : a.Contains address 0) (reaches' : b.Contains address 0) : a = b := by
  by_contra different
  have distant := List.Pairwise.forall spaced first second different
  exact Traffic.not_contains (Or.inr distant) reaches reaches'

namespace World

variable {world : World} {owner : Nat}

theorem BlocksConserved.chunk_of_held (conserved : world.BlocksConserved owner) {block : Traffic}
    (member : block ∈ held world.traffic) (owned : block.owner = some owner) :
    ∃ chunk ∈ world.chunks owner, chunk.entry owner = block :=
  List.mem_map.mp (mem_pile_of_held conserved.accounted.newest_first member owned)

theorem Sound.chunk_held (sound : world.Sound) {chunk : Chunk}
    (member : chunk ∈ world.chunks owner) : chunk.entry owner ∈ held world.traffic := by
  cases found : world.arena? owner with
  | none =>
    rw [chunks_of_none found] at member
    cases member
  | some arena =>
    rw [chunks_of_some found] at member
    exact (sound owner arena found).booked chunk member

theorem SoundIfProvided.granted_within (soundIf : world.SoundIfProvided) {request : Request}
    {grant : Grant} (granted : grant ∈ (request.serve world owner).1)
    (provided : Provided (request.serve world owner).2.traffic) :
    ∃ chunk ∈ (request.serve world owner).2.chunks owner,
      (chunk.entry owner).Contains grant.start grant.bytes := by
  have blank : ChunkArena.Keeps world [] [] 0 := fun provided =>
    ⟨⟨soundIf provided, by simp, by simp, List.Pairwise.nil, by simp⟩, by simp⟩
  have kept := blank.serve owner request provided
  have held : grant.holding owner 0 ∈
      (request.serve world owner).1.map (fun grant => grant.holding owner 0) ++ [] :=
    List.mem_append_left [] (List.mem_map_of_mem granted)
  obtain ⟨arena, found, secured⟩ := kept.settled.secured _ (List.mem_map_of_mem held)
  obtain ⟨position, here⟩ := secured ⟨0, grant.length⟩ List.mem_cons_self
  obtain ⟨chunk, place, low, high⟩ := here.holds.inside
  refine ⟨chunk, ?_, low, high⟩
  rw [World.chunks, show (request.serve world owner).2.arena? owner = some arena from found]
  exact List.mem_reverse.mp (List.mem_of_getElem? place)

/-- What giving up memory at an address comes to, if it is accepted under a condition. -/
structure Judged (world : World) (address : Nat) (layout : Layout) (known : Prop)
    (answer : Except Failure Unit × World) : Prop where
  accepted : answer.1 = .ok () ↔ known
  refused : ¬ known → answer = (.error (.error .notFromAllocator), world)
  framed : answer.2 = { world with memory := answer.2.memory }
  marked : known → ∀ byte, address ≤ byte → byte < address + layout.size →
    answer.2.memory.read byte = discardedByte
  spared : ∀ byte, byte < address ∨ address + layout.size ≤ byte →
    answer.2.memory.read byte = world.memory.read byte
  /-- Whatever is done next, allocations are where they would be otherwise. -/
  unnoticed : Blind world.site → ∀ actions owner request,
    (Request.serve (answer.2.run actions) owner request).1 =
      (Request.serve (world.run actions) owner request).1

theorem deallocateRaw_judged (strict : world.profile = .debug) {arena : Arena}
    (found : world.arena? owner = some arena) (depth address : Nat) (layout : Layout) :
    world.Judged address layout (arena.owns address = true)
      (world.deallocateRaw (.nested owner depth) address layout) := by
  obtain ⟨skew, same⟩ := onArena_some found fun arena env => arena.deallocate env address layout
  rw [deallocateRaw_nested, same]
  have checks : (world.env skew).profile = .debug := strict
  have still : world.replace owner arena = world := replace_self found
  have oblivious (answer : World) (framed : answer = { world with memory := answer.memory })
      (blind : Blind world.site) (actions : List Action) (other : Nat) (request : Request) :
      (Request.serve (answer.run actions) other request).1 =
        (Request.serve (world.run actions) other request).1 := by
    have akin : world.Parallels answer := by
      rw [framed]
      exact ⟨rfl, rfl, blind, rfl, rfl, rfl, rfl⟩
    exact ((akin.run actions).serve other request).1
  by_cases owned : arena.owns address = true
  · have done : arena.deallocate (world.env skew) address layout =
        ⟨.ok (), arena, [.fill address layout.size discardedByte]⟩ := by
      simp [Arena.deallocate, checks, owned, Profile.checks, Profile.discard, Profile.mark]
    have after : world.after owner [.fill address layout.size discardedByte] arena =
        { world with memory := world.memory.fill address layout.size discardedByte } := by
      rw [World.after, still]
      rfl
    rw [done, after]
    refine ⟨iff_of_true rfl owned, fun other => absurd owned other, rfl, ?_, ?_, oblivious _ rfl⟩
    · exact fun _ byte low high => Memory.read_fill_inside _ _ low high
    · exact fun byte outside => Memory.read_fill_outside _ _ outside
  · have done : arena.deallocate (world.env skew) address layout =
        ⟨.error (.error .notFromAllocator), arena, []⟩ := by
      simp [Arena.deallocate, checks, owned, Profile.checks]
    have after : world.after owner [] arena = world := still
    rw [done, after]
    refine ⟨iff_of_false ?_ owned, fun _ => rfl, rfl, fun known => absurd known owned,
      fun _ _ => rfl, oblivious _ rfl⟩
    intro answered
    cases answered

/-- An arena recognises an address in a block, be it one past the end, exactly if the block is still
its own. -/
theorem owns_iff_held (sound : world.Sound) (conserved : world.BlocksConserved owner)
    (spaced : Spaced world.traffic) {block : Traffic} (came : block ∈ arrivals world.traffic)
    {address : Nat} (reaches : block.Contains address 0) {arena : Arena}
    (found : world.arena? owner = some arena) :
    arena.owns address = true ↔ block.owner = some owner ∧ block ∈ held world.traffic := by
  have chunks : world.chunks owner = arena.chunks := chunks_of_some found
  simp only [Arena.owns, List.any_eq_true, Chunk.contains, Bool.and_eq_true, decide_eq_true_eq]
  constructor
  · rintro ⟨chunk, member, low, high⟩
    have booked := (sound owner arena found).booked chunk member
    have same : block = chunk.entry owner :=
      spaced.eq_of_reach came (arrived_of_held booked) reaches ⟨low, high⟩
    rw [same]
    exact ⟨rfl, booked⟩
  · rintro ⟨owned, kept⟩
    obtain ⟨chunk, member, same⟩ := conserved.chunk_of_held kept owned
    rw [← same] at reaches
    rw [chunks] at member
    exact ⟨chunk, member, reaches⟩

end World

/-- In every run of a debug build, whatever an arena once granted lies in one of its chunks, and
from then on the address that was granted can be given up exactly to that arena, as long as it has
the chunk. -/
theorem recognition_exact (site : Site) (logs : Logs) (earlier later : List Action) (owner : Nat)
    (request : Request) (grant : Grant) :
    let world := (World.new .debug site logs).run earlier
    let served := world.act (.place owner request)
    let now := served.run later
    grant ∈ (request.serve world owner).1 → Provided now.traffic → Spaced now.traffic →
      ∃ chunk ∈ served.chunks owner, (chunk.entry owner).Contains grant.start grant.bytes ∧
        ∀ other arena, now.arena? other = some arena → ∀ depth layout,
          now.Judged grant.start layout
            (other = owner ∧ chunk.entry owner ∈ held now.traffic)
            (now.deallocateRaw (.nested other depth) grant.start layout) := by
  intro world served now granted provided spaced
  have whole : now =
      (World.new .debug site logs).run (earlier ++ .place owner request :: later) := by
    simp only [now, served, world, World.run, List.foldl_append, List.foldl_cons]
  have strict : now.profile = .debug := by
    rw [whole]
    exact World.run_profile _ _
  have soundIf : served.SoundIfProvided :=
    ((World.new_soundIfProvided .debug site logs).run earlier).act _
  have sound : now.Sound := (soundIf.run later) provided
  have before := provided_of_suffix provided (served.run_traffic_suffix later)
  obtain ⟨chunk, member, within⟩ :=
    ((World.new_soundIfProvided .debug site logs).run earlier).granted_within granted before
  refine ⟨chunk, member, within, ?_⟩
  intro other arena found depth layout
  have conserved : now.BlocksConserved other := by
    rw [whole] at provided ⊢
    exact World.new_run_conserved .debug site logs _ provided other
  have reaches : (chunk.entry owner).Contains grant.start 0 :=
    ⟨within.1, Nat.le_trans (Nat.add_le_add_left (Nat.zero_le _) _) within.2⟩
  have came : chunk.entry owner ∈ arrivals now.traffic := by
    have booked := arrived_of_held ((soundIf before).chunk_held member)
    obtain ⟨listed, obtained⟩ := List.mem_filter.mp booked
    exact List.mem_filter.mpr ⟨(served.run_traffic_suffix later).subset listed, obtained⟩
  have known : arena.owns grant.start = true ↔
      other = owner ∧ chunk.entry owner ∈ held now.traffic := by
    rw [World.owns_iff_held sound conserved spaced came reaches found]
    exact and_congr_left' (Option.some_inj.trans eq_comm)
  rw [← propext known]
  exact World.deallocateRaw_judged strict found depth grant.start layout

def neighbours : List Action :=
  [.create ⟨"pairs", 16⟩ 0, .create ⟨"lines", 16⟩ 0, .place 1 (.bytes 4 4),
    .place 0 (.bytes 16 1)]

/-- An array without bytes at the end of a chunk is recognised by its arena, until the chunk is
released, and never by the other one. -/
theorem edge_recognised :
    let world := (World.new .debug pagedSite (Logs.empty none)).run neighbours
    let request := Request.bytes 0 1
    let served := world.act (.place 0 request)
    let outcome (now : World) (owner start : Nat) :=
      (now.deallocateRaw (.nested owner 2) start ⟨0, 1⟩).1
    ∃ grant, (request.serve world 0).1 = [grant] ∧
      (∀ chunk ∈ served.chunks 0, grant.start = chunk.finish) ∧
      outcome (served.run [.place 0 (.bytes 8 8)]) 0 grant.start = .ok () ∧
      outcome (served.run [.place 0 (.bytes 8 8)]) 1 grant.start =
        .error (.error .notFromAllocator) ∧
      outcome (served.run [.release 0]) 0 grant.start = .error (.error .notFromAllocator) := by
  intro world request served outcome
  have starts : (request.serve world 0).1.map Grant.start =
      [systemFloor + 3 * pageSize + 16] := by decide +kernel
  obtain ⟨grant, granted, start⟩ := List.map_eq_singleton_iff.mp starts
  have listed : grant ∈ (request.serve world 0).1 := by
    rw [granted]
    exact List.mem_singleton_self grant
  have ends : ∀ chunk ∈ served.chunks 0, systemFloor + 3 * pageSize + 16 = chunk.finish ∧
      chunk.entry 0 ∈ held (served.run [.place 0 (.bytes 8 8)]).traffic ∧
      chunk.entry 0 ∉ held (served.run [.release 0]).traffic := by decide +kernel
  have alive : ((served.run [.place 0 (.bytes 8 8)]).arena? 0).isSome = true ∧
      ((served.run [.place 0 (.bytes 8 8)]).arena? 1).isSome = true ∧
      ((served.run [.release 0]).arena? 0).isSome = true := by decide +kernel
  obtain ⟨present, foreign, emptied⟩ := alive
  obtain ⟨first, found⟩ := Option.isSome_iff_exists.mp present
  obtain ⟨second, found'⟩ := Option.isSome_iff_exists.mp foreign
  obtain ⟨third, found''⟩ := Option.isSome_iff_exists.mp emptied
  obtain ⟨chunk, member, _, judged⟩ := recognition_exact pagedSite (Logs.empty none) neighbours
    [.place 0 (.bytes 8 8)] 0 request grant listed (by decide +kernel) (by decide +kernel)
  obtain ⟨other, member', _, judged'⟩ := recognition_exact pagedSite (Logs.empty none) neighbours
    [.release 0] 0 request grant listed (by decide +kernel) (by decide +kernel)
  refine ⟨grant, granted, ?_, ?_, ?_, ?_⟩
  · intro chunk here
    rw [start]
    exact (ends chunk here).1
  · exact (judged 0 first found 2 ⟨0, 1⟩).accepted.mpr ⟨rfl, (ends chunk member).2.1⟩
  · exact congrArg Prod.fst ((judged 1 second found' 2 ⟨0, 1⟩).refused (by simp))
  · exact congrArg Prod.fst ((judged' 0 third found'' 2 ⟨0, 1⟩).refused
      fun kept => (ends other member').2.2 kept.2)

end ChunkArena
