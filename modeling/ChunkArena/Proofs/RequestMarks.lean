import ChunkArena.Proofs.OccupiedBytes

/-!
Requests sweep. Through all steps of a request, what was occupied before stays occupied and keeps
its bytes, and what is handed out was not occupied before, is marked as handed out, and is occupied
from then on. Elements are stored only there.
-/

namespace ChunkArena

namespace World

structure MarksGrants (first world : World) : Prop where
  sound : world.Sound
  strict : world.profile.checks = true
  sweeps : Sweeps first world
  spares : ∀ address, first.Occupied address →
    world.Occupied address ∧ world.memory.read address = first.memory.read address

def Fresh (first world : World) (start size : Nat) : Prop :=
  ∀ address, start ≤ address → address < start + size → ¬ first.Occupied address ∧
    world.Occupied address ∧ world.memory.read address = allocatedByte

variable {first world : World}

theorem MarksGrants.refl (sound : world.Sound) (strict : world.profile.checks = true) :
    MarksGrants world world :=
  ⟨sound, strict, .refl world, fun _ occupied => ⟨occupied, rfl⟩⟩

theorem MarksGrants.trans {next : World} (head : MarksGrants first next)
    (tail : MarksGrants next world) :
    MarksGrants first world := by
  refine ⟨tail.sound, tail.strict, head.sweeps.trans tail.sweeps, ?_⟩
  intro address occupied
  obtain ⟨still, same⟩ := head.spares address occupied
  obtain ⟨still', same'⟩ := tail.spares address still
  exact ⟨still', same'.trans same⟩

theorem occupied_after {owner : Nat} {arena next : Arena} (found : world.arena? owner = some arena)
    {address : Nat} (more : arena.Occupies address → next.Occupies address)
    (effects : List Effect) (occupied : world.Occupied address) :
    (world.after owner effects next).Occupied address := by
  obtain ⟨other, home, present, occupies⟩ := occupied
  by_cases own : other = owner
  · subst own
    rw [found] at present
    cases present
    exact ⟨other, next, world.arena?_after_self other found effects next, more occupies⟩
  · exact ⟨other, home, (world.arena?_after_other owner own effects next).trans present, occupies⟩

theorem MarksGrants.spill (sound : world.Sound) (strict : world.profile.checks = true) {owner : Nat}
    {arena mid : Arena} (found : world.arena? owner = some arena) {effects : List Effect}
    (spill : Arena.Spill world.profile arena effects mid)
    (provided : Provided (world.after owner effects mid).traffic) :
    MarksGrants world (world.after owner effects mid) := by
  have consistent := (sound owner arena found).consistent
  refine ⟨sound.after found spill.changes provided, ?_,
    .changes strict found consistent spill.changes, ?_⟩
  · rw [after_profile]
    exact strict
  · intro address occupied
    refine ⟨occupied_after found ?_ effects occupied,
      world.read_after owner (fun effect member => spill.not_fills member address) mid⟩
    rintro ⟨position, holds⟩
    cases spill with
    | idle | bounce => exact ⟨position, holds⟩
    | extend chunk => exact ⟨position, holds.extended chunk⟩

theorem MarksGrants.take (sound : world.Sound) (strict : world.profile.checks = true) {owner : Nat}
    {arena : Arena} (found : world.arena? owner = some arena) {start size align : Nat}
    (offers : arena.Offers start size align)
    (provided : Provided (world.after owner (world.profile.handOut start size)
      (arena.movedTo (start + size))).traffic) :
    MarksGrants world (world.after owner (world.profile.handOut start size)
        (arena.movedTo (start + size))) ∧
      Fresh world (world.after owner (world.profile.handOut start size)
        (arena.movedTo (start + size))) start size := by
  have consistent := (sound owner arena found).consistent
  have before := provided_of_suffix provided (world.after_traffic_suffix owner _ _)
  have change := offers.change world.profile
  have low := offers.low
  have high := offers.high
  have free (address : Nat) (above : start ≤ address) (below : address < start + size) :
      ¬ world.Occupied address :=
    sound.not_occupied before found offers.some_chunk (by omega) (by omega)
  refine ⟨⟨sound.after found change.single provided, ?_, .change strict found consistent change,
    ?_⟩, ?_⟩
  · rw [after_profile]
    exact strict
  · intro address occupied
    refine ⟨occupied_after found ?_ _ occupied, ?_⟩
    · rintro ⟨position, holds⟩
      exact ⟨position, holds.movedTo (by omega)⟩
    · apply world.read_after
      intro effect member fills
      have bounds := Profile.fills_of_mem_mark member fills
      exact free address bounds.1 bounds.2 occupied
  · intro address above below
    refine ⟨free address above below, ⟨owner, _, world.arena?_after_self owner found _ _,
      (offers.holds consistent).occupies above below⟩, ?_⟩
    simp only [after, Profile.handOut, Profile.mark, strict, ↓reduceIte, List.foldl_cons,
      List.foldl_nil, perform]
    exact Memory.read_fill_inside _ allocatedByte above below

theorem MarksGrants.ask (sound : world.Sound) (strict : world.profile.checks = true) (owner : Nat)
    {call : Arena → Env → Reply Nat} {size align : Nat} (asks : Arena.Asks size align call)
    (provided : Provided (world.onArena owner call).2.traffic) :
    MarksGrants world (world.onArena owner call).2 ∧
      ∀ start, (world.onArena owner call).1 = .ok start →
        Fresh world (world.onArena owner call).2 start size := by
  cases found : world.arena? owner with
  | none =>
    obtain ⟨cause, same⟩ := onArena_none found call
    rw [same]
    exact ⟨.refl sound strict, fun start failed => by cases failed⟩
  | some arena =>
    obtain ⟨skew, same⟩ := onArena_some found call
    rw [same] at provided ⊢
    have consistent := (sound owner arena found).consistent
    obtain ⟨mid, effects, spill, ⟨failure, failed⟩ | ⟨start, offers, done⟩⟩ :=
      asks.answers consistent (world.env skew)
    · rw [failed] at provided ⊢
      exact ⟨.spill sound strict found spill provided, fun start done => by cases done⟩
    · rw [done] at provided ⊢
      have split := world.after_after owner mid (mid.movedTo (start + size)) effects
        (world.profile.handOut start size)
      have same : (world.env skew).profile = world.profile := rfl
      simp only [same] at provided ⊢
      rw [← split] at provided ⊢
      have between := provided_of_suffix provided (after_traffic_suffix owner _ _ _)
      have spilled := MarksGrants.spill sound strict found spill between
      have here := world.arena?_after_self owner found effects mid
      rw [← world.after_profile owner effects mid] at provided ⊢
      obtain ⟨taken, fresh⟩ := MarksGrants.take spilled.sound spilled.strict here offers provided
      refine ⟨spilled.trans taken, ?_⟩
      intro other same
      cases same
      intro address above below
      obtain ⟨free, rest⟩ := fresh address above below
      exact ⟨fun occupied => free (spilled.spares address occupied).1, rest⟩

end World

def Grant.Covers (grant : Grant) (address : Nat) : Prop :=
  grant.start ≤ address ∧ address < grant.start + grant.length * grant.kind.size

/-- What was handed out on the way from one world to another: bytes that were not occupied before
and are now, no two grants in one place, and marked all over where nothing is stored. -/
structure Handed (first world : World) (grants : List Grant) : Prop where
  marksGrants : World.MarksGrants first world
  since : ∀ grant ∈ grants, ∀ address, grant.Covers address →
    ¬ first.Occupied address ∧ world.Occupied address
  marked : ∀ grant ∈ grants, grant.values = [] → ∀ address, grant.Covers address →
    world.memory.read address = allocatedByte
  apart : grants.Pairwise fun one other => ∀ address, one.Covers address → ¬ other.Covers address

namespace Handed

variable {first world : World} {grants : List Grant}

theorem onward (handed : Handed first world grants) {next : World}
    (marksGrants : World.MarksGrants world next) : Handed first next grants := by
  refine ⟨handed.marksGrants.trans marksGrants, ?_, ?_, handed.apart⟩
  · intro grant member address covers
    obtain ⟨free, occupied⟩ := handed.since grant member address covers
    exact ⟨free, (marksGrants.spares address occupied).1⟩
  · intro grant member blank address covers
    have occupied := (handed.since grant member address covers).2
    exact (marksGrants.spares address occupied).2.trans
      (handed.marked grant member blank address covers)

theorem insert (handed : Handed first world grants) {next : World}
    (marksGrants : World.MarksGrants world next) {grant : Grant}
    (fresh : World.Fresh world next grant.start (grant.length * grant.kind.size)) :
    Handed first next (grant :: grants) := by
  have older := handed.onward marksGrants
  refine ⟨older.marksGrants, ?_, ?_, List.pairwise_cons.mpr ⟨?_, older.apart⟩⟩
  · intro other member address covers
    rcases List.mem_cons.mp member with same | before
    · rw [same] at covers
      obtain ⟨free, occupied, _⟩ := fresh address covers.1 covers.2
      exact ⟨fun earlier => free (handed.marksGrants.spares address earlier).1, occupied⟩
    · exact older.since other before address covers
  · intro other member blank address covers
    rcases List.mem_cons.mp member with same | before
    · rw [same] at covers
      exact (fresh address covers.1 covers.2).2.2
    · exact older.marked other before blank address covers
  · intro other before address covers covers'
    exact (fresh address covers.1 covers.2).1 (handed.since other before address covers').2

theorem outside {grant : Grant} (handed : Handed first world (grant :: grants))
    (values : List Value) (memory : Memory) (tally : Tally)
    (elsewhere : ∀ address, ¬ grant.Covers address → memory.read address =
      world.memory.read address)
    (blank : values = [] → grant.values = [] ∧
      ∀ address, memory.read address = world.memory.read address) :
    Handed first { world with memory := memory, tally := tally }
      ({ grant with values := values } :: grants) := by
  have newest := handed.since grant List.mem_cons_self
  obtain ⟨alone, apart⟩ := List.pairwise_cons.mp handed.apart
  refine
    ⟨⟨handed.marksGrants.sound.congr (fun _ => rfl) rfl rfl, handed.marksGrants.strict, ?_, ?_⟩, ?_,
      ?_,
    List.pairwise_cons.mpr ⟨alone, apart⟩⟩
  · intro address free
    have same := elsewhere address fun covers => free (newest address covers).2
    exact (handed.marksGrants.sweeps address free).imp same.trans (And.imp_left same.trans)
  · intro address occupied
    obtain ⟨still, same⟩ := handed.marksGrants.spares address occupied
    exact ⟨still, (elsewhere address fun covers => (newest address covers).1 occupied).trans same⟩
  · intro other member
    rcases List.mem_cons.mp member with same | before
    · rw [same]
      exact newest
    · exact handed.since other (List.mem_cons_of_mem _ before)
  · intro other member nothing address covers
    rcases List.mem_cons.mp member with same | before
    · rw [same] at nothing covers
      obtain ⟨none_before, unchanged⟩ := blank nothing
      exact (unchanged address).trans
        (handed.marked grant List.mem_cons_self none_before address covers)
    · have same := elsewhere address fun own => alone other before address own covers
      exact same.trans (handed.marked other (List.mem_cons_of_mem _ before) nothing address covers)

theorem count (handed : Handed first world grants) (kind : Kind) (change : Tally → Tally) :
    Handed first (world.count kind change) grants := by
  rw [World.count_eq]
  exact
    ⟨⟨handed.marksGrants.sound.congr (fun _ => rfl) rfl rfl, handed.marksGrants.strict,
      handed.marksGrants.sweeps,
    handed.marksGrants.spares⟩, handed.since, handed.marked, handed.apart⟩

theorem store {kind : Kind} {align start length : Nat} {values : List Value}
    (handed : Handed first world (⟨kind, align, start, length, []⟩ :: grants))
    (few : values.length ≤ length) :
    Handed first (world.store kind start values)
      (⟨kind, align, start, length, values⟩ :: grants) := by
  obtain ⟨tally, same⟩ := world.store_eq kind start values
  have size := kind.length_encoded_array values
  have bound : values.length * kind.size ≤ length * kind.size := Nat.mul_le_mul_right _ few
  rw [same]
  refine handed.outside values _ tally ?_ ?_
  · intro address elsewhere
    apply Memory.read_store_outside
    simp only [Grant.Covers] at elsewhere
    omega
  · intro nothing
    refine ⟨rfl, fun address => Memory.read_store_outside _ ?_⟩
    rw [nothing, List.flatMap_nil, List.length_nil]
    omega

theorem ask (handed : Provided world.traffic → Handed first world grants) {owner : Nat}
    {size align : Nat} {call : Arena → Env → Reply Nat} (asks : Arena.Asks size align call)
    {result : Except Failure Nat} {after : World}
    (made : world.onArena owner call = (result, after)) (provided : Provided after.traffic) :
    Handed first world grants ∧ World.MarksGrants world after ∧
      ∀ start, result = .ok start → World.Fresh world after start size := by
  have later := world.onArena_suffix owner call
  rw [made] at later
  have before := handed (provided_of_suffix provided later)
  have asked := World.MarksGrants.ask before.marksGrants.sound before.marksGrants.strict owner asks
    (by rw [made]; exact provided)
  rw [made] at asked
  exact ⟨before, asked⟩

def invariant (owner : Nat) (first : World) : RequestInvariant owner where
  holds _ grants world := Provided world.traffic → Handed first world grants
  fails _ _ := True
  refused handed asks made := by
    refine ⟨trivial, fun provided => ?_⟩
    obtain ⟨before, marksGrants, _⟩ := ask handed asks made provided
    exact before.onward marksGrants
  supplied handed asks made kind length whole := by
    intro provided
    obtain ⟨before, marksGrants, fresh⟩ := ask handed asks made provided
    exact before.insert marksGrants (whole ▸ fresh _ rfl)
  stored {calls grants world kind align start length values} handed few := by
    intro provided
    obtain ⟨tally, same⟩ := world.store_eq kind start values
    rw [same] at provided
    exact (handed provided).store few
  counted {calls grants world} handed kind change := by
    intro provided
    rw [World.count_eq] at provided
    exact (handed provided).count kind change
  abandoned _ _ := trivial
  stopped _ _ := trivial
  fewer handed _ sublist := by
    intro provided
    have before := handed provided
    exact ⟨before.marksGrants, fun grant member => before.since grant (sublist.subset member),
      fun grant member => before.marked grant (sublist.subset member),
      before.apart.sublist sublist⟩
  reordered handed perm := by
    intro provided
    have before := handed provided
    refine ⟨before.marksGrants, fun grant member => before.since grant (perm.mem_iff.mpr member),
      fun grant member => before.marked grant (perm.mem_iff.mpr member), ?_⟩
    exact (perm.pairwise_iff fun apart address covers covers' =>
      apart address covers' covers).mp before.apart

/-- Every request marks what it hands out, and what it hands out with nothing stored in it has the
mark all over. -/
theorem serve (sound : world.Sound) (strict : world.profile.checks = true) (owner : Nat)
    (request : Request) (provided : Provided (request.serve world owner).2.traffic) :
    Handed world (request.serve world owner).2 (request.serve world owner).1 := by
  have kept : (invariant owner world).holds (0 + request.calls) [] world := fun _ =>
    ⟨.refl sound strict, by simp, by simp, List.Pairwise.nil⟩
  have served := RequestInvariant.serve kept
  rw [List.append_nil] at served
  exact served provided

end Handed

end ChunkArena
