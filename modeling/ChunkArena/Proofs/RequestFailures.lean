import ChunkArena.Proofs.MessageDelivery
import ChunkArena.Proofs.RecordingClients
import ChunkArena.Proofs.BlockPassages
import ChunkArena.Proofs.OperationFailures

/-!
How requests fail. A request asks one arena for memory a number of times. As long as that arena has
room for as many serial numbers, and the system places its blocks as it was asked to, the request
fails only in the ways that are known of allocations, besides the client's own clones and
constructors. The label of the arena, its guards and the loggers stay the same all along.
-/

namespace ChunkArena

theorem placed_of_arrived {traffic : List Traffic} (provided : Provided traffic) {entry : Traffic}
    (member : entry ∈ arrivals traffic) : entry.Placed := by
  obtain ⟨listed, came⟩ := List.mem_filter.mp member
  have obtained : entry.passage = .obtained := by simpa using came
  induction traffic with
  | nil => cases listed
  | cons newest older ih =>
    rcases List.mem_cons.mp listed with same | before
    · rw [same] at obtained ⊢
      exact (provided.1 obtained).1
    · exact ih provided.2 (List.mem_filter.mpr ⟨before, came⟩) before

theorem Arena.Asks.fails {size align : Nat} {call : Arena → Env → Reply Nat}
    (asks : Arena.Asks size align call) {arena : Arena} (consistent : arena.Consistent) {env : Env}
    (room : arena.nextSerial + 1 < wordLimit)
    (placed : ∀ chunk, .obtain chunk ∈ (call arena env).effects →
      chunk.layout.align ∣ chunk.start) :
    FailsOnly env.complaint (Failure.OfRequest arena.label) (call arena env).result := by
  cases asks with
  | allocate => exact allocate_fails consistent room placed
  | tryAllocate => exact (tryAllocate_fails consistent room placed).imp fun _ => .attempted
  | allocateArray kind count => exact allocateArray_fails consistent room placed

structure RequestConstants where
  owner : Nat
  label : String
  disabled : Nat
  loud : Level → Option Panic
  total : Nat

namespace World

variable {world : World} {owner : Nat}

theorem complaint_perform (world : World) (owner : Nat) (effect : Effect) :
    (perform owner world effect).logs.complaint = world.logs.complaint := by
  cases effect with
  | obtain | giveBack | fill => rfl
  | report label entry => exact world.logs.complaint_logTo Logs.coreName entry.level _

theorem complaint_after (world : World) (owner : Nat) (effects : List Effect) (next : Arena) :
    (world.after owner effects next).logs.complaint = world.logs.complaint := by
  have steady (start : World) :
      (effects.foldl (perform owner) start).logs.complaint = start.logs.complaint := by
    induction effects generalizing start with
    | nil => rfl
    | cons effect rest ih => rw [List.foldl_cons, ih, complaint_perform]
  exact steady (world.replace owner next)

theorem placed_of_obtain {effects : List Effect} {next : Arena}
    (provided : Provided (world.after owner effects next).traffic) {chunk : Chunk}
    (came : .obtain chunk ∈ effects) : (chunk.entry owner).Placed := by
  have booked : chunk.entry owner ∈ passages owner (world.after owner effects next).traffic := by
    rw [passages_after]
    refine List.mem_append_left _ (List.mem_reverse.mpr ?_)
    exact List.mem_filterMap.mpr ⟨_, came, rfl⟩
  have arrived : chunk.entry owner ∈ arrivals (world.after owner effects next).traffic :=
    arrived_of_passages (List.mem_filter.mpr ⟨booked, rfl⟩)
  exact placed_of_arrived provided arrived

theorem aligned_of_obtain {effects : List Effect} {next : Arena}
    (provided : Provided (world.after owner effects next).traffic) {chunk : Chunk}
    (came : .obtain chunk ∈ effects) : chunk.layout.align ∣ chunk.start :=
  (placed_of_obtain provided came).1

structure Fits (world : World) (constants : RequestConstants) (calls : Nat) : Prop where
  sound : world.Sound
  loud : world.logs.complaint = constants.loud
  room : ∀ arena, world.arena? constants.owner = some arena →
    arena.label = constants.label ∧ arena.disabled = constants.disabled ∧
      arena.nextSerial + calls ≤ constants.total

def Suits (world : World) (constants : RequestConstants) (calls : Nat) : Prop :=
  Provided world.traffic → world.Fits constants calls

theorem Suits.outside {constants : RequestConstants} {calls : Nat}
    (suits : world.Suits constants calls) (memory : Memory) (tally : Tally) :
    Suits { world with memory := memory, tally := tally } constants calls := by
  intro provided
  have fits := suits provided
  exact ⟨fits.sound.congr (fun _ => rfl) rfl rfl, fits.loud, fits.room⟩

end World

def Behaves (constants : RequestConstants) (calls : Nat) (answer : Except Failure Nat × World) :
    Prop :=
  Provided answer.2.traffic →
    FailsOnly constants.loud (Failure.OfRequest constants.label) answer.1 ∧
      answer.2.Fits constants calls

section Requests

variable {world : World} {constants : RequestConstants} {calls : Nat}

theorem World.Suits.fewer {more : Nat} (suits : world.Suits constants more) (less : calls ≤ more) :
    world.Suits constants calls := by
  intro provided
  have fits := suits provided
  refine ⟨fits.sound, fits.loud, ?_⟩
  intro arena found
  obtain ⟨label, disabled, room⟩ := fits.room arena found
  exact ⟨label, disabled, by omega⟩

theorem World.Suits.count (suits : world.Suits constants calls) (kind : Kind)
    (change : Tally → Tally) : (world.count kind change).Suits constants calls := by
  rw [count_eq]
  exact suits.outside world.memory _

theorem World.Suits.store (suits : world.Suits constants calls) (kind : Kind) (start : Nat)
    (values : List Value) : (world.store kind start values).Suits constants calls := by
  obtain ⟨tally, same⟩ := world.store_eq kind start values
  rw [same]
  exact suits.outside _ tally

theorem World.Suits.ask (suits : world.Suits constants (calls + 1))
    (small : constants.total < wordLimit)
    {call : Arena → Env → Reply Nat} {size align : Nat} (asks : Arena.Asks size align call) :
    Behaves constants calls (world.onArena constants.owner call) := by
  intro provided
  have before := provided_of_suffix provided (world.onArena_suffix constants.owner call)
  have fits := suits before
  cases found : world.arena? constants.owner with
  | none =>
    obtain ⟨cause, same⟩ := onArena_none found call
    rw [same]
    refine ⟨.error (.absent cause), fits.sound, fits.loud, ?_⟩
    intro arena present
    rw [found] at present
    cases present
  | some arena =>
    obtain ⟨skew, same⟩ := onArena_some found call
    have consistent := (fits.sound constants.owner arena found).consistent
    obtain ⟨label, disabled, room⟩ := fits.room arena found
    have answered := asks.answers consistent (world.env skew)
    obtain ⟨label', disabled', serial⟩ := answered.counts
    rw [same] at provided ⊢
    refine ⟨?_, fits.sound.after found answered.changes provided, ?_, ?_⟩
    · rw [← label, ← fits.loud]
      exact asks.fails consistent (by omega) fun chunk came => aligned_of_obtain provided came
    · rw [complaint_after, fits.loud]
    · intro after present
      rw [arena?_after_self constants.owner world found] at present
      cases present
      exact ⟨label'.trans label, disabled'.trans disabled, by omega⟩

def RequestConstants.invariant (constants : RequestConstants)
    (small : constants.total < wordLimit) : RequestInvariant constants.owner where
  holds calls _ world := world.Suits constants calls
  fails failure world := Provided world.traffic →
    FailsOnly constants.loud (Failure.OfRequest constants.label)
      (.error failure : Except Failure Nat)
  refused suits asks made := by
    have behaves := World.Suits.ask suits small asks
    rw [made] at behaves
    exact ⟨fun provided => (behaves provided).1, fun provided => (behaves provided).2⟩
  supplied suits asks made _ _ _ := by
    have behaves := World.Suits.ask suits small asks
    rw [made] at behaves
    exact fun provided => (behaves provided).2
  stored suits _ := World.Suits.store suits _ _ _
  counted suits kind change := World.Suits.count suits kind change
  abandoned {failure world} fails kind := by
    intro provided
    have same : (world.abandon kind).traffic = world.traffic := by
      rw [World.abandon, World.count_eq]
    exact fails (same ▸ provided)
  stopped _ unasked := by
    intro _
    cases unasked with
    | clone => exact .error .clone
    | default => exact .error .default
    | destructor => exact .error .destructor
    | constructor => exact .error .constructor
    | invalidLayout => exact .error .invalidLayout
  fewer suits less _ := World.Suits.fewer suits less
  reordered suits _ := suits

theorem RequestInvariant.failed {owner : Nat} {invariant : RequestInvariant owner}
    {grants : List Grant} {request : Request}
    (kept : invariant.holds (calls + request.calls) grants world) {failure : Failure}
    (failed : (request.ask world owner).1.1 = .error failure) :
    invariant.fails failure (request.ask world owner).2 := by
  cases request with
  | bytes size align =>
    have whole : size * Kind.u8.size = size := Nat.mul_one size
    exact (allocate kept align whole).failed failed
  | tryBytes size align =>
    have whole : size * Kind.u8.size = size := Nat.mul_one size
    exact (ask kept (.tryAllocate size align) whole).failed failed
  | raw depth layout =>
    have whole : layout.size * Kind.u8.size = layout.size := Nat.mul_one layout.size
    exact (allocateRaw kept depth layout whole).failed failed
  | array kind number => exact (allocateArray kept kind number).failed failed
  | object kind value => exact (newObject kept kind value).failed failed
  | objectCopy kind value refused => exact (newObjectCopy kept kind value refused).failed failed
  | objectWith kind inner stops value =>
      exact (newObjectWith kept kind stops value).1 failure failed
  | objects kind values stop => exact (newObjectsCopy kept kind values stop).failed failed
  | slice kind number make stop => exact (newSlice kept kind number make stop).failed failed
  | construct depth kind value dropPanics =>
    exact (construct kept depth kind value dropPanics).failed failed
  | constructSlice depth kind values stop =>
    exact (constructSlice kept depth kind values stop).failed failed

theorem Request.behaves {request : Request} (suits : world.Suits constants request.calls)
    (small : constants.total < wordLimit) :
    Behaves constants 0
      ((request.ask world constants.owner).1.1, (request.ask world constants.owner).2) := by
  have kept : (constants.invariant small).holds (0 + request.calls) [] world := by
    rw [Nat.zero_add]
    exact suits
  intro provided
  refine ⟨?_, ?_⟩
  · intro failure failed
    exact RequestInvariant.failed kept failed provided failure rfl
  · have served : World.Suits (request.serve world constants.owner).2 constants 0 :=
      RequestInvariant.serve kept
    rw [request.serve_eq] at served
    exact served provided

end Requests

end ChunkArena
