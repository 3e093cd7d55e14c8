import ChunkArena.Proofs.ByteRequests

/-!
What requests cut out of the chunks of an arena. A request asks for memory once or several times,
and each time that it is served, it gets a piece: behind the cursor, after the padding that its
alignment needs, or at the start of a chunk that is appended for it. This also holds for the pieces
of requests that fail later on. Nothing but a question moves the cursor in the course of a request.
-/

namespace ChunkArena

/-- One question to an arena for memory: for bytes, or for the elements of an array. -/
inductive Ask
  | bytes (size align : Nat)
  | tryBytes (size align : Nat)
  | array (kind : Kind) (count : Nat)

namespace Ask

def size : Ask → Nat
  | bytes size _ | tryBytes size _ => size
  | array kind count => count * kind.size

def align : Ask → Nat
  | bytes _ align | tryBytes _ align => align
  | array kind _ => kind.align

def call : Ask → Arena → Env → Reply Nat
  | bytes size align => fun arena env => arena.allocate env size align
  | tryBytes size align => fun arena env => arena.tryAllocate env size align
  | array kind count => fun arena env => arena.allocateArray env kind count

theorem asks (ask : Ask) : Arena.Asks ask.size ask.align ask.call := by
  cases ask with
  | bytes size align => exact .allocate size align
  | tryBytes size align => exact .tryAllocate size align
  | array kind count => exact .allocateArray kind count

end Ask

def Request.asks : Request → List Ask
  | bytes size align => [.bytes size align]
  | tryBytes size align => [.tryBytes size align]
  | raw _ layout => [.tryBytes layout.size layout.align]
  | array kind number | slice kind number .. => [.array kind number]
  | object kind _ => [.bytes kind.size kind.align]
  | objectCopy kind _ refused => if refused then [] else [.bytes kind.size kind.align]
  | objectWith kind inner _ _ =>
      .bytes kind.size kind.align :: inner.map fun part => .bytes part.1 part.2
  | objects kind values _ => [.array kind values.length]
  | construct _ kind .. => [.tryBytes kind.size kind.align]
  | constructSlice _ kind values _ =>
      (kind.layout.array? values.length).elim [] fun layout => [.tryBytes layout.size layout.align]

/-- Bytes that were handed out together, by an allocation or by a growth. -/
structure Piece where
  index : Nat
  start : Nat
  size : Nat
  align : Nat
  opens : Bool
  deriving DecidableEq

def Piece.finish (piece : Piece) : Nat := piece.start + piece.size

def Ask.piece (ask : Ask) (before after : World) (owner start : Nat) : Piece where
  index := (after.chunks owner).length - 1
  start := start
  size := ask.size
  align := ask.align
  opens := (before.chunks owner).length < (after.chunks owner).length

namespace World

def carve (world : World) (owner : Nat) : List Ask → List Piece × World
  | [] => ([], world)
  | ask :: rest =>
      match world.onArena owner ask.call with
      | (.error _, after) => ([], after)
      | (.ok start, after) =>
          let (later, last) := after.carve owner rest
          (later ++ [ask.piece world after owner start], last)

def Beside (first last : World) : Prop :=
  ∃ memory tally, last = { first with memory := memory, tally := tally }

section Recounts

variable (world : World) (owner : Nat)

theorem perform_recount (tally : Tally) (effect : Effect) :
    perform owner { world with tally := tally } effect =
      { perform owner world effect with tally := tally } := by
  cases effect with
  | obtain | giveBack | fill => rfl
  | report label entry => rfl

theorem onArena_recount (tally : Tally) {α : Type} (call : Arena → Env → Reply α) :
    { world with tally := tally }.onArena owner call =
      ((world.onArena owner call).1, { (world.onArena owner call).2 with tally := tally }) := by
  have effects_recount (effects : List Effect) (start : World) :
      effects.foldl (perform owner) { start with tally := tally } =
        { effects.foldl (perform owner) start with tally := tally } := by
    induction effects generalizing start with
    | nil => rfl
    | cons effect rest ih => rw [List.foldl_cons, perform_recount, ih, List.foldl_cons]
  unfold onArena
  simp only
  cases world.tenants[owner]? with
  | none => rfl
  | some tenant =>
    simp only
    cases tenant.arena with
    | none => rfl
    | some arena =>
      let reply := call arena (world.env tenant.skew)
      exact congrArg (Prod.mk reply.result) (effects_recount reply.effects { world with
        tenants := world.tenants.set owner { tenant with arena := some reply.arena } })

end Recounts

namespace Beside

variable {first next last : World}

theorem refl (world : World) : world.Beside world := ⟨world.memory, world.tally, rfl⟩

theorem trans (head : first.Beside next) (tail : next.Beside last) : first.Beside last := by
  obtain ⟨_, _, rfl⟩ := head
  obtain ⟨memory, tally, rfl⟩ := tail
  exact ⟨memory, tally, rfl⟩

theorem count (beside : first.Beside last) (kind : Kind) (change : Tally → Tally) :
    first.Beside (last.count kind change) := by
  rw [count_eq]
  exact beside.trans ⟨last.memory, _, rfl⟩

theorem store (beside : first.Beside last) (kind : Kind) (start : Nat) (values : List Value) :
    first.Beside (last.store kind start values) := by
  obtain ⟨tally, same⟩ := last.store_eq kind start values
  rw [same]
  exact beside.trans ⟨_, tally, rfl⟩

end Beside

def Relays (answer result : Except Failure Nat × World) : Prop :=
  answer.2.Beside result.2 ∧ ∀ start, result.1 = .ok start → answer.1 = .ok start

section Relays

variable {world : World} {answer result : Except Failure Nat × World}

theorem Relays.refl (answer : Except Failure Nat × World) : Relays answer answer :=
  ⟨.refl answer.2, fun _ same => same⟩

theorem onArena_counted (world : World) (kind : Kind) (change : Tally → Tally) (owner : Nat)
    (call : Arena → Env → Reply Nat) :
    Relays (world.onArena owner call) ((world.count kind change).onArena owner call) := by
  rw [count_eq, world.onArena_recount owner
    (if kind.tracked then change world.tally else world.tally) call]
  exact ⟨⟨_, _, rfl⟩, fun _ same => same⟩

theorem Relays.settle (relays : Relays answer result) (kind : Kind) (value : Value) :
    Relays answer (settle kind value result) := by
  obtain ⟨beside, same⟩ := relays
  obtain ⟨outcome, after⟩ := result
  cases outcome with
  | error failure =>
    have abandoned : answer.2.Beside (after.abandon kind) := beside.count kind _
    exact ⟨abandoned, nofun⟩
  | ok start => exact ⟨beside.store kind start [value], same⟩

theorem fillSlots_beside (world : World) (kind : Kind) (start number : Nat)
    (first : Nat → List Value) (stop : Option Nat) (change : Nat → Tally → Tally) (cause : Panic) :
    world.Beside (world.fillSlots kind start number first stop change cause).2 ∧
      ∀ place, (world.fillSlots kind start number first stop change cause).1 = .ok place →
        start = place := by
  have filled := ((Beside.refl world).store kind start (first (madeUntil stop number))).count kind
    (change (madeUntil stop number))
  simp only [fillSlots]
  split
  · exact ⟨filled, fun _ same => Except.ok.inj same⟩
  · refine ⟨filled, fun _ same => ?_⟩
    cases same

theorem Relays.dropped (relays : Relays answer result) (dropPanics : Bool) :
    Relays answer (dropped dropPanics result) := by
  refine ⟨?_, ?_⟩
  · rw [dropped_snd]
    exact relays.1
  · unfold World.dropped
    split
    · exact nofun
    · exact relays.2

end Relays

/-- Whether a world comes from the answers to questions, and every grant from one of the pieces. -/
structure Carved (world : World) (owner : Nat) (asks : List Ask) (grants : List Grant)
    (after : World) : Prop where
  beside : (world.carve owner asks).2.Beside after
  granted : ∀ grant ∈ grants, ∃ piece ∈ (world.carve owner asks).1, piece.start = grant.start ∧
    piece.size = grant.length * grant.kind.size ∧ piece.align = grant.align

section Requests

variable {world : World} {owner : Nat}

theorem carved_one (ask : Ask) (kind : Kind) (length : Nat) (size : ask.size = length * kind.size)
    {result : Except Failure Nat × World}
    (relays : Relays (world.onArena owner ask.call) result) (values : List Value) :
    world.Carved owner [ask] (granted kind ask.align length values result).1
      (granted kind ask.align length values result).2 := by
  obtain ⟨beside, told⟩ := relays
  obtain ⟨outcome, last⟩ := result
  generalize made : world.onArena owner ask.call = answer at beside told
  obtain ⟨reply, after⟩ := answer
  have world_after : (world.carve owner [ask]).2 = after := by
    cases reply <;> simp only [carve, made]
  cases outcome with
  | error failure =>
    refine ⟨?_, by simp [ChunkArena.granted]⟩
    rw [world_after]
    exact beside
  | ok start =>
    cases told start rfl
    refine ⟨?_, ?_⟩
    · rw [world_after]
      exact beside
    · intro grant member
      rw [List.mem_singleton.mp member]
      refine ⟨ask.piece world after owner start, ?_, rfl, size, rfl⟩
      simp only [carve, made, List.nil_append, List.mem_singleton]

theorem Carved.nothing {after : World} (beside : world.Beside after) :
    world.Carved owner [] [] after := ⟨beside, by simp⟩

theorem Relays.fillSlots {start : Nat} {answer : Except Failure Nat × World} {after : World}
    (relays : Relays answer (.ok start, after)) (kind : Kind) (number : Nat)
    (first : Nat → List Value) (stop : Option Nat) (change : Nat → Tally → Tally) (cause : Panic) :
    Relays answer (after.fillSlots kind start number first stop change cause) := by
  obtain ⟨beside, same⟩ := relays
  obtain ⟨filled, placed⟩ := after.fillSlots_beside kind start number first stop change cause
  refine ⟨beside.trans filled, ?_⟩
  intro place told
  rw [← placed place told]
  exact same start rfl

theorem newObjectsCopy_relays (world : World) (owner : Nat) (kind : Kind) (values : List Value)
    (stop : Option Nat) :
    Relays (world.allocateArray owner kind values.length)
      (world.newObjectsCopy owner kind values stop) := by
  have itself := Relays.refl (world.allocateArray owner kind values.length)
  unfold newObjectsCopy
  generalize world.allocateArray owner kind values.length = answer at *
  obtain ⟨reply, after⟩ := answer
  cases reply with
  | error failure => exact itself
  | ok start => exact itself.fillSlots kind values.length values.take stop _ .cloneRefused

theorem newSlice_relays (world : World) (owner : Nat) (kind : Kind) (number : Nat)
    (make : Nat → Value) (stop : Option Nat) :
    Relays (world.allocateArray owner kind number)
      (world.newSlice owner kind number make stop) := by
  have itself := Relays.refl (world.allocateArray owner kind number)
  unfold newSlice
  generalize world.allocateArray owner kind number = answer at *
  obtain ⟨reply, after⟩ := answer
  cases reply with
  | error failure => exact itself
  | ok start => exact itself.fillSlots kind number (kind.defaults make) stop _ .defaultRefused

theorem allocateEach_carved (world : World) (owner : Nat) (inner : List (Nat × Nat)) :
    (world.carve owner (inner.map fun part => .bytes part.1 part.2)).2 =
        (world.allocateEach owner inner).2.2 ∧
      ∀ grant ∈ grantedEach inner (world.allocateEach owner inner).2.1,
        ∃ piece ∈ (world.carve owner (inner.map fun part => .bytes part.1 part.2)).1,
          piece.start = grant.start ∧ piece.size = grant.length * grant.kind.size ∧
            piece.align = grant.align := by
  induction inner generalizing world with
  | nil => exact ⟨rfl, by simp [grantedEach, allocateEach]⟩
  | cons part rest ih =>
    obtain ⟨size, align⟩ := part
    generalize made : world.allocate owner size align = answer
    obtain ⟨reply, after⟩ := answer
    have asked : world.onArena owner (Ask.bytes size align).call = (reply, after) := made
    cases reply with
    | error failure =>
      simp only [List.map_cons, carve, asked, allocateEach, made]
      exact ⟨trivial, by simp [grantedEach]⟩
    | ok start =>
      obtain ⟨same, each⟩ := ih after
      simp only [List.map_cons, carve, asked, allocateEach, made]
      refine ⟨same, ?_⟩
      intro grant member
      rcases List.mem_cons.mp member with here | later
      · rw [here]
        exact ⟨_, List.mem_append_right _ (List.mem_singleton_self _), rfl,
          (Nat.mul_one size).symm, rfl⟩
      · obtain ⟨piece, listed, told⟩ := each grant later
        exact ⟨piece, List.mem_append_left _ listed, told⟩

theorem newObjectWith_reserved {after : World} {kind : Kind} {start : Nat}
    (made : world.allocate owner kind.size kind.align = (.ok start, after))
    (inner : List (Nat × Nat)) (stops : Bool) (value : Value) :
    (world.newObjectWith owner kind inner stops value).2.1 = (after.allocateEach owner inner).2.1 ∧
      (after.allocateEach owner inner).2.2.Beside
        (world.newObjectWith owner kind inner stops value).2.2 ∧
      ∀ first, (world.newObjectWith owner kind inner stops value).1 = .ok first →
        start = first := by
  unfold newObjectWith
  simp only [made]
  generalize after.allocateEach owner inner = answer
  obtain ⟨outcome, starts, last⟩ := answer
  cases outcome with
  | error failure => exact ⟨rfl, .refl last, nofun⟩
  | ok done =>
    cases stops with
    | true => exact ⟨rfl, .refl last, nofun⟩
    | false =>
      exact ⟨rfl, ((Beside.refl last).count kind _).store kind start [value],
        fun _ same => Except.ok.inj same⟩

theorem objectWith_carved (world : World) (owner : Nat) (kind : Kind) (inner : List (Nat × Nat))
    (stops : Bool) (value : Value) :
    world.Carved owner (Request.objectWith kind inner stops value).asks
      ((Request.objectWith kind inner stops value).serve world owner).1
      ((Request.objectWith kind inner stops value).serve world owner).2 := by
  generalize made : world.allocate owner kind.size kind.align = answer
  obtain ⟨reply, after⟩ := answer
  have asked : world.onArena owner (Ask.bytes kind.size kind.align).call = (reply, after) := made
  cases reply with
  | error failure =>
    have carved :
        (world.carve owner (Request.objectWith kind inner stops value).asks).2 = after := by
      simp only [Request.asks, carve, asked]
    simp only [Request.serve, newObjectWith, made, granted, grantedEach, List.zipWith_nil_right,
      List.append_nil]
    refine ⟨?_, by simp⟩
    rw [carved]
    exact .refl after
  | ok start =>
    obtain ⟨same, each⟩ := allocateEach_carved after owner inner
    obtain ⟨starts, beside, told⟩ := newObjectWith_reserved made inner stops value
    have carved : world.carve owner (Request.objectWith kind inner stops value).asks =
        ((after.carve owner (inner.map fun part => .bytes part.1 part.2)).1 ++
            [(Ask.bytes kind.size kind.align).piece world after owner start],
          (after.carve owner (inner.map fun part => .bytes part.1 part.2)).2) := by
      simp only [Request.asks, carve, asked]
    rw [← starts] at each
    rw [← same] at beside
    simp only [Request.serve]
    generalize world.newObjectWith owner kind inner stops value = answer at *
    obtain ⟨result, addresses, last⟩ := answer
    refine ⟨?_, ?_⟩
    · rw [carved]
      cases result <;> exact beside
    · intro grant member
      rw [carved]
      rcases List.mem_append.mp member with own | outer
      · obtain ⟨piece, listed, place⟩ := each grant own
        exact ⟨piece, List.mem_append_left _ listed, place⟩
      · cases result with
        | error failure => cases outer
        | ok first =>
          rw [List.mem_singleton.mp outer]
          exact ⟨_, List.mem_append_right _ (List.mem_singleton_self _), told first rfl,
            (Nat.one_mul kind.size).symm, rfl⟩

theorem constructSlice_relays (world : World) (owner depth : Nat) {kind : Kind}
    {values : List Value} {layout : Layout} (shape : kind.layout.array? values.length = some layout)
    (stop : Option Nat) :
    Relays (world.onArena owner (Ask.tryBytes layout.size layout.align).call)
      (world.constructSlice (.nested owner depth) kind values stop) := by
  have itself := Relays.refl (world.onArena owner (Ask.tryBytes layout.size layout.align).call)
  simp only [constructSlice, shape, allocateRaw_nested]
  change Relays _ (match world.onArena owner (Ask.tryBytes layout.size layout.align).call with
    | (.error failure, world) => (.error failure, world)
    | (.ok start, world) => world.cloneInto kind start values stop)
  generalize world.onArena owner (Ask.tryBytes layout.size layout.align).call = answer at *
  obtain ⟨reply, after⟩ := answer
  cases reply with
  | error failure => exact itself
  | ok start => exact itself.fillSlots kind values.length values.take stop _ .cloneRefused

end Requests

end World

/-- The pieces of a request are what it hands out, and perhaps more that nobody is told of. Besides
asking for them, it only stores and counts. -/
theorem Request.serve_carved (request : Request) (world : World) (owner : Nat) :
    world.Carved owner request.asks (request.serve world owner).1
      (request.serve world owner).2 := by
  cases request with
  | bytes size align =>
    exact World.carved_one (.bytes size align) .u8 size (Nat.mul_one size).symm (.refl _) []
  | tryBytes size align =>
    exact World.carved_one (.tryBytes size align) .u8 size (Nat.mul_one size).symm (.refl _) []
  | raw depth layout =>
    simp only [Request.serve, World.allocateRaw_nested]
    exact World.carved_one (.tryBytes layout.size layout.align) .u8 layout.size
      (Nat.mul_one layout.size).symm (.refl _) []
  | array kind number =>
    exact World.carved_one (.array kind number) kind number rfl (.refl _) []
  | object kind value =>
    exact World.carved_one (.bytes kind.size kind.align) kind 1 (Nat.one_mul kind.size).symm
      ((world.onArena_counted kind _ owner _).settle kind value) [value]
  | objectCopy kind value refused =>
    cases refused with
    | true => exact .nothing (.refl world)
    | false =>
      exact World.carved_one (.bytes kind.size kind.align) kind 1 (Nat.one_mul kind.size).symm
        ((world.onArena_counted kind _ owner _).settle kind value) [value]
  | objectWith kind inner stops value => exact world.objectWith_carved owner kind inner stops value
  | objects kind values stop =>
    exact World.carved_one (.array kind values.length) kind values.length rfl
      (world.newObjectsCopy_relays owner kind values stop) values
  | slice kind number make stop =>
    exact World.carved_one (.array kind number) kind number rfl
      (world.newSlice_relays owner kind number make stop) _
  | construct depth kind value dropPanics =>
    simp only [Request.serve, World.construct, World.allocateRaw_nested]
    exact World.carved_one (.tryBytes kind.size kind.align) kind 1 (Nat.one_mul kind.size).symm
      (((world.onArena_counted kind _ owner _).settle kind value).dropped dropPanics) [value]
  | constructSlice depth kind values stop =>
    cases shape : kind.layout.array? values.length with
    | none =>
      simp only [Request.serve, Request.asks, World.constructSlice, shape]
      exact .nothing (.refl world)
    | some layout =>
      obtain ⟨size, align⟩ := Kind.layout_of_array? shape
      have carved := World.carved_one (.tryBytes layout.size layout.align) kind values.length size
        (world.constructSlice_relays owner depth shape stop) values
      simp only [Request.serve, Request.asks, shape, Option.elim_some]
      rw [← align]
      exact carved

namespace Arena

/-- What a question does to the chunks and the cursor of an arena, by its answer. -/
inductive Cuts (arena : Arena) (loud : Prop) (size align : Nat) : Except Failure Nat → Arena → Prop
  | refused (failure : Failure) : Cuts arena loud size align (.error failure) arena
  /-- A chunk was appended, but the report about it failed. -/
  | stopped (failure : Failure) (chunk : Chunk) (panics : loud) :
      Cuts arena loud size align (.error failure) (arena.extended chunk)
  | behind (some_chunk : arena.chunks ≠ []) (positive : 0 < align) :
      Cuts arena loud size align (.ok (roundUp arena.cursor.next align))
        (arena.movedTo (roundUp arena.cursor.next align + size))
  | afresh (chunk : Chunk) (positive : 0 < align) (aligned : align ∣ chunk.start) :
      Cuts arena loud size align (.ok chunk.start)
        ((arena.extended chunk).movedTo (chunk.start + size))

variable {arena : Arena} {env : Env} {size align : Nat}

theorem Cuts.failed {loud : Prop} {failure : Failure} {after : Arena}
    (cuts : arena.Cuts loud size align (.error failure) after) (other : Failure) :
    arena.Cuts loud size align (.error other) after := by
  cases cuts with
  | refused => exact .refused other
  | stopped _ chunk panics => exact .stopped other chunk panics

theorem Fulfils.cuts {reply : Reply Nat} (fulfils : arena.Fulfils env size align reply)
    (consistent : arena.Consistent)
    (placed : ∀ chunk, .obtain chunk ∈ reply.effects → chunk.layout.align ∣ chunk.start) :
    arena.Cuts (env.complaint .debug ≠ none) size align reply.result reply.arena := by
  have positive (power : isPowerOfTwo align = true) : 0 < align := by
    obtain ⟨k, same⟩ := (isPowerOfTwo_iff align).mp power
    rw [same]
    exact Nat.two_pow_pos k
  cases fulfils with
  | misaligned _ same =>
    rw [same]
    exact .refused _
  | oversized _ _ _ same =>
    rw [same]
    exact .refused _
  | exhausted _ _ _ _ failed same =>
    rw [failed, same]
    exact .refused _
  | admitted power room same =>
    rw [same]
    refine .behind ?_ (positive power)
    intro empty
    apply room.1
    rw [consistent.chunk_eq, empty]
    rfl
  | spilled power _ _ _ chunk fresh same =>
    rw [same] at placed ⊢
    have divides : align ∣ chunk.layout.align := by
      rw [fresh]
      exact dvd_max_chunkAlign power
    exact .afresh chunk (positive power)
      (Nat.dvd_trans divides (placed chunk (by simp)))
  | stopped _ _ _ cause loud chunk _ same =>
    rw [same]
    exact .stopped _ chunk (by rw [loud]; exact Option.some_ne_none cause)

section Questions

variable (consistent : arena.Consistent) (below : arena.cursor.limit < wordLimit)

include consistent below

theorem tryAllocate_cuts
    (placed : ∀ chunk, .obtain chunk ∈ (arena.tryAllocate env size align).effects →
      chunk.layout.align ∣ chunk.start ∧ chunk.finish < wordLimit) :
    arena.Cuts (env.complaint .debug ≠ none) size align (arena.tryAllocate env size align).result
      (arena.tryAllocate env size align).arena := by
  cases off : env.profile.checks && arena.isDisabled with
  | true =>
    rw [tryAllocate, if_pos off]
    exact .refused _
  | false =>
    exact (tryAllocate_fulfils consistent below off size align placed).cuts consistent
      fun chunk came => (placed chunk came).1

theorem allocate_cuts
    (placed : ∀ chunk, .obtain chunk ∈ (arena.allocate env size align).effects →
      chunk.layout.align ∣ chunk.start ∧ chunk.finish < wordLimit) :
    arena.Cuts (env.complaint .debug ≠ none) size align (arena.allocate env size align).result
      (arena.allocate env size align).arena := by
  rcases allocate_forms arena env size align with same | ⟨cause, answer, same⟩
  · rw [same] at placed ⊢
    exact tryAllocate_cuts consistent below placed
  · rw [same] at placed ⊢
    have cuts := tryAllocate_cuts consistent below placed
    rw [answer] at cuts
    exact cuts.failed _

theorem allocateArray_cuts {kind : Kind} {count : Nat}
    (placed : ∀ chunk, .obtain chunk ∈ (arena.allocateArray env kind count).effects →
      chunk.layout.align ∣ chunk.start ∧ chunk.finish < wordLimit) :
    arena.Cuts (env.complaint .debug ≠ none) (count * kind.size) kind.align
      (arena.allocateArray env kind count).result (arena.allocateArray env kind count).arena := by
  unfold allocateArray at placed ⊢
  cases shape : kind.layout.array? count with
  | none => exact .refused _
  | some layout =>
    obtain ⟨size, align⟩ := Kind.layout_of_array? shape
    rw [shape] at placed
    rw [← size, ← align]
    exact allocate_cuts consistent below placed

end Questions

end Arena

theorem Ask.cuts (ask : Ask) {arena : Arena} {env : Env} (consistent : arena.Consistent)
    (below : arena.cursor.limit < wordLimit)
    (placed : ∀ chunk, .obtain chunk ∈ (ask.call arena env).effects →
      chunk.layout.align ∣ chunk.start ∧ chunk.finish < wordLimit) :
    arena.Cuts (env.complaint .debug ≠ none) ask.size ask.align (ask.call arena env).result
      (ask.call arena env).arena := by
  cases ask with
  | bytes size align => exact Arena.allocate_cuts consistent below placed
  | tryBytes size align => exact Arena.tryAllocate_cuts consistent below placed
  | array kind count => exact Arena.allocateArray_cuts consistent below placed

end ChunkArena
