import ChunkArena.Proofs.BackedArenas
import ChunkArena.Proofs.Requests

/-!
What requests do, step by step. A request asks one arena for memory, a number of times, stores
elements in what it was handed out, and counts values. An invariant says what each of these steps
keeps, given what was handed out so far and how many allocations may still come; every request keeps
it then, whatever kind of request it is and wherever it stops.
-/

namespace ChunkArena

theorem Kind.array?_of_real (kind : Kind) {number : Nat} (real : number * kind.size ≤ blockLimit) :
    kind.layout.array? number = some ⟨kind.size * number, kind.align⟩ := by
  obtain ⟨power, whole, _⟩ := kind.shaped
  have multiple : kind.size * number % kind.align = 0 :=
    Nat.mod_eq_zero_of_dvd (Dvd.dvd.mul_right whole number)
  have rounded : roundUp (kind.size * number) kind.align = kind.size * number := by
    simp [roundUp, padding, multiple]
  have valid : isPowerOfTwo kind.align = true ∧
      roundUp (kind.size * number) kind.align ≤ blockLimit := by
    rw [rounded, Nat.mul_comm]
    exact ⟨power, real⟩
  exact if_pos valid

theorem Kind.layout_of_array? {kind : Kind} {number : Nat} {layout : Layout}
    (shape : kind.layout.array? number = some layout) :
    layout.size = number * kind.size ∧ layout.align = kind.align := by
  obtain ⟨same, _⟩ := Layout.ofSizeAlign?_eq_some_iff.mp shape
  rw [same]
  exact ⟨Nat.mul_comm _ _, rfl⟩

namespace Arena

theorem allocateArray_answers {arena : Arena} (consistent : arena.Consistent) (env : Env)
    (kind : Kind) (count : Nat) :
    arena.Answers env.profile (count * kind.size) kind.align
      (arena.allocateArray env kind count) := by
  unfold allocateArray
  cases shape : kind.layout.array? count with
  | none => exact ⟨arena, [], .idle, Or.inl ⟨_, rfl⟩⟩
  | some layout =>
    obtain ⟨size, align⟩ := Kind.layout_of_array? shape
    rw [← size, ← align]
    exact allocate_answers consistent env layout.size layout.align

/-- The calls that requests ask an arena for memory with, by size and alignment of what they ask
for. -/
inductive Asks : Nat → Nat → (Arena → Env → Reply Nat) → Prop
  | allocate (size align : Nat) : Asks size align fun arena env => arena.allocate env size align
  | tryAllocate (size align : Nat) :
      Asks size align fun arena env => arena.tryAllocate env size align
  | allocateArray (kind : Kind) (count : Nat) :
      Asks (count * kind.size) kind.align fun arena env => arena.allocateArray env kind count

theorem Asks.answers {size align : Nat} {call : Arena → Env → Reply Nat}
    (asks : Asks size align call) {arena : Arena} (consistent : arena.Consistent) (env : Env) :
    arena.Answers env.profile size align (call arena env) := by
  cases asks with
  | allocate => exact allocate_answers consistent env size align
  | tryAllocate => exact tryAllocate_answers consistent env size align
  | allocateArray kind count => exact allocateArray_answers consistent env kind count

end Arena

inductive Failure.Unasked : Failure → Prop
  | clone : Unasked (.panic .cloneRefused)
  | default : Unasked (.panic .defaultRefused)
  | destructor : Unasked (.panic .destructorFailed)
  | constructor : Unasked (.panic .constructorFailed)
  | invalidLayout : Unasked (.error .invalidLayout)

def Request.calls : Request → Nat
  | objectWith _ inner _ _ => inner.length + 1
  | _ => 1

namespace World

theorem allocateRaw_nested (world : World) (owner depth : Nat) (layout : Layout) :
    world.allocateRaw (.nested owner depth) layout =
      world.onArena owner fun arena env => arena.tryAllocate env layout.size layout.align := by
  induction depth with
  | zero => rfl
  | succ depth ih => exact ih

theorem count_eq (world : World) (kind : Kind) (change : Tally → Tally) :
    world.count kind change =
      { world with tally := if kind.tracked then change world.tally else world.tally } := by
  unfold count
  split <;> rfl

theorem store_eq (world : World) (kind : Kind) (start : Nat) (values : List Value) :
    ∃ tally, world.store kind start values =
      { world with
        memory := world.memory.store start (values.flatMap kind.encode), tally := tally } :=
  ⟨_, count_eq _ kind _⟩

theorem dropped_calm {α : Type} (answer : Except Failure α × World) :
    dropped false answer = answer := by
  obtain ⟨result, after⟩ := answer
  cases result with
  | ok start => rfl
  | error failure => cases failure <;> rfl

theorem dropped_snd {α : Type} (dropPanics : Bool) (answer : Except Failure α × World) :
    (dropped dropPanics answer).2 = answer.2 := by
  unfold dropped
  split <;> rfl

theorem store_defaults (world : World) (kind : Kind) (start : Nat) (make : Nat → Value)
    (number : Nat) :
    world.store kind start (kind.defaults make number) =
      world.store kind start ((List.range number).map make) := by
  unfold Kind.defaults
  split
  · next bare =>
    obtain ⟨untracked, empty⟩ := bare
    have nothing : ((List.range number).map make).flatMap kind.encode = [] := by
      apply List.eq_nil_of_length_eq_zero
      rw [kind.length_encoded_array, empty, Nat.mul_zero]
    simp only [store, count, untracked, nothing, List.flatMap_nil]
    rfl
  · rfl

theorem fillSlots_defaults (world : World) (kind : Kind) (start number : Nat)
    (make : Nat → Value) :
    world.fillSlots kind start number (kind.defaults make) =
      world.fillSlots kind start number fun made => (List.range made).map make := by
  funext stop change cause
  simp only [fillSlots, store_defaults]

end World

/-- What the steps of requests to an arena keep. It may depend on how many allocations can still
come, and on the arrays that were handed out, the newest first. -/
structure RequestInvariant (owner : Nat) where
  holds : Nat → List Grant → World → Prop
  fails : Failure → World → Prop
  refused {calls : Nat} {grants : List Grant} {world after : World} {size align : Nat}
    {call : Arena → Env → Reply Nat} {failure : Failure} :
    holds (calls + 1) grants world → Arena.Asks size align call →
      world.onArena owner call = (.error failure, after) →
        fails failure after ∧ holds calls grants after
  supplied {calls : Nat} {grants : List Grant} {world after : World} {size align start : Nat}
    {call : Arena → Env → Reply Nat} :
    holds (calls + 1) grants world → Arena.Asks size align call →
      world.onArena owner call = (.ok start, after) →
        ∀ kind length, length * kind.size = size →
          holds calls (⟨kind, align, start, length, []⟩ :: grants) after
  stored {calls : Nat} {grants : List Grant} {world : World} {kind : Kind}
    {align start length : Nat} {values : List Value} :
    holds calls (⟨kind, align, start, length, []⟩ :: grants) world → values.length ≤ length →
      holds calls (⟨kind, align, start, length, values⟩ :: grants) (world.store kind start values)
  counted {calls : Nat} {grants : List Grant} {world : World} :
    holds calls grants world → ∀ kind change, holds calls grants (world.count kind change)
  abandoned {failure : Failure} {world : World} :
    fails failure world → ∀ kind, fails failure (world.abandon kind)
  stopped {calls : Nat} {grants : List Grant} {world : World} {failure : Failure} :
    holds calls grants world → failure.Unasked → fails failure world
  fewer {calls more : Nat} {grants rest : List Grant} {world : World} :
    holds more grants world → calls ≤ more → rest.Sublist grants → holds calls rest world
  reordered {calls : Nat} {grants other : List Grant} {world : World} :
    holds calls grants world → grants.Perm other → holds calls other world

namespace RequestInvariant

variable {owner : Nat} (invariant : RequestInvariant owner) {calls : Nat} {grants : List Grant}
    {world : World}

def Serves (calls : Nat) (grants : List Grant) (kind : Kind) (align length : Nat)
    (values : List Value) : Except Failure Nat × World → Prop
  | (.ok start, world) =>
      invariant.holds calls (⟨kind, align, start, length, values⟩ :: grants) world
  | (.error failure, world) => invariant.fails failure world ∧ invariant.holds calls grants world

variable {invariant}

theorem Serves.granted {kind : Kind} {align length : Nat} {values : List Value}
    {answer : Except Failure Nat × World}
    (serves : invariant.Serves calls grants kind align length values answer) :
    invariant.holds calls ((granted kind align length values answer).1 ++ grants)
      (granted kind align length values answer).2 := by
  obtain ⟨result, after⟩ := answer
  cases result with
  | error failure => exact serves.2
  | ok start => exact serves

theorem Serves.failed {kind : Kind} {align length : Nat} {values : List Value}
    {answer : Except Failure Nat × World}
    (serves : invariant.Serves calls grants kind align length values answer) {failure : Failure}
    (failed : answer.1 = .error failure) : invariant.fails failure answer.2 := by
  obtain ⟨result, after⟩ := answer
  cases failed
  exact serves.1

theorem Serves.settle {kind : Kind} {answer : Except Failure Nat × World}
    (serves : invariant.Serves calls grants kind kind.align 1 [] answer) (value : Value) :
    invariant.Serves calls grants kind kind.align 1 [value] (World.settle kind value answer) := by
  obtain ⟨result, after⟩ := answer
  cases result with
  | error failure => exact ⟨invariant.abandoned serves.1 kind, invariant.counted serves.2 kind _⟩
  | ok start => exact invariant.stored serves (Nat.le_refl 1)

theorem Serves.dropped {kind : Kind} {align length : Nat} {values : List Value}
    {answer : Except Failure Nat × World}
    (serves : invariant.Serves calls grants kind align length values answer) (dropPanics : Bool) :
    invariant.Serves calls grants kind align length values (World.dropped dropPanics answer) := by
  unfold World.dropped
  split
  · cases dropPanics with
    | true => exact ⟨invariant.stopped serves.2 .destructor, serves.2⟩
    | false => exact serves
  · exact serves

section Requests

variable (kept : invariant.holds (calls + 1) grants world)

include kept

theorem ask {size align : Nat} {call : Arena → Env → Reply Nat} (asks : Arena.Asks size align call)
    {kind : Kind} {length : Nat} (whole : length * kind.size = size) :
    invariant.Serves calls grants kind align length [] (world.onArena owner call) := by
  generalize made : world.onArena owner call = answer
  obtain ⟨result, after⟩ := answer
  cases result with
  | error failure => exact invariant.refused kept asks made
  | ok start => exact invariant.supplied kept asks made kind length whole

theorem allocate {size : Nat} (align : Nat) {kind : Kind} {length : Nat}
    (whole : length * kind.size = size) :
    invariant.Serves calls grants kind align length [] (world.allocate owner size align) :=
  ask kept (.allocate size align) whole

theorem allocateRaw (depth : Nat) (layout : Layout) {kind : Kind} {length : Nat}
    (whole : length * kind.size = layout.size) :
    invariant.Serves calls grants kind layout.align length []
      (world.allocateRaw (.nested owner depth) layout) := by
  rw [World.allocateRaw_nested]
  exact ask kept (.tryAllocate layout.size layout.align) whole

theorem allocateArray (kind : Kind) (count : Nat) :
    invariant.Serves calls grants kind kind.align count [] (world.allocateArray owner kind count) :=
  ask kept (.allocateArray kind count) rfl

theorem newObject (kind : Kind) (value : Value) :
    invariant.Serves calls grants kind kind.align 1 [value] (world.newObject owner kind value) :=
  (allocate (invariant.counted kept kind _) kind.align (Nat.one_mul _)).settle value

theorem newObjectCopy (kind : Kind) (value : Value) (refused : Bool) :
    invariant.Serves calls grants kind kind.align 1 [value]
      (world.newObjectCopy owner kind value refused) := by
  cases refused with
  | true =>
      exact ⟨invariant.stopped kept .clone, invariant.fewer kept (Nat.le_succ calls) (.refl grants)⟩
  | false =>
      exact (allocate (invariant.counted kept kind _) kind.align (Nat.one_mul _)).settle value

theorem construct (depth : Nat) (kind : Kind) (value : Value) (dropPanics : Bool) :
    invariant.Serves calls grants kind kind.align 1 [value]
      (world.construct (.nested owner depth) kind value dropPanics) :=
  ((allocateRaw (invariant.counted kept kind _) depth kind.layout (Nat.one_mul _)).settle
    value).dropped
    dropPanics

omit kept in
theorem fillSlots {kind : Kind} {start number : Nat} {first : Nat → List Value}
    (few : ∀ made ≤ number, (first made).length ≤ number) (stop : Option Nat)
    (change : Nat → Tally → Tally) {cause : Panic} (unasked : Failure.Unasked (.panic cause))
    (reserved : invariant.holds calls (⟨kind, kind.align, start, number, []⟩ :: grants) world) :
    invariant.Serves calls grants kind kind.align number (first number)
      (world.fillSlots kind start number first stop change cause) := by
  have filled := invariant.counted
    (invariant.stored reserved (few (World.madeUntil stop number) (Nat.min_le_left _ _))) kind
    (change (World.madeUntil stop number))
  unfold World.fillSlots
  by_cases all : World.madeUntil stop number = number
  · simp only [if_pos all]
    rw [all] at filled ⊢
    exact filled
  · simp only [if_neg all]
    exact ⟨invariant.stopped filled unasked,
      invariant.fewer filled (Nat.le_refl calls) (List.sublist_cons_self _ _)⟩

omit kept in
theorem cloneInto {kind : Kind} {start : Nat} {values : List Value} (stop : Option Nat)
    (reserved :
      invariant.holds calls (⟨kind, kind.align, start, values.length, []⟩ :: grants) world) :
    invariant.Serves calls grants kind kind.align values.length values
      (world.cloneInto kind start values stop) := by
  have few (made : Nat) (_ : made ≤ values.length) : (values.take made).length ≤ values.length :=
    List.length_take_le' made values
  have filled : invariant.Serves calls grants kind kind.align values.length
      (values.take values.length) (world.cloneInto kind start values stop) :=
    fillSlots few stop _ .clone reserved
  rwa [List.take_length] at filled

theorem newObjectsCopy (kind : Kind) (values : List Value) (stop : Option Nat) :
    invariant.Serves calls grants kind kind.align values.length values
      (world.newObjectsCopy owner kind values stop) := by
  have array := allocateArray kept kind values.length
  unfold World.newObjectsCopy
  generalize world.allocateArray owner kind values.length = answer at array
  obtain ⟨result, after⟩ := answer
  cases result with
  | error failure => exact array
  | ok start => exact cloneInto stop array

theorem constructSlice (depth : Nat) (kind : Kind) (values : List Value) (stop : Option Nat) :
    invariant.Serves calls grants kind kind.align values.length values
      (world.constructSlice (.nested owner depth) kind values stop) := by
  unfold World.constructSlice
  cases shape : kind.layout.array? values.length with
  | none =>
    exact ⟨invariant.stopped kept .invalidLayout,
      invariant.fewer kept (Nat.le_succ calls) (.refl grants)⟩
  | some layout =>
    obtain ⟨size, align⟩ := Kind.layout_of_array? shape
    have raw := allocateRaw kept depth layout size.symm
    simp only
    rw [align] at raw
    generalize world.allocateRaw (.nested owner depth) layout = answer at raw
    obtain ⟨result, after⟩ := answer
    cases result with
    | error failure => exact raw
    | ok start => exact cloneInto stop raw

theorem newSlice (kind : Kind) (number : Nat) (make : Nat → Value) (stop : Option Nat) :
    invariant.Serves calls grants kind kind.align number ((List.range number).map make)
      (world.newSlice owner kind number make stop) := by
  have array := allocateArray kept kind number
  unfold World.newSlice
  generalize world.allocateArray owner kind number = answer at array
  obtain ⟨result, after⟩ := answer
  cases result with
  | error failure => exact array
  | ok start =>
    have few (made : Nat) (less : made ≤ number) :
        ((List.range made).map make).length ≤ number := by
      rwa [List.length_map, List.length_range]
    simp only [World.fillSlots_defaults]
    exact fillSlots few stop _ .default array

omit kept

theorem allocateEach {requests : List (Nat × Nat)}
    (kept : invariant.holds (calls + requests.length) grants world) :
    (∀ failure, (world.allocateEach owner requests).1 = .error failure →
        invariant.fails failure (world.allocateEach owner requests).2.2) ∧
      invariant.holds calls (grantedEach requests (world.allocateEach owner requests).2.1 ++ grants)
        (world.allocateEach owner requests).2.2 := by
  induction requests generalizing world grants with
  | nil => exact ⟨fun failure failed => (nomatch failed), kept⟩
  | cons request rest ih =>
    obtain ⟨size, align⟩ := request
    have first : invariant.Serves (calls + rest.length) grants .u8 align size [] _ :=
      allocate kept align (Nat.mul_one size)
    unfold World.allocateEach
    generalize world.allocate owner size align = answer at first
    obtain ⟨result, after⟩ := answer
    cases result with
    | error failure =>
      refine ⟨?_, invariant.fewer first.2 (Nat.le_add_right _ _) (.refl grants)⟩
      intro other failed
      cases failed
      exact first.1
    | ok start =>
      obtain ⟨fails, holds⟩ := ih first
      exact ⟨fails, invariant.reordered holds List.perm_middle⟩

theorem newObjectWith {inner : List (Nat × Nat)}
    (kept : invariant.holds (calls + inner.length + 1) grants world) (kind : Kind) (stops : Bool)
    (value : Value) :
    (∀ failure, (world.newObjectWith owner kind inner stops value).1 = .error failure →
        invariant.fails failure (world.newObjectWith owner kind inner stops value).2.2) ∧
      invariant.holds calls
        (((Request.objectWith kind inner stops value).serve world owner).1 ++ grants)
        ((Request.objectWith kind inner stops value).serve world owner).2 := by
  have first := allocate kept kind.align (Nat.one_mul kind.size)
  simp only [Request.serve, World.newObjectWith]
  generalize world.allocate owner kind.size kind.align = answer at first
  obtain ⟨result, after⟩ := answer
  cases result with
  | error failure =>
    refine ⟨?_, ?_⟩
    · intro other failed
      cases failed
      exact first.1
    · have nothing := invariant.fewer first.2 (Nat.le_add_right calls inner.length) (.refl grants)
      simpa [granted, grantedEach] using nothing
  | ok start =>
    obtain ⟨fails, each⟩ := allocateEach first
    simp only
    generalize after.allocateEach owner inner = answers at fails each
    obtain ⟨outcome, starts, last⟩ := answers
    -- The object's own bytes lie behind the constructor's allocations.
    have without : invariant.holds calls (grantedEach inner starts ++ grants) last :=
      invariant.fewer each (Nat.le_refl calls)
        ((List.Sublist.refl _).append (List.sublist_cons_self _ _))
    cases outcome with
    | error failure =>
      refine ⟨?_, by simpa [granted] using without⟩
      intro other failed
      cases failed
      exact fails failure rfl
    | ok done =>
      cases stops with
      | true =>
        refine ⟨?_, by simpa [granted] using without⟩
        intro other failed
        cases failed
        exact invariant.stopped without .constructor
      | false =>
        have front : invariant.holds calls
            (⟨kind, kind.align, start, 1, []⟩ :: (grantedEach inner starts ++ grants))
            (last.moveIn kind) :=
          invariant.reordered (invariant.counted each kind _) List.perm_middle
        have filled : invariant.holds calls
            (⟨kind, kind.align, start, 1, [value]⟩ :: (grantedEach inner starts ++ grants)) _ :=
          invariant.stored front (Nat.le_refl 1)
        have sorted := invariant.reordered filled List.perm_middle.symm
        refine ⟨fun other failed => (nomatch failed), ?_⟩
        simpa [granted] using sorted

end Requests

/-- What the steps keep, every request keeps, if it makes no more allocations than may still come.
-/
theorem serve {request : Request} (kept : invariant.holds (calls + request.calls) grants world) :
    invariant.holds calls ((request.serve world owner).1 ++ grants)
      (request.serve world owner).2 := by
  cases request with
  | bytes size align => exact (allocate kept align (Nat.mul_one size)).granted
  | tryBytes size align => exact (ask kept (.tryAllocate size align) (Nat.mul_one size)).granted
  | raw depth layout => exact (allocateRaw kept depth layout (Nat.mul_one _)).granted
  | array kind number => exact (allocateArray kept kind number).granted
  | object kind value => exact (newObject kept kind value).granted
  | objectCopy kind value refused => exact (newObjectCopy kept kind value refused).granted
  | objectWith kind inner stops value => exact (newObjectWith kept kind stops value).2
  | objects kind values stop => exact (newObjectsCopy kept kind values stop).granted
  | slice kind number make stop => exact (newSlice kept kind number make stop).granted
  | construct depth kind value dropPanics =>
    exact (construct kept depth kind value dropPanics).granted
  | constructSlice depth kind values stop =>
    exact (constructSlice kept depth kind values stop).granted

end RequestInvariant

end ChunkArena
