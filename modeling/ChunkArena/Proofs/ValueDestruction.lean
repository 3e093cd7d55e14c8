import ChunkArena.Proofs.RewindGuardScopes

/-!
When values are destroyed. A value that came into being is stored, or is lost with the call that
should have stored it; a stored value is destroyed when its storage is given up as an object or as a
slice, and never otherwise. This is counted here over all calls to arenas, to the system and to
references to either, with any arguments: the functional model cannot destroy one value twice, but
a second destruction, or one by a call that frees memory in bulk, would not add up.
-/

namespace ChunkArena

namespace Tally

def born (tally : Tally) : Nat := tally.moves + tally.clones + tally.defaults

/-- Whether between two tallies so many values were lost before they were stored, and so many stored
ones destroyed, while all others that came into being were stored. -/
structure Accounts (before : Tally) (lost given : Nat) (after : Tally) : Prop where
  born : after.born + (before.stores + before.abandoned) =
    before.born + (after.stores + after.abandoned)
  lost : after.abandoned = before.abandoned + lost
  given : after.destroyed = before.destroyed + given

theorem Accounts.of_eq {before after : Tally} (same : after = before) :
    before.Accounts 0 0 after := by
  subst same
  constructor <;> rfl

theorem Accounts.trans {before middle after : Tally} {lost given more further : Nat}
    (first : before.Accounts lost given middle) (last : middle.Accounts more further after) :
    before.Accounts (lost + more) (given + further) after := by
  obtain ⟨born, lost, given⟩ := first
  obtain ⟨born', lost', given'⟩ := last
  constructor <;> omega

structure Owns (before : Tally) (kind : Kind) (after : Tally) : Prop where
  born : after.born = before.born + if kind.tracked then 1 else 0
  stores : after.stores = before.stores
  abandoned : after.abandoned = before.abandoned
  destroyed : after.destroyed = before.destroyed

end Tally

def Kind.lost (kind : Kind) {α : Type} (answer : Except Failure α × World) : Nat :=
  if kind.tracked ∧ answer.1.isOk = false then 1 else 0

/-- The number of stored values whose storage is given up. No slice is too long for a layout. -/
def Disposal.given : Disposal → Nat
  | bytes _ => 0
  | object kind _ => if kind.tracked then 1 else 0
  | slice kind number _ => if kind.tracked ∧ (kind.layout.array? number).isSome then number else 0

/-- The number of values that a request loses: one that was moved or cloned into it, if it stops
before it is stored. -/
def Request.lost (world : World) (owner : Nat) : Request → Nat
  | object kind value => kind.lost (world.newObject owner kind value)
  | objectCopy kind value refused =>
      if refused then 0 else kind.lost (world.newObjectCopy owner kind value refused)
  | construct depth kind value dropPanics =>
      kind.lost (world.construct (.nested owner depth) kind value dropPanics)
  | _ => 0

namespace World

variable (world : World)

theorem allocateRaw_tally (source : Source) (layout : Layout) :
    (world.allocateRaw source layout).2.tally = world.tally := by
  induction source with
  | arena owner => exact world.onArena_tally owner _
  | system =>
    simp only [allocateRaw, systemAllocate]
    split
    · rfl
    · split <;> rfl
  | through target ih => exact ih

theorem deallocateRaw_tally (source : Source) (address : Nat) (layout : Layout) :
    (world.deallocateRaw source address layout).2.tally = world.tally := by
  induction source with
  | arena owner => exact world.onArena_tally owner _
  | system =>
    simp only [deallocateRaw, systemDeallocate]
    split <;> rfl
  | through target ih => exact ih

theorem count_tally (kind : Kind) (change : Tally → Tally) :
    (world.count kind change).tally = if kind.tracked then change world.tally else world.tally := by
  rw [count_eq]

theorem store_tally (kind : Kind) (start : Nat) (values : List Value) :
    (world.store kind start values).tally =
      if kind.tracked then { world.tally with stores := world.tally.stores + values.length }
      else world.tally := by
  rw [store, count_tally]

theorem count_owns (kind : Kind) (change : Tally → Tally)
    (born : ∀ tally : Tally, (change tally).born = tally.born + 1)
    (others : ∀ tally : Tally, (change tally).stores = tally.stores ∧
      (change tally).abandoned = tally.abandoned ∧ (change tally).destroyed = tally.destroyed) :
    world.tally.Owns kind (world.count kind change).tally := by
  rw [count_tally]
  obtain ⟨stores, abandoned, destroyed⟩ := others world.tally
  by_cases tracked : kind.tracked = true
  · rw [if_pos tracked]
    constructor <;> simp only [born, if_pos tracked, stores, abandoned, destroyed]
  · rw [if_neg tracked]
    constructor <;> simp only [if_neg tracked]
    omega

theorem moveIn_owns (kind : Kind) : world.tally.Owns kind (world.moveIn kind).tally := by
  apply count_owns
  · intro tally
    simp only [Tally.born]
    omega
  · exact fun tally => ⟨rfl, rfl, rfl⟩

section Owned

variable {world} {before : Tally} {kind : Kind} (owns : before.Owns kind world.tally)

include owns

theorem abandon_accounts :
    before.Accounts (if kind.tracked then 1 else 0) 0 (world.abandon kind).tally := by
  obtain ⟨born, stores, abandoned, destroyed⟩ := owns
  rw [abandon, count_tally]
  by_cases tracked : kind.tracked = true
  · simp only [if_pos tracked] at born ⊢
    constructor <;> simp only [Tally.born] at born ⊢ <;> omega
  · simp only [if_neg tracked] at born ⊢
    constructor <;> omega

theorem store_accounts (start : Nat) (value : Value) :
    before.Accounts 0 0 (world.store kind start [value]).tally := by
  obtain ⟨born, stores, abandoned, destroyed⟩ := owns
  rw [store_tally]
  by_cases tracked : kind.tracked = true
  · simp only [if_pos tracked, List.length_singleton] at born ⊢
    constructor <;> simp only [Tally.born] at born ⊢ <;> omega
  · simp only [if_neg tracked] at born ⊢
    constructor <;> omega

end Owned

theorem settle_accounts {before : Tally} {kind : Kind} {answer : Except Failure Nat × World}
    (owns : before.Owns kind answer.2.tally) (value : Value) :
    before.Accounts (kind.lost (settle kind value answer)) 0
      (settle kind value answer).2.tally := by
  obtain ⟨result, after⟩ := answer
  cases result with
  | error failure =>
    have accounts := abandon_accounts owns
    simpa [settle, Kind.lost, Except.isOk, Except.toBool] using accounts
  | ok start =>
    have accounts := store_accounts owns start value
    simpa [settle, Kind.lost, Except.isOk, Except.toBool] using accounts

theorem newObject_accounts (owner : Nat) (kind : Kind) (value : Value) :
    world.tally.Accounts (kind.lost (world.newObject owner kind value)) 0
      (world.newObject owner kind value).2.tally := by
  apply settle_accounts
  rw [allocate, onArena_tally]
  exact world.moveIn_owns kind

theorem lost_dropped (kind : Kind) {α : Type} (dropPanics : Bool)
    (answer : Except Failure α × World) :
    kind.lost (dropped dropPanics answer) = kind.lost answer := by
  unfold dropped
  split <;> rfl

theorem construct_accounts (source : Source) (kind : Kind) (value : Value) (dropPanics : Bool) :
    world.tally.Accounts (kind.lost (world.construct source kind value dropPanics)) 0
      (world.construct source kind value dropPanics).2.tally := by
  rw [construct, lost_dropped, dropped_snd]
  apply settle_accounts
  rw [allocateRaw_tally]
  exact world.moveIn_owns kind

theorem newObjectCopy_accounts (owner : Nat) (kind : Kind) (value : Value) (refused : Bool) :
    world.tally.Accounts (Request.lost world owner (.objectCopy kind value refused)) 0
      (world.newObjectCopy owner kind value refused).2.tally := by
  cases refused with
  | true => exact .of_eq rfl
  | false =>
    apply settle_accounts
    rw [allocate, onArena_tally]
    apply count_owns
    · intro tally
      simp only [Tally.born]
      omega
    · exact fun tally => ⟨rfl, rfl, rfl⟩

theorem allocateEach_tally (owner : Nat) (requests : List (Nat × Nat)) :
    (world.allocateEach owner requests).2.2.tally = world.tally := by
  induction requests generalizing world with
  | nil => rfl
  | cons request rest ih =>
    obtain ⟨size, align⟩ := request
    have first : (world.allocate owner size align).2.tally = world.tally :=
      world.onArena_tally owner _
    unfold allocateEach
    generalize world.allocate owner size align = answer at first
    obtain ⟨result, after⟩ := answer
    cases result with
    | error failure => exact first
    | ok start => exact (ih after).trans first

theorem newObjectWith_accounts (owner : Nat) (kind : Kind) (inner : List (Nat × Nat))
    (stops : Bool) (value : Value) :
    world.tally.Accounts 0 0 (world.newObjectWith owner kind inner stops value).2.2.tally := by
  have first : (world.allocate owner kind.size kind.align).2.tally = world.tally :=
    world.onArena_tally owner _
  unfold newObjectWith
  generalize world.allocate owner kind.size kind.align = answer at first
  obtain ⟨result, reserved⟩ := answer
  cases result with
  | error failure => exact .of_eq first
  | ok start =>
    have each := (reserved.allocateEach_tally owner inner).trans first
    simp only
    generalize reserved.allocateEach owner inner = answers at each
    obtain ⟨outcome, starts, last⟩ := answers
    cases outcome with
    | error failure => exact .of_eq each
    | ok done =>
      cases stops with
      | true => exact .of_eq each
      | false =>
        have owns := last.moveIn_owns kind
        rw [each] at owns
        exact store_accounts owns start value

theorem fillSlots_accounts {kind : Kind} (start : Nat) {number : Nat} {first : Nat → List Value}
    (stop : Option Nat) {change : Nat → Tally → Tally} (cause : Panic)
    (full : kind.tracked = true → ∀ made ≤ number, (first made).length = made)
    (born : ∀ made tally, (change made tally).born = tally.born + made)
    (others : ∀ made tally, (change made tally).stores = tally.stores ∧
      (change made tally).abandoned = tally.abandoned ∧
        (change made tally).destroyed = tally.destroyed) :
    world.tally.Accounts 0 0
      (world.fillSlots kind start number first stop change cause).2.tally := by
  have filled : world.tally.Accounts 0 0
      ((world.store kind start (first (madeUntil stop number))).count
        kind (change (madeUntil stop number))).tally := by
    rw [count_tally, store_tally]
    by_cases tracked : kind.tracked = true
    · have length := full tracked (madeUntil stop number) (Nat.min_le_left _ _)
      simp only [if_pos tracked, length]
      constructor
      · simp only [born, others]
        simp only [Tally.born]
        omega
      · simp only [others, Nat.add_zero]
      · simp only [others, Nat.add_zero]
    · simp only [if_neg tracked]
      exact .of_eq rfl
  simp only [fillSlots]
  split <;> exact filled

theorem cloneInto_accounts (kind : Kind) (start : Nat) (values : List Value) (stop : Option Nat) :
    world.tally.Accounts 0 0 (world.cloneInto kind start values stop).2.tally := by
  apply fillSlots_accounts
  · exact fun _ made less => by rw [List.length_take, Nat.min_eq_left less]
  · intro made tally
    simp only [Tally.born]
    omega
  · exact fun _ _ => ⟨rfl, rfl, rfl⟩

theorem newObjectsCopy_accounts (owner : Nat) (kind : Kind) (values : List Value)
    (stop : Option Nat) :
    world.tally.Accounts 0 0 (world.newObjectsCopy owner kind values stop).2.tally := by
  have array : (world.allocateArray owner kind values.length).2.tally = world.tally :=
    world.onArena_tally owner _
  unfold newObjectsCopy
  generalize world.allocateArray owner kind values.length = answer at array
  obtain ⟨result, after⟩ := answer
  cases result with
  | error failure => exact .of_eq array
  | ok start =>
    rw [← array]
    exact after.cloneInto_accounts kind start values stop

theorem constructSlice_accounts (source : Source) (kind : Kind) (values : List Value)
    (stop : Option Nat) :
    world.tally.Accounts 0 0 (world.constructSlice source kind values stop).2.tally := by
  unfold constructSlice
  split
  · exact .of_eq rfl
  · next layout shape =>
    have raw := world.allocateRaw_tally source layout
    generalize world.allocateRaw source layout = answer at raw
    obtain ⟨result, after⟩ := answer
    cases result with
    | error failure => exact .of_eq raw
    | ok start =>
      rw [← raw]
      exact after.cloneInto_accounts kind start values stop

theorem newSlice_accounts (owner : Nat) (kind : Kind) (number : Nat) (make : Nat → Value)
    (stop : Option Nat) :
    world.tally.Accounts 0 0 (world.newSlice owner kind number make stop).2.tally := by
  have array : (world.allocateArray owner kind number).2.tally = world.tally :=
    world.onArena_tally owner _
  unfold newSlice
  generalize world.allocateArray owner kind number = answer at array
  obtain ⟨result, after⟩ := answer
  cases result with
  | error failure => exact .of_eq array
  | ok start =>
    rw [← array]
    apply fillSlots_accounts
    · intro tracked made _
      simp [Kind.defaults, tracked]
    · intro made tally
      simp only [Tally.born]
      omega
    · exact fun _ _ => ⟨rfl, rfl, rfl⟩

theorem granted_snd (kind : Kind) (align length : Nat) (values : List Value)
    (answer : Except Failure Nat × World) :
    (granted kind align length values answer).2 = answer.2 := by
  obtain ⟨result, after⟩ := answer
  cases result <;> rfl

theorem serve_accounts (owner : Nat) (request : Request) :
    world.tally.Accounts (request.lost world owner) 0 (request.serve world owner).2.tally := by
  cases request with
  | bytes size align =>
    rw [Request.serve, granted_snd]
    exact .of_eq (world.onArena_tally owner _)
  | tryBytes size align =>
    rw [Request.serve, granted_snd]
    exact .of_eq (world.onArena_tally owner _)
  | raw depth layout =>
    rw [Request.serve, granted_snd]
    exact .of_eq (world.allocateRaw_tally _ layout)
  | array kind number =>
    rw [Request.serve, granted_snd]
    exact .of_eq (world.onArena_tally owner _)
  | object kind value =>
    rw [Request.serve, granted_snd]
    exact world.newObject_accounts owner kind value
  | objectCopy kind value refused =>
    rw [Request.serve, granted_snd]
    exact world.newObjectCopy_accounts owner kind value refused
  | objectWith kind inner stops value =>
    simp only [Request.serve, granted_snd]
    exact world.newObjectWith_accounts owner kind inner stops value
  | objects kind values stop =>
    rw [Request.serve, granted_snd]
    exact world.newObjectsCopy_accounts owner kind values stop
  | slice kind number make stop =>
    rw [Request.serve, granted_snd]
    exact world.newSlice_accounts owner kind number make stop
  | construct depth kind value dropPanics =>
    rw [Request.serve, granted_snd]
    exact world.construct_accounts _ kind value dropPanics
  | constructSlice depth kind values stop =>
    rw [Request.serve, granted_snd]
    exact world.constructSlice_accounts _ kind values stop

theorem destroy_accounts (kind : Kind) (number : Nat) :
    world.tally.Accounts 0 (if kind.tracked then number else 0)
      (world.destroy kind number).tally := by
  rw [destroy, count_tally]
  by_cases tracked : kind.tracked = true
  · simp only [if_pos tracked]
    constructor <;> simp [Tally.born]
  · simp only [if_neg tracked]
    exact .of_eq rfl

theorem demolish_accounts (source : Source) (kind : Kind) (number address : Nat) (layout : Layout)
    (dropPanics : Bool) :
    world.tally.Accounts 0 (if kind.tracked then number else 0)
      (world.demolish source kind number address layout dropPanics).2.tally := by
  unfold demolish
  by_cases panics : dropPanics = true ∧ 0 < number
  · rw [if_pos panics]
    exact world.destroy_accounts kind number
  · rw [if_neg panics, deallocateRaw_tally]
    exact world.destroy_accounts kind number

theorem dispose_accounts (source : Source) (address : Nat) (disposal : Disposal) :
    world.tally.Accounts 0 disposal.given (disposal.dispose world source address).2.tally := by
  cases disposal with
  | bytes layout => exact .of_eq (world.deallocateRaw_tally source address layout)
  | object kind dropPanics =>
      exact world.demolish_accounts source kind 1 address kind.layout dropPanics
  | slice kind number dropPanics =>
    simp only [Disposal.dispose, deallocateSlice, Disposal.given]
    cases shape : kind.layout.array? number with
    | none =>
      simp only [Option.isSome_none, Bool.false_eq_true, and_false, if_false]
      exact .of_eq rfl
    | some layout =>
      simp only [Option.isSome_some, and_true]
      exact world.demolish_accounts source kind number address layout dropPanics

theorem drop_tally (owner : Nat) : (world.drop owner).2.tally = world.tally := by
  rw [drop_eq]
  exact world.onArena_tally owner Arena.release

end World

/-- One call with any arguments: an action; a rewind guard that is made, that is dropped, or that is
dropped because its scope panics; or a generic call to an arena, to the system or to a reference. -/
inductive Dispatch
  | act (action : Action)
  | guard (owner : Nat)
  | unguard (owner : Nat)
  | unwind (owner : Nat)
  | raw (source : Source) (layout : Layout)
  | construct (source : Source) (kind : Kind) (value : Value) (dropPanics : Bool)
  | constructSlice (source : Source) (kind : Kind) (values : List Value) (stop : Option Nat)
  | dispose (source : Source) (address : Nat) (disposal : Disposal)

namespace Dispatch

def lost (world : World) : Dispatch → Nat
  | act (.place owner request) => request.lost world owner
  | construct source kind value dropPanics =>
      kind.lost (world.construct source kind value dropPanics)
  | _ => 0

def given : Dispatch → Nat
  | act (.dispose _ _ _ disposal) => disposal.given
  | dispose _ _ disposal => disposal.given
  | _ => 0

end Dispatch

namespace Session

def dispatch (session : Session) : Dispatch → Session
  | .act action => session.withWorld (session.world.act action)
  | .guard owner => (session.openGuard owner).2
  | .unguard owner => (session.closeGuard owner).2
  | .unwind owner => (session.unwindGuard owner).2
  | .raw source layout => session.withWorld (session.world.allocateRaw source layout).2
  | .construct source kind value dropPanics =>
      session.withWorld (session.world.construct source kind value dropPanics).2
  | .constructSlice source kind values stop =>
      session.withWorld (session.world.constructSlice source kind values stop).2
  | .dispose source address disposal =>
      session.withWorld (disposal.dispose session.world source address).2

def dispatchAll (session : Session) (calls : List Dispatch) : Session :=
  calls.foldl dispatch session

variable (session : Session)

theorem openGuard_tally (owner : Nat) :
    (session.openGuard owner).2.world.tally = session.world.tally := by
  simp only [openGuard, unlessHeld, withArena]
  split
  · rfl
  · split
    · rfl
    · split <;> rfl

theorem closeGuard_tally (owner : Nat) :
    (session.closeGuard owner).2.world.tally = session.world.tally := by
  simp only [closeGuard, unlessHeld]
  split
  · rfl
  · split
    · rfl
    · rw [rewindTo_eq]
      exact World.onArena_tally _ owner _

/-- The step lemma: what one call does to the tally. -/
theorem dispatch_accounts (next : Dispatch) :
    session.world.tally.Accounts (next.lost session.world) next.given
      (session.dispatch next).world.tally := by
  cases next with
  | act action =>
    cases action with
    | place owner request => exact session.world.serve_accounts owner request
    | dispose owner depth address disposal =>
      exact session.world.dispose_accounts (.nested owner depth) address disposal
    | create | write | log => exact .of_eq rfl
    | grow owner | rewind owner | disable owner | enable owner | release owner =>
      exact .of_eq (session.world.onArena_tally owner _)
    | drop owner => exact .of_eq (session.world.drop_tally owner)
  | guard owner => exact .of_eq (session.openGuard_tally owner)
  | unguard owner => exact .of_eq (session.closeGuard_tally owner)
  | unwind owner =>
    have same : session.dispatch (.unwind owner) = (session.closeGuard owner).2 :=
      session.unwindGuard_snd owner
    rw [same]
    exact .of_eq (session.closeGuard_tally owner)
  | raw source layout => exact .of_eq (session.world.allocateRaw_tally source layout)
  | construct source kind value dropPanics =>
    exact session.world.construct_accounts source kind value dropPanics
  | constructSlice source kind values stop =>
    exact session.world.constructSlice_accounts source kind values stop
  | dispose source address disposal =>
    exact session.world.dispose_accounts source address disposal

theorem dispatchAll_accounts (calls : List Dispatch) :
    ∃ lost given, session.world.tally.Accounts lost given
      (session.dispatchAll calls).world.tally := by
  induction calls generalizing session with
  | nil => exact ⟨0, 0, .of_eq rfl⟩
  | cons next rest ih =>
    obtain ⟨lost, given, later⟩ := ih (session.dispatch next)
    exact ⟨_, _, (session.dispatch_accounts next).trans later⟩

end Session

/-- After any calls, the values that came into being are those that were stored and those that were
lost by calls that stopped; and a further call destroys exactly the values that it loses itself and
the stored ones whose storage it is told to give up. -/
theorem destructions_accounted (profile : Profile) (site : Site) (logs : Logs)
    (calls : List Dispatch) :
    let session := Session.dispatchAll ⟨.new profile site logs, [], []⟩ calls
    let tally := session.world.tally
    tally.moves + tally.clones + tally.defaults = tally.stores + tally.abandoned ∧
      ∀ next : Dispatch,
        (session.dispatch next).world.tally.abandoned =
            tally.abandoned + next.lost session.world ∧
          (session.dispatch next).world.tally.destroyed = tally.destroyed + next.given := by
  intro session tally
  obtain ⟨lost, given, run⟩ := Session.dispatchAll_accounts ⟨.new profile site logs, [], []⟩ calls
  constructor
  · have balance : tally.moves + tally.clones + tally.defaults + (0 + 0) =
        0 + 0 + 0 + (tally.stores + tally.abandoned) := run.born
    omega
  · intro next
    have step := session.dispatch_accounts next
    exact ⟨step.lost, step.given⟩

example :
    (Session.dispatchAll ⟨.new .debug pagedSite (.empty none), [], []⟩
      [.act (.create .default 0), .act (.disable 0),
        .construct (.through (.arena 0)) .token [1] false, .construct .system .token [2] false,
        .dispose .system 2 (.object .token false), .act (.drop 0)]).world.tally =
      ⟨0, 0, 2, 1, 1, 1⟩ := by
  decide +kernel

end ChunkArena
