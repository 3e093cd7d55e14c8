import ChunkArena.Proofs.RecordingClients
import ChunkArena.Proofs.RequestEffects

/-!
Requests in two worlds at once. The same request is made to an arena of the one world and to an
arena of the other. A relation between the two worlds says what each of its steps keeps: the
allocations, the elements stored in what was handed out, and the counts of values. It knows which
arrays of the two worlds were handed out together, and it may count on what the traffic is known to
be in the end. Every request then keeps it, whatever kind of request it is and wherever it stops,
and answers alike.
-/

namespace ChunkArena

/-- An array in the one world, and the array of that many bytes in the other that stands for it. -/
structure Pairing where
  here : Nat
  there : Nat
  size : Nat

namespace Request

def size : Request → Nat
  | bytes size _ | tryBytes size _ => size
  | raw _ layout => layout.size
  | array kind number | slice kind number .. => number * kind.size
  | object kind _ | objectCopy kind .. | objectWith kind .. | construct _ kind .. => kind.size
  | objects kind values _ | constructSlice _ kind values _ => values.length * kind.size

def inner : Request → List (Nat × Nat)
  | objectWith _ inner _ _ => inner
  | _ => []

def aligns : Request → List Nat
  | bytes _ align | tryBytes _ align => [align]
  | raw _ layout => [layout.align]
  | array kind _ | slice kind .. | object kind _ | objectCopy kind .. | construct _ kind ..
  | objects kind .. | constructSlice _ kind .. => [kind.align]
  | objectWith kind inner _ _ => kind.align :: inner.map Prod.snd

end Request

def Tally.Steady (change : Tally → Tally) : Prop :=
  ∀ first last : Tally, last.defaults = first.defaults →
    (change last).defaults = (change first).defaults

/-- Two answers that say the same, and the arrays that they hand out together. -/
inductive SameGrant (size : Nat) : Except Failure Nat → Except Failure Nat → List Pairing → Prop
  | granted (here there : Nat) : SameGrant size (.ok here) (.ok there) [⟨here, there, size⟩]
  | failed (failure : Failure) : SameGrant size (.error failure) (.error failure) []

inductive SameGrants : List (Nat × Nat) → List Nat → List Nat → List Pairing → Prop
  | stop (requests : List (Nat × Nat)) : SameGrants requests [] [] []
  | next {rest : List (Nat × Nat)} {starts starts' : List Nat} {pairings : List Pairing}
      (size align here there : Nat) :
      SameGrants rest starts starts' pairings →
        SameGrants ((size, align) :: rest) (here :: starts) (there :: starts')
          (⟨here, there, size⟩ :: pairings)

inductive Answered (request : Request) :
    Except Failure Nat × List Nat → Except Failure Nat × List Nat → List Pairing → Prop
  | intro {result result' : Except Failure Nat} {starts starts' : List Nat}
      {outer each : List Pairing} :
      SameGrant request.size result result' outer → SameGrants request.inner starts starts' each →
        Answered request (result, starts) (result', starts') (outer ++ each)

section Same

variable {size : Nat} {requests : List (Nat × Nat)} {request : Request} {pairings : List Pairing}
  (same : ∀ pairing ∈ pairings, pairing.there = pairing.here)

include same

theorem SameGrant.eq {result result' : Except Failure Nat}
    (handed : SameGrant size result result' pairings) : result' = result := by
  cases handed with
  | granted here there => exact congrArg Except.ok (same _ List.mem_cons_self)
  | failed failure => rfl

theorem SameGrants.eq {starts starts' : List Nat}
    (handed : SameGrants requests starts starts' pairings) : starts' = starts := by
  induction handed with
  | stop requests => rfl
  | next size align here there _ ih =>
    rw [ih fun pairing member => same pairing (List.mem_cons_of_mem _ member)]
    exact congrArg (· :: _) (same _ List.mem_cons_self)

theorem Answered.eq {answer answer' : Except Failure Nat × List Nat}
    (answered : Answered request answer answer' pairings) : answer' = answer := by
  cases answered with
  | intro handed each =>
    rw [handed.eq fun pairing member => same pairing (List.mem_append_left _ member),
      each.eq fun pairing member => same pairing (List.mem_append_right _ member)]

end Same

structure PairRelation (owner other : Nat) where
  fine : List Traffic → List Traffic → Prop
  suits : Nat → Prop
  holds : List Pairing → World → World → Prop
  earlier {first last first' last' : List Traffic} :
    fine last last' → first <:+ last → first' <:+ last' → fine first first'
  forgets {pairings rest : List Pairing} {world twin : World} :
    holds pairings world twin → rest ⊆ pairings → holds rest world twin
  asked {pairings : List Pairing} {world twin : World} {size align : Nat}
    {call : Arena → Env → Reply Nat} :
    holds pairings world twin → Arena.Asks size align call → suits align →
      fine (world.onArena owner call).2.traffic (twin.onArena other call).2.traffic →
        ∃ more, SameGrant size (world.onArena owner call).1 (twin.onArena other call).1 more ∧
          holds (more ++ pairings) (world.onArena owner call).2 (twin.onArena other call).2
  stored {pairings : List Pairing} {world twin : World} {pairing : Pairing} {bytes : List UInt8} :
    holds pairings world twin → pairing ∈ pairings → bytes.length ≤ pairing.size →
      holds pairings { world with memory := world.memory.store pairing.here bytes }
        { twin with memory := twin.memory.store pairing.there bytes }
  counted {pairings : List Pairing} {world twin : World} {change : Tally → Tally} :
    holds pairings world twin → Tally.Steady change → ∀ kind,
      holds pairings (world.count kind change) (twin.count kind change)

namespace World

def onward {β : Type} (failed : Failure → β) (next : Nat → World → β × World) :
    Except Failure Nat × World → β × World
  | (.error failure, world) => (failed failure, world)
  | (.ok start, world) => next start world

def together {α β : Type} (answer : α × β × World) : (α × β) × World :=
  ((answer.1, answer.2.1), answer.2.2)

def constructed (kind : Kind) (stops : Bool) (value : Value) (start : Nat) :
    (Except Failure Unit × List Nat) × World → (Except Failure Nat × List Nat) × World
  | ((.error failure, starts), world) => ((.error failure, starts), world)
  | ((.ok (), starts), world) =>
      if stops then ((.error (.panic .constructorFailed), starts), world)
      else ((.ok start, starts), (world.moveIn kind).store kind start [value])

variable (world : World) (owner : Nat) (kind : Kind)

theorem allocateEach_onward (size align : Nat) (rest : List (Nat × Nat)) :
    together (world.allocateEach owner ((size, align) :: rest)) =
      onward (fun failure => (.error failure, []))
        (fun start world =>
          (((world.allocateEach owner rest).1, start :: (world.allocateEach owner rest).2.1),
            (world.allocateEach owner rest).2.2))
        (world.allocate owner size align) := by
  rw [World.allocateEach]
  generalize world.allocate owner size align = answer
  obtain ⟨result, after⟩ := answer
  cases result <;> rfl

theorem newObjectWith_onward (inner : List (Nat × Nat)) (stops : Bool) (value : Value) :
    together (world.newObjectWith owner kind inner stops value) =
      onward (fun failure => (.error failure, []))
        (fun start world =>
          constructed kind stops value start (together (world.allocateEach owner inner)))
        (world.allocate owner kind.size kind.align) := by
  rw [World.newObjectWith]
  generalize world.allocate owner kind.size kind.align = answer
  obtain ⟨result, reserved⟩ := answer
  cases result with
  | error failure => rfl
  | ok start =>
    simp only [onward]
    generalize reserved.allocateEach owner inner = made
    obtain ⟨done, starts, after⟩ := made
    cases done with
    | error failure => rfl
    | ok finished => cases stops <;> rfl

theorem constructed_served (stops : Bool) (value : Value) (start : Nat)
    (made : Except Failure Unit × List Nat) :
    Served owner world (constructed kind stops value start (made, world)).2 := by
  obtain ⟨done, starts⟩ := made
  cases done with
  | error failure => exact .done world
  | ok finished =>
    cases stops with
    | true => exact .done world
    | false => exact (world.count_served kind _).trans (store_served _ kind start [value])

end World

namespace PairRelation

variable {owner other : Nat} (relation : PairRelation owner other)

def Related (pairings : List Pairing) (world twin : World) : Prop :=
  relation.fine world.traffic twin.traffic → relation.holds pairings world twin

def Agrees {α : Type} (speaks : α → α → List Pairing → Prop) (pairings : List Pairing)
    (answer answer' : α × World) : Prop :=
  relation.fine answer.2.traffic answer'.2.traffic →
    ∃ more, speaks answer.1 answer'.1 more ∧
      relation.holds (more ++ pairings) answer.2 answer'.2

variable {relation} {pairings : List Pairing} {world twin : World}

theorem Related.agrees {α : Type} {speaks : α → α → List Pairing → Prop} {more : List Pairing}
    (related : relation.Related (more ++ pairings) world twin) {result result' : α}
    (same : speaks result result' more) :
    relation.Agrees speaks pairings (result, world) (result', twin) :=
  fun fine => ⟨more, same, related fine⟩

theorem Related.forget {rest : List Pairing} (related : relation.Related pairings world twin)
    (fewer : rest ⊆ pairings) : relation.Related rest world twin :=
  fun fine => relation.forgets (related fine) fewer

theorem Agrees.andThen {α β : Type} {speaks : α → α → List Pairing → Prop}
    {tells : β → β → List Pairing → Prop} {base : List Pairing} {answer answer' : α × World}
    (agrees : relation.Agrees speaks pairings answer answer') (next next' : α × World → β × World)
    (suffix : ∀ result world, world.traffic <:+ (next (result, world)).2.traffic)
    (suffix' : ∀ result world, world.traffic <:+ (next' (result, world)).2.traffic)
    (follows : ∀ result result' more world twin, speaks result result' more →
      relation.Related (more ++ pairings) world twin →
        relation.Agrees tells base (next (result, world)) (next' (result', twin))) :
    relation.Agrees tells base (next answer) (next' answer') := by
  obtain ⟨result, world⟩ := answer
  obtain ⟨result', twin⟩ := answer'
  intro fine
  obtain ⟨more, same, holds⟩ :=
    agrees (relation.earlier fine (suffix result world) (suffix' result' twin))
  exact follows result result' more world twin same (fun _ => holds) fine

theorem Agrees.onward {β : Type} {size : Nat} {tells : β → β → List Pairing → Prop}
    {answer answer' : Except Failure Nat × World}
    (agrees : relation.Agrees (SameGrant size) pairings answer answer') {failed : Failure → β}
    {next next' : Nat → World → β × World}
    (suffix : ∀ start world, world.traffic <:+ (next start world).2.traffic)
    (suffix' : ∀ start world, world.traffic <:+ (next' start world).2.traffic)
    (stops : ∀ failure, tells (failed failure) (failed failure) [])
    (follows : ∀ here there world twin,
      relation.Related (⟨here, there, size⟩ :: pairings) world twin →
        relation.Agrees tells pairings (next here world) (next' there twin)) :
    relation.Agrees tells pairings (World.onward failed next answer)
      (World.onward failed next' answer') := by
  have quiet {next : Nat → World → β × World}
      (suffix : ∀ start world, world.traffic <:+ (next start world).2.traffic)
      (result : Except Failure Nat) (world : World) :
      world.traffic <:+ (World.onward failed next (result, world)).2.traffic := by
    cases result with
    | error failure => exact List.suffix_refl _
    | ok start => exact suffix start world
  apply agrees.andThen _ _ (quiet suffix) (quiet suffix')
  intro result result' more world twin handed related
  cases handed with
  | failed failure => exact related.agrees (stops failure)
  | granted here there => exact follows here there world twin related

section Steps

variable (related : relation.Related pairings world twin) (kind : Kind)

include related

omit kind in
theorem Related.ask {size align : Nat} {call : Arena → Env → Reply Nat}
    (asks : Arena.Asks size align call) (suits : relation.suits align) :
    relation.Agrees (SameGrant size) pairings (world.onArena owner call)
      (twin.onArena other call) := by
  intro fine
  have before := relation.earlier fine (world.onArena_suffix owner call)
    (twin.onArena_suffix other call)
  exact relation.asked (related before) asks suits fine

omit kind in
theorem Related.allocate (size : Nat) {align : Nat} (suits : relation.suits align) :
    relation.Agrees (SameGrant size) pairings (world.allocate owner size align)
      (twin.allocate other size align) :=
  related.ask (.allocate size align) suits

omit kind in
theorem Related.allocateRaw (depth : Nat) {layout : Layout} (suits : relation.suits layout.align) :
    relation.Agrees (SameGrant layout.size) pairings
      (world.allocateRaw (.nested owner depth) layout)
      (twin.allocateRaw (.nested other depth) layout) := by
  rw [World.allocateRaw_nested, World.allocateRaw_nested]
  exact related.ask (.tryAllocate layout.size layout.align) suits

theorem Related.allocateArray (suits : relation.suits kind.align) (count : Nat) :
    relation.Agrees (SameGrant (count * kind.size)) pairings (world.allocateArray owner kind count)
      (twin.allocateArray other kind count) :=
  related.ask (.allocateArray kind count) suits

theorem Related.count {change : Tally → Tally} (steady : Tally.Steady change) :
    relation.Related pairings (world.count kind change) (twin.count kind change) := by
  intro fine
  have same (world : World) : (world.count kind change).traffic = world.traffic := by
    rw [World.count_eq]
  rw [same, same] at fine
  exact relation.counted (related fine) steady kind

theorem Related.store {pairing : Pairing} (paired : pairing ∈ pairings) {values : List Value}
    (few : values.length * kind.size ≤ pairing.size) :
    relation.Related pairings (world.store kind pairing.here values)
      (twin.store kind pairing.there values) := by
  have stored : relation.Related pairings
      { world with memory := world.memory.store pairing.here (values.flatMap kind.encode) }
      { twin with memory := twin.memory.store pairing.there (values.flatMap kind.encode) } := by
    intro fine
    apply relation.stored (related fine) paired
    rw [kind.length_encoded_array]
    exact few
  exact stored.count kind fun _ _ same => same

omit related in
theorem Related.fillSlots {here there number : Nat} {first : Nat → List Value}
    (related : relation.Related (⟨here, there, number * kind.size⟩ :: pairings) world twin)
    (few : ∀ made ≤ number, (first made).length ≤ number) (stop : Option Nat)
    {change : Nat → Tally → Tally} (steady : ∀ made, Tally.Steady (change made)) (cause : Panic) :
    relation.Agrees (SameGrant (number * kind.size)) pairings
      (world.fillSlots kind here number first stop change cause)
      (twin.fillSlots kind there number first stop change cause) := by
  have less := few (World.madeUntil stop number) (Nat.min_le_left _ _)
  have stored := related.store kind List.mem_cons_self (Nat.mul_le_mul_right kind.size less)
  have filled := stored.count kind (steady (World.madeUntil stop number))
  unfold World.fillSlots
  by_cases all : World.madeUntil stop number = number
  · simp only [if_pos all]
    exact filled.agrees (.granted here there)
  · simp only [if_neg all]
    exact (filled.forget (List.subset_cons_self _ _)).agrees (.failed _)

end Steps

theorem Agrees.settle {kind : Kind} {answer answer' : Except Failure Nat × World}
    (agrees : relation.Agrees (SameGrant kind.size) pairings answer answer') (value : Value) :
    relation.Agrees (SameGrant kind.size) pairings (World.settle kind value answer)
      (World.settle kind value answer') := by
  have quiet (result : Except Failure Nat) (world : World) :
      world.traffic <:+ (World.settle kind value (result, world)).2.traffic := by
    have served : World.Served owner world (World.settle kind value (result, world)).2 :=
      World.settle_served world (.done world) kind value
    exact served.traffic_suffix
  apply agrees.andThen _ _ quiet quiet
  intro result result' more world twin handed related
  cases handed with
  | failed failure =>
    have abandoned : relation.Related pairings (world.abandon kind) (twin.abandon kind) :=
      related.count kind fun _ _ same => same
    exact Related.agrees abandoned (.failed failure)
  | granted here there =>
    have whole : [value].length * kind.size ≤ kind.size := Nat.le_of_eq (Nat.one_mul _)
    exact (related.store kind List.mem_cons_self whole).agrees (.granted here there)

theorem Agrees.dropped {size : Nat} {answer answer' : Except Failure Nat × World}
    (agrees : relation.Agrees (SameGrant size) pairings answer answer') (dropPanics : Bool) :
    relation.Agrees (SameGrant size) pairings (World.dropped dropPanics answer)
      (World.dropped dropPanics answer') := by
  have quiet (result : Except Failure Nat) (world : World) :
      world.traffic <:+ (World.dropped dropPanics (result, world)).2.traffic := by
    rw [World.dropped_snd]
  apply agrees.andThen _ _ quiet quiet
  intro result result' more world twin handed related
  cases handed with
  | failed failure => cases failure <;> exact related.agrees (.failed _)
  | granted here there => exact related.agrees (.granted here there)

theorem Agrees.fillSlots {kind : Kind} {number : Nat} {first : Nat → List Value}
    {answer answer' : Except Failure Nat × World}
    (agrees : relation.Agrees (SameGrant (number * kind.size)) pairings answer answer')
    (few : ∀ made ≤ number, (first made).length ≤ number) (stop : Option Nat)
    {change : Nat → Tally → Tally} (steady : ∀ made, Tally.Steady (change made)) (cause : Panic) :
    relation.Agrees (SameGrant (number * kind.size)) pairings
      (World.onward .error
        (fun start world => world.fillSlots kind start number first stop change cause) answer)
      (World.onward .error
        (fun start world => world.fillSlots kind start number first stop change cause)
        answer') := by
  have quiet (start : Nat) (world : World) :
      world.traffic <:+ (world.fillSlots kind start number first stop change cause).2.traffic := by
    have served : World.Served owner world _ :=
      world.fillSlots_served kind start number first stop change cause
    exact served.traffic_suffix
  exact agrees.onward quiet quiet .failed fun _ _ _ _ related =>
    related.fillSlots kind few stop steady cause

theorem Agrees.cloneInto {kind : Kind} {values : List Value}
    {answer answer' : Except Failure Nat × World}
    (agrees : relation.Agrees (SameGrant (values.length * kind.size)) pairings answer answer')
    (stop : Option Nat) :
    relation.Agrees (SameGrant (values.length * kind.size)) pairings
      (World.onward .error (fun start world => world.cloneInto kind start values stop) answer)
      (World.onward .error (fun start world => world.cloneInto kind start values stop)
        answer') := by
  have cloned (made : Nat) : Tally.Steady fun tally =>
      { tally with clones := tally.clones + made } := fun _ _ same => same
  exact agrees.fillSlots (fun made _ => List.length_take_le' made values) stop cloned .cloneRefused

section Requests

variable (related : relation.Related pairings world twin) {kind : Kind}
  (suits : relation.suits kind.align)

include related suits

theorem Related.newObject (value : Value) :
    relation.Agrees (SameGrant kind.size) pairings (world.newObject owner kind value)
      (twin.newObject other kind value) := by
  have moved : relation.Related pairings (world.moveIn kind) (twin.moveIn kind) :=
    related.count kind fun _ _ same => same
  exact (moved.allocate kind.size suits).settle value

theorem Related.newObjectCopy (value : Value) (refused : Bool) :
    relation.Agrees (SameGrant kind.size) pairings (world.newObjectCopy owner kind value refused)
      (twin.newObjectCopy other kind value refused) := by
  cases refused with
  | true => exact related.agrees (.failed _)
  | false =>
    have cloned : Tally.Steady fun tally => { tally with clones := tally.clones + 1 } :=
      fun _ _ same => same
    exact ((related.count kind cloned).allocate kind.size suits).settle value

theorem Related.construct (depth : Nat) (value : Value) (dropPanics : Bool) :
    relation.Agrees (SameGrant kind.size) pairings
      (world.construct (.nested owner depth) kind value dropPanics)
      (twin.construct (.nested other depth) kind value dropPanics) := by
  have moved : relation.Related pairings (world.moveIn kind) (twin.moveIn kind) :=
    related.count kind fun _ _ same => same
  have aligned : relation.suits kind.layout.align := suits
  exact ((moved.allocateRaw depth aligned).settle value).dropped dropPanics

theorem Related.newObjectsCopy (values : List Value) (stop : Option Nat) :
    relation.Agrees (SameGrant (values.length * kind.size)) pairings
      (world.newObjectsCopy owner kind values stop)
      (twin.newObjectsCopy other kind values stop) :=
  (related.allocateArray kind suits values.length).cloneInto stop

theorem Related.constructSlice (depth : Nat) (values : List Value) (stop : Option Nat) :
    relation.Agrees (SameGrant (values.length * kind.size)) pairings
      (world.constructSlice (.nested owner depth) kind values stop)
      (twin.constructSlice (.nested other depth) kind values stop) := by
  unfold World.constructSlice
  cases shape : kind.layout.array? values.length with
  | none => exact related.agrees (.failed _)
  | some layout =>
    obtain ⟨size, align⟩ := Kind.layout_of_array? shape
    have suits' : relation.suits layout.align := by
      rw [align]
      exact suits
    have raw := related.allocateRaw depth suits'
    rw [size] at raw
    exact raw.cloneInto stop

theorem Related.newSlice (number : Nat) (make : Nat → Value) (stop : Option Nat) :
    relation.Agrees (SameGrant (number * kind.size)) pairings
      (world.newSlice owner kind number make stop)
      (twin.newSlice other kind number make stop) := by
  have few (made : Nat) (less : made ≤ number) : (kind.defaults make made).length ≤ number :=
    (kind.length_defaults make made).trans less
  have counted (made : Nat) : Tally.Steady fun tally =>
      { tally with defaults := tally.defaults + made } := fun _ _ level => congrArg (· + made) level
  exact (related.allocateArray kind suits number).fillSlots few stop counted .defaultRefused

end Requests

inductive Each (requests : List (Nat × Nat)) :
    Except Failure Unit × List Nat → Except Failure Unit × List Nat → List Pairing → Prop
  | intro {result : Except Failure Unit} {starts starts' : List Nat} {each : List Pairing} :
      SameGrants requests starts starts' each →
        Each requests (result, starts) (result, starts') each

theorem Related.allocateEach (related : relation.Related pairings world twin)
    {requests : List (Nat × Nat)} (suits : ∀ request ∈ requests, relation.suits request.2) :
    relation.Agrees (Each requests) pairings
      (World.together (world.allocateEach owner requests))
      (World.together (twin.allocateEach other requests)) := by
  induction requests generalizing world twin pairings with
  | nil =>
    have same : Each [] (.ok (), []) (.ok (), []) [] := .intro (.stop [])
    exact related.agrees same
  | cons request rest ih =>
    obtain ⟨size, align⟩ := request
    rw [World.allocateEach_onward, World.allocateEach_onward]
    apply (related.allocate size (suits _ List.mem_cons_self)).onward
    · exact fun start world => (world.allocateEach_served owner rest).traffic_suffix
    · exact fun start world => (world.allocateEach_served other rest).traffic_suffix
    · exact fun failure => .intro (.stop _)
    · intro here there world twin related fine
      obtain ⟨each, same, holds⟩ :=
        ih related (fun request member => suits request (List.mem_cons_of_mem _ member)) fine
      unfold World.together at same
      generalize (world.allocateEach owner rest) = answer at same holds ⊢
      generalize (twin.allocateEach other rest) = answer' at same holds ⊢
      obtain ⟨result, starts, after⟩ := answer
      obtain ⟨result', starts', after'⟩ := answer'
      cases same with
      | intro handed =>
        refine ⟨⟨here, there, size⟩ :: each, .intro (.next size align here there handed), ?_⟩
        apply relation.forgets holds
        intro pairing member
        simp only [List.cons_append, List.mem_cons, List.mem_append] at member ⊢
        tauto

theorem Agrees.constructed {kind : Kind} {inner : List (Nat × Nat)} {here there : Nat}
    {answer answer' : (Except Failure Unit × List Nat) × World}
    (agrees : relation.Agrees (Each inner) (⟨here, there, kind.size⟩ :: pairings) answer answer')
    (stops : Bool) (value : Value) :
    relation.Agrees (Answered (.objectWith kind inner stops value)) pairings
      (World.constructed kind stops value here answer)
      (World.constructed kind stops value there answer') := by
  apply agrees.andThen
  · exact fun made world =>
      (world.constructed_served owner kind stops value here made).traffic_suffix
  · exact fun made world =>
      (world.constructed_served other kind stops value there made).traffic_suffix
  rintro ⟨result, starts⟩ ⟨result', starts'⟩ each world twin ⟨handed⟩ related
  have without : [] ++ each ++ pairings ⊆ each ++ ⟨here, there, kind.size⟩ :: pairings := by
    intro pairing member
    simp only [List.nil_append, List.mem_cons, List.mem_append] at member ⊢
    tauto
  have failed (failure : Failure) : Answered (.objectWith kind inner stops value)
      (.error failure, starts) (.error failure, starts') ([] ++ each) :=
    .intro (.failed failure) handed
  cases result with
  | error failure => exact (related.forget without).agrees (failed failure)
  | ok done =>
    cases stops with
    | true => exact (related.forget without).agrees (failed (.panic .constructorFailed))
    | false =>
      -- The object's own bytes come in front of the constructor's allocations.
      have sorted : [⟨here, there, kind.size⟩] ++ each ++ pairings ⊆
          each ++ ⟨here, there, kind.size⟩ :: pairings := by
        intro pairing member
        simp only [List.cons_append, List.nil_append, List.mem_cons, List.mem_append] at member ⊢
        tauto
      have moved : relation.Related (each ++ ⟨here, there, kind.size⟩ :: pairings)
          (world.moveIn kind) (twin.moveIn kind) :=
        related.count kind fun _ _ same => same
      have listed : (⟨here, there, kind.size⟩ : Pairing) ∈
          each ++ ⟨here, there, kind.size⟩ :: pairings := by simp
      have whole : [value].length * kind.size ≤ kind.size := Nat.le_of_eq (Nat.one_mul _)
      have filled := Related.store moved kind listed whole
      exact (filled.forget sorted).agrees (.intro (.granted here there) handed)

theorem Related.newObjectWith (related : relation.Related pairings world twin) {kind : Kind}
    {inner : List (Nat × Nat)} (suits : relation.suits kind.align)
    (suits' : ∀ request ∈ inner, relation.suits request.2) (stops : Bool) (value : Value) :
    relation.Agrees (Answered (.objectWith kind inner stops value)) pairings
      (World.together (world.newObjectWith owner kind inner stops value))
      (World.together (twin.newObjectWith other kind inner stops value)) := by
  rw [World.newObjectWith_onward, World.newObjectWith_onward]
  apply (related.allocate kind.size suits).onward
  · intro start world
    exact (world.allocateEach_served owner inner).traffic_suffix.trans
      (World.constructed_served _ owner kind stops value start _).traffic_suffix
  · intro start world
    exact (world.allocateEach_served other inner).traffic_suffix.trans
      (World.constructed_served _ other kind stops value start _).traffic_suffix
  · exact fun failure => .intro (.failed failure) (.stop inner)
  · intro here there world twin related
    exact (related.allocateEach suits').constructed stops value

theorem Agrees.alone {request : Request} {answer answer' : Except Failure Nat × World}
    (agrees : relation.Agrees (SameGrant request.size) pairings answer answer') :
    relation.Agrees (Answered request) pairings (alone answer) (alone answer') := by
  intro fine
  obtain ⟨more, handed, holds⟩ := agrees fine
  refine ⟨more ++ [], .intro handed (.stop _), ?_⟩
  rw [List.append_nil]
  exact holds

/-- Every request answers alike. -/
theorem Related.request (related : relation.Related pairings world twin) (request : Request)
    (suits : ∀ align ∈ request.aligns, relation.suits align) :
    relation.Agrees (Answered request) pairings (request.ask world owner)
      (request.ask twin other) := by
  have first {align : Nat} {rest : List Nat} (same : request.aligns = align :: rest) :
      relation.suits align :=
    suits align (by rw [same]; exact List.mem_cons_self)
  cases request with
  | bytes size align => exact (related.allocate size (first rfl)).alone
  | tryBytes size align => exact (related.ask (.tryAllocate size align) (first rfl)).alone
  | raw depth layout => exact (related.allocateRaw depth (first rfl)).alone
  | array kind number => exact (related.allocateArray kind (first rfl) number).alone
  | object kind value => exact (related.newObject (first rfl) value).alone
  | objectCopy kind value refused => exact (related.newObjectCopy (first rfl) value refused).alone
  | objectWith kind inner stops value =>
    apply related.newObjectWith (first rfl)
    intro request member
    exact suits request.2 (List.mem_cons_of_mem _ (List.mem_map_of_mem member))
  | objects kind values stop => exact (related.newObjectsCopy (first rfl) values stop).alone
  | slice kind number make stop => exact (related.newSlice (first rfl) number make stop).alone
  | construct depth kind value dropPanics =>
    exact (related.construct (first rfl) depth value dropPanics).alone
  | constructSlice depth kind values stop =>
    exact (related.constructSlice (first rfl) depth values stop).alone

end PairRelation

end ChunkArena
