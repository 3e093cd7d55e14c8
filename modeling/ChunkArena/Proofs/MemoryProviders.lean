import ChunkArena.Proofs.ClientHoldings
import ChunkArena.Proofs.ValueDestruction
import ChunkArena.Proofs.RequestFailures

/-!
Who serves generic calls. An enabled arena, the system and references to either promise the same to
those who ask them for no more than they can afford: memory that is aligned and shares no byte with
anything that is held, that keeps what is stored in it, and that can be given up without an error.
What a provider promises is stated once, so that consumers need not know whom they ask.
-/

namespace ChunkArena

namespace Arena

variable {arena : Arena}

/-- Whether an arena can serve a request: from its newest chunk, or from a further one that can be
laid out and counted. -/
def affords (arena : Arena) (profile : Profile) (size align : Nat) : Bool :=
  match arena.bump profile size align with
  | .ok none =>
      (arena.appendable? size align).isSome &&
        (!profile.checks || arena.nextSerial + 1 < wordLimit)
  | _ => true

/-- An enabled arena serves every request that it can afford, unless it cannot report. -/
theorem tryAllocate_succeeds (consistent : arena.Consistent) {env : Env} {size align : Nat}
    (enabled : arena.isDisabled = false) (quiet : env.complaint .debug = none)
    (power : isPowerOfTwo align = true) (affordable : arena.affords env.profile size align = true)
    (placed : ∀ chunk, .obtain chunk ∈ (arena.tryAllocate env size align).effects →
      chunk.layout.align ∣ chunk.start) :
    ∃ start, (arena.tryAllocate env size align).result = .ok start := by
  have reserves : arena.tryAllocate env size align = arena.reserve env size align := by
    simp [tryAllocate, enabled, power]
  have appends (full : arena.bump env.profile size align = .ok none) :
      (arena.appendable? size align).isSome = true ∧
        (env.profile.checks = true → arena.nextSerial + 1 < wordLimit) := by
    simp only [affords, full, Bool.and_eq_true, Bool.or_eq_true, Bool.not_eq_true',
      decide_eq_true_eq] at affordable
    refine ⟨affordable.1, fun checks => affordable.2.resolve_left ?_⟩
    rw [checks]
    exact Bool.noConfusion
  rw [reserves] at placed ⊢
  rcases reserve_forms consistent (fun full => (appends full).2) power placed with
    done | ⟨full, shapeless, _⟩ | ⟨cause, loud, _⟩
  · exact done
  · have laid := (appends full).1
    rw [shapeless] at laid
    cases laid
  · rw [quiet] at loud
    cases loud

end Arena

namespace World

/-- Whether a request is small enough for the one who is asked. -/
def affords (world : World) (source : Source) (layout : Layout) : Bool :=
  match source.owner with
  | some owner =>
      (world.arena? owner).any fun arena =>
        arena.affords world.profile layout.size layout.align
  | none => layout.size = 0 || world.site.serves layout

theorem allocateRaw_eq (world : World) (source : Source) (layout : Layout) :
    world.allocateRaw source layout =
      match source.owner with
      | some owner =>
          world.onArena owner fun arena env => arena.tryAllocate env layout.size layout.align
      | none => world.systemAllocate layout := by
  induction source with
  | arena owner => rfl
  | system => rfl
  | through target ih => exact ih

theorem deallocateRaw_eq (world : World) (source : Source) (address : Nat) (layout : Layout) :
    world.deallocateRaw source address layout =
      match source.owner with
      | some owner =>
          world.onArena owner fun arena env => arena.deallocate env address layout
      | none => world.systemDeallocate address layout := by
  induction source with
  | arena owner => rfl
  | system => rfl
  | through target ih => exact ih

end World

def Tally.counting (tally : Tally) (kind : Kind) (change : Tally → Tally) : Tally :=
  if kind.tracked then change tally else tally

namespace World

variable (world : World)

theorem allocateRaw_suffix (source : Source) (layout : Layout) :
    world.traffic <:+ (world.allocateRaw source layout).2.traffic := by
  induction source with
  | arena owner => exact world.onArena_suffix owner _
  | system =>
    simp only [allocateRaw, systemAllocate]
    split
    · exact List.suffix_refl _
    · split
      · exact List.suffix_cons _ _
      · exact List.suffix_refl _
  | through target ih => exact ih

theorem deallocateRaw_suffix (source : Source) (address : Nat) (layout : Layout) :
    world.traffic <:+ (world.deallocateRaw source address layout).2.traffic := by
  induction source with
  | arena owner => exact world.onArena_suffix owner _
  | system =>
    simp only [deallocateRaw, systemDeallocate]
    split
    · exact List.suffix_refl _
    · exact List.suffix_cons _ _
  | through target ih => exact ih

theorem count_traffic (kind : Kind) (change : Tally → Tally) :
    (world.count kind change).traffic = world.traffic := by
  rw [count_eq]

theorem settle_traffic (kind : Kind) (value : Value) (answer : Except Failure Nat × World) :
    (settle kind value answer).2.traffic = answer.2.traffic := by
  obtain ⟨result, after⟩ := answer
  cases result with
  | error failure => exact after.count_traffic kind _
  | ok start => exact count_traffic _ kind _

theorem cloneInto_traffic (kind : Kind) (start : Nat) (values : List Value) (stop : Option Nat) :
    (world.cloneInto kind start values stop).2.traffic = world.traffic := by
  simp only [cloneInto, fillSlots]
  split <;> simp only [count_traffic, store]

theorem construct_traffic (source : Source) (kind : Kind) (value : Value) (dropPanics : Bool) :
    (world.construct source kind value dropPanics).2.traffic =
      ((world.moveIn kind).allocateRaw source kind.layout).2.traffic := by
  rw [construct, dropped_snd, settle_traffic]

theorem constructSlice_traffic (source : Source) {kind : Kind} {values : List Value}
    {layout : Layout} (shape : kind.layout.array? values.length = some layout) (stop : Option Nat) :
    (world.constructSlice source kind values stop).2.traffic =
      (world.allocateRaw source layout).2.traffic := by
  unfold constructSlice
  rw [shape]
  simp only
  generalize world.allocateRaw source layout = answer
  obtain ⟨result, after⟩ := answer
  cases result with
  | error failure => rfl
  | ok start => exact after.cloneInto_traffic kind start values stop

theorem demolish_suffix (source : Source) (kind : Kind) (number address : Nat) (layout : Layout)
    (dropPanics : Bool) :
    world.traffic <:+ (world.demolish source kind number address layout dropPanics).2.traffic := by
  have grows := (world.destroy kind number).deallocateRaw_suffix source address layout
  rw [destroy, count_traffic] at grows
  unfold demolish
  split
  · rw [destroy, count_traffic]
  · exact grows

theorem allocateRaw_traffic {source : Source} (unnamed : source.owner = none) {layout : Layout}
    (affordable : world.affords source layout = true) :
    (world.allocateRaw source layout).2.traffic =
      (if layout.size = 0 then []
        else [⟨none, 0, world.site.place world.traffic 0 layout, layout, .obtained⟩]) ++
        world.traffic := by
  simp only [affords, unnamed] at affordable
  simp only [allocateRaw_eq, unnamed]
  by_cases empty : layout.size = 0
  · simp [systemAllocate, empty]
  · have serves : world.site.serves layout = true := by simpa [empty] using affordable
    simp [systemAllocate, empty, serves]

theorem deallocateRaw_traffic {source : Source} (unnamed : source.owner = none) (address : Nat)
    (layout : Layout) :
    (world.deallocateRaw source address layout).2.traffic =
      (if layout.size = 0 then [] else [⟨none, 0, address, layout, .returned false⟩]) ++
        world.traffic := by
  simp only [deallocateRaw_eq, unnamed]
  by_cases empty : layout.size = 0 <;> simp [systemDeallocate, empty]

theorem demolish_traffic {source : Source} (unnamed : source.owner = none) (kind : Kind)
    (number address : Nat) (layout : Layout) (dropPanics : Bool) :
    (world.demolish source kind number address layout dropPanics).2.traffic =
      (if dropPanics = true ∧ 0 < number ∨ layout.size = 0 then []
        else [⟨none, 0, address, layout, .returned false⟩]) ++ world.traffic := by
  unfold demolish
  by_cases panics : dropPanics = true ∧ 0 < number
  · rw [if_pos panics, if_pos (Or.inl panics), destroy, count_traffic]
    rfl
  · rw [if_neg panics, deallocateRaw_traffic _ unnamed, destroy, count_traffic]
    simp only [panics, false_or]

theorem affords_count (source : Source) (layout : Layout) (kind : Kind)
    (change : Tally → Tally) :
    (world.count kind change).affords source layout = world.affords source layout := by
  rw [count_eq]
  rfl

end World

def Holding.layout (holding : Holding) : Layout :=
  ⟨holding.kind.size * holding.length, holding.align⟩

/-- What a source of memory promises to those who hold some of it. -/
structure Provider (source : Source) where
  owner : Nat
  holds : World → List Holding → Prop
  allocated {world : World} {holdings : List Holding} {layout : Layout} :
    holds world holdings → isPowerOfTwo layout.align = true →
      world.affords source layout = true → Provided (world.allocateRaw source layout).2.traffic →
      ∃ start, (world.allocateRaw source layout).1 = .ok start ∧
        ∀ kind length, length * kind.size = layout.size →
          holds (world.allocateRaw source layout).2
            ((Grant.mk kind layout.align start length []).holding owner 0 :: holdings)
  written {world : World} {holding : Holding} {holdings : List Holding} {start : Nat}
    {bytes : List UInt8} {contents : Nat → Option Value} :
    holds world (holding :: holdings) → holding.start ≤ start →
      start + bytes.length ≤ holding.finish holding.extent →
      { holding with contents := contents }.Intact (world.memory.store start bytes) →
      holds (world.write start bytes) ({ holding with contents := contents } :: holdings)
  counted {world : World} {holdings : List Holding} :
    holds world holdings → ∀ kind change, holds (world.count kind change) holdings
  freed {world : World} {holding : Holding} {holdings : List Holding} :
    holds world (holding :: holdings) →
      Provided (world.deallocateRaw source holding.start holding.layout).2.traffic →
      (world.deallocateRaw source holding.start holding.layout).1 = .ok () ∧
        holds (world.deallocateRaw source holding.start holding.layout).2 holdings
  reordered {world : World} {holdings other : List Holding} :
    holds world holdings → holdings.Perm other → holds world other
  fewer {world : World} {holdings rest : List Holding} :
    holds world holdings → rest.Sublist holdings → holds world rest
  intact {world : World} {holdings : List Holding} :
    holds world holdings → ∀ holding ∈ holdings, holding.Intact world.memory
  placed {world : World} {holdings : List Holding} :
    holds world holdings → ∀ holding ∈ holdings, 0 < holding.start ∧ holding.align ∣ holding.start

theorem Provider.stored {source : Source} (provider : Provider source) {world : World}
    {holdings : List Holding} {kind : Kind} {align start length : Nat} {values : List Value}
    (holds :
      provider.holds world
        ((Grant.mk kind align start length []).holding provider.owner 0 :: holdings))
    (few : values.length ≤ length) :
    provider.holds (world.store kind start values)
      ((Grant.mk kind align start length values).holding provider.owner 0 :: holdings) := by
  exact provider.counted (provider.written holds (Nat.le_refl start)
    (Grant.store_within ⟨kind, align, start, length, values⟩ few)
    (Grant.intact_store ⟨kind, align, start, length, values⟩ provider.owner 0 world.memory)) kind _

namespace Provider

variable {source : Source} (provider : Provider source) {world : World} {holding : Holding}
  {holdings : List Holding}

theorem construct (holds : provider.holds world holdings) (kind : Kind) (value : Value)
    (dropPanics : Bool) (affordable : world.affords source kind.layout = true)
    (provided : Provided (world.construct source kind value dropPanics).2.traffic) :
    ∃ start after, world.construct source kind value dropPanics = (.ok start, after) ∧
      provider.holds after
        ((Grant.mk kind kind.align start 1 [value]).holding provider.owner 0 :: holdings) ∧
      after.tally = world.tally.counting kind fun tally =>
        { tally with moves := tally.moves + 1, stores := tally.stores + 1 } := by
  have moved : provider.holds (world.moveIn kind) holdings := provider.counted holds kind _
  rw [World.construct_traffic] at provided
  obtain ⟨start, done, given⟩ := provider.allocated moved kind.shaped.1
    ((world.affords_count source kind.layout kind _).trans affordable) provided
  have tally := World.allocateRaw_tally (world.moveIn kind) source kind.layout
  unfold World.construct
  generalize (world.moveIn kind).allocateRaw source kind.layout = answer at done given tally
  obtain ⟨result, after⟩ := answer
  cases done
  refine ⟨start, after.store kind start [value], rfl,
    provider.stored (given kind 1 (Nat.one_mul _)) (Nat.le_refl 1), ?_⟩
  simp only at tally
  rw [World.store_tally, tally, World.moveIn, World.count_tally, Tally.counting]
  split <;> rfl

theorem constructSlice (holds : provider.holds world holdings) (kind : Kind) (values : List Value)
    (stop : Option Nat)
    (affordable : (kind.layout.array? values.length).any (world.affords source) = true)
    (provided : Provided (world.constructSlice source kind values stop).2.traffic) :
    let made := World.madeUntil stop values.length
    ∃ start after, world.constructSlice source kind values stop =
        (if made = values.length then .ok start else .error (.panic .cloneRefused), after) ∧
      provider.holds after
        ((Grant.mk kind kind.align start values.length (values.take made)).holding
          provider.owner 0 :: holdings) ∧
      after.tally = world.tally.counting kind fun tally =>
        { tally with clones := tally.clones + made, stores := tally.stores + made } := by
  intro made
  cases shape : kind.layout.array? values.length with
  | none =>
    rw [shape] at affordable
    cases affordable
  | some layout =>
    rw [shape, Option.any_some] at affordable
    rw [World.constructSlice_traffic _ _ shape] at provided
    obtain ⟨same, valid⟩ := Layout.ofSizeAlign?_eq_some_iff.mp shape
    have power : isPowerOfTwo layout.align = true := ((Layout.valid_iff layout).mp valid).1
    obtain ⟨start, done, given⟩ := provider.allocated holds power affordable provided
    have tally := world.allocateRaw_tally source layout
    have number : (values.take made).length = made :=
      List.length_take_of_le (Nat.min_le_left _ _)
    have few : (values.take made).length ≤ values.length := List.length_take_le' _ _
    unfold World.constructSlice
    simp only [shape]
    generalize world.allocateRaw source layout = answer at done given tally
    obtain ⟨result, after⟩ := answer
    cases done
    subst same
    have held := provider.stored (given kind values.length (Nat.mul_comm _ _)) few
    refine ⟨start, (after.store kind start (values.take made)).count kind fun tally =>
      { tally with clones := tally.clones + made }, ?_, provider.counted held kind _, ?_⟩
    · by_cases all : made = values.length
      · rw [if_pos all]
        exact if_pos all
      · rw [if_neg all]
        exact if_neg all
    · simp only at tally
      rw [World.count_tally, World.store_tally, tally, Tally.counting, number]
      split <;> rfl

theorem demolish (holds : provider.holds world (holding :: holdings)) (number : Nat)
    (dropPanics : Bool)
    (provided : Provided (world.demolish source holding.kind number holding.start
      holding.layout dropPanics).2.traffic) :
    ∃ after, world.demolish source holding.kind number holding.start holding.layout dropPanics =
        (if dropPanics = true ∧ 0 < number then .error (.panic .destructorFailed) else .ok (),
          after) ∧
      provider.holds after holdings ∧
      after.tally = world.tally.counting holding.kind fun tally =>
        { tally with destroyed := tally.destroyed + number } := by
  have counted : provider.holds (world.destroy holding.kind number) (holding :: holdings) :=
    provider.counted holds holding.kind _
  unfold World.demolish at provided ⊢
  by_cases panics : dropPanics = true ∧ 0 < number
  · simp only [if_pos panics]
    exact ⟨_, rfl, provider.fewer counted (List.sublist_cons_self _ _), by
      rw [World.destroy, World.count_tally, Tally.counting]⟩
  · simp only [if_neg panics] at provided ⊢
    obtain ⟨done, left⟩ := provider.freed counted provided
    refine ⟨_, Prod.ext done rfl, left, ?_⟩
    rw [World.deallocateRaw_tally, World.destroy, World.count_tally, Tally.counting]

theorem deallocate (holds : provider.holds world (holding :: holdings))
    (single : holding.length = 1) (aligned : holding.align = holding.kind.align) (dropPanics : Bool)
    (provided : Provided
      (world.deallocate source holding.kind holding.start dropPanics).2.traffic) :
    ∃ after, world.deallocate source holding.kind holding.start dropPanics =
        (if dropPanics = true ∧ 0 < 1 then .error (.panic .destructorFailed) else .ok (), after) ∧
      provider.holds after holdings ∧
      after.tally = world.tally.counting holding.kind fun tally =>
        { tally with destroyed := tally.destroyed + 1 } := by
  have own : holding.kind.layout = holding.layout := by
    rw [Holding.layout, single, aligned, Nat.mul_one]
    rfl
  unfold World.deallocate at provided ⊢
  rw [own] at provided ⊢
  exact provider.demolish holds 1 dropPanics provided

theorem deallocateSlice (holds : provider.holds world (holding :: holdings))
    (shape : holding.kind.layout.array? holding.length = some holding.layout) (dropPanics : Bool)
    (provided : Provided (world.deallocateSlice source holding.kind holding.start
      holding.length dropPanics).2.traffic) :
    ∃ after, world.deallocateSlice source holding.kind holding.start holding.length dropPanics =
        (if dropPanics = true ∧ 0 < holding.length then .error (.panic .destructorFailed)
          else .ok (), after) ∧
      provider.holds after holdings ∧
      after.tally = world.tally.counting holding.kind fun tally =>
        { tally with destroyed := tally.destroyed + holding.length } := by
  unfold World.deallocateSlice at provided ⊢
  simp only [shape] at provided ⊢
  exact provider.demolish holds holding.length dropPanics provided

end Provider

structure HeldInArena (owner : Nat) (world : World) (holdings : List Holding) : Prop where
  provided : Provided world.traffic
  kept : Kept world holdings [] 0
  own : ∀ holding ∈ holdings, holding.owner = owner
  enabled : ∃ arena, world.arena? owner = some arena ∧ arena.isDisabled = false
  quiet : world.logs.complaint .debug = none

namespace HeldInArena

variable {owner : Nat} {world : World} {holdings : List Holding}

theorem onArena (heldInArena : HeldInArena owner world holdings) {α : Type}
    {call : Arena → Env → Reply α} {known : List Holding}
    (provided : Provided (world.onArena owner call).2.traffic)
    (keeps : Keeps (world.onArena owner call).2 known [] 0)
    (own : ∀ holding ∈ known, holding.owner = owner)
    (disabled : ∀ arena env, arena.Consistent →
      (call arena env).arena.disabled = arena.disabled) :
    HeldInArena owner (world.onArena owner call).2 known := by
  obtain ⟨arena, found, enabled⟩ := heldInArena.enabled
  have consistent := (heldInArena.kept.settled.sound owner arena found).consistent
  obtain ⟨skew, same⟩ := World.onArena_some found call
  refine ⟨provided, keeps provided, own, ⟨(call arena (world.env skew)).arena, ?_, ?_⟩, ?_⟩
  · rw [same]
    exact world.arena?_after_self owner found _ _
  · rw [Arena.isDisabled, disabled arena _ consistent]
    exact enabled
  · rw [same, World.complaint_after]
    exact heldInArena.quiet

theorem allocated (heldInArena : HeldInArena owner world holdings) {size align : Nat}
    (power : isPowerOfTwo align = true)
    (affordable : (world.arena? owner).any fun arena => arena.affords world.profile size align)
    (provided : Provided
      (world.onArena owner fun arena env => arena.tryAllocate env size align).2.traffic) :
    ∃ start, (world.onArena owner fun arena env => arena.tryAllocate env size align).1 =
        .ok start ∧
      ∀ kind length, length * kind.size = size →
        HeldInArena owner (world.onArena owner fun arena env => arena.tryAllocate env size align).2
          ((Grant.mk kind align start length []).holding owner 0 :: holdings) := by
  obtain ⟨arena, found, enabled⟩ := heldInArena.enabled
  have consistent := (heldInArena.kept.settled.sound owner arena found).consistent
  rw [found, Option.any_some] at affordable
  have succeeds : ∃ start,
      (world.onArena owner fun arena env => arena.tryAllocate env size align).1 = .ok start := by
    obtain ⟨skew, same⟩ :=
      World.onArena_some found fun arena env => arena.tryAllocate env size align
    rw [same] at provided ⊢
    exact Arena.tryAllocate_succeeds consistent enabled heldInArena.quiet power affordable
      fun chunk came => World.aligned_of_obtain provided came
  obtain ⟨start, done⟩ := succeeds
  refine ⟨start, done, ?_⟩
  intro kind length whole
  have keeps : Keeps world holdings [] 0 := fun _ => heldInArena.kept
  have yields := keeps.onArena_yields owner (.tryAllocate size align)
  refine heldInArena.onArena provided ?_ ?_ ?_
  · generalize (world.onArena owner fun arena env => arena.tryAllocate env size align) = answer
      at done yields
    obtain ⟨result, after⟩ := answer
    cases done
    exact yields kind length whole
  · intro holding member
    rcases List.mem_cons.mp member with same | older
    · rw [same]
      rfl
    · exact heldInArena.own holding older
  · intro arena env consistent
    exact (Arena.tryAllocate_answers consistent env size align).counts.2.1

theorem freed {holding : Holding} (heldInArena : HeldInArena owner world (holding :: holdings))
    (provided : Provided (world.onArena owner fun arena env =>
      arena.deallocate env holding.start holding.layout).2.traffic) :
    (world.onArena owner fun arena env =>
        arena.deallocate env holding.start holding.layout).1 = .ok () ∧
      HeldInArena owner (world.onArena owner fun arena env =>
        arena.deallocate env holding.start holding.layout).2 holdings := by
  have own := heldInArena.own holding List.mem_cons_self
  constructor
  · obtain ⟨arena, found, _⟩ := heldInArena.enabled
    obtain ⟨skew, same⟩ := World.onArena_some found fun arena env =>
      arena.deallocate env holding.start holding.layout
    have owns : arena.owns holding.start = true := by
      apply heldInArena.kept.settled.owns List.mem_cons_self
      rw [own]
      exact found
    rw [same]
    simp [Arena.deallocate, owns]
  · have keeps : Keeps world (holding :: holdings) [] 0 := fun _ => heldInArena.kept
    have proper : (Disposal.bytes holding.layout).size ≤ holding.length * holding.kind.size :=
      Nat.le_of_eq (Nat.mul_comm _ _)
    have given := (keeps.giveUp 0 proper).sublist (List.sublist_cons_self _ holdings)
    rw [own] at given
    refine heldInArena.onArena provided given ?_ ?_
    · exact fun other member => heldInArena.own other (List.mem_cons_of_mem _ member)
    · intro arena env _
      rcases Arena.deallocate_cases arena env holding.start holding.layout with refused | done
      · rw [refused]
      · rw [done]

def provider {source : Source} (named : source.owner = some owner) : Provider source where
  owner := owner
  holds := HeldInArena owner
  allocated {world holdings layout} heldInArena power affordable provided := by
    simp only [World.affords, World.allocateRaw_eq, named] at affordable provided ⊢
    exact heldInArena.allocated power affordable provided
  written {world holding holdings start bytes contents} heldInArena low high intact := by
    refine ⟨heldInArena.provided, heldInArena.kept.write_first low high contents intact, ?_,
      heldInArena.enabled, heldInArena.quiet⟩
    intro other member
    rcases List.mem_cons.mp member with same | older
    · rw [same]
      exact heldInArena.own holding List.mem_cons_self
    · exact heldInArena.own other (List.mem_cons_of_mem _ older)
  counted {world holdings} heldInArena kind change := by
    have kept := heldInArena.kept.count kind change
    rw [World.count_eq] at kept ⊢
    exact ⟨heldInArena.provided, kept, heldInArena.own, heldInArena.enabled, heldInArena.quiet⟩
  freed {world holding holdings} heldInArena provided := by
    simp only [World.deallocateRaw_eq, named] at provided ⊢
    exact heldInArena.freed provided
  reordered heldInArena perm :=
    ⟨heldInArena.provided, heldInArena.kept.perm perm,
      fun holding member => heldInArena.own holding (perm.mem_iff.mpr member), heldInArena.enabled,
      heldInArena.quiet⟩
  fewer heldInArena sublist :=
    ⟨heldInArena.provided, heldInArena.kept.sublist sublist,
      fun holding member => heldInArena.own holding (sublist.subset member), heldInArena.enabled,
      heldInArena.quiet⟩
  intact heldInArena := heldInArena.kept.intact
  placed {world holdings} heldInArena holding member := by
    have settled := heldInArena.kept.settled
    have listed : holding.toPlot ∈ holdings.map Holding.toPlot := List.mem_map_of_mem member
    obtain ⟨arena, found, _⟩ := heldInArena.enabled
    rw [← heldInArena.own holding member] at found
    obtain ⟨chunk, present, low, _⟩ := settled.starts_in listed found
    have booked := (settled.sound holding.owner arena found).booked chunk present
    have above : 0 < chunk.start := (held_placed heldInArena.provided _ booked).2.1
    exact ⟨Nat.lt_of_lt_of_le above low, settled.aligned holding.toPlot listed⟩

end HeldInArena

def Holding.block (holding : Holding) : Traffic :=
  ⟨none, 0, holding.start, holding.layout, .obtained⟩

theorem Holding.layout_size (holding : Holding) :
    holding.layout.size = holding.length * holding.kind.size :=
  Nat.mul_comm _ _

/-- Whether a holding is a block that the system provided, or has no bytes and is an address only.
-/
structure Holding.SystemBlock (holding : Holding) (world : World) : Prop where
  intact : holding.Intact world.memory
  placed : 0 < holding.start ∧ holding.align ∣ holding.start
  single : holding.earlier = []
  booked : holding.layout.size ≠ 0 → holding.block ∈ held world.traffic

structure HeldFromSystem (world : World) (holdings : List Holding) : Prop where
  provided : Provided world.traffic
  apart : (holdings.map Holding.toPlot).Pairwise Plot.Apart
  each : ∀ holding ∈ holdings, holding.SystemBlock world

theorem Holding.SystemBlock.covered {holding : Holding} {world : World}
    (lease : holding.SystemBlock world) {extent : Extent} (inside : extent ∈ holding.extents)
    {address : Nat} (covers : holding.Covers extent address) :
    holding.start ≤ address ∧ address < holding.start + holding.layout.size := by
  rw [Plot.extents, lease.single, List.mem_singleton] at inside
  rw [inside] at covers
  rw [holding.layout_size]
  exact covers

namespace HeldFromSystem

variable {world : World} {holding : Holding} {holdings : List Holding}

theorem start_ne (heldFromSystem : HeldFromSystem world (holding :: holdings)) {other : Holding}
    (member : other ∈ holdings) (some_bytes : holding.layout.size ≠ 0)
    (some_bytes' : other.layout.size ≠ 0) : other.start ≠ holding.start := by
  intro same
  have apart :=
    (List.pairwise_cons.mp heldFromSystem.apart).1 other.toPlot (List.mem_map_of_mem member)
  rw [Holding.layout_size] at some_bytes some_bytes'
  refine apart holding.extent List.mem_cons_self other.extent List.mem_cons_self holding.start
    ⟨Nat.le_refl _, ?_⟩ ⟨Nat.le_of_eq same, ?_⟩
  · exact Nat.lt_add_of_pos_right (Nat.pos_of_ne_zero some_bytes)
  · rw [← same]
    exact Nat.lt_add_of_pos_right (Nat.pos_of_ne_zero some_bytes')

theorem allocated_empty (heldFromSystem : HeldFromSystem world holdings) {kind : Kind}
    {align length : Nat} (power : isPowerOfTwo align = true) (empty : length * kind.size = 0) :
    HeldFromSystem world ((Grant.mk kind align align length []).holding 0 0 :: holdings) := by
  obtain ⟨k, same⟩ := (isPowerOfTwo_iff align).mp power
  have positive : 0 < align := by
    rw [same]
    exact Nat.two_pow_pos k
  refine ⟨heldFromSystem.provided, List.pairwise_cons.mpr ⟨?_, heldFromSystem.apart⟩,
    List.forall_mem_cons.mpr ⟨⟨?_, ⟨positive, Nat.dvd_refl _⟩, rfl, ?_⟩, heldFromSystem.each⟩⟩
  · intro other _ e inside f _ address covers
    rw [List.mem_singleton.mp inside] at covers
    obtain ⟨low, high⟩ := covers
    simp only [Grant.holding, Plot.finish, empty] at low high
    omega
  · intro e _ i _ value known
    simp [Grant.holding] at known
  · rw [Holding.layout_size]
    intro some_bytes
    exact absurd empty some_bytes

theorem allocated_block (heldFromSystem : HeldFromSystem world holdings) {kind : Kind}
    {layout : Layout} {start length : Nat}
    (provided : Provided (⟨none, 0, start, layout, .obtained⟩ :: world.traffic))
    (whole : length * kind.size = layout.size) :
    HeldFromSystem { world with traffic := ⟨none, 0, start, layout, .obtained⟩ :: world.traffic }
      ((Grant.mk kind layout.align start length []).holding 0 0 :: holdings) := by
  obtain ⟨⟨aligned, above, _⟩, separate⟩ := provided.1 rfl
  refine ⟨provided, List.pairwise_cons.mpr ⟨?_, heldFromSystem.apart⟩,
    List.forall_mem_cons.mpr ⟨⟨?_, ⟨above, aligned⟩, rfl, ?_⟩, ?_⟩⟩
  · intro plot listed e inside f inside' address covers covers'
    obtain ⟨other, member, rfl⟩ := List.mem_map.mp listed
    rw [List.mem_singleton.mp inside] at covers
    obtain ⟨low, high⟩ := covers
    simp only [Grant.holding, Plot.finish, whole] at low high
    -- The other holding covers an address, so it has bytes, and a block of its own in the traffic.
    have lease := heldFromSystem.each other member
    have bounds := lease.covered inside' covers'
    have apart := separate other.block (lease.booked (by omega))
    simp only [Traffic.Apart, Holding.block] at apart
    omega
  · intro e _ i _ value known
    simp [Grant.holding] at known
  · intro _
    have own : ((Grant.mk kind layout.align start length []).holding 0 0).layout = layout := by
      simp only [Holding.layout, Grant.holding, Plot.length, Nat.mul_comm kind.size, whole]
    rw [Holding.block, own, held_obtained rfl]
    exact List.mem_cons_self
  · intro other older
    have lease := heldFromSystem.each other older
    refine ⟨lease.intact, lease.placed, lease.single, ?_⟩
    intro some_bytes
    rw [held_obtained rfl]
    exact List.mem_cons_of_mem _ (lease.booked some_bytes)

theorem allocated (heldFromSystem : HeldFromSystem world holdings) {layout : Layout}
    (power : isPowerOfTwo layout.align = true)
    (affordable : (layout.size = 0 || world.site.serves layout) = true)
    (provided : Provided (world.systemAllocate layout).2.traffic) :
    ∃ start, (world.systemAllocate layout).1 = .ok start ∧
      ∀ kind length, length * kind.size = layout.size →
        HeldFromSystem (world.systemAllocate layout).2
          ((Grant.mk kind layout.align start length []).holding 0 0 :: holdings) := by
  by_cases empty : layout.size = 0
  · have same : world.systemAllocate layout = (.ok layout.align, world) := if_pos empty
    rw [same]
    exact
      ⟨layout.align, rfl, fun _ _ whole => heldFromSystem.allocated_empty power (whole.trans empty)⟩
  · have serves : world.site.serves layout = true := by simpa [empty] using affordable
    have same : world.systemAllocate layout =
        (.ok (world.site.place world.traffic 0 layout),
          { world with
            traffic := ⟨none, 0, world.site.place world.traffic 0 layout, layout, .obtained⟩ ::
              world.traffic }) := by
      simp [World.systemAllocate, empty, serves]
    rw [same] at provided ⊢
    exact ⟨_, rfl, fun _ _ whole => heldFromSystem.allocated_block provided whole⟩

theorem freed (heldFromSystem : HeldFromSystem world (holding :: holdings))
    (provided : Provided (world.systemDeallocate holding.start holding.layout).2.traffic) :
    (world.systemDeallocate holding.start holding.layout).1 = .ok () ∧
      HeldFromSystem (world.systemDeallocate holding.start holding.layout).2 holdings := by
  have apart := (List.pairwise_cons.mp heldFromSystem.apart).2
  have each := (List.forall_mem_cons.mp heldFromSystem.each).2
  by_cases empty : holding.layout.size = 0
  · have same : world.systemDeallocate holding.start holding.layout = (.ok (), world) :=
      if_pos empty
    rw [same]
    exact ⟨rfl, heldFromSystem.provided, apart, each⟩
  · have same : world.systemDeallocate holding.start holding.layout =
        (.ok (), { world with
          traffic := ⟨none, 0, holding.start, holding.layout, .returned false⟩ ::
            world.traffic }) := if_neg empty
    rw [same] at provided ⊢
    refine ⟨rfl, provided, apart, ?_⟩
    intro other member
    have lease := each other member
    refine ⟨lease.intact, lease.placed, lease.single, ?_⟩
    intro some_bytes
    have elsewhere := heldFromSystem.start_ne member empty some_bytes
    rw [held_returned rfl]
    refine List.mem_filter.mpr ⟨lease.booked some_bytes, ?_⟩
    simp [Traffic.concerns, Holding.block, elsewhere]

def provider {source : Source} (unnamed : source.owner = none) : Provider source where
  owner := 0
  holds := HeldFromSystem
  allocated {world holdings layout} heldFromSystem power affordable provided := by
    simp only [World.affords, World.allocateRaw_eq, unnamed] at affordable provided ⊢
    exact heldFromSystem.allocated power affordable provided
  written {world holding holdings start bytes contents} heldFromSystem low high intact := by
    have apart := (List.pairwise_cons.mp heldFromSystem.apart).1
    obtain ⟨first, each⟩ := List.forall_mem_cons.mp heldFromSystem.each
    refine
      ⟨heldFromSystem.provided, heldFromSystem.apart,
        List.forall_mem_cons.mpr ⟨⟨intact, first.placed,
      first.single, first.booked⟩, ?_⟩⟩
    intro other older
    have lease := each other older
    exact ⟨lease.intact.of_store (apart other.toPlot (List.mem_map_of_mem older)) low high,
      lease.placed, lease.single, lease.booked⟩
  counted {world holdings} heldFromSystem kind change := by
    rw [World.count_eq]
    refine ⟨heldFromSystem.provided, heldFromSystem.apart, ?_⟩
    intro holding member
    have lease := heldFromSystem.each holding member
    exact ⟨lease.intact, lease.placed, lease.single, lease.booked⟩
  freed {world holding holdings} heldFromSystem provided := by
    simp only [World.deallocateRaw_eq, unnamed] at provided ⊢
    exact heldFromSystem.freed provided
  reordered heldFromSystem perm :=
    ⟨heldFromSystem.provided,
      ((perm.map Holding.toPlot).pairwise_iff Plot.Apart.symm).mp heldFromSystem.apart,
      fun holding member => heldFromSystem.each holding (perm.mem_iff.mpr member)⟩
  fewer heldFromSystem sublist :=
    ⟨heldFromSystem.provided, heldFromSystem.apart.sublist (sublist.map _),
      fun holding member => heldFromSystem.each holding (sublist.subset member)⟩
  intact heldFromSystem holding member := (heldFromSystem.each holding member).intact
  placed heldFromSystem holding member := (heldFromSystem.each holding member).placed

end HeldFromSystem

/-- Whether a source can provide memory: the system always, an arena if it is enabled and can report
what it appends. -/
def World.CanProvide (world : World) (source : Source) : Prop :=
  ∀ owner, source.owner = some owner →
    (∃ arena, world.arena? owner = some arena ∧ arena.isDisabled = false) ∧
      world.logs.complaint .debug = none

theorem World.CanProvide.provider {world : World} {source : Source}
    (canProvide : world.CanProvide source)
    (sound : world.Sound) (provided : Provided world.traffic) :
    ∃ provider : Provider source, provider.holds world [] := by
  cases named : source.owner with
  | none =>
      exact ⟨HeldFromSystem.provider named, provided, List.Pairwise.nil, List.forall_mem_nil _⟩
  | some owner =>
    obtain ⟨enabled, quiet⟩ := canProvide owner named
    exact ⟨HeldInArena.provider named, provided,
      ⟨⟨sound, List.forall_mem_nil _, List.forall_mem_nil _, List.Pairwise.nil,
        List.forall_mem_nil _⟩, List.forall_mem_nil _⟩,
      List.forall_mem_nil _, enabled, quiet⟩

end ChunkArena
