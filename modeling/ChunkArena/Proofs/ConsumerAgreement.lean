import ChunkArena.Proofs.GenericConsumers
import ChunkArena.Proofs.StoredValues

/-!
Generic consumers cannot tell who serves them. Whoever is asked, as long as they can afford it, the
answers are those of an ideal source. What carries this is a list of matched items: what a consumer
was given, with the values that the ideal source has for it, of which the provider holds those that
were not given up.
-/

namespace ChunkArena

structure MatchedItem extends Item where
  values : List Value
  whole : values.length = length
  typed : ∀ value ∈ values, Kind.Fits kind.widths value
  shaped : (kind.layout.array? length).isSome = true
  placed : 0 < start ∧ kind.align ∣ start

namespace MatchedItem

def idealItem (matched : MatchedItem) : IdealItem := ⟨matched.kind, matched.values, matched.live⟩

def holding (owner : Nat) (matched : MatchedItem) : Holding :=
  (Grant.mk matched.kind matched.kind.align matched.start matched.length matched.values).holding
    owner 0

def gone (matched : MatchedItem) : MatchedItem := { matched with live := false }

def set (matched : MatchedItem) (index : Nat) (value : Value) : MatchedItem :=
  if fits : Kind.Fits matched.kind.widths value then
    { matched with
      values := matched.values.set index value
      whole := by rw [List.length_set, matched.whole]
      typed := by
        intro other member
        rcases List.mem_or_eq_of_mem_set member with old | new
        · exact matched.typed other old
        · rw [new]
          exact fits }
  else matched

theorem set_toItem (matched : MatchedItem) (index : Nat) (value : Value) :
    (matched.set index value).toItem = matched.toItem := by
  unfold set
  split <;> rfl

theorem set_idealItem (matched : MatchedItem) (index : Nat) {value : Value}
    (fits : Kind.Fits matched.kind.widths value) :
    (matched.set index value).idealItem = matched.idealItem.set index value := by
  rw [set, dif_pos fits]
  rfl

theorem set_holding (owner : Nat) (matched : MatchedItem) {index : Nat} {value : Value}
    (inside : index < matched.length) (fits : Kind.Fits matched.kind.widths value) :
    (matched.set index value).holding owner = (matched.holding owner).written index value := by
  have contents : (fun i => (matched.values.set index value)[i]?) =
      fun i => if i = index then some value else matched.values[i]? := by
    funext i
    rw [← matched.whole] at inside
    by_cases same : i = index
    · rw [if_pos same, same, List.getElem?_set_self inside]
    · rw [if_neg same, List.getElem?_set_ne (Ne.symm same)]
  rw [set, dif_pos fits]
  simp only [holding, Holding.written, Grant.holding, contents]

theorem holding_layout (owner : Nat) (matched : MatchedItem) :
    matched.kind.layout.array? matched.length = some (matched.holding owner).layout := by
  obtain ⟨layout, shape⟩ := Option.isSome_iff_exists.mp matched.shaped
  rw [shape, (Layout.ofSizeAlign?_eq_some_iff.mp shape).1]
  rfl

theorem elements_eq {owner : Nat} {matched : MatchedItem} {world : World}
    (intact : (matched.holding owner).Intact world.memory) :
    world.elements matched.kind matched.start matched.length = matched.values := by
  have typed : (matched.holding owner).Typed := by
    intro i value known
    exact matched.typed value (List.mem_of_getElem? known)
  apply List.ext_getElem?
  intro i
  by_cases inside : i < matched.length
  · have bound : i < matched.values.length := by
      rw [matched.whole]
      exact inside
    rw [List.getElem?_eq_getElem bound]
    exact intact.elements typed inside (List.getElem?_eq_getElem bound)
  · rw [List.getElem?_eq_none, List.getElem?_eq_none]
    · rw [matched.whole]
      omega
    · simp only [World.elements, List.length_map, List.length_range]
      omega

end MatchedItem

theorem map_modify {α β : Type} {list : List α} {k : Nat} {item : α}
    (found : list[k]? = some item) (f : α → β) (change : α → α) (changed : β → β)
    (same : f (change item) = changed (f item)) :
    (list.modify k change).map f = (list.map f).modify k changed := by
  apply List.ext_getElem?
  intro i
  rw [List.getElem?_map, List.getElem?_modify, List.getElem?_modify, List.getElem?_map]
  by_cases here : k = i
  · rw [← here, found]
    simp [same]
  · simp [here]

def living (owner : Nat) (matchedItems : List MatchedItem) : List Holding :=
  (matchedItems.filter fun matched => matched.live).map (MatchedItem.holding owner)

theorem living_modify (owner : Nat) {matchedItems : List MatchedItem} {which : Nat}
    {matched : MatchedItem}
    (found : matchedItems[which]? = some matched) (live : matched.live = true) :
    ∃ rest, (living owner matchedItems).Perm (matched.holding owner :: rest) ∧
      ∀ change : MatchedItem → MatchedItem, (living owner (matchedItems.modify which change)).Perm
        (if (change matched).live then (change matched).holding owner :: rest else rest) := by
  obtain ⟨others, front, changed⟩ := perm_modify found
  refine ⟨living owner others, ?_, ?_⟩
  · have moved := (front.filter fun matched => matched.live).map (MatchedItem.holding owner)
    rwa [List.filter_cons, if_pos live] at moved
  · intro change
    have moved :=
      ((changed change).filter fun matched => matched.live).map (MatchedItem.holding owner)
    rw [List.filter_cons] at moved
    split
    · rename_i still
      rwa [if_pos still] at moved
    · rename_i ended
      rwa [if_neg ended] at moved

/-- Whether a consumer and an ideal source know of the same items with the same values in them, and
the provider keeps those that were not given up. -/
structure Provider.Supports {source : Source} (provider : Provider source) (consumer : Consumer)
    (ideal : IdealSource) (matchedItems : List MatchedItem) : Prop where
  items : consumer.items = matchedItems.map MatchedItem.toItem
  sheets : ideal.sheets = matchedItems.map MatchedItem.idealItem
  tally : consumer.world.tally = ideal.tally
  holds : provider.holds consumer.world (living provider.owner matchedItems)

def Provider.Follows {source : Source} (provider : Provider source) (answer : Response × Consumer)
    (expected : Response × IdealSource) : Prop :=
  answer.1 = expected.1 ∧ ∃ matchedItems, provider.Supports answer.2 expected.2 matchedItems

structure Provider.Finds {source : Source} (provider : Provider source) (consumer : Consumer)
    (matchedItems : List MatchedItem) (which : Nat) (matched : MatchedItem) (rest : List Holding) :
    Prop where
  found : matchedItems[which]? = some matched
  live : matched.live = true
  item : consumer.item? which = some matched.toItem
  holds : provider.holds consumer.world (matched.holding provider.owner :: rest)
  changed : ∀ change : MatchedItem → MatchedItem,
    (living provider.owner (matchedItems.modify which change)).Perm
    (if (change matched).live then (change matched).holding provider.owner :: rest else rest)

theorem Consumer.part_if (consumer : Consumer) (which : Nat) {panics : Prop} [Decidable panics]
    (cause : Panic) (world : World) :
    consumer.part which (if panics then .error (.panic cause) else .ok (), world) =
      (if panics then .failed (.panic cause) else .freed,
        ⟨world, consumer.items.modify which Item.gone⟩) := by
  split <;> rfl

namespace Provider.Supports

variable {source : Source} {provider : Provider source} {consumer : Consumer} {ideal : IdealSource}
  {matchedItems : List MatchedItem}

theorem refuse (supports : provider.Supports consumer ideal matchedItems) :
    provider.Follows consumer.refuse ideal.refuse :=
  ⟨rfl, matchedItems, supports⟩

theorem lookup (supports : provider.Supports consumer ideal matchedItems) (which : Nat) :
    (consumer.item? which = none ∧ ideal.idealItem? which = none) ∨
      ∃ matched rest, provider.Finds consumer matchedItems which matched rest ∧
        ideal.idealItem? which = some matched.idealItem := by
  cases found : matchedItems[which]? with
  | none =>
    left
    constructor
    · simp [Consumer.item?, supports.items, found]
    · simp [IdealSource.idealItem?, supports.sheets, found]
  | some matched =>
    cases live : matched.live with
    | false =>
      left
      constructor
      · simp [Consumer.item?, supports.items, found, Option.filter, live]
      · simp
          [IdealSource.idealItem?, supports.sheets, found, Option.filter,
            MatchedItem.idealItem, live]
    | true =>
      obtain ⟨rest, front, changed⟩ := living_modify provider.owner found live
      refine Or.inr
        ⟨matched, rest, ⟨found, live, ?_, provider.reordered supports.holds front, changed⟩,
        ?_⟩
      · simp [Consumer.item?, supports.items, found, Option.filter, live]
      · simp
          [IdealSource.idealItem?, supports.sheets, found, Option.filter,
            MatchedItem.idealItem, live]

theorem elim (supports : provider.Supports consumer ideal matchedItems) (which : Nat)
    {answer : Item → Response × Consumer} {expected : IdealItem → Response × IdealSource}
    (follows : ∀ matched rest, provider.Finds consumer matchedItems which matched rest →
      provider.Follows (answer matched.toItem) (expected matched.idealItem)) :
    provider.Follows ((consumer.item? which).elim consumer.refuse answer)
      ((ideal.idealItem? which).elim ideal.refuse expected) := by
  rcases supports.lookup which with ⟨gone, gone'⟩ | ⟨matched, rest, finds, listed⟩
  · rw [gone, gone']
    exact supports.refuse
  · rw [finds.item, listed]
    exact follows matched rest finds

theorem receive (supports : provider.Supports consumer ideal matchedItems)
    {world : World} {kind : Kind} {start : Nat} {values : List Value} {tally : Tally}
    (typed : ∀ value ∈ values, Kind.Fits kind.widths value)
    (shaped : (kind.layout.array? values.length).isSome = true)
    (holds : provider.holds world
      ((Grant.mk kind kind.align start values.length values).holding provider.owner 0 ::
        living provider.owner matchedItems))
    (same : world.tally = tally) :
    provider.Follows (consumer.receive kind values.length (.ok start, world))
      (.made, ⟨tally, ⟨kind, values, true⟩ :: ideal.sheets⟩) := by
  let matched : MatchedItem := {
    kind, start, length := values.length, live := true, values, whole := rfl, typed, shaped
    placed := provider.placed holds _ List.mem_cons_self }
  refine ⟨rfl, matched :: matchedItems, ?_, ?_, same, holds⟩
  · exact congrArg (List.cons matched.toItem) supports.items
  · exact congrArg (List.cons matched.idealItem) supports.sheets

theorem construct (supports : provider.Supports consumer ideal matchedItems) (kind : Kind)
    (value : Value) (dropPanics : Bool)
    (affordable : consumer.affords source (.construct kind value dropPanics) = true)
    (provided : Provided
      (consumer.step source (.construct kind value dropPanics)).2.world.traffic) :
    provider.Follows (consumer.step source (.construct kind value dropPanics))
      (ideal.step (.construct kind value dropPanics)) := by
  simp only [Consumer.step, IdealSource.step] at provided ⊢
  by_cases fits : Kind.Fits kind.widths value
  · simp only [if_pos fits] at provided ⊢
    rw [Consumer.receive_world] at provided
    obtain ⟨start, after, done, holds, tally⟩ :=
      provider.construct supports.holds kind value dropPanics affordable provided
    have typed : ∀ other ∈ [value], Kind.Fits kind.widths other :=
      List.forall_mem_singleton.mpr fits
    have small : [value].length * kind.size ≤ blockLimit := by
      rw [List.length_singleton, Nat.one_mul]
      exact kind.shaped.2.2
    have shaped := kind.array?_of_real small
    rw [done]
    rw [supports.tally] at tally
    exact supports.receive typed (Option.isSome_of_eq_some shaped) holds tally
  · simp only [if_neg fits]
    exact supports.refuse

theorem constructSlice (supports : provider.Supports consumer ideal matchedItems) (kind : Kind)
    (values : List Value) (stop : Option Nat)
    (affordable : consumer.affords source (.constructSlice kind values stop) = true)
    (provided : Provided
      (consumer.step source (.constructSlice kind values stop)).2.world.traffic) :
    provider.Follows (consumer.step source (.constructSlice kind values stop))
      (ideal.step (.constructSlice kind values stop)) := by
  simp only [Consumer.step, IdealSource.step] at provided ⊢
  by_cases typed : ∀ value ∈ values, Kind.Fits kind.widths value
  · simp only [if_pos typed] at provided ⊢
    rw [Consumer.receive_world] at provided
    obtain ⟨start, after, done, holds, tally⟩ :=
      provider.constructSlice supports.holds kind values stop affordable provided
    rw [supports.tally] at tally
    rw [done]
    by_cases all : World.madeUntil stop values.length = values.length
    · have shaped : (kind.layout.array? values.length).isSome = true := by
        cases shape : kind.layout.array? values.length with
        | none =>
          rw [Consumer.affords, shape] at affordable
          cases affordable
        | some layout => rfl
      rw [if_pos all, if_pos all]
      rw [all, List.take_length] at holds
      exact supports.receive typed shaped holds tally
    · -- The clones that were made stay in memory that nobody is told of.
      rw [if_neg all, if_neg all]
      exact ⟨rfl, matchedItems, supports.items, supports.sheets, tally,
        provider.fewer holds (List.sublist_cons_self _ _)⟩
  · simp only [if_neg typed]
    exact supports.refuse

theorem read (supports : provider.Supports consumer ideal matchedItems) (which index : Nat) :
    provider.Follows (consumer.step source (.read which index))
      (ideal.step (.read which index)) := by
  apply supports.elim
  intro matched rest finds
  rw [MatchedItem.elements_eq (provider.intact finds.holds _ List.mem_cons_self)]
  simp only [MatchedItem.idealItem]
  cases matched.values[index]? with
  | none => exact supports.refuse
  | some value => exact ⟨rfl, matchedItems, supports⟩

theorem write (supports : provider.Supports consumer ideal matchedItems) (which index : Nat)
    (value : Value) :
    provider.Follows (consumer.step source (.write which index value))
      (ideal.step (.write which index value)) := by
  apply supports.elim
  intro matched rest finds
  simp only [MatchedItem.idealItem, matched.whole]
  by_cases proper : index < matched.length ∧ Kind.Fits matched.kind.widths value
  · rw [if_pos proper, if_pos proper]
    obtain ⟨inside, fits⟩ := proper
    have intact := (provider.intact finds.holds _ List.mem_cons_self).written index value
    have size := matched.kind.length_encode value
    have below : (index + 1) * matched.kind.size ≤ matched.length * matched.kind.size :=
      Nat.mul_le_mul_right _ inside
    rw [Nat.add_mul, Nat.one_mul] at below
    have room : matched.start + index * matched.kind.size + (matched.kind.encode value).length ≤
        matched.start + matched.length * matched.kind.size := by omega
    have wrote := provider.written finds.holds (Nat.le_add_right _ _) room intact
    have still : (matched.set index value).live = true :=
      (congrArg Item.live (matched.set_toItem index value)).trans finds.live
    have within := finds.changed (·.set index value)
    simp only [still, ↓reduceIte, matched.set_holding provider.owner inside fits] at within
    refine ⟨rfl, matchedItems.modify which (·.set index value), ?_, ?_, supports.tally,
      provider.reordered wrote within.symm⟩
    · rw [map_modify finds.found MatchedItem.toItem (·.set index value) id
        (matched.set_toItem index value), List.modify_id]
      exact supports.items
    · rw [map_modify finds.found MatchedItem.idealItem (·.set index value) (·.set index value)
        (matched.set_idealItem index fits), ← supports.sheets]
  · rw [if_neg proper, if_neg proper]
    exact supports.refuse

theorem part (supports : provider.Supports consumer ideal matchedItems) {which number : Nat}
    {dropPanics : Bool} {matched : MatchedItem} {rest : List Holding}
    (finds : provider.Finds consumer matchedItems which matched rest) {world : World}
    (holds : provider.holds world rest)
    (tally : world.tally = consumer.world.tally.counting matched.kind fun tally =>
      { tally with destroyed := tally.destroyed + number }) :
    provider.Follows (consumer.part which
        (if dropPanics = true ∧ 0 < number then .error (.panic .destructorFailed) else
          .ok (), world))
      (ideal.part which matched.kind number dropPanics) := by
  have changed := finds.changed MatchedItem.gone
  rw [Consumer.part_if, IdealSource.part]
  refine
    ⟨rfl, matchedItems.modify which MatchedItem.gone, ?_, ?_, ?_,
      provider.reordered holds changed.symm⟩
  · simp only [supports.items]
    exact (map_modify finds.found MatchedItem.toItem MatchedItem.gone Item.gone rfl).symm
  · simp only [supports.sheets]
    exact (map_modify finds.found MatchedItem.idealItem MatchedItem.gone IdealItem.gone rfl).symm
  · rw [supports.tally] at tally
    exact tally

theorem deallocate (supports : provider.Supports consumer ideal matchedItems) (which : Nat)
    (dropPanics : Bool)
    (provided : Provided (consumer.step source (.deallocate which dropPanics)).2.world.traffic) :
    provider.Follows (consumer.step source (.deallocate which dropPanics))
      (ideal.step (.deallocate which dropPanics)) := by
  apply supports.elim
  intro matched rest finds
  simp only [Consumer.step, finds.item, Option.elim_some] at provided
  simp only [MatchedItem.idealItem, matched.whole]
  by_cases single : matched.length = 1
  · rw [if_pos single, Consumer.part_world] at provided
    rw [if_pos single, if_pos single]
    obtain ⟨after, done, holds, tally⟩ :=
      provider.deallocate finds.holds single rfl dropPanics provided
    have gave : consumer.world.deallocate source matched.kind matched.start dropPanics =
      (_, after) := done
    rw [gave]
    exact supports.part finds holds tally
  · rw [if_neg single, if_neg single]
    exact supports.refuse

theorem deallocateSlice (supports : provider.Supports consumer ideal matchedItems) (which : Nat)
    (dropPanics : Bool)
    (provided : Provided
      (consumer.step source (.deallocateSlice which dropPanics)).2.world.traffic) :
    provider.Follows (consumer.step source (.deallocateSlice which dropPanics))
      (ideal.step (.deallocateSlice which dropPanics)) := by
  apply supports.elim
  intro matched rest finds
  simp only [Consumer.step, finds.item, Option.elim_some, Consumer.part_world] at provided
  simp only [MatchedItem.idealItem, matched.whole]
  obtain ⟨after, done, holds, tally⟩ :=
    provider.deallocateSlice finds.holds (matched.holding_layout provider.owner) dropPanics provided
  have gave : consumer.world.deallocateSlice source matched.kind matched.start matched.length
    dropPanics = (_, after) := done
  rw [gave]
  exact supports.part finds holds tally

theorem step (supports : provider.Supports consumer ideal matchedItems) (call : GenericCall)
    (affordable : consumer.affords source call = true)
    (provided : Provided (consumer.step source call).2.world.traffic) :
    provider.Follows (consumer.step source call) (ideal.step call) := by
  cases call with
  | construct kind value dropPanics =>
    exact supports.construct kind value dropPanics affordable provided
  | constructSlice kind values stop =>
    exact supports.constructSlice kind values stop affordable provided
  | read which index => exact supports.read which index
  | write which index value => exact supports.write which index value
  | deallocate which dropPanics => exact supports.deallocate which dropPanics provided
  | deallocateSlice which dropPanics => exact supports.deallocateSlice which dropPanics provided

theorem run (supports : provider.Supports consumer ideal matchedItems) (program : List GenericCall)
    (affordable : consumer.affordsAll source program = true)
    (provided : Provided (consumer.run source program).2.world.traffic) :
    (consumer.run source program).1 = (ideal.run program).1 ∧
      ∃ matchedItems, provider.Supports (consumer.run source program).2
        (ideal.run program).2 matchedItems := by
  induction program generalizing consumer ideal matchedItems with
  | nil => exact ⟨rfl, matchedItems, supports⟩
  | cons call rest ih =>
    obtain ⟨now, later⟩ := (Bool.and_eq_true _ _).mp affordable
    have grows := (consumer.step source call).2.run_suffix source rest
    obtain ⟨same, between, supported⟩ :=
      supports.step call now (provided_of_suffix provided grows)
    obtain ⟨rests, last⟩ := ih supported later provided
    exact ⟨congrArg₂ List.cons same rests, last⟩

end Provider.Supports

theorem Consumer.elim_passes {consumer : Consumer} {α : Type} {item : Option α}
    {answer : α → Response × Consumer} {entries : α → List Traffic}
    (passes : ∀ found, item = some found →
      (answer found).2.world.traffic = entries found ++ consumer.world.traffic) :
    (item.elim consumer.refuse answer).2.world.traffic =
      item.elim [] entries ++ consumer.world.traffic := by
  cases item with
  | none => rfl
  | some found => exact passes found rfl

theorem Provider.Supports.passes {source : Source} {provider : Provider source}
    {consumer : Consumer} {ideal : IdealSource} {matchedItems : List MatchedItem}
    (supports : provider.Supports consumer ideal matchedItems)
    (unnamed : source.owner = none) (call : GenericCall)
    (affordable : consumer.affords source call = true) :
    (consumer.step source call).2.world.traffic =
      consumer.dealings call ++ consumer.world.traffic := by
  cases call with
  | construct kind value dropPanics =>
    simp only [Consumer.step, Consumer.dealings]
    split
    · have moved : (consumer.world.moveIn kind).affords source kind.layout = true :=
        (consumer.world.affords_count source kind.layout kind _).trans affordable
      have own : kind.layout = ⟨kind.size * 1, kind.align⟩ := by
        rw [Nat.mul_one]
        rfl
      rw [Consumer.receive_world, World.construct_traffic,
        World.allocateRaw_traffic _ unnamed moved,
        World.moveIn, World.count_eq, own]
      rfl
    · rfl
  | constructSlice kind values stop =>
    simp only [Consumer.step, Consumer.dealings]
    split
    · rw [Consumer.receive_world]
      cases shape : kind.layout.array? values.length with
      | none =>
        rw [Consumer.affords, shape] at affordable
        cases affordable
      | some layout =>
        rw [Consumer.affords, shape, Option.any_some] at affordable
        rw [World.constructSlice_traffic _ _ shape, World.allocateRaw_traffic _ unnamed affordable,
          (Layout.ofSizeAlign?_eq_some_iff.mp shape).1]
        rfl
    · rfl
  | read which index =>
    simp only [Consumer.step, Consumer.dealings]
    cases consumer.item? which with
    | none => rfl
    | some item =>
      rw [Option.elim_some]
      cases (consumer.world.elements item.kind item.start item.length)[index]? <;> rfl
  | write which index value =>
    simp only [Consumer.step, Consumer.dealings]
    cases consumer.item? which with
    | none => rfl
    | some item =>
      rw [Option.elim_some]
      split <;> rfl
  | deallocate which dropPanics =>
    apply Consumer.elim_passes
    intro item _
    by_cases single : item.length = 1
    · have own : item.kind.layout = item.layout := by
        rw [Item.layout, single, Nat.mul_one]
        rfl
      rw [if_pos single, Consumer.part_world, World.deallocate,
        World.demolish_traffic _ unnamed, own]
      cases dropPanics <;> simp [single, Item.bookings]
    · rw [if_neg single, if_neg fun both => single both.1]
      rfl
  | deallocateSlice which dropPanics =>
    apply Consumer.elim_passes
    intro item present
    rcases supports.lookup which with ⟨gone, _⟩ | ⟨matched, _, finds, _⟩
    · rw [gone] at present
      cases present
    · rw [finds.item] at present
      cases present
      have shape : matched.kind.layout.array? matched.length = some matched.layout :=
        matched.holding_layout provider.owner
      rw [Consumer.part_world, World.deallocateSlice, shape]
      simp only
      rw [World.demolish_traffic _ unnamed]
      by_cases panics : dropPanics = true ∧ 0 < matched.length
      · rw [if_pos (Or.inl panics), if_pos panics]
      · rw [if_neg panics]
        simp only [panics, false_or]
        rfl

theorem Provider.Supports.booked {source : Source} {unnamed : source.owner = none}
    {consumer : Consumer} {ideal : IdealSource} {matchedItems : List MatchedItem}
    (supports : (HeldFromSystem.provider unnamed).Supports consumer ideal matchedItems)
    {item : Item} (member : item ∈ consumer.items) (live : item.live = true) :
    ∀ block ∈ item.bookings .obtained, block ∈ held consumer.world.traffic := by
  intro block listed
  rw [supports.items] at member
  obtain ⟨matched, present, rfl⟩ := List.mem_map.mp member
  have heldFromSystem : HeldFromSystem consumer.world (living 0 matchedItems) := supports.holds
  have lease := heldFromSystem.each (matched.holding 0)
    (List.mem_map_of_mem (List.mem_filter.mpr ⟨present, live⟩))
  unfold Item.bookings at listed
  split at listed
  · cases listed
  · rename_i some_bytes
    rw [List.mem_singleton.mp listed]
    exact lease.booked some_bytes

theorem Provider.Supports.start {source : Source} {provider : Provider source} {world : World}
    (holds : provider.holds world []) :
    provider.Supports (Consumer.start world) (IdealSource.start world.tally) [] :=
  ⟨rfl, rfl, rfl, holds⟩

/-- An enabled arena, the system and references to either give the same answers to a program that
they can afford: those of an ideal source without memory. They count the same values as cloned and
as destroyed, nothing fails but the client's own code, and all addresses are aligned and not null.
The system provides one block for each allocation that has bytes, of its layout, and takes back the
same when it is given up; allocations without bytes never reach it. -/
theorem consumers_agree {profile : Profile} {site : Site} {logs : Logs} {actions : List Action}
    {world : World} (reached : (World.new profile site logs).run actions = world)
    (source : Source) (program : List GenericCall) (canProvide : world.CanProvide source)
    (affordable : (Consumer.start world).affordsAll source program = true)
    (provided : Provided ((Consumer.start world).run source program).2.world.traffic) :
    let outcome := (Consumer.start world).run source program
    let expected := (IdealSource.start world.tally).run program
    outcome.1 = expected.1 ∧ outcome.2.world.tally = expected.2.tally ∧
      (∀ failure, .failed failure ∈ outcome.1 →
        ∃ call ∈ program, ∃ cause, failure = .panic cause ∧ call.Panics cause) ∧
      (∀ item ∈ outcome.2.items, 0 < item.start ∧ item.kind.align ∣ item.start) ∧
      (source.owner = none → ∀ before call after, program = before ++ call :: after →
        let consumer := ((Consumer.start world).run source before).2
        (consumer.step source call).2.world.traffic =
            consumer.dealings call ++ consumer.world.traffic ∧
          ∀ item ∈ consumer.items, item.live = true →
            ∀ block ∈ item.bookings .obtained, block ∈ held consumer.world.traffic) := by
  intro outcome expected
  have initially : Provided world.traffic :=
    provided_of_suffix provided ((Consumer.start world).run_suffix source program)
  have sound : world.Sound := by
    rw [← reached] at initially ⊢
    exact (World.new_soundIfProvided profile site logs).run actions initially
  obtain ⟨provider, holds⟩ := canProvide.provider sound initially
  obtain ⟨same, matchedItems, supports⟩ :=
    (Provider.Supports.start holds).run program affordable provided
  refine ⟨same, supports.tally, ?_, ?_, ?_⟩
  · intro failure failed
    rw [same] at failed
    exact IdealSource.run_fails _ program failed
  · intro item member
    rw [supports.items] at member
    obtain ⟨matched, _, rfl⟩ := List.mem_map.mp member
    exact matched.placed
  · -- The entries are those of the system as a provider, and every call is the next one somewhere.
    intro unnamed before call after split consumer
    have heldFromSystem : (HeldFromSystem.provider unnamed).holds world [] :=
      ⟨initially, List.Pairwise.nil, List.forall_mem_nil _⟩
    rw [split, Consumer.affordsAll_append, Bool.and_eq_true] at affordable
    obtain ⟨earlier, later⟩ := affordable
    have now := ((Bool.and_eq_true _ _).mp later).1
    have grows := consumer.run_suffix source (call :: after)
    rw [← Consumer.run_append, ← split] at grows
    obtain ⟨_, known, supports⟩ :=
      (Provider.Supports.start heldFromSystem).run before earlier
        (provided_of_suffix provided grows)
    exact ⟨supports.passes unnamed call now, fun item => supports.booked⟩

def countedProgram : List GenericCall :=
  [.construct .token [5] true, .constructSlice .u16 [[1], [2]] none, .construct .unit [] false,
    .constructSlice .u64 [] none, .constructSlice .token [[1], [1], [2]] (some 1), .write 2 1 [7],
    .deallocate 1 false, .read 2 1, .deallocateSlice 0 true, .deallocate 3 false, .read 3 0,
    .read 2 0, .deallocateSlice 2 false]

def emptyWorld : World :=
  (World.new .debug pagedSite (Logs.empty none)).run [.create ⟨"pairs", 16⟩ 0]

theorem countedProgram_agrees :
    (∀ source ∈ [Source.arena 0, .through (.arena 0), .system],
      ((Consumer.start emptyWorld).run source countedProgram).1 =
          [.made, .made, .made, .made, .failed (.panic .cloneRefused), .stored, .freed,
            .element [7], .freed, .freed, .refused, .element [1], .freed] ∧
        ((Consumer.start emptyWorld).run source countedProgram).2.world.tally =
          ⟨1, 0, 1, 2, 0, 1⟩) ∧
      ((Consumer.start emptyWorld).run .system countedProgram).2.world.traffic.map
          (fun entry => (entry.layout, entry.passage)) =
        [(⟨4, 2⟩, .returned false), (⟨4, 4⟩, .returned false), (⟨12, 4⟩, .obtained),
          (⟨4, 2⟩, .obtained), (⟨4, 4⟩, .obtained)] := by
  have reached : (World.new .debug pagedSite (Logs.empty none)).run [.create ⟨"pairs", 16⟩ 0] =
      emptyWorld := rfl
  refine ⟨?_, by decide +kernel⟩
  intro source member
  have canProvide : emptyWorld.CanProvide source := by
    intro owner named
    have zero : owner = 0 := by
      simp only [List.mem_cons, List.not_mem_nil, or_false] at member
      rcases member with rfl | rfl | rfl <;> cases named <;> rfl
    have enabled : (emptyWorld.arena? 0).map Arena.isDisabled = some false := by decide +kernel
    have quiet : emptyWorld.logs.complaint .debug = none := by decide +kernel
    rw [zero]
    exact ⟨Option.map_eq_some_iff.mp enabled, quiet⟩
  simp only [List.mem_cons, List.not_mem_nil, or_false] at member
  rcases member with rfl | rfl | rfl
  all_goals
    have agree := consumers_agree reached _ countedProgram canProvide (by decide +kernel)
      (by decide +kernel)
    exact ⟨agree.1.trans (by decide +kernel), agree.2.1.trans (by decide +kernel)⟩

/-- An arena cannot be told from the system as long as its reports can be written, and nobody serves
a slice of values that refuse to be cloned. -/
theorem unwritable_report_divides_hosts :
    let logs := ((Logs.empty none).init Logs.coreName ⟨.debug, "Core", [.stdout], "%Q"⟩).2
    let world := (World.new .debug pagedSite logs).run [.create ⟨"pairs", 16⟩ 0]
    let single := [GenericCall.construct .u32 [7] false]
    (world.arena? 0).map Arena.isDisabled = some false ∧
      (∀ source ∈ [Source.arena 0, .system],
        (Consumer.start world).affordsAll source single = true ∧
          Provided ((Consumer.start world).run source single).2.world.traffic) ∧
      ((Consumer.start world).run (.arena 0) single).1 = [.failed (.panic .timeFormat)] ∧
      ((Consumer.start world).run .system single).1 = [.made] ∧
      ((Consumer.start world).run .system [.constructSlice .u32 [[7]] (some 0)]).1 =
        [.failed (.panic .cloneRefused)] := by
  decide +kernel

end ChunkArena
