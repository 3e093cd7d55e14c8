import ChunkArena.Proofs.MemoryProviders

/-!
What generic consumers do. A consumer constructs values and slices, reads and writes their elements
and gives them up again, all through a source of memory that it knows nothing about. An ideal source
answers the same calls without any memory: it keeps the values themselves, so that nothing can run
out, move or be overwritten there.
-/

namespace ChunkArena

/-- One call of generic code. What it allocated is counted from the newest. -/
inductive GenericCall
  | construct (kind : Kind) (value : Value) (dropPanics : Bool)
  | constructSlice (kind : Kind) (values : List Value) (stop : Option Nat)
  | read (which index : Nat)
  | write (which index : Nat) (value : Value)
  | deallocate (which : Nat) (dropPanics : Bool)
  | deallocateSlice (which : Nat) (dropPanics : Bool)

/-- The panics of the client's own code in a call. -/
inductive GenericCall.Panics : GenericCall → Panic → Prop
  | clone (kind : Kind) {values : List Value} {stop : Nat} (inside : stop < values.length) :
      Panics (.constructSlice kind values (some stop)) .cloneRefused
  | destructor (which : Nat) : Panics (.deallocate which true) .destructorFailed
  | destructors (which : Nat) : Panics (.deallocateSlice which true) .destructorFailed

inductive Response
  | made
  | stored
  | freed
  | element (value : Value)
  | failed (failure : Failure)
  /-- The call may not be made: what it is about was given up, or has no such element, or the value
  is of another type. -/
  | refused
  deriving DecidableEq

/-- What a consumer was given, and whether it still has it. -/
structure Item where
  kind : Kind
  start : Nat
  length : Nat
  live : Bool

namespace Item

def layout (item : Item) : Layout := ⟨item.kind.size * item.length, item.kind.align⟩

def gone (item : Item) : Item := { item with live := false }

end Item

structure Consumer where
  world : World
  items : List Item

namespace Consumer

def start (world : World) : Consumer := ⟨world, []⟩

def refuse (consumer : Consumer) : Response × Consumer := (.refused, consumer)

def item? (consumer : Consumer) (which : Nat) : Option Item :=
  (consumer.items[which]?).filter Item.live

def receive (consumer : Consumer) (kind : Kind) (length : Nat) :
    Except Failure Nat × World → Response × Consumer
  | (.ok start, world) => (.made, ⟨world, ⟨kind, start, length, true⟩ :: consumer.items⟩)
  | (.error failure, world) => (.failed failure, { consumer with world := world })

def part (consumer : Consumer) (which : Nat) : Except Failure Unit × World → Response × Consumer
  | (.ok (), world) => (.freed, ⟨world, consumer.items.modify which Item.gone⟩)
  | (.error failure, world) => (.failed failure, ⟨world, consumer.items.modify which Item.gone⟩)

def step (source : Source) (consumer : Consumer) : GenericCall → Response × Consumer
  | .construct kind value dropPanics =>
      if Kind.Fits kind.widths value then
        consumer.receive kind 1 (consumer.world.construct source kind value dropPanics)
      else consumer.refuse
  | .constructSlice kind values stop =>
      if ∀ value ∈ values, Kind.Fits kind.widths value then
        consumer.receive kind values.length (consumer.world.constructSlice source kind values stop)
      else consumer.refuse
  | .read which index =>
      (consumer.item? which).elim consumer.refuse fun item =>
        ((consumer.world.elements item.kind item.start item.length)[index]?).elim consumer.refuse
          fun value => (.element value, consumer)
  | .write which index value =>
      (consumer.item? which).elim consumer.refuse fun item =>
        if index < item.length ∧ Kind.Fits item.kind.widths value then
          (.stored,
            { consumer with
              world := consumer.world.write (item.start + index * item.kind.size)
                (item.kind.encode value) })
        else consumer.refuse
  | .deallocate which dropPanics =>
      (consumer.item? which).elim consumer.refuse fun item =>
        if item.length = 1 then
          consumer.part which (consumer.world.deallocate source item.kind item.start dropPanics)
        else consumer.refuse
  | .deallocateSlice which dropPanics =>
      (consumer.item? which).elim consumer.refuse fun item =>
        consumer.part which
          (consumer.world.deallocateSlice source item.kind item.start item.length dropPanics)

def run (source : Source) (consumer : Consumer) : List GenericCall → List Response × Consumer
  | [] => ([], consumer)
  | call :: rest =>
      let (answer, next) := consumer.step source call
      let (answers, last) := next.run source rest
      (answer :: answers, last)

def affords (source : Source) (consumer : Consumer) : GenericCall → Bool
  | .construct kind _ _ => consumer.world.affords source kind.layout
  | .constructSlice kind values _ =>
      (kind.layout.array? values.length).any (consumer.world.affords source)
  | .read .. | .write .. | .deallocate .. | .deallocateSlice .. => true

def affordsAll (source : Source) (consumer : Consumer) : List GenericCall → Bool
  | [] => true
  | call :: rest =>
      consumer.affords source call && (consumer.step source call).2.affordsAll source rest

end Consumer

/-- The elements of something allocated, and whether it is still there. -/
structure IdealItem where
  kind : Kind
  values : List Value
  live : Bool

namespace IdealItem

def gone (idealItem : IdealItem) : IdealItem := { idealItem with live := false }

def set (idealItem : IdealItem) (index : Nat) (value : Value) : IdealItem :=
  { idealItem with values := idealItem.values.set index value }

end IdealItem

structure IdealSource where
  tally : Tally
  sheets : List IdealItem

namespace IdealSource

def start (tally : Tally) : IdealSource := ⟨tally, []⟩

def refuse (ideal : IdealSource) : Response × IdealSource := (.refused, ideal)

def idealItem? (ideal : IdealSource) (which : Nat) : Option IdealItem :=
  (ideal.sheets[which]?).filter IdealItem.live

def part (ideal : IdealSource) (which : Nat) (kind : Kind) (number : Nat) (dropPanics : Bool) :
    Response × IdealSource :=
  (if dropPanics = true ∧ 0 < number then .failed (.panic .destructorFailed) else .freed,
    ⟨ideal.tally.counting kind fun tally => { tally with destroyed := tally.destroyed + number },
      ideal.sheets.modify which IdealItem.gone⟩)

def step (ideal : IdealSource) : GenericCall → Response × IdealSource
  | .construct kind value _ =>
      if Kind.Fits kind.widths value then
        (.made,
          ⟨ideal.tally.counting kind fun tally =>
              { tally with moves := tally.moves + 1, stores := tally.stores + 1 },
            ⟨kind, [value], true⟩ :: ideal.sheets⟩)
      else ideal.refuse
  | .constructSlice kind values stop =>
      if ∀ value ∈ values, Kind.Fits kind.widths value then
        let number := World.madeUntil stop values.length
        let tally := ideal.tally.counting kind fun tally =>
          { tally with clones := tally.clones + number, stores := tally.stores + number }
        if number = values.length then (.made, ⟨tally, ⟨kind, values, true⟩ :: ideal.sheets⟩)
        else (.failed (.panic .cloneRefused), ⟨tally, ideal.sheets⟩)
      else ideal.refuse
  | .read which index =>
      (ideal.idealItem? which).elim ideal.refuse fun idealItem =>
        (idealItem.values[index]?).elim ideal.refuse fun value => (.element value, ideal)
  | .write which index value =>
      (ideal.idealItem? which).elim ideal.refuse fun idealItem =>
        if index < idealItem.values.length ∧ Kind.Fits idealItem.kind.widths value then
          (.stored, { ideal with sheets := ideal.sheets.modify which (·.set index value) })
        else ideal.refuse
  | .deallocate which dropPanics =>
      (ideal.idealItem? which).elim ideal.refuse fun idealItem =>
        if idealItem.values.length = 1 then ideal.part which idealItem.kind 1 dropPanics
          else ideal.refuse
  | .deallocateSlice which dropPanics =>
      (ideal.idealItem? which).elim ideal.refuse fun idealItem =>
        ideal.part which idealItem.kind idealItem.values.length dropPanics

def run (ideal : IdealSource) : List GenericCall → List Response × IdealSource
  | [] => ([], ideal)
  | call :: rest =>
      let (answer, next) := ideal.step call
      let (answers, last) := next.run rest
      (answer :: answers, last)

end IdealSource

def Item.bookings (item : Item) (passage : Passage) : List Traffic :=
  if item.layout.size = 0 then [] else [⟨none, 0, item.start, item.layout, passage⟩]

namespace Consumer

def offered (consumer : Consumer) (kind : Kind) (length : Nat) : Item :=
  let layout : Layout := ⟨kind.size * length, kind.align⟩
  ⟨kind, consumer.world.site.place consumer.world.traffic 0 layout, length, true⟩

/-- The blocks that a call passes, if the system serves it. Storage whose destructors panic is not
given back. -/
def dealings (consumer : Consumer) : GenericCall → List Traffic
  | .construct kind value _ =>
      if Kind.Fits kind.widths value then (consumer.offered kind 1).bookings .obtained else []
  | .constructSlice kind values _ =>
      if ∀ value ∈ values, Kind.Fits kind.widths value then
        (consumer.offered kind values.length).bookings .obtained
      else []
  | .read .. | .write .. => []
  | .deallocate which dropPanics =>
      (consumer.item? which).elim [] fun item =>
        if item.length = 1 ∧ dropPanics = false then item.bookings (.returned false) else []
  | .deallocateSlice which dropPanics =>
      (consumer.item? which).elim [] fun item =>
        if dropPanics = true ∧ 0 < item.length then [] else item.bookings (.returned false)

variable (source : Source) (consumer : Consumer)

theorem receive_world (kind : Kind) (length : Nat) (answer : Except Failure Nat × World) :
    (consumer.receive kind length answer).2.world = answer.2 := by
  obtain ⟨result, after⟩ := answer
  cases result <;> rfl

theorem part_world (which : Nat) (answer : Except Failure Unit × World) :
    (consumer.part which answer).2.world = answer.2 := by
  obtain ⟨result, after⟩ := answer
  cases result <;> rfl

theorem elim_suffix {α : Type} {item : Option α} {answer : α → Response × Consumer}
    (grows : ∀ found, consumer.world.traffic <:+ (answer found).2.world.traffic) :
    consumer.world.traffic <:+ (item.elim consumer.refuse answer).2.world.traffic := by
  cases item with
  | none => exact List.suffix_refl _
  | some found => exact grows found

theorem step_suffix (call : GenericCall) :
    consumer.world.traffic <:+ (consumer.step source call).2.world.traffic := by
  cases call with
  | construct kind value dropPanics =>
    simp only [step]
    split
    · rw [receive_world, World.construct_traffic]
      have grows := (consumer.world.moveIn kind).allocateRaw_suffix source kind.layout
      rwa [World.moveIn, World.count_traffic] at grows
    · exact List.suffix_refl _
  | constructSlice kind values stop =>
    simp only [step]
    split
    · rw [receive_world]
      cases shape : kind.layout.array? values.length with
      | none => simp [World.constructSlice, shape]
      | some layout =>
        rw [World.constructSlice_traffic _ _ shape]
        exact consumer.world.allocateRaw_suffix source layout
    · exact List.suffix_refl _
  | read which index =>
    apply elim_suffix
    intro item
    apply elim_suffix
    exact fun _ => List.suffix_refl _
  | write which index value =>
    apply elim_suffix
    intro item
    split <;> exact List.suffix_refl _
  | deallocate which dropPanics =>
    apply elim_suffix
    intro item
    split
    · rw [part_world]
      exact consumer.world.demolish_suffix source item.kind 1 item.start item.kind.layout dropPanics
    · exact List.suffix_refl _
  | deallocateSlice which dropPanics =>
    apply elim_suffix
    intro item
    rw [part_world, World.deallocateSlice]
    split
    · exact List.suffix_refl _
    · rename_i layout _
      exact consumer.world.demolish_suffix source item.kind item.length item.start layout dropPanics

theorem run_suffix (program : List GenericCall) :
    consumer.world.traffic <:+ (consumer.run source program).2.world.traffic := by
  induction program generalizing consumer with
  | nil => exact List.suffix_refl _
  | cons call rest ih => exact (consumer.step_suffix source call).trans (ih _)

theorem run_append (before after : List GenericCall) :
    (consumer.run source (before ++ after)).2 =
      ((consumer.run source before).2.run source after).2 := by
  induction before generalizing consumer with
  | nil => rfl
  | cons call rest ih => exact ih _

theorem affordsAll_append (before after : List GenericCall) :
    consumer.affordsAll source (before ++ after) =
      (consumer.affordsAll source before &&
        (consumer.run source before).2.affordsAll source after) := by
  induction before generalizing consumer with
  | nil => rfl
  | cons call rest ih =>
    simp only [List.cons_append, affordsAll, run, ih, Bool.and_assoc]

end Consumer

theorem World.stop_of_short {stop : Option Nat} {number : Nat}
    (short : madeUntil stop number ≠ number) :
    ∃ position, stop = some position ∧ position < number := by
  unfold madeUntil at short
  cases stop with
  | none => simp at short
  | some position =>
    rw [Option.getD_some] at short
    exact ⟨position, rfl, by omega⟩

namespace IdealSource

theorem elim_failed {ideal : IdealSource} {α : Type} {item : Option α}
    {answer : α → Response × IdealSource}
    {failure : Failure} (failed : (item.elim ideal.refuse answer).1 = .failed failure) :
    ∃ found, (answer found).1 = .failed failure := by
  cases item with
  | none => cases failed
  | some found => exact ⟨found, failed⟩

theorem part_fails {ideal : IdealSource} {which number : Nat} {kind : Kind} {dropPanics : Bool}
    {failure : Failure} (failed : (ideal.part which kind number dropPanics).1 = .failed failure) :
    dropPanics = true ∧ failure = .panic .destructorFailed := by
  simp only [part] at failed
  split at failed
  · rename_i panics
    cases failed
    exact ⟨panics.1, rfl⟩
  · cases failed

theorem step_fails (ideal : IdealSource) (call : GenericCall) {failure : Failure}
    (failed : (ideal.step call).1 = .failed failure) :
    ∃ cause, failure = .panic cause ∧ call.Panics cause := by
  cases call with
  | construct kind value dropPanics =>
    simp only [step] at failed
    split at failed <;> cases failed
  | constructSlice kind values stop =>
    simp only [step] at failed
    split at failed
    · split at failed
      · cases failed
      · rename_i short
        cases failed
        obtain ⟨position, same, inside⟩ := World.stop_of_short short
        exact ⟨_, rfl, same ▸ .clone kind inside⟩
    · cases failed
  | read which index =>
    obtain ⟨idealItem, failed⟩ := elim_failed failed
    obtain ⟨value, failed⟩ := elim_failed failed
    cases failed
  | write which index value =>
    obtain ⟨idealItem, failed⟩ := elim_failed failed
    split at failed <;> cases failed
  | deallocate which dropPanics =>
    obtain ⟨idealItem, failed⟩ := elim_failed failed
    split at failed
    · obtain ⟨rfl, same⟩ := part_fails failed
      exact ⟨_, same, .destructor which⟩
    · cases failed
  | deallocateSlice which dropPanics =>
    obtain ⟨idealItem, failed⟩ := elim_failed failed
    obtain ⟨rfl, same⟩ := part_fails failed
    exact ⟨_, same, .destructors which⟩

theorem run_fails (ideal : IdealSource) (program : List GenericCall) {failure : Failure}
    (failed : .failed failure ∈ (ideal.run program).1) :
    ∃ call ∈ program, ∃ cause, failure = .panic cause ∧ call.Panics cause := by
  induction program generalizing ideal with
  | nil => cases failed
  | cons call rest ih =>
    rcases List.mem_cons.mp failed with now | later
    · exact ⟨call, List.mem_cons_self, ideal.step_fails call now.symm⟩
    · obtain ⟨other, member, panics⟩ := ih _ later
      exact ⟨other, List.mem_cons_of_mem _ member, panics⟩

end IdealSource

end ChunkArena
