import ChunkArena.Proofs.SnapshotIntervals
import ChunkArena.Proofs.RequestMarks

/-!
The marks of debug builds. Clients make any calls with any arguments, and write to bytes that an
arena occupies; what they hold is always among these. A guard that goes away is one rewind to where
it was made. The system delivers blocks with any bytes in them. Whatever happens, a byte of the
newest chunk that is not below the cursor is discarded, or it was never handed out and is as it was
delivered. What is handed out blank has the mark for that all over. A rewind to a chunk that is
still there discards what was handed out above its position, and touches nothing below. And every
block that goes back to the system is discarded as a whole at that moment; only a block that came
after the last serial number goes back at once, as it came.
-/

namespace ChunkArena

section Returns

/-- Whether every block that an arena gave back was discarded as a whole at that moment, unless the
arena had obtained 2^64 blocks by then, after which serial numbers have run out. -/
def Discarded : List Traffic → Prop
  | [] => True
  | entry :: older =>
      (∀ owner discarded, entry.owner = some owner → entry.passage = .returned discarded →
        discarded = true ∨ wordLimit ≤ obtainedBy owner older) ∧ Discarded older

namespace World

variable {owner : Nat}

theorem discarded_perform {world : World} (sofar : Discarded world.traffic) {effect : Effect}
    (stays : ∀ chunk, effect ≠ .giveBack chunk) :
    Discarded (perform owner world effect).traffic := by
  cases effect with
  | obtain chunk => exact ⟨fun _ _ _ returned => (nomatch returned), sofar⟩
  | giveBack chunk => exact absurd rfl (stays chunk)
  | fill start count byte => exact sofar
  | report label entry => exact sofar

theorem discarded_foldl {effects : List Effect}
    (stays : ∀ effect ∈ effects, ∀ chunk, effect ≠ .giveBack chunk) {world : World}
    (sofar : Discarded world.traffic) :
    Discarded (effects.foldl (perform owner) world).traffic := by
  induction effects generalizing world with
  | nil => exact sofar
  | cons effect rest ih =>
    exact ih (fun e member => stays e (List.mem_cons_of_mem _ member))
      (discarded_perform sofar (stays effect List.mem_cons_self))

theorem discarded_surrender {profile : Profile} (strict : profile.checks = true)
    (gone : List Chunk) {world : World} (sofar : Discarded world.traffic) :
    Discarded ((gone.flatMap profile.surrender).foldl (perform owner) world).traffic := by
  induction gone generalizing world with
  | nil => exact sofar
  | cons chunk rest ih =>
    rw [List.flatMap_cons, List.foldl_append]
    apply ih
    have marked : (world.memory.fill chunk.start chunk.capacity discardedByte).allEqual chunk.start
        discardedByte chunk.capacity = true := by
      rw [Memory.allEqual_iff]
      exact fun address low high => Memory.read_fill_inside _ discardedByte low high
    simp only [Profile.surrender, Profile.discard, Profile.mark, strict, ↓reduceIte,
      List.cons_append, List.nil_append, List.foldl_cons, List.foldl_nil, perform, marked]
    refine ⟨?_, sofar⟩
    intro _ discarded _ returned
    cases returned
    exact Or.inl rfl

theorem not_giveBack_of_mark {profile : Profile} {byte : UInt8} {start count : Nat}
    {effect : Effect} (member : effect ∈ profile.mark byte start count) (chunk : Chunk) :
    effect ≠ .giveBack chunk := by
  rw [Profile.eq_of_mem_mark member]
  nofun

theorem Step.discarded {first last : World} (step : Step first last) (sound : first.Sound)
    (strict : first.profile.checks = true) (sofar : Discarded first.traffic) :
    Discarded last.traffic := by
  cases step with
  | outside | arrive | leave => exact sofar
  | @change owner arena next effects found change =>
    have start : Discarded (first.replace owner next).traffic := sofar
    cases change with
    | report | hold | extend => exact discarded_foldl (by simp) start
    | mark | advance => exact discarded_foldl (fun _ => not_giveBack_of_mark) start
    | bounce chunk nonempty _ full =>
      have numbered := (sound owner arena found).numbered
      have obtained :
          Discarded (perform owner (first.replace owner arena) (.obtain chunk)).traffic :=
        discarded_perform start (by simp)
      refine ⟨?_, obtained⟩
      intro other discarded own _
      cases own
      have one_more : obtainedBy owner (chunk.entry owner :: first.traffic) =
          obtainedBy owner first.traffic + 1 := by
        simp [obtainedBy, Chunk.entry]
      right
      change wordLimit ≤ obtainedBy owner (chunk.entry owner :: first.traffic)
      omega
    | fallBack saved handle chunk names live limit low high =>
      rw [after, List.foldl_append]
      refine discarded_surrender strict _ (discarded_foldl ?_ start)
      intro effect member
      obtain ⟨used, marked, _⟩ := Arena.mem_clearing member
      exact not_giveBack_of_mark marked
    | empty => exact discarded_surrender strict arena.chunks start

theorem StepSequence.discarded {first last : World} (sequence : StepSequence first last)
    (soundIf : first.SoundIfProvided)
    (strict : first.profile.checks = true) (provided : Provided last.traffic)
    (sofar : Discarded first.traffic) : Discarded last.traffic := by
  induction sequence with
  | refl => exact sofar
  | @tail mid last sequence step ih =>
    have before := provided_of_suffix provided step.traffic_suffix
    have profile := StepSequence.profile sequence
    exact step.discarded (StepSequence.soundIf sequence soundIf before)
      (by rw [profile]; exact strict)
      (ih before)

end World

end Returns

def Grant.range (grant : Grant) : Nat × Nat := (grant.start, grant.length * grant.kind.size)

namespace Action

def tail (start old new elementSize : Nat) : Except Failure Bool → List (Nat × Nat)
  | .ok true => [(start + old * elementSize, new * elementSize - old * elementSize)]
  | _ => []

def hands (world : World) : Action → List (Nat × Nat)
  | place owner request => (request.serve world owner).1.map Grant.range
  | grow owner start old new elementSize =>
      tail start old new elementSize (world.grow owner start old new elementSize).1
  | _ => []

def blanks (world : World) : Action → List (Nat × Nat)
  | place owner request =>
      ((request.serve world owner).1.filter (·.values.isEmpty)).map Grant.range
  | action => action.hands world

def Confined (world : World) : Action → Prop
  | write start bytes => ∀ offset < bytes.length, world.Occupied (start + offset)
  | _ => True

instance (world : World) : (action : Action) → Decidable (action.Confined world)
  | write start bytes =>
      inferInstanceAs (Decidable (∀ offset < bytes.length, world.Occupied (start + offset)))
  | create .. | place .. | grow .. | dispose .. | rewind .. | disable _ | enable _ | release _
  | drop _ | log _ => .isTrue trivial

end Action

theorem Kept.occupied {world : World} {holdings : List Holding} {saves : List Saved} {clock : Nat}
    (kept : Kept world holdings saves clock) {holding : Holding} (member : holding ∈ holdings)
    {extent : Extent} (part : extent ∈ holding.extents) {address : Nat}
    (covers : holding.Covers extent address) : world.Occupied address := by
  obtain ⟨arena, found, everywhere⟩ := kept.settled.secured _ (List.mem_map_of_mem member)
  obtain ⟨position, secured⟩ := everywhere extent part
  exact ⟨holding.owner, arena, found, secured.holds.occupies covers.1 covers.2⟩

namespace World

section Actions

variable {world : World}

theorem Sweeps.congr {other : World} (arenas : ∀ owner, other.arena? owner = world.arena? owner)
    (memory : ∀ address, ¬ world.Occupied address →
      other.memory.read address = world.memory.read address) : Sweeps world other := by
  intro address free
  have before : ¬ world.Occupied address := by
    rintro ⟨owner, arena, found, occupies⟩
    exact free ⟨owner, arena, (arenas owner).trans found, occupies⟩
  exact Or.inr ⟨memory address before, before⟩

theorem Sweeps.vacated (world : World) {owner : Nat} (bare : world.chunks owner = []) :
    Sweeps world (world.vacated owner) := by
  intro address free
  refine Or.inr ⟨rfl, ?_⟩
  rintro ⟨other, arena, found, occupies⟩
  by_cases own : other = owner
  · subst own
    obtain ⟨chunk, member, _⟩ := occupies.in_chunk
    rw [← chunks_of_some found, bare] at member
    cases member
  · exact free ⟨other, arena, (arena?_vacated_other world own).trans found, occupies⟩

/-- Every action sweeps. -/
theorem act_sweeps (sound : world.Sound) (strict : world.profile.checks = true) {action : Action}
    (confined : action.Confined world) (provided : Provided (world.act action).traffic) :
    Sweeps world (world.act action) := by
  have before := provided_of_suffix provided (world.act_traffic_suffix action)
  cases action with
  | create builder skew =>
    intro address free
    refine Or.inr ⟨rfl, ?_⟩
    rintro ⟨owner, arena, found, occupies⟩
    exact free ⟨owner, arena, arena?_addArena_of_some found builder.build skew, occupies⟩
  | place owner request =>
    exact (Handed.serve sound strict owner request provided).marksGrants.sweeps
  | grow owner start old new elementSize =>
    exact .onArena strict sound before owner fun _ consistent _ env =>
      Arena.grow_changes consistent env start old new elementSize
  | dispose owner depth address disposal =>
    simp only [World.act] at provided ⊢
    obtain ⟨kind, change, ⟨failure, _, stopped⟩ | ⟨layout, _, done⟩⟩ :=
      dispose_cases world owner depth address disposal
    · rw [stopped, count_eq]
      exact .refl world
    · have counted : (world.count kind change).Sound ∧
          (world.count kind change).profile.checks = true ∧
          Provided (world.count kind change).traffic ∧ Sweeps world (world.count kind change) := by
        rw [count_eq]
        exact ⟨sound.congr (fun _ => rfl) rfl rfl, strict, before,
          .congr (fun _ => rfl) fun _ _ => rfl⟩
      obtain ⟨sound', strict', before', alike⟩ := counted
      rw [done]
      exact alike.trans (.onArena strict' sound' before' owner fun arena _ _ env =>
        Arena.deallocate_changes arena env address layout)
  | write start bytes =>
    refine .congr (fun _ => rfl) fun address free => Memory.read_store_outside _ ?_
    by_contra within
    have occupied := confined (address - start) (by omega)
    rw [Nat.add_sub_cancel' (by omega)] at occupied
    exact free occupied
  | rewind owner snapshot =>
    exact .onArena strict sound before owner fun _ consistent small env =>
      (Arena.rewind_rewinds consistent small env snapshot).changes
  | disable owner =>
    exact .onArena strict sound before owner fun arena _ _ env =>
      Arena.hold_changes (Arena.disable_holds arena env.profile)
  | enable owner =>
    exact .onArena strict sound before owner fun arena _ _ env =>
      Arena.hold_changes (Arena.enable_holds arena env.profile)
  | release owner =>
    exact .onArena strict sound before owner fun _ consistent small env =>
      Arena.release_changes consistent small env
  | drop owner =>
    have released : Sweeps world (world.release owner).2 :=
      .onArena strict sound before owner fun _ consistent small env =>
        Arena.release_changes consistent small env
    exact released.trans (.vacated _ (release_chunks sound before owner))
  | log call => exact .congr (fun _ => rfl) fun _ _ => rfl

theorem grow_fresh (sound : world.Sound) (strict : world.profile.checks = true) {owner : Nat}
    {start old new elementSize : Nat}
    (provided : Provided (world.grow owner start old new elementSize).2.traffic) :
    ∀ range ∈ Action.tail start old new elementSize (world.grow owner start old new elementSize).1,
      Fresh world (world.grow owner start old new elementSize).2 range.1 range.2 := by
  intro range member
  unfold World.grow at provided member ⊢
  cases found : world.arena? owner with
  | none =>
    obtain ⟨cause, same⟩ := onArena_none found fun arena env =>
      arena.grow env start old new elementSize
    rw [same] at member
    cases member
  | some arena =>
    obtain ⟨skew, same⟩ := onArena_some found fun arena env =>
      arena.grow env start old new elementSize
    rw [same] at provided member ⊢
    have consistent := (sound owner arena found).consistent
    rcases Arena.grow_cases consistent (world.env skew) start old new elementSize with
      ⟨result, other, refused⟩ | ⟨stretches, done⟩
    · rw [refused] at member
      unfold Action.tail at member
      split at member
      · rename_i grew
        exact absurd grew other
      · cases member
    · rw [done] at provided member ⊢
      rw [List.mem_singleton.mp member]
      have longer : old * elementSize ≤ new * elementSize :=
        Nat.mul_le_mul_right elementSize stretches.ordered
      have ends := stretches.ends
      have room := stretches.room
      have reached : start + new * elementSize =
          start + old * elementSize + (new * elementSize - old * elementSize) := by omega
      have offers : arena.Offers (start + old * elementSize)
          (new * elementSize - old * elementSize) 1 :=
        ⟨stretches.some_chunk, by omega, by omega, Nat.one_dvd _⟩
      rw [reached] at provided ⊢
      exact (MarksGrants.take sound strict found offers provided).2

theorem hands_occupied (sound : world.Sound) (strict : world.profile.checks = true)
    {action : Action} (provided : Provided (world.act action).traffic) :
    ∀ range ∈ action.hands world, ∀ address, range.1 ≤ address → address < range.1 + range.2 →
      (world.act action).Occupied address := by
  intro range member address low high
  cases action with
  | place owner request =>
    have blank : Keeps world [] [] 0 := fun _ =>
      ⟨⟨sound, by simp, by simp, List.Pairwise.nil, by simp⟩, by simp⟩
    have kept := blank.serve owner request provided
    obtain ⟨grant, granted, same⟩ := List.mem_map.mp member
    rw [← same] at low high
    exact kept.occupied (List.mem_append_left _ (List.mem_map_of_mem granted)) List.mem_cons_self
      ⟨low, high⟩
  | grow owner start old new elementSize =>
    exact (grow_fresh sound strict provided range member address low high).2.1
  | _ => cases member

theorem blanks_marked (sound : world.Sound) (strict : world.profile.checks = true)
    {action : Action} (provided : Provided (world.act action).traffic) :
    ∀ range ∈ action.blanks world, ∀ address, range.1 ≤ address → address < range.1 + range.2 →
      (world.act action).memory.read address = allocatedByte := by
  intro range member address low high
  cases action with
  | place owner request =>
    have handed := Handed.serve sound strict owner request provided
    obtain ⟨grant, blank, same⟩ := List.mem_map.mp member
    obtain ⟨granted, nothing⟩ := List.mem_filter.mp blank
    rw [← same] at low high
    exact handed.marked grant granted (List.isEmpty_iff.mp nothing) address ⟨low, high⟩
  | grow owner start old new elementSize =>
    exact (grow_fresh sound strict provided range member address low high).2.2
  | _ => cases member

theorem rewind_kept (sound : world.Sound) (provided : Provided world.traffic) {owner : Nat}
    {arena : Arena} (found : world.arena? owner = some arena) {snapshot : Snapshot}
    {handle : Handle} (names : snapshot.cursor.chunk = some handle) {chunk : Chunk}
    (live : arena.liveChunk? handle = some chunk)
    (returned : (world.rewind owner snapshot).1 = .ok ()) :
    (∃ after, (world.rewind owner snapshot).2.arena? owner = some after ∧
      after.chunks.head? = some chunk ∧ after.cursor = snapshot.cursor) ∧
      snapshot.cursor.next ≤ chunk.finish ∧
      ∀ address, ¬ arena.Beyond handle.index snapshot.cursor.next address →
        (world.rewind owner snapshot).2.memory.read address = world.memory.read address := by
  obtain ⟨skew, same⟩ := onArena_some found fun arena env => arena.rewind env snapshot
  have consistent := (sound owner arena found).consistent
  have rewinds := Arena.rewind_rewinds consistent (sound.small provided found) (world.env skew)
    snapshot
  unfold World.rewind at returned ⊢
  rw [same] at returned ⊢
  simp only at returned ⊢
  generalize arena.rewind (world.env skew) snapshot = reply at *
  cases rewinds with
  | refused cause failed | unwarned other cause names' gone later loud failed =>
    rw [failed] at returned
    cases returned
  | bare nameless closes =>
    rw [names] at nameless
    cases nameless
  | released other names' gone later closes =>
    cases names.symm.trans names'
    rw [live] at gone
    cases gone
  | live other home names' live' limit low high closes =>
    cases names.symm.trans names'
    cases live.symm.trans live'
    refine ⟨⟨reply.arena, world.arena?_after_self owner found _ _, ?_, ?_⟩, by omega, ?_⟩
    · rw [closes.arena_eq]
      simp only [Arena.fallenBack, Arena.drop_eq_cons_of_live live, List.head?_cons]
    · rw [closes.arena_eq]
      rfl
    · intro address spared
      apply world.read_after
      intro effect member fills
      exact spared (Arena.beyond_of_fallBack consistent live limit low
        (closes.fills member fills) fills)

end Actions

end World

/-- A world, and what the system delivered in each byte that was not handed out since. -/
structure HandedOut where
  world : World
  pristine : Nat → Option UInt8

/-- What happens to memory: clients act, and the system leaves any bytes outside of all blocks,
where it may deliver one later. -/
inductive MemoryEvent
  | act (action : Action)
  | deliver (start : Nat) (bytes : List UInt8)

namespace MemoryEvent

def Allowed (world : World) : MemoryEvent → Prop
  | act action => action.Confined world
  | deliver start bytes => ∀ block ∈ held world.traffic,
      start + bytes.length ≤ block.start ∨ block.start + block.layout.size ≤ start

instance (world : World) : (memoryEvent : MemoryEvent) → Decidable (memoryEvent.Allowed world)
  | act action => inferInstanceAs (Decidable (action.Confined world))
  | deliver _ _ => inferInstanceAs (Decidable (∀ block ∈ held world.traffic, _))

def blanks (world : World) : MemoryEvent → List (Nat × Nat)
  | act action => action.blanks world
  | deliver _ _ => []

end MemoryEvent

namespace HandedOut

def start (delivered : Memory) (site : Site) (logs : Logs) : HandedOut :=
  ⟨{ World.new .debug site logs with memory := delivered }, fun address => delivered.read address⟩

def act (handedOut : HandedOut) (action : Action) : HandedOut :=
  ⟨handedOut.world.act action, fun address =>
    if Untouched (action.hands handedOut.world) address then handedOut.pristine address else none⟩

def deliver (handedOut : HandedOut) (start : Nat) (bytes : List UInt8) : HandedOut :=
  let memory := handedOut.world.memory.store start bytes
  ⟨{ handedOut.world with memory := memory }, fun address =>
    if start ≤ address ∧ address < start + bytes.length then memory.read address
    else handedOut.pristine address⟩

def step (handedOut : HandedOut) (memoryEvent : MemoryEvent) : HandedOut :=
  if memoryEvent.Allowed handedOut.world then
    match memoryEvent with
    | .act action => handedOut.act action
    | .deliver start bytes => handedOut.deliver start bytes
  else handedOut

def run (handedOut : HandedOut) (memoryEvents : List MemoryEvent) : HandedOut :=
  memoryEvents.foldl step handedOut

/-- Whether a byte is discarded, or as it was delivered and never handed out since. -/
def Unused (handedOut : HandedOut) (address : Nat) : Prop :=
  handedOut.world.memory.read address = discardedByte ∨
    handedOut.pristine address = some (handedOut.world.memory.read address)

def Clean (handedOut : HandedOut) : Prop :=
  ∀ owner arena chunk, handedOut.world.arena? owner = some arena →
    arena.chunks.head? = some chunk → ∀ address, arena.cursor.next ≤ address →
      address < chunk.finish → handedOut.Unused address

structure Swept (handedOut : HandedOut) : Prop where
  sound : handedOut.world.Sound
  strict : handedOut.world.profile.checks = true
  unused : ∀ address, ¬ handedOut.world.Occupied address → handedOut.Unused address
  discarded : Discarded handedOut.world.traffic

variable {handedOut : HandedOut}

theorem start_swept (delivered : Memory) (site : Site) (logs : Logs) :
    (start delivered site logs).Swept := by
  refine ⟨?_, rfl, fun address _ => Or.inr rfl, trivial⟩
  have sound := World.new_soundIfProvided .debug site logs trivial
  exact sound.congr (fun _ => rfl) rfl rfl

theorem step_traffic_suffix (handedOut : HandedOut) (memoryEvent : MemoryEvent) :
    handedOut.world.traffic <:+ (handedOut.step memoryEvent).world.traffic := by
  unfold step
  split
  · cases memoryEvent with
    | act action => exact handedOut.world.act_traffic_suffix action
    | deliver => exact List.suffix_refl _
  · exact List.suffix_refl _

theorem Swept.act (swept : handedOut.Swept) {action : Action}
    (confined : action.Confined handedOut.world)
    (provided : Provided (handedOut.act action).world.traffic) : (handedOut.act action).Swept := by
  have soundIf : handedOut.world.SoundIfProvided := fun _ => swept.sound
  have profile := handedOut.world.act_profile action
  refine ⟨soundIf.act action provided, by rw [HandedOut.act, profile]; exact swept.strict, ?_, ?_⟩
  · intro address free
    have sweeps := World.act_sweeps swept.sound swept.strict confined provided
    rcases sweeps address free with discarded | ⟨same, before⟩
    · exact Or.inl discarded
    · have untouched : Untouched (action.hands handedOut.world) address :=
        fun range member within =>
        free (World.hands_occupied swept.sound swept.strict provided range member address within.1
          within.2)
      have unused := swept.unused address before
      rw [Unused] at unused ⊢
      simp only [HandedOut.act, untouched, ↓reduceIte, same]
      exact unused
  · exact (World.act_sequence soundIf provided).discarded soundIf swept.strict provided
      swept.discarded

theorem Swept.deliver (swept : handedOut.Swept) (start : Nat) (bytes : List UInt8) :
    (handedOut.deliver start bytes).Swept := by
  refine ⟨swept.sound.congr (fun _ => rfl) rfl rfl, swept.strict, ?_, swept.discarded⟩
  intro address free
  have unused := swept.unused address free
  rw [Unused] at unused ⊢
  simp only [HandedOut.deliver]
  split
  · exact Or.inr rfl
  · rename_i outside
    rw [Memory.read_store_outside _ (by omega)]
    exact unused

theorem Swept.step (swept : handedOut.Swept) (memoryEvent : MemoryEvent)
    (provided : Provided (handedOut.step memoryEvent).world.traffic) :
    (handedOut.step memoryEvent).Swept := by
  unfold HandedOut.step at provided ⊢
  split
  · rename_i allowed
    rw [if_pos allowed] at provided
    cases memoryEvent with
    | act action => exact swept.act allowed provided
    | deliver start bytes => exact swept.deliver start bytes
  · exact swept

theorem Swept.run (swept : handedOut.Swept) (memoryEvents : List MemoryEvent)
    (provided : Provided (handedOut.run memoryEvents).world.traffic) :
    (handedOut.run memoryEvents).Swept :=
  foldl_keeps (fun handedOut => handedOut.world.traffic) step_traffic_suffix
    (fun _ memoryEvent swept between => swept.step memoryEvent between) swept memoryEvents provided

theorem Swept.clean (swept : handedOut.Swept) (provided : Provided handedOut.world.traffic) :
    handedOut.Clean := by
  intro owner arena chunk found newest address low high
  have some_chunk : arena.chunks ≠ [] := by
    intro empty
    rw [empty] at newest
    cases newest
  have consistent := (swept.sound owner arena found).consistent
  have limit : arena.cursor.limit = chunk.finish := by
    obtain ⟨top, place, _, limit⟩ := Arena.top_of_ne_nil consistent some_chunk
    rw [reverse_getElem?_head, newest] at place
    cases place
    exact limit
  exact swept.unused address
    (swept.sound.not_occupied provided found some_chunk low (by omega))

end HandedOut

/-- What a rewind that returned made of the bytes around a chunk that was still there. -/
structure Cleared (before after : HandedOut) (arena : Arena) (handle : Handle) (chunk : Chunk)
    (saved : Cursor) : Prop where
  above : ∀ address, saved.next ≤ address → address < chunk.finish →
    before.pristine address = none → after.world.memory.read address = discardedByte
  below : ∀ address, chunk.start ≤ address → address < saved.next →
    after.world.memory.read address = before.world.memory.read address
  elsewhere : ∀ address, ¬ arena.Beyond handle.index saved.next address →
    after.world.memory.read address = before.world.memory.read address

/-- The marks on memory after an event. -/
structure Marks (before : HandedOut) (memoryEvent : MemoryEvent) (after : HandedOut) : Prop where
  clean : after.Clean
  blank : ∀ range ∈ memoryEvent.blanks before.world, ∀ address, range.1 ≤ address →
    address < range.1 + range.2 → after.world.memory.read address = allocatedByte
  cleared : ∀ owner snapshot arena handle chunk, memoryEvent = .act (.rewind owner snapshot) →
    before.world.arena? owner = some arena → snapshot.cursor.chunk = some handle →
    arena.liveChunk? handle = some chunk → (before.world.rewind owner snapshot).1 = .ok () →
    Cleared before after arena handle chunk snapshot.cursor
  discarded : Discarded after.world.traffic

namespace HandedOut

variable {before : HandedOut}

theorem Swept.blank (swept : before.Swept) {memoryEvent : MemoryEvent}
    (provided : Provided (before.step memoryEvent).world.traffic) :
    ∀ range ∈ memoryEvent.blanks before.world, ∀ address, range.1 ≤ address →
      address < range.1 + range.2 →
        (before.step memoryEvent).world.memory.read address = allocatedByte := by
  intro range member
  cases memoryEvent with
  | deliver => cases member
  | act action =>
    by_cases confined : action.Confined before.world
    · have allowed : (MemoryEvent.act action).Allowed before.world := confined
      unfold HandedOut.step at provided ⊢
      rw [if_pos allowed] at provided ⊢
      exact World.blanks_marked swept.sound swept.strict provided range member
    · cases action with
      | write => cases member
      | _ => exact absurd trivial confined

theorem Swept.cleared (swept : before.Swept) {owner : Nat} {snapshot : Snapshot}
    (provided : Provided (before.step (.act (.rewind owner snapshot))).world.traffic)
    {arena : Arena} (found : before.world.arena? owner = some arena) {handle : Handle}
    (names : snapshot.cursor.chunk = some handle) {chunk : Chunk}
    (live : arena.liveChunk? handle = some chunk)
    (returned : (before.world.rewind owner snapshot).1 = .ok ()) :
    Cleared before (before.step (.act (.rewind owner snapshot))) arena handle chunk
      snapshot.cursor := by
  have allowed : (MemoryEvent.act (.rewind owner snapshot)).Allowed before.world := trivial
  have later := swept.step _ provided
  have earlier := provided_of_suffix provided (before.step_traffic_suffix _)
  have made : before.step (.act (.rewind owner snapshot)) = before.act (.rewind owner snapshot) :=
    if_pos allowed
  rw [made] at later provided ⊢
  obtain ⟨⟨next, present, newest, cursor⟩, position, spared⟩ :=
    World.rewind_kept swept.sound earlier found names live returned
  have apart := (swept.sound owner arena found).apart
  have place := (Arena.liveChunk?_eq_some live).1
  refine ⟨?_, ?_, spared⟩
  · intro address low high handed
    have clean := later.clean provided
    rcases clean owner next chunk present newest address (by rw [cursor]; exact low) high with
      discarded | delivered
    · exact discarded
    · -- a rewind hands nothing out
      have untouched : Untouched (Action.hands before.world (.rewind owner snapshot)) address :=
        fun _ member => nomatch member
      simp only [HandedOut.act, untouched, ↓reduceIte, handed] at delivered
      cases delivered
  · intro address low high
    apply spared
    rintro ⟨q, other, place', bottom, top, beyond⟩
    by_cases same : handle.index = q
    · omega
    · have separate := Arena.reverse_apart apart place place' same
      simp only [Chunk.Apart] at separate
      omega

end HandedOut

/-- In a debug build every mark is complete and in its bounds, after any actions of any clients that
write to nothing but occupied bytes, and whatever the system delivers. Blocks beyond the 2^64 that
have serial numbers are left out. -/
theorem marks_complete (delivered : Memory) (site : Site) (logs : Logs)
    (memoryEvents : List MemoryEvent) (memoryEvent : MemoryEvent)
    (provided : Provided
      (((HandedOut.start delivered site logs).run memoryEvents).step memoryEvent).world.traffic) :
    Marks ((HandedOut.start delivered site logs).run memoryEvents) memoryEvent
      (((HandedOut.start delivered site logs).run memoryEvents).step memoryEvent) := by
  have swept := (HandedOut.start_swept delivered site logs).run memoryEvents
  generalize (HandedOut.start delivered site logs).run memoryEvents = before at *
  have swept := swept (provided_of_suffix provided (before.step_traffic_suffix memoryEvent))
  have later := swept.step memoryEvent provided
  refine ⟨later.clean provided, swept.blank provided, ?_, later.discarded⟩
  intro owner snapshot arena handle chunk same found names live returned
  subst same
  exact swept.cleared provided found names live returned

def HandedOut.place (handedOut : HandedOut) : Snapshot :=
  (handedOut.world.arena? 0).elim ⟨.empty, 0⟩ Arena.snapshot

def filledBlocks : Memory := Memory.blank.fill 0 (Nat.pow 2 50) 0x5A

def steps : List MemoryEvent :=
  [.act (.create ⟨"pairs", 32⟩ 0), .act (.place 0 (.bytes 4 4))]

def early : Snapshot := ((HandedOut.start filledBlocks pagedSite (Logs.empty none)).run steps).place

def late : Snapshot :=
  ((HandedOut.start filledBlocks pagedSite (Logs.empty none)).run
    (steps ++ [.act (.place 0 (.bytes 8 8))])).place

def strides : List MemoryEvent :=
  steps ++ [.act (.place 0 (.bytes 8 8)), .act (.write (early.cursor.next - 4) [1, 2]),
    .act (.rewind 0 early), .act (.rewind 0 late), .deliver 0 [1, 2], .act (.place 0 (.bytes 4 1))]

theorem retraced_marks :
    let before := (HandedOut.start filledBlocks pagedSite (Logs.empty none)).run strides
    let after := before.step (.act (.rewind 0 early))
    Marks before (.act (.rewind 0 early)) after ∧
      (after.world.chunks 0).map (fun chunk =>
          after.world.memory.load chunk.start chunk.capacity) =
        [[1, 2, 0xAB, 0xAB] ++ List.replicate 16 0xCD ++ List.replicate 12 0x5A] := by
  have provided : Provided (((HandedOut.start filledBlocks pagedSite (Logs.empty none)).run
      strides).step (.act (.rewind 0 early))).world.traffic := by decide +kernel
  exact
    ⟨marks_complete filledBlocks pagedSite (Logs.empty none) strides
      (.act (.rewind 0 early)) provided,
    by decide +kernel⟩

end ChunkArena
