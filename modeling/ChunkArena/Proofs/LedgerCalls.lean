import ChunkArena.Proofs.WorldSoundness

/-!
The other calls keep the ledger too: growing an array, writing to it, giving memory up, taking
snapshots, rewinding and releasing. Rewinding to a snapshot takes back the extents since then; with
the last chunk gone, everything is taken back.
-/

namespace ChunkArena

namespace Holding

def grown (holding : Holding) (clock new : Nat) : Holding :=
  { holding with
    extent := ⟨clock, new⟩
    earlier := holding.extents
    contents := fun i => if i < holding.length then holding.contents i else none }

def enlarged (holding : Holding) (clock new : Nat) : Except Failure Bool → Holding
  | .ok true => holding.grown clock new
  | _ => holding

def written (holding : Holding) (index : Nat) (value : Value) : Holding :=
  { holding with contents := fun i => if i = index then some value else holding.contents i }

def forgotten (holding : Holding) : Holding := { holding with contents := fun _ => none }

def spoiled (holding : Holding) (start count : Nat) : Holding :=
  { holding with
    contents := fun i =>
      if holding.start + i * holding.kind.size < start + count ∧
          start < holding.start + (i + 1) * holding.kind.size then none
      else holding.contents i }

/-- With the extent that it had at a time, if it was there then. -/
def before? (holding : Holding) (time : Nat) : Option Holding :=
  match holding.extents.filter fun e => e.since < time with
  | [] => none
  | extent :: earlier => some { holding with extent := extent, earlier := earlier }

def undo (owner time : Nat) (holding : Holding) : Option Holding :=
  if holding.owner = owner then holding.before? time else some holding

theorem undo_eq_some {owner time : Nat} {holding left : Holding}
    (kept : holding.undo owner time = some left) :
    (∃ extent earlier, left = { holding with extent := extent, earlier := earlier }) ∧
      (∀ e ∈ left.extents, e ∈ holding.extents) ∧
      (holding.owner = owner → ∀ e ∈ left.extents, e.since < time) := by
  unfold undo at kept
  split at kept
  · unfold before? at kept
    split at kept
    · cases kept
    · rename_i extent earlier same
      cases kept
      have member (e : Extent) (inside : e ∈ extent :: earlier) :
          e ∈ holding.extents ∧ e.since < time := by
        rw [← same] at inside
        simpa using inside
      exact ⟨⟨extent, earlier, rfl⟩, fun e inside => (member e inside).1,
        fun _ e inside => (member e inside).2⟩
  · rename_i other
    cases kept
    exact ⟨⟨holding.extent, holding.earlier, rfl⟩, fun e inside => inside,
      fun own => absurd own other⟩

end Holding

theorem perm_modify {α : Type} {list : List α} {k : Nat} {item : α} (found : list[k]? = some item) :
    ∃ rest, list.Perm (item :: rest) ∧ ∀ f : α → α, (list.modify k f).Perm (f item :: rest) := by
  obtain ⟨inside, same⟩ := List.getElem?_eq_some_iff.mp found
  refine ⟨list.take k ++ list.drop (k + 1), ?_, ?_⟩
  · have whole : list.take k ++ item :: list.drop (k + 1) = list := by
      rw [← same, ← List.drop_eq_getElem_cons inside, List.take_append_drop]
    have moved : (list.take k ++ item :: list.drop (k + 1)).Perm
        (item :: (list.take k ++ list.drop (k + 1))) := List.perm_middle
    rwa [whole] at moved
  · intro f
    rw [List.modify_eq_take_cons_drop inside, same]
    exact List.perm_middle

namespace Kept

variable {world : World} {holdings : List Holding} {saves : List Saved} {clock : Nat}

theorem undo (kept : Kept world holdings saves clock) (owner time : Nat) :
    Kept world (holdings.filterMap (Holding.undo owner time)) saves clock := by
  refine ⟨⟨kept.settled.sound, ?_, ?_, ?_, kept.settled.past⟩, ?_⟩
  · intro plot member
    obtain ⟨left, present, rfl⟩ := List.mem_map.mp member
    obtain ⟨holding, inside, undone⟩ := List.mem_filterMap.mp present
    obtain ⟨⟨extent, earlier, rfl⟩, fewer, _⟩ := Holding.undo_eq_some undone
    obtain ⟨home, found, everywhere⟩ := kept.settled.secured _ (List.mem_map_of_mem inside)
    refine ⟨home, found, ?_⟩
    intro e part
    obtain ⟨position, secured⟩ := everywhere e (fewer e part)
    exact ⟨position, secured.holds, secured.saved⟩
  · intro plot member
    obtain ⟨left, present, rfl⟩ := List.mem_map.mp member
    obtain ⟨holding, inside, undone⟩ := List.mem_filterMap.mp present
    obtain ⟨⟨extent, earlier, rfl⟩, _⟩ := Holding.undo_eq_some undone
    exact kept.settled.aligned holding.toPlot (List.mem_map_of_mem inside)
  · rw [List.pairwise_map, List.pairwise_filterMap]
    refine (List.pairwise_map.mp kept.settled.apart).imp ?_
    intro a b apart left undone left' undone'
    obtain ⟨⟨extent, earlier, rfl⟩, fewer, _⟩ := Holding.undo_eq_some undone
    obtain ⟨⟨extent', earlier', rfl⟩, fewer', _⟩ := Holding.undo_eq_some undone'
    intro e part f part'
    exact apart e (fewer e part) f (fewer' f part')
  · intro left present
    obtain ⟨holding, inside, undone⟩ := List.mem_filterMap.mp present
    obtain ⟨⟨extent, earlier, rfl⟩, fewer, _⟩ := Holding.undo_eq_some undone
    intro e part
    exact kept.intact holding inside e (fewer e part)

theorem save (kept : Kept world holdings saves clock) {owner : Nat} {arena : Arena}
    (found : world.arena? owner = some arena) :
    Kept world holdings (⟨owner, arena.snapshot, clock⟩ :: saves) clock := by
  refine ⟨⟨kept.settled.sound, ?_, kept.settled.aligned, kept.settled.apart, ?_⟩, kept.intact⟩
  · intro plot member
    obtain ⟨home, present, everywhere⟩ := kept.settled.secured plot member
    refine ⟨home, present, ?_⟩
    intro e inside
    obtain ⟨position, secured⟩ := everywhere e inside
    refine ⟨position, secured.holds, ?_⟩
    intro saved listed own older
    rcases List.mem_cons.mp listed with same | before
    · rw [same] at own ⊢
      simp only at own
      rw [← own, found] at present
      cases present
      have consistent := (kept.settled.sound owner arena found).consistent
      have height := secured.holds.below_cursor
      have names := consistent.chunk_eq
      cases stack : arena.chunks with
      | nil =>
        have inside := secured.holds.lt_length
        rw [stack] at inside
        exact absurd inside (Nat.not_lt_zero _)
      | cons chunk rest =>
        rw [stack, topHandle_cons] at names
        rw [stack, List.length_cons, Nat.add_sub_cancel] at height
        exact ⟨_, names, height⟩
    · exact secured.saved saved before own older
  · intro saved listed
    rcases List.mem_cons.mp listed with same | before
    · rw [same]
    · exact kept.settled.past saved before

theorem addArena (kept : Kept world holdings saves clock) (builder : Builder) (skew : Nat) :
    Kept (world.addArena builder.build skew) holdings saves clock := by
  refine ⟨⟨kept.settled.sound.addArena builder skew, ?_, kept.settled.aligned, kept.settled.apart,
    kept.settled.past⟩, kept.intact⟩
  intro plot member
  obtain ⟨home, present, everywhere⟩ := kept.settled.secured plot member
  exact ⟨home, World.arena?_addArena_of_some present builder.build skew, everywhere⟩

theorem saveElsewhere (kept : Kept world holdings saves clock) {saved : Saved}
    (elsewhere : ∀ holding ∈ holdings, holding.owner ≠ saved.owner) (past : saved.time ≤ clock) :
    Kept world holdings (saved :: saves) clock := by
  refine ⟨⟨kept.settled.sound, ?_, kept.settled.aligned, kept.settled.apart, ?_⟩, kept.intact⟩
  · intro plot member
    obtain ⟨holding, present, rfl⟩ := List.mem_map.mp member
    obtain ⟨home, found, everywhere⟩ := kept.settled.secured _ member
    refine ⟨home, found, ?_⟩
    intro e inside
    obtain ⟨position, secured⟩ := everywhere e inside
    refine ⟨position, secured.holds, ?_⟩
    intro other listed own older
    rcases List.mem_cons.mp listed with same | before
    · exact absurd own.symm (by rw [same]; exact elsewhere holding present)
    · exact secured.saved other before own older
  · intro other listed
    rcases List.mem_cons.mp listed with same | before
    · rw [same]
      exact past
    · exact kept.settled.past other before

theorem fewerSaves (kept : Kept world holdings saves clock) {fewer : List Saved}
    (part : fewer ⊆ saves) : Kept world holdings fewer clock := by
  refine ⟨⟨kept.settled.sound, ?_, kept.settled.aligned, kept.settled.apart, ?_⟩, kept.intact⟩
  · intro plot member
    obtain ⟨home, found, everywhere⟩ := kept.settled.secured plot member
    refine ⟨home, found, ?_⟩
    intro e inside
    obtain ⟨position, secured⟩ := everywhere e inside
    exact ⟨position, secured.holds, fun saved listed => secured.saved saved (part listed)⟩
  · exact fun saved listed => kept.settled.past saved (part listed)

theorem steady (kept : Kept world holdings saves clock) {owner : Nat} {arena next : Arena}
    (found : world.arena? owner = some arena) {effects : List Effect}
    (changes : Arena.Changes world.profile arena effects next)
    (provided : Provided (world.after owner effects next).traffic)
    (chunks : next.chunks = arena.chunks) (cursor : next.cursor = arena.cursor)
    (silent : ∀ effect ∈ effects, ∀ address, ¬ effect.Fills address) :
    Kept (world.after owner effects next) holdings saves clock := by
  refine kept.change found changes provided (lies_under_cursor _ saves owner arena) ?_ ?_
  · intro position start finish holds _
    exact ⟨by rw [chunks]; exact holds.inside, by rw [chunks, cursor]; exact holds.below⟩
  · intro effect member address fills
    exact absurd fills (silent effect member address)

theorem stretch (kept : Kept world holdings saves clock) {owner : Nat} {arena : Arena}
    (found : world.arena? owner = some arena) {start old new elementSize : Nat}
    (stretches : arena.Stretches start old new elementSize)
    (provided : Provided (world.after owner
      (world.profile.handOut (start + old * elementSize) (new * elementSize - old * elementSize))
      (arena.movedTo (start + new * elementSize))).traffic) :
    Kept (world.after owner
        (world.profile.handOut (start + old * elementSize)
          (new * elementSize - old * elementSize))
        (arena.movedTo (start + new * elementSize)))
      holdings saves clock := by
  have longer : old * elementSize ≤ new * elementSize :=
    Nat.mul_le_mul_right elementSize stretches.ordered
  have ends := stretches.ends
  have room := stretches.room
  have reached : start + old * elementSize + (new * elementSize - old * elementSize) =
      start + new * elementSize := by omega
  have moved := kept.advance found stretches.some_chunk (Nat.le_of_eq ends.symm)
    (by rw [reached]; exact room) (by rw [reached]; exact provided)
  rwa [reached] at moved

theorem grow {holding : Holding} (kept : Kept world (holding :: holdings) saves clock)
    {arena : Arena} (found : world.arena? holding.owner = some arena) {new : Nat}
    (stretches : arena.Stretches holding.start holding.length new holding.kind.size)
    (provided : Provided (world.after holding.owner
      (world.profile.handOut (holding.start + holding.length * holding.kind.size)
        (new * holding.kind.size - holding.length * holding.kind.size))
      (arena.movedTo (holding.start + new * holding.kind.size))).traffic) :
    Kept (world.after holding.owner
        (world.profile.handOut (holding.start + holding.length * holding.kind.size)
          (new * holding.kind.size - holding.length * holding.kind.size))
        (arena.movedTo (holding.start + new * holding.kind.size)))
      (holding.grown clock new :: holdings) saves clock := by
  have before := provided_of_suffix provided (world.after_traffic_suffix holding.owner _ _)
  have consistent := (kept.settled.sound holding.owner arena found).consistent
  have ends := stretches.ends
  have room := stretches.room
  have moved := kept.stretch found stretches provided
  obtain ⟨home, present, everywhere⟩ := moved.settled.secured holding.toPlot List.mem_cons_self
  have apart := List.pairwise_cons.mp moved.settled.apart
  have older := moved.sublist (List.sublist_cons_self holding holdings)
  refine ⟨older.settled.insert ?_ (moved.settled.aligned holding.toPlot List.mem_cons_self) ?_, ?_⟩
  · refine ⟨home, present, ?_⟩
    intro e inside
    rcases List.mem_cons.mp inside with now | earlier
    · rw [now]
      refine ⟨arena.chunks.length - 1, ?_, ?_⟩
      · rw [world.arena?_after_self holding.owner found] at present
        cases present
        exact stretches.holds consistent
      · intro saved listed _ later
        exact absurd later (Nat.not_lt.mpr (kept.settled.past saved listed))
    · obtain ⟨position, secured⟩ := everywhere e earlier
      exact ⟨position, secured.holds, secured.saved⟩
  · intro other member e inside f inside' address covers
    rcases List.mem_cons.mp inside with now | earlier
    · rw [now] at covers
      obtain ⟨low, high⟩ := covers
      simp only [Holding.grown, Plot.finish] at low high
      -- The bytes that are not new were apart before; the new ones were free above the cursor.
      by_cases old : address < holding.start + holding.length * holding.kind.size
      · exact apart.1 other member holding.extent List.mem_cons_self f inside' address ⟨low, old⟩
      · obtain ⟨chunk, place, bottom, limit⟩ :=
          Arena.top_of_ne_nil consistent stretches.some_chunk
        exact kept.settled.uncovered before found (lies_under_cursor _ saves holding.owner arena)
          ⟨_, chunk, place, by omega, by omega, Or.inr ⟨rfl, by omega⟩⟩ other
          (List.mem_cons_of_mem _ member) f inside'
    · exact apart.1 other member e earlier f inside' address covers
  · intro other member
    rcases List.mem_cons.mp member with same | rest
    · rw [same]
      intro e inside i bound value known
      simp only [Holding.grown] at known ⊢
      split at known
      · rename_i old
        exact moved.intact holding List.mem_cons_self holding.extent List.mem_cons_self i old value
          known
      · cases known
    · exact older.intact other rest

end Kept

theorem Env.Closes.fills {env : Env} {arena : Arena} {effects : List Effect}
    {reply : Reply Unit} (closes : env.Closes arena effects reply) {effect : Effect}
    (member : effect ∈ reply.effects) {address : Nat} (fills : effect.Fills address) :
    effect ∈ effects := by
  cases closes with
  | silent => exact member
  | told entry | failed entry =>
    rcases List.mem_append.mp member with base | told
    · exact base
    · rw [List.mem_singleton.mp told] at fills
      exact fills.elim

namespace Arena

theorem Rewinds.not_fills {arena : Arena} {env : Env} {snapshot : Snapshot} {reply : Reply Unit}
    (rewinds : arena.Rewinds env snapshot reply) (same : reply.arena = arena) {effect : Effect}
    (member : effect ∈ reply.effects) (address : Nat) : ¬ effect.Fills address := by
  intro fills
  cases rewinds with
  | refused cause answer =>
    rw [answer] at member
    cases member
  | unwarned handle cause names gone later loud answer =>
    rw [answer] at member
    rw [List.mem_singleton.mp member] at fills
    exact fills
  | bare names closes =>
    have stack : [] = arena.chunks := congrArg Arena.chunks (closes.arena_eq.symm.trans same)
    have base := closes.fills member fills
    rw [← stack] at base
    cases base
  | released handle names gone later closes =>
    have stack : [] = arena.chunks := congrArg Arena.chunks (closes.arena_eq.symm.trans same)
    have base := closes.fills member fills
    rw [← stack] at base
    rw [List.mem_singleton.mp base] at fills
    exact fills
  | live handle chunk names live limit low high closes =>
    have back := closes.arena_eq.symm.trans same
    have stack : arena.chunks.drop (arena.chunks.length - (handle.index + 1)) = arena.chunks :=
      congrArg Arena.chunks back
    have cursor : snapshot.cursor = arena.cursor := congrArg Arena.cursor back
    have height := (liveChunk?_eq_some live).2.2
    have none_above : arena.chunks.length - (handle.index + 1) = 0 := by
      have lengths := congrArg List.length stack
      rw [List.length_drop] at lengths
      omega
    rcases List.mem_append.mp (closes.fills member fills) with cleared | surrendered
    · obtain ⟨used, marked, reach⟩ := mem_clearing cleared
      have bounds := Profile.fills_of_mem_mark marked fills
      rw [cursor] at names reach bounds
      simp only [clearing, cursor, names, ↓reduceIte, Nat.lt_irrefl] at cleared
      cases cleared
    · rw [above, none_above] at surrendered
      cases surrendered

end Arena

namespace World

def hasChunks (world : World) (owner : Nat) : Bool :=
  match world.arena? owner with
  | some arena => !arena.chunks.isEmpty
  | none => false

theorem hasChunks_eq_false {world : World} {owner : Nat} {arena : Arena}
    (found : world.arena? owner = some arena) (empty : arena.chunks = []) :
    world.hasChunks owner = false := by
  simp [hasChunks, found, empty]

end World

def remaining (world : World) (holdings : List Holding) : List Holding :=
  holdings.filter fun holding => world.hasChunks holding.owner

namespace Kept

variable {world : World} {holdings : List Holding} {saves : List Saved} {clock : Nat}

theorem leave (kept : Kept world holdings saves clock) {owner : Nat} {arena next : Arena}
    (found : world.arena? owner = some arena) {effects : List Effect}
    (changes : Arena.Changes world.profile arena effects next)
    (provided : Provided (world.after owner effects next).traffic) {left : List Holding}
    (fewer : left.Sublist holdings) (others : ∀ holding ∈ left, holding.owner ≠ owner)
    (fills : ∀ effect ∈ effects, ∀ address, effect.Fills address → arena.Beyond 0 0 address) :
    Kept (world.after owner effects next) left saves clock := by
  have remains := kept.sublist fewer
  have under : LiesUnder (left.map Holding.toPlot) saves owner arena 0 0 := by
    intro plot member own
    obtain ⟨holding, present, rfl⟩ := List.mem_map.mp member
    exact absurd own (others holding present)
  -- None of the holdings that remain is in this arena, so nothing has to stay in it.
  refine ⟨remains.settled.change found changes provided ?_, ?_⟩
  · intro plot member own
    obtain ⟨holding, present, rfl⟩ := List.mem_map.mp member
    exact absurd own (others holding present)
  · have before := provided_of_suffix provided (world.after_traffic_suffix owner effects next)
    intro holding member
    refine (remains.intact holding member).of_read ?_
    intro e inside address covered
    apply World.read_after
    intro effect present filled
    exact remains.settled.uncovered before found under (fills effect present address filled)
      holding.toPlot (List.mem_map_of_mem member) e inside covered

theorem empty (kept : Kept world holdings saves clock) {owner : Nat} {arena next : Arena}
    (found : world.arena? owner = some arena) {effects : List Effect}
    (changes : Arena.Changes world.profile arena effects next)
    (provided : Provided (world.after owner effects next).traffic) (gone : next.chunks = [])
    (fills : ∀ effect ∈ effects, ∀ address, effect.Fills address →
      effect ∈ arena.chunks.flatMap world.profile.surrender) :
    Kept (world.after owner effects next) (remaining (world.after owner effects next) holdings)
      saves clock := by
  have bare := World.hasChunks_eq_false (world.arena?_after_self owner found effects next) gone
  refine kept.leave found changes provided List.filter_sublist ?_ ?_
  · intro holding member own
    have chunks := (List.mem_filter.mp member).2
    rw [own, bare] at chunks
    cases chunks
  · intro effect present address filled
    exact Arena.beyond_of_empty (fills effect present address filled) filled

theorem fallBack (kept : Kept world holdings saves clock) {saved : Saved}
    (listed : saved ∈ saves) {arena : Arena} (found : world.arena? saved.owner = some arena)
    {handle : Handle} {chunk : Chunk} (names : saved.snapshot.cursor.chunk = some handle)
    (live : arena.liveChunk? handle = some chunk)
    (limit : saved.snapshot.cursor.limit = chunk.finish)
    (low : chunk.start ≤ saved.snapshot.cursor.next) {effects : List Effect} {next : Arena}
    (changes : Arena.Changes world.profile arena effects next)
    (provided : Provided (world.after saved.owner effects next).traffic)
    (back : next = arena.fallenBack saved.snapshot.cursor (handle.index + 1))
    (fills : ∀ effect ∈ effects, ∀ address, effect.Fills address →
      effect ∈ arena.clearing world.profile saved.snapshot.cursor handle ++
        (arena.above (handle.index + 1)).flatMap world.profile.surrender) :
    Kept (world.after saved.owner effects next)
      (holdings.filterMap (Holding.undo saved.owner saved.time)) saves clock := by
  have consistent := (kept.settled.sound saved.owner arena found).consistent
  have undone := kept.undo saved.owner saved.time
  have older : ∀ plot ∈ (holdings.filterMap (Holding.undo saved.owner saved.time)).map
      Holding.toPlot, plot.owner = saved.owner → ∀ e ∈ plot.extents, e.since < saved.time := by
    intro plot member own e inside
    obtain ⟨left, present, rfl⟩ := List.mem_map.mp member
    obtain ⟨holding, _, same⟩ := List.mem_filterMap.mp present
    obtain ⟨⟨extent, earlier, rfl⟩, _, recent⟩ := Holding.undo_eq_some same
    exact recent own e inside
  refine undone.change found changes provided (lies_under_snapshot listed names arena older) ?_ ?_
  · intro position start finish holds height
    rw [back]
    exact holds.fallenBack live height
  · intro effect member address filled
    exact Arena.beyond_of_fallBack consistent live limit low (fills effect member address filled)
      filled

theorem rewound (kept : Kept world holdings saves clock) {saved : Saved} (listed : saved ∈ saves)
    {arena : Arena} (found : world.arena? saved.owner = some arena) {env : Env}
    (profile : env.profile = world.profile) {reply : Reply Unit}
    (rewinds : arena.Rewinds env saved.snapshot reply)
    (provided : Provided (world.after saved.owner reply.effects reply.arena).traffic)
    (accepted : ∀ cause effects, reply ≠ ⟨.error (.panic cause), arena, effects⟩) :
    Kept (world.after saved.owner reply.effects reply.arena)
      (remaining (world.after saved.owner reply.effects reply.arena)
        (holdings.filterMap (Holding.undo saved.owner saved.time))) saves clock := by
  have undone := kept.undo saved.owner saved.time
  have changes := rewinds.changes
  rw [profile] at changes
  cases rewinds with
  | refused cause answer | unwarned handle cause names gone later loud answer =>
    exact absurd answer (accepted cause _)
  | bare names closes =>
    refine undone.empty found changes provided (by rw [closes.arena_eq]; rfl) ?_
    rw [← profile]
    exact fun effect member address fills => closes.fills member fills
  | live handle chunk names live limit low high closes =>
    refine Kept.sublist ?_ List.filter_sublist
    refine kept.fallBack listed found names live limit low changes provided closes.arena_eq ?_
    rw [← profile]
    exact fun effect member address fills => closes.fills member fills
  | released handle names gone later closes =>
    refine undone.empty found changes provided (by rw [closes.arena_eq]; rfl) ?_
    rw [← profile]
    intro effect member address fills
    rcases List.mem_cons.mp (closes.fills member fills) with told | surrendered
    · rw [told] at fills
      exact fills.elim
    · exact surrendered

end Kept

end ChunkArena
