import ChunkArena.Proofs.RequestEffects

/-!
The ledger of what clients hold. A plot is a place that an arena handed out, with every length it
has had and since when: a rewind can take a growth back and leave the rest. A holding is a plot
with the elements that are known to be stored there. The arguments compare heights, that is the
position of a chunk in the stack together with an address in it; serial numbers play no part.
-/

namespace ChunkArena

structure Extent where
  since : Nat
  length : Nat

structure Plot where
  owner : Nat
  kind : Kind
  align : Nat
  start : Nat
  extent : Extent
  earlier : List Extent

namespace Plot

def length (plot : Plot) : Nat := plot.extent.length

def extents (plot : Plot) : List Extent := plot.extent :: plot.earlier

def finish (plot : Plot) (extent : Extent) : Nat := plot.start + extent.length * plot.kind.size

def Covers (plot : Plot) (extent : Extent) (address : Nat) : Prop :=
  plot.start ≤ address ∧ address < plot.finish extent

def Apart (a b : Plot) : Prop :=
  ∀ e ∈ a.extents, ∀ f ∈ b.extents, ∀ address, a.Covers e address → ¬ b.Covers f address

theorem Apart.symm {a b : Plot} (apart : a.Apart b) : b.Apart a := by
  intro f member e member' address covered inside
  exact apart e member' f member address inside covered

end Plot

structure Holding extends Plot where
  contents : Nat → Option Value

/-- The elements that are known are in memory. -/
def Holding.Intact (holding : Holding) (memory : Memory) : Prop :=
  ∀ e ∈ holding.extents, ∀ i < e.length, ∀ value, holding.contents i = some value →
    memory.load (holding.start + i * holding.kind.size) holding.kind.size =
      holding.kind.encode value

structure Saved where
  owner : Nat
  snapshot : Snapshot
  time : Nat

def Snapshot.AtLeast (snapshot : Snapshot) (position finish : Nat) : Prop :=
  ∃ handle, snapshot.cursor.chunk = some handle ∧
    (position < handle.index ∨ position = handle.index ∧ finish ≤ snapshot.cursor.next)

namespace Arena

structure Holds (arena : Arena) (position start finish : Nat) : Prop where
  inside : ∃ chunk, arena.chunks.reverse[position]? = some chunk ∧ chunk.start ≤ start ∧
    finish ≤ chunk.finish
  below : position + 1 = arena.chunks.length → finish ≤ arena.cursor.next

def Beyond (arena : Arena) (position bound address : Nat) : Prop :=
  ∃ q chunk, arena.chunks.reverse[q]? = some chunk ∧ chunk.start ≤ address ∧
    address < chunk.finish ∧ (position < q ∨ position = q ∧ bound ≤ address)

theorem Holds.lt_length {arena : Arena} {position start finish : Nat}
    (holds : arena.Holds position start finish) : position < arena.chunks.length := by
  obtain ⟨chunk, found, _⟩ := holds.inside
  exact lt_of_reverse_getElem? found

theorem Holds.below_cursor {arena : Arena} {position start finish : Nat}
    (holds : arena.Holds position start finish) :
    position < arena.chunks.length - 1 ∨
      position = arena.chunks.length - 1 ∧ finish ≤ arena.cursor.next := by
  have inside := holds.lt_length
  by_cases top : position + 1 = arena.chunks.length
  · exact Or.inr ⟨by omega, holds.below top⟩
  · exact Or.inl (by omega)

theorem Holds.extended {arena : Arena} {position start finish : Nat}
    (holds : arena.Holds position start finish) (chunk : Chunk) :
    (arena.extended chunk).Holds position start finish := by
  have low := holds.lt_length
  constructor
  · obtain ⟨home, found, bounds⟩ := holds.inside
    refine ⟨home, ?_, bounds⟩
    simp only [Arena.extended]
    rw [reverse_getElem?_below low]
    exact found
  · intro top
    simp only [Arena.extended, List.length_cons] at top
    omega

theorem Holds.movedTo {arena : Arena} {position start finish next : Nat}
    (holds : arena.Holds position start finish) (onward : arena.cursor.next ≤ next) :
    (arena.movedTo next).Holds position start finish :=
  ⟨holds.inside, fun top => Nat.le_trans (holds.below top) onward⟩

theorem Holds.fallenBack {arena : Arena} {position start finish : Nat}
    (holds : arena.Holds position start finish) {saved : Cursor} {handle : Handle} {chunk : Chunk}
    (live : arena.liveChunk? handle = some chunk)
    (low : position < handle.index ∨ position = handle.index ∧ finish ≤ saved.next) :
    (arena.fallenBack saved (handle.index + 1)).Holds position start finish := by
  obtain ⟨_, _, height⟩ := liveChunk?_eq_some live
  constructor
  · obtain ⟨home, found, bounds⟩ := holds.inside
    refine ⟨home, ?_, bounds⟩
    simp only [Arena.fallenBack]
    rw [reverse_drop_getElem? _ (by omega)]
    exact found
  · intro top
    simp only [Arena.fallenBack, List.length_drop] at top ⊢
    omega

theorem top_of_ne_nil {arena : Arena} (consistent : arena.Consistent)
    (some_chunk : arena.chunks ≠ []) :
    ∃ chunk, arena.chunks.reverse[arena.chunks.length - 1]? = some chunk ∧
      chunk.start ≤ arena.cursor.next ∧ arena.cursor.limit = chunk.finish := by
  have seated := consistent.seated
  cases stack : arena.chunks with
  | nil => exact absurd stack some_chunk
  | cons chunk rest =>
    rw [stack] at seated
    obtain ⟨_, limit, low, _⟩ := seated
    exact ⟨chunk, reverse_getElem?_top chunk rest, low, limit⟩

theorem Offers.holds {arena : Arena} {start size align : Nat}
    (offers : arena.Offers start size align) (consistent : arena.Consistent) :
    (arena.movedTo (start + size)).Holds (arena.chunks.length - 1) start (start + size) := by
  obtain ⟨chunk, found, low, limit⟩ := top_of_ne_nil consistent offers.some_chunk
  have above := offers.low
  have high := offers.high
  exact ⟨⟨chunk, found, by omega, by omega⟩, fun _ => Nat.le_refl _⟩

theorem Stretches.holds {arena : Arena} {start old new elementSize : Nat}
    (stretches : arena.Stretches start old new elementSize) (consistent : arena.Consistent) :
    (arena.movedTo (start + new * elementSize)).Holds (arena.chunks.length - 1) start
      (start + new * elementSize) := by
  obtain ⟨chunk, found, _, limit⟩ := top_of_ne_nil consistent stretches.some_chunk
  have low : chunk.start ≤ start := by
    apply stretches.inside
    rw [← reverse_getElem?_head]
    exact found
  have high := stretches.room
  exact ⟨⟨chunk, found, low, by omega⟩, fun _ => Nat.le_refl _⟩

theorem reverse_apart {chunks : List Chunk} (apart : chunks.Pairwise Chunk.Apart) {p q : Nat}
    {a b : Chunk} (first : chunks.reverse[p]? = some a) (second : chunks.reverse[q]? = some b)
    (different : p ≠ q) : a.Apart b := by
  have ordered := List.pairwise_iff_getElem.mp
    (List.pairwise_reverse.mpr (apart.imp Chunk.Apart.symm))
  obtain ⟨bound, rfl⟩ := List.getElem?_eq_some_iff.mp first
  obtain ⟨bound', rfl⟩ := List.getElem?_eq_some_iff.mp second
  rcases Nat.lt_or_gt_of_ne different with before | after
  · exact ordered p q bound bound' before
  · exact (ordered q p bound' bound after).symm

theorem Holds.not_beyond {arena : Arena} (apart : arena.chunks.Pairwise Chunk.Apart)
    {position start finish height bound address : Nat}
    (holds : arena.Holds position start finish)
    (low : position < height ∨ position = height ∧ finish ≤ bound)
    (beyond : arena.Beyond height bound address) : ¬ (start ≤ address ∧ address < finish) := by
  intro covered
  obtain ⟨home, found, bottom, top⟩ := holds.inside
  obtain ⟨q, chunk, found', bottom', top', high⟩ := beyond
  by_cases same : position = q
  · omega
  · have separate := reverse_apart apart found found' same
    simp only [Chunk.Apart] at separate
    omega

theorem Beyond.in_chunk {arena : Arena} {position bound address : Nat}
    (beyond : arena.Beyond position bound address) :
    ∃ chunk ∈ arena.chunks, chunk.start ≤ address ∧ address < chunk.finish := by
  obtain ⟨q, chunk, found, low, high, _⟩ := beyond
  exact ⟨chunk, List.mem_reverse.mp (List.mem_of_getElem? found), low, high⟩

theorem beyond_of_handOut {arena : Arena} (consistent : arena.Consistent) {profile : Profile}
    {start size : Nat} (some_chunk : arena.chunks ≠ []) (low : arena.cursor.next ≤ start)
    (high : start + size ≤ arena.cursor.limit) {effect : Effect} {address : Nat}
    (member : effect ∈ profile.handOut start size) (fills : effect.Fills address) :
    arena.Beyond (arena.chunks.length - 1) arena.cursor.next address := by
  obtain ⟨chunk, found, bottom, limit⟩ := top_of_ne_nil consistent some_chunk
  have bounds := Profile.fills_of_mem_mark member fills
  exact ⟨_, chunk, found, by omega, by omega, Or.inr ⟨rfl, by omega⟩⟩

theorem beyond_of_fallBack {arena : Arena} (consistent : arena.Consistent) {profile : Profile}
    {saved : Cursor} {handle : Handle} {chunk : Chunk}
    (live : arena.liveChunk? handle = some chunk) (limit : saved.limit = chunk.finish)
    (low : chunk.start ≤ saved.next) {effect : Effect} {address : Nat}
    (member : effect ∈ arena.clearing profile saved handle ++
      (arena.above (handle.index + 1)).flatMap profile.surrender)
    (fills : effect.Fills address) : arena.Beyond handle.index saved.next address := by
  obtain ⟨found, _, height⟩ := liveChunk?_eq_some live
  rcases List.mem_append.mp member with cleared | surrendered
  · obtain ⟨used, marked, reach⟩ := mem_clearing cleared
    have bounds := Profile.fills_of_mem_mark marked fills
    have within : used ≤ chunk.finish := by
      rcases reach with whole | ⟨top, part⟩
      · omega
      · -- The snapshot's chunk is the newest one, so the cursor is inside it.
        have seated := consistent.seated
        cases stack : arena.chunks with
        | nil =>
          rw [stack] at height
          exact absurd height (Nat.not_lt_zero _)
        | cons newest rest =>
          rw [stack] at seated found
          obtain ⟨names, _, _, high⟩ := seated
          rw [names] at top
          cases top
          rw [reverse_getElem?_top newest rest] at found
          cases found
          omega
    exact ⟨_, chunk, found, by omega, by omega, Or.inr ⟨rfl, bounds.1⟩⟩
  · obtain ⟨gone, above, bottom, top⟩ := Profile.fills_of_mem_surrender surrendered fills
    obtain ⟨i, inside, same⟩ := List.getElem_of_mem above
    have bound : i < arena.chunks.length - (handle.index + 1) := by
      simp only [Arena.above, List.length_take] at inside
      omega
    simp only [Arena.above, List.getElem_take] at same
    refine ⟨arena.chunks.length - 1 - i, gone, ?_, bottom, top, Or.inl (by omega)⟩
    rw [List.getElem?_reverse (by omega), List.getElem?_eq_some_iff]
    refine ⟨by omega, ?_⟩
    rw [← same]
    congr 1
    omega

theorem beyond_of_empty {arena : Arena} {profile : Profile} {effect : Effect} {address : Nat}
    (member : effect ∈ arena.chunks.flatMap profile.surrender) (fills : effect.Fills address) :
    arena.Beyond 0 0 address := by
  obtain ⟨gone, present, bottom, top⟩ := Profile.fills_of_mem_surrender member fills
  obtain ⟨q, found⟩ := List.getElem?_of_mem (List.mem_reverse.mpr present)
  exact ⟨q, gone, found, bottom, top, by omega⟩

end Arena

/-- Whether a plot, at one of its extents, is at a position: the arena holds it there, and it lies
below every snapshot that was taken later. -/
structure Plot.SecuredAt (plot : Plot) (arena : Arena) (saves : List Saved) (extent : Extent)
    (position : Nat) : Prop where
  holds : arena.Holds position plot.start (plot.finish extent)
  saved : ∀ saved ∈ saves, saved.owner = plot.owner → extent.since < saved.time →
    saved.snapshot.AtLeast position (plot.finish extent)

def Plot.Secured (plot : Plot) (world : World) (saves : List Saved) : Prop :=
  ∃ arena, world.arena? plot.owner = some arena ∧
    ∀ e ∈ plot.extents, ∃ position, plot.SecuredAt arena saves e position

structure Settled (world : World) (plots : List Plot) (saves : List Saved) (clock : Nat) :
    Prop where
  sound : world.Sound
  secured : ∀ plot ∈ plots, plot.Secured world saves
  aligned : ∀ plot ∈ plots, plot.align ∣ plot.start
  apart : plots.Pairwise Plot.Apart
  past : ∀ saved ∈ saves, saved.time ≤ clock

def LiesUnder (plots : List Plot) (saves : List Saved) (owner : Nat) (arena : Arena)
    (height bound : Nat) : Prop :=
  ∀ plot ∈ plots, plot.owner = owner → ∀ e ∈ plot.extents, ∀ position,
    plot.SecuredAt arena saves e position →
      position < height ∨ position = height ∧ plot.finish e ≤ bound

theorem lies_under_cursor (plots : List Plot) (saves : List Saved) (owner : Nat) (arena : Arena) :
    LiesUnder plots saves owner arena (arena.chunks.length - 1) arena.cursor.next :=
  fun _ _ _ _ _ _ secured => secured.holds.below_cursor

theorem lies_under_snapshot {plots : List Plot} {saves : List Saved} {saved : Saved}
    (member : saved ∈ saves) {handle : Handle} (names : saved.snapshot.cursor.chunk = some handle)
    (arena : Arena)
    (older : ∀ plot ∈ plots, plot.owner = saved.owner →
      ∀ e ∈ plot.extents, e.since < saved.time) :
    LiesUnder plots saves saved.owner arena handle.index saved.snapshot.cursor.next := by
  intro plot present own e inside position secured
  obtain ⟨named, same, low⟩ := secured.saved saved member own.symm (older plot present own e inside)
  rw [names] at same
  cases same
  exact low

namespace Settled

variable {world : World} {plots : List Plot} {saves : List Saved} {clock : Nat}

theorem uncovered (settled : Settled world plots saves clock) (provided : Provided world.traffic)
    {owner : Nat} {arena : Arena} (found : world.arena? owner = some arena) {height bound : Nat}
    (under : LiesUnder plots saves owner arena height bound) {address : Nat}
    (beyond : arena.Beyond height bound address) :
    ∀ plot ∈ plots, ∀ e ∈ plot.extents, ¬ plot.Covers e address := by
  intro plot member e inside covered
  obtain ⟨home, present, everywhere⟩ := settled.secured plot member
  obtain ⟨position, secured⟩ := everywhere e inside
  by_cases own : plot.owner = owner
  · rw [own, found] at present
    cases present
    have apart := (settled.sound owner arena found).apart
    exact secured.holds.not_beyond apart (under plot member own e inside position secured) beyond
      covered
  · -- The chunks of two arenas share no address, so what is beyond here is not in the other one.
    obtain ⟨chunk, chunk_member, low, high⟩ := beyond.in_chunk
    obtain ⟨other, place, bottom, top⟩ := secured.holds.inside
    have other_member := List.mem_reverse.mp (List.mem_of_getElem? place)
    have apart := settled.sound.foreign_apart provided own present found other_member chunk_member
    have bounds := covered
    simp only [Plot.Covers] at bounds
    simp only [Chunk.Apart] at apart
    omega

theorem starts_in (settled : Settled world plots saves clock) {plot : Plot} (member : plot ∈ plots)
    {arena : Arena} (found : world.arena? plot.owner = some arena) :
    ∃ chunk ∈ arena.chunks, chunk.start ≤ plot.start ∧ plot.start ≤ chunk.finish := by
  obtain ⟨home, present, everywhere⟩ := settled.secured plot member
  cases found.symm.trans present
  obtain ⟨position, secured⟩ := everywhere plot.extent List.mem_cons_self
  obtain ⟨chunk, place, low, high⟩ := secured.holds.inside
  have reach : plot.start ≤ plot.finish plot.extent := Nat.le_add_right _ _
  exact ⟨chunk, List.mem_reverse.mp (List.mem_of_getElem? place), low, Nat.le_trans reach high⟩

theorem owns (settled : Settled world plots saves clock) {plot : Plot} (member : plot ∈ plots)
    {arena : Arena} (found : world.arena? plot.owner = some arena) :
    arena.owns plot.start = true := by
  obtain ⟨chunk, listed, low, high⟩ := settled.starts_in member found
  refine List.any_eq_true.mpr ⟨chunk, listed, ?_⟩
  simp only [Chunk.contains, Bool.and_eq_true, decide_eq_true_eq]
  exact ⟨low, high⟩

theorem change (settled : Settled world plots saves clock) {owner : Nat} {arena next : Arena}
    (found : world.arena? owner = some arena) {effects : List Effect}
    (changes : Arena.Changes world.profile arena effects next)
    (provided : Provided (world.after owner effects next).traffic)
    (stay : ∀ plot ∈ plots, plot.owner = owner → ∀ e ∈ plot.extents, ∀ position,
      plot.SecuredAt arena saves e position → next.Holds position plot.start (plot.finish e)) :
    Settled (world.after owner effects next) plots saves clock := by
  refine ⟨settled.sound.after found changes provided, ?_, settled.aligned, settled.apart,
    settled.past⟩
  intro plot member
  obtain ⟨home, present, everywhere⟩ := settled.secured plot member
  by_cases own : plot.owner = owner
  · rw [own, found] at present
    cases present
    refine ⟨next, by rw [own]; exact world.arena?_after_self owner found effects next, ?_⟩
    intro e inside
    obtain ⟨position, secured⟩ := everywhere e inside
    exact ⟨position, stay plot member own e inside position secured, secured.saved⟩
  · exact ⟨home, (world.arena?_after_other owner own effects next).trans present, everywhere⟩

theorem congr (settled : Settled world plots saves clock) {other : World}
    (arenas : ∀ owner, other.arena? owner = world.arena? owner)
    (profile : other.profile = world.profile) (traffic : other.traffic = world.traffic) :
    Settled other plots saves clock := by
  refine ⟨?_, ?_, settled.aligned, settled.apart, settled.past⟩
  · intro owner arena found
    rw [arenas] at found
    rw [profile, traffic]
    exact settled.sound owner arena found
  · intro plot member
    obtain ⟨home, present, everywhere⟩ := settled.secured plot member
    exact ⟨home, (arenas plot.owner).trans present, everywhere⟩

theorem insert (settled : Settled world plots saves clock) {plot : Plot}
    (secured : plot.Secured world saves) (aligned : plot.align ∣ plot.start)
    (apart : ∀ other ∈ plots, plot.Apart other) : Settled world (plot :: plots) saves clock := by
  refine ⟨settled.sound, ?_, ?_, List.pairwise_cons.mpr ⟨apart, settled.apart⟩, settled.past⟩
  · intro p member
    rcases List.mem_cons.mp member with same | older
    · rw [same]
      exact secured
    · exact settled.secured p older
  · intro p member
    rcases List.mem_cons.mp member with same | older
    · rw [same]
      exact aligned
    · exact settled.aligned p older

end Settled

theorem Holding.Intact.of_read {holding : Holding} {memory other : Memory}
    (intact : holding.Intact memory)
    (same : ∀ e ∈ holding.extents, ∀ address, holding.Covers e address →
      other.read address = memory.read address) : holding.Intact other := by
  intro e inside i bound value known
  rw [← intact e inside i bound value known]
  apply Memory.load_congr
  intro address low high
  have next_element : (i + 1) * holding.kind.size ≤ e.length * holding.kind.size :=
    Nat.mul_le_mul_right _ bound
  rw [Nat.add_mul, Nat.one_mul] at next_element
  refine same e inside address ⟨by omega, ?_⟩
  simp only [Plot.finish]
  omega

structure Kept (world : World) (holdings : List Holding) (saves : List Saved) (clock : Nat) :
    Prop where
  settled : Settled world (holdings.map Holding.toPlot) saves clock
  intact : ∀ holding ∈ holdings, holding.Intact world.memory

namespace Kept

variable {world : World} {holdings : List Holding} {saves : List Saved} {clock : Nat}

theorem change (kept : Kept world holdings saves clock) {owner : Nat} {arena next : Arena}
    (found : world.arena? owner = some arena) {effects : List Effect}
    (changes : Arena.Changes world.profile arena effects next)
    (provided : Provided (world.after owner effects next).traffic) {height bound : Nat}
    (under : LiesUnder (holdings.map Holding.toPlot) saves owner arena height bound)
    (stay : ∀ position start finish, arena.Holds position start finish →
      (position < height ∨ position = height ∧ finish ≤ bound) →
        next.Holds position start finish)
    (fills : ∀ effect ∈ effects, ∀ address, effect.Fills address →
      arena.Beyond height bound address) :
    Kept (world.after owner effects next) holdings saves clock := by
  have before := provided_of_suffix provided (world.after_traffic_suffix owner effects next)
  refine ⟨kept.settled.change found changes provided ?_, ?_⟩
  · intro plot member own e inside position secured
    exact stay position plot.start (plot.finish e) secured.holds
      (under plot member own e inside position secured)
  · intro holding member
    refine (kept.intact holding member).of_read ?_
    intro e inside address covered
    apply World.read_after
    intro effect present filled
    exact kept.settled.uncovered before found under (fills effect present address filled)
      holding.toPlot (List.mem_map_of_mem member) e inside covered

theorem congr (kept : Kept world holdings saves clock) {other : World}
    (arenas : ∀ owner, other.arena? owner = world.arena? owner)
    (profile : other.profile = world.profile) (traffic : other.traffic = world.traffic)
    (memory : other.memory = world.memory) : Kept other holdings saves clock :=
  ⟨kept.settled.congr arenas profile traffic, by rw [memory]; exact kept.intact⟩

theorem sublist (kept : Kept world holdings saves clock) {fewer : List Holding}
    (sublist : fewer.Sublist holdings) : Kept world fewer saves clock := by
  have plots := sublist.map Holding.toPlot
  refine ⟨⟨kept.settled.sound, ?_, ?_, kept.settled.apart.sublist plots, kept.settled.past⟩, ?_⟩
  · exact fun plot member => kept.settled.secured plot (plots.subset member)
  · exact fun plot member => kept.settled.aligned plot (plots.subset member)
  · exact fun holding member => kept.intact holding (sublist.subset member)

theorem rewrite (kept : Kept world holdings saves clock) {memory : Memory} {known : List Holding}
    (plots : known.map Holding.toPlot = holdings.map Holding.toPlot)
    (intact : ∀ holding ∈ known, holding.Intact memory) :
    Kept { world with memory := memory } known saves clock := by
  refine ⟨?_, intact⟩
  rw [plots]
  exact kept.settled.congr (fun _ => rfl) rfl rfl

theorem count (kept : Kept world holdings saves clock) (kind : Kind) (change : Tally → Tally) :
    Kept (world.count kind change) holdings saves clock := by
  rw [World.count_eq]
  exact kept.congr (fun _ => rfl) rfl rfl rfl

end Kept

end ChunkArena
