import ChunkArena.Proofs.SnapshotIntervals

/-!
What an arena's chunks hold survives the time between a snapshot and the rewind to it. A single byte
that lay below the snapshot is followed through it, as if a client held it: it belongs to nobody
else, it is older than all snapshots, and only the client's own writes and disposals can reach it.
-/

namespace ChunkArena

namespace Holding

def byte (owner address : Nat) (value : UInt8) : Holding :=
  { owner := owner, kind := .u8, align := 1, start := address, extent := ⟨0, 1⟩, earlier := []
    contents := fun _ => some [value.toNat] }

theorem byte_intact_iff {owner address : Nat} {value : UInt8} {memory : Memory} :
    (byte owner address value).Intact memory ↔ memory.read address = value := by
  have loaded : memory.load (address + 0 * Kind.u8.size) Kind.u8.size = [memory.read address] := by
    rw [Nat.zero_mul, Nat.add_zero, Memory.load_eq]
    rfl
  have encoded : Kind.u8.encode [value.toNat] = [value] := by
    have same : Kind.u8.encode [value.toNat] = [UInt8.ofNat value.toNat] := rfl
    rw [same, UInt8.ofNat_toNat]
  constructor
  · intro intact
    have first := intact ⟨0, 1⟩ List.mem_cons_self 0 Nat.one_pos [value.toNat] rfl
    simp only [byte] at first
    rw [loaded, encoded] at first
    exact List.singleton_inj.mp first
  · intro read e inside i bound stored known
    rw [List.mem_singleton.mp inside] at bound
    cases known
    have only : i = 0 := Nat.lt_one_iff.mp bound
    simp only [only, byte]
    rw [loaded, encoded, read]

theorem byte_covers {owner address other : Nat} {value : UInt8} {e : Extent}
    (inside : e ∈ (byte owner address value).extents)
    (covered : (byte owner address value).Covers e other) : other = address := by
  rw [List.mem_singleton.mp inside] at covered
  obtain ⟨low, high⟩ := covered
  have one : (byte owner address value).finish (byte owner address value).extent = address + 1 :=
    rfl
  rw [one] at high
  simp only [byte] at low
  omega

theorem undo_elsewhere {holding : Holding} {owner time : Nat} (elsewhere : holding.owner ≠ owner) :
    holding.undo owner time = some holding := by
  rw [undo, if_neg elsewhere]

theorem undo_older {holding : Holding} {owner time : Nat}
    (older : ∀ e ∈ holding.extents, e.since < time) : holding.undo owner time = some holding := by
  have all : (holding.extents.filter fun e => e.since < time) = holding.extents := by
    apply List.filter_eq_self.mpr
    intro e inside
    exact decide_eq_true (older e inside)
  unfold undo before?
  rw [all]
  split <;> rfl

end Holding

theorem filterMap_undo_eq {holdings : List Holding} {owner time : Nat}
    (same : ∀ holding ∈ holdings, holding.undo owner time = some holding) :
    holdings.filterMap (Holding.undo owner time) = holdings := by
  rw [List.filterMap_congr same, List.filterMap_some]

theorem remaining_eq {world : World} {holdings : List Holding} {owner : Nat}
    (own : ∀ holding ∈ holdings, holding.owner = owner)
    (chunks : world.hasChunks owner = true) : remaining world holdings = holdings := by
  apply List.filter_eq_self.mpr
  intro holding member
  rw [own holding member]
  exact chunks

namespace Keeps

variable {world : World} {holdings : List Holding} {saves : List Saved} {clock owner : Nat}

theorem rewind_past (keeps : Keeps world holdings saves clock)
    (own : ∀ holding ∈ holdings, holding.owner = owner) {saved : Saved} (listed : saved ∈ saves)
    (same : ∀ holding ∈ holdings, holding.undo saved.owner saved.time = some holding)
    (chunks : (world.rewind saved.owner saved.snapshot).2.hasChunks owner = true) :
    Keeps (world.rewind saved.owner saved.snapshot).2 holdings saves clock := by
  have kept := keeps.rewind listed
  rw [filterMap_undo_eq same, remaining_eq own chunks, ite_self] at kept
  exact kept

theorem act (keeps : Keeps world holdings saves clock) {guards : Nat}
    (own : ∀ holding ∈ holdings, holding.owner = owner) {action : Action}
    (between : action.Between owner guards) (chunks : (world.act action).hasChunks owner = true)
    (untouched : ∀ holding ∈ holdings, ∀ e ∈ holding.extents, ∀ address,
      holding.Covers e address → Untouched (action.touches world) address) :
    Keeps (world.act action) holdings saves clock := by
  cases action with
  | create builder skew => exact fun provided => (keeps provided).addArena builder skew
  | place other request =>
    exact fun provided =>
      (keeps.serve other request provided).sublist (List.sublist_append_right _ _)
  | grow other start old new elementSize => exact keeps.stretch other start old new elementSize
  | dispose other depth address disposal =>
    apply keeps.dispose other depth address disposal rfl
    intro kept holding member
    refine (kept.intact holding member).of_read ?_
    intro e inside x covered
    apply read_dispose
    intro done
    have spared := untouched holding member e inside x covered
    simp only [Action.touches, if_pos done] at spared
    exact spared (address, disposal.size) (List.mem_singleton.mpr rfl)
  | write start bytes =>
    intro provided
    refine (keeps provided).rewrite rfl ?_
    intro holding member
    refine ((keeps provided).intact holding member).of_read ?_
    intro e inside x covered
    have spared := untouched holding member e inside x covered (start, bytes.length)
      (List.mem_singleton.mpr rfl)
    exact Memory.read_store_outside _ (by simp only at spared; omega)
  | rewind other snapshot =>
    have elsewhere : ∀ holding ∈ holdings, holding.owner ≠ other := by
      intro holding member
      rw [own holding member]
      exact Ne.symm between
    -- The snapshot is listed for this one step; it may come from anywhere.
    have more : Keeps world holdings (⟨other, snapshot, clock⟩ :: saves) clock :=
      fun provided => (keeps provided).saveElsewhere elsewhere (Nat.le_refl clock)
    have kept := more.rewind_past own List.mem_cons_self
      (fun holding member => Holding.undo_elsewhere (elsewhere holding member)) chunks
    exact fun provided => (kept provided).fewerSaves (List.subset_cons_self _ _)
  | disable other =>
    exact keeps.hold other fun arena env => Arena.disable_holds arena env.profile
  | enable other => exact keeps.hold other fun arena env => Arena.enable_holds arena env.profile
  | release other =>
    have kept := keeps.release other
    have chunks : (world.release other).2.hasChunks owner = true := chunks
    rw [remaining_eq own chunks] at kept
    exact kept
  | drop other =>
    have kept := keeps.drop other
    have chunks : (world.drop other).2.hasChunks owner = true := chunks
    rw [remaining_eq own chunks] at kept
    exact kept
  | log call => exact fun provided => (keeps provided).congr (fun _ => rfl) rfl rfl rfl

end Keeps

theorem World.Upholds.hasChunks {world : World} {owner guards : Nat} {base : Arena}
    (upholds : world.Upholds owner base guards) (some_chunk : base.chunks ≠ []) :
    world.hasChunks owner = true := by
  obtain ⟨arena, found, upon⟩ := upholds
  have stack := upon.stack
  cases chunks : arena.chunks with
  | nil =>
    rw [chunks] at stack
    exact absurd (List.suffix_nil.mp stack) some_chunk
  | cons chunk rest => simp [World.hasChunks, found, chunks]

namespace SnapshotInterval

def saves (interval : SnapshotInterval) (owner : Nat) (base : Arena) : List Saved :=
  (base.snapshot :: interval.taken).map fun snapshot => ⟨owner, snapshot, 1⟩

/-- A byte has its value still, unless it was touched. -/
def Remembers (interval : SnapshotInterval) (owner : Nat) (base : Arena) (address : Nat)
    (value : UInt8) : Prop :=
  Untouched interval.touched address →
    Keeps interval.world [.byte owner address value] (interval.saves owner base) 1

theorem start_remembers {world : World} {owner : Nat} {base : Arena} (sound : world.Sound)
    (found : world.arena? owner = some base) {position address : Nat}
    (holds : base.Holds position address (address + 1)) :
    (start world).Remembers owner base address (world.memory.read address) := by
  intro _ _
  have alone : Kept world [.byte owner address (world.memory.read address)] [] 1 := by
    refine ⟨⟨sound, ?_, ?_, List.pairwise_singleton _ _, by simp⟩, ?_⟩
    · intro plot member
      rw [List.mem_singleton.mp member]
      refine ⟨base, found, ?_⟩
      intro e inside
      rw [List.mem_singleton.mp inside]
      exact ⟨position, holds, by simp⟩
    · intro plot member
      rw [List.mem_singleton.mp member]
      exact Nat.one_dvd address
    · intro holding member
      rw [List.mem_singleton.mp member]
      exact Holding.byte_intact_iff.mpr rfl
  exact alone.save found

variable {interval : SnapshotInterval} {owner : Nat} {base : Arena} {address : Nat} {value : UInt8}

theorem Remembers.rewind (remembers : interval.Remembers owner base address value)
    {snapshot : Snapshot} (listed : ⟨owner, snapshot, 1⟩ ∈ interval.saves owner base)
    (chunks : (interval.rewind owner snapshot).world.hasChunks owner = true) :
    (interval.rewind owner snapshot).Remembers owner base address value := by
  intro untouched
  refine (remembers untouched).rewind_past ?_ listed ?_ chunks
  · intro holding member
    rw [List.mem_singleton.mp member]
    rfl
  · intro holding member
    apply Holding.undo_older
    rw [List.mem_singleton.mp member]
    intro e inside
    rw [List.mem_singleton.mp inside]
    exact Nat.one_pos

theorem Remembers.turn (remembers : interval.Remembers owner base address value)
    {turn : Turn} (chunks : (interval.turn owner turn).world.hasChunks owner = true) :
    (interval.turn owner turn).Remembers owner base address value := by
  cases turn with
  | save =>
    simp only [SnapshotInterval.turn]
    cases found : interval.world.arena? owner with
    | none => exact remembers
    | some arena =>
      intro untouched provided
      refine ((remembers untouched provided).save found).fewerSaves ?_
      exact (List.Perm.swap _ _ _).subset
  | rewind which =>
    simp only [SnapshotInterval.turn] at chunks ⊢
    cases listed : interval.taken[which]? with
    | none => exact remembers
    | some snapshot =>
      rw [listed] at chunks
      refine remembers.rewind ?_ chunks
      exact List.mem_map_of_mem (List.mem_cons_of_mem _ (List.mem_of_getElem? listed))
  | act action =>
    simp only [SnapshotInterval.turn] at chunks ⊢
    split
    · rename_i between
      rw [if_pos between] at chunks
      intro untouched
      have before : Untouched interval.touched address :=
        fun range listed => untouched range (List.mem_append_right _ listed)
      refine (remembers before).act ?_ between chunks ?_
      · intro holding member
        rw [List.mem_singleton.mp member]
        rfl
      · intro holding member e inside x covered range listed
        rw [List.mem_singleton.mp member] at inside covered
        rw [Holding.byte_covers inside covered]
        exact untouched range (List.mem_append_left _ listed)
    · exact remembers

theorem Remembers.run (remembers : interval.Remembers owner base address value)
    (allUpon : interval.AllUpon owner base) (settled : base.Consistent)
    (some_chunk : base.chunks ≠ []) (turns : List Turn)
    (provided : Provided (interval.run owner turns).world.traffic) :
    (interval.run owner turns).Remembers owner base address value := by
  induction turns generalizing interval with
  | nil => exact remembers
  | cons turn rest ih =>
    have between := provided_of_suffix provided
      ((interval.turn owner turn).run_traffic_suffix owner rest)
    have next := allUpon.turn settled turn between
    exact ih (remembers.turn (next.upholds.hasChunks some_chunk)) next provided

end SnapshotInterval

end ChunkArena
