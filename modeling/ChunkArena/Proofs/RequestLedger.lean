import ChunkArena.Proofs.HoldingLedger

/-!
Requests keep the ledger. What a request is granted joins the holdings, with the elements that the
call stored; everything held before stays as it was. Every step on the way does so: blocks and
reports, bytes handed out, elements written into them, counts.
-/

namespace ChunkArena

def Grant.holding (grant : Grant) (owner clock : Nat) : Holding :=
  { owner := owner, kind := grant.kind, align := grant.align, start := grant.start
    extent := ⟨clock, grant.length⟩, earlier := [], contents := fun i => grant.values[i]? }

theorem Grant.intact_store (grant : Grant) (owner clock : Nat) (memory : Memory) :
    (grant.holding owner clock).Intact
      (memory.store grant.start (grant.values.flatMap grant.kind.encode)) := by
  have size := grant.kind.length_encoded_array grant.values
  intro e _ i _ value known
  have element : grant.values[i]? = some value := known
  have present := (List.getElem?_eq_some_iff.mp element).1
  have within : i * grant.kind.size + grant.kind.size ≤
      (grant.values.flatMap grant.kind.encode).length := by
    have next_element : (i + 1) * grant.kind.size ≤ grant.values.length * grant.kind.size :=
      Nat.mul_le_mul_right _ present
    rw [Nat.add_mul, Nat.one_mul] at next_element
    omega
  simp only [Grant.holding]
  rw [Memory.load_store _ _ _ within]
  exact grant.kind.encoded_array_element element

theorem Grant.store_within (grant : Grant) (few : grant.values.length ≤ grant.length) :
    grant.start + (grant.values.flatMap grant.kind.encode).length ≤
      grant.start + grant.length * grant.kind.size := by
  have size := grant.kind.length_encoded_array grant.values
  have bound : grant.values.length * grant.kind.size ≤ grant.length * grant.kind.size :=
    Nat.mul_le_mul_right _ few
  omega

theorem Holding.Intact.of_store {holding other : Holding} {memory : Memory}
    (intact : other.Intact memory) (apart : holding.Apart other.toPlot) {start : Nat}
    {bytes : List UInt8} (low : holding.start ≤ start)
    (high : start + bytes.length ≤ holding.finish holding.extent) :
    other.Intact (memory.store start bytes) := by
  refine intact.of_read ?_
  intro e inside address covered
  have missed := apart.symm e inside holding.extent List.mem_cons_self address covered
  simp only [Plot.Covers] at missed
  exact Memory.read_store_outside _ (by omega)

namespace Kept

variable {world : World} {holdings : List Holding} {saves : List Saved} {clock : Nat}

theorem perm (kept : Kept world holdings saves clock) {other : List Holding}
    (perm : holdings.Perm other) : Kept world other saves clock := by
  have plots := perm.map Holding.toPlot
  refine ⟨⟨kept.settled.sound, ?_, ?_, ?_, kept.settled.past⟩, ?_⟩
  · exact fun plot member => kept.settled.secured plot (plots.mem_iff.mpr member)
  · exact fun plot member => kept.settled.aligned plot (plots.mem_iff.mpr member)
  · exact (plots.pairwise_iff Plot.Apart.symm).mp kept.settled.apart
  · exact fun holding member => kept.intact holding (perm.mem_iff.mpr member)

theorem spill (kept : Kept world holdings saves clock) {owner : Nat} {arena mid : Arena}
    (found : world.arena? owner = some arena) {effects : List Effect}
    (spill : Arena.Spill world.profile arena effects mid)
    (provided : Provided (world.after owner effects mid).traffic) :
    Kept (world.after owner effects mid) holdings saves clock := by
  have under : LiesUnder (holdings.map Holding.toPlot) saves owner arena arena.chunks.length 0 :=
    fun _ _ _ _ _ _ secured => Or.inl secured.holds.lt_length
  refine kept.change found spill.changes provided under ?_ ?_
  · intro position start finish holds _
    cases spill with
    | idle => exact holds
    | bounce => exact holds
    | extend chunk => exact holds.extended chunk
  · intro effect member address fills
    exact absurd fills (spill.not_fills member address)

theorem advance (kept : Kept world holdings saves clock) {owner : Nat} {arena : Arena}
    (found : world.arena? owner = some arena) {start size : Nat} (some_chunk : arena.chunks ≠ [])
    (low : arena.cursor.next ≤ start) (high : start + size ≤ arena.cursor.limit)
    (provided : Provided (world.after owner (world.profile.handOut start size)
      (arena.movedTo (start + size))).traffic) :
    Kept (world.after owner (world.profile.handOut start size) (arena.movedTo (start + size)))
      holdings saves clock := by
  have consistent := (kept.settled.sound owner arena found).consistent
  refine kept.change found (Arena.Change.advance arena start size some_chunk low high).single
    provided (lies_under_cursor _ saves owner arena) ?_ ?_
  · intro position first last holds _
    exact holds.movedTo (by omega)
  · intro effect member address fills
    exact Arena.beyond_of_handOut consistent some_chunk low high member fills

theorem take (kept : Kept world holdings saves clock) {owner : Nat} {arena : Arena}
    (found : world.arena? owner = some arena) {start size align : Nat}
    (offers : arena.Offers start size align)
    (provided : Provided (world.after owner (world.profile.handOut start size)
      (arena.movedTo (start + size))).traffic)
    {kind : Kind} {length : Nat} (whole : length * kind.size = size) :
    Kept (world.after owner (world.profile.handOut start size) (arena.movedTo (start + size)))
      ((Grant.mk kind align start length []).holding owner clock :: holdings) saves clock := by
  have before := provided_of_suffix provided (world.after_traffic_suffix owner _ _)
  have consistent := (kept.settled.sound owner arena found).consistent
  have moved := kept.advance found offers.some_chunk offers.low offers.high provided
  have onward : arena.cursor.next ≤ start + size := Nat.le_add_right_of_le offers.low
  refine ⟨moved.settled.insert ?_ offers.aligned ?_, ?_⟩
  · refine ⟨_, world.arena?_after_self owner found _ _, ?_⟩
    intro e inside
    rw [List.mem_singleton.mp inside]
    refine ⟨arena.chunks.length - 1, ?_, ?_⟩
    · have holds := offers.holds consistent
      rwa [← whole] at holds ⊢
    · intro saved member _ later
      exact absurd later (Nat.not_lt.mpr (kept.settled.past saved member))
  · intro other member e inside f inside' address covers
    rw [List.mem_singleton.mp inside] at covers
    obtain ⟨low, high⟩ := covers
    simp only [Grant.holding, Plot.finish, whole] at low high
    obtain ⟨chunk, place, bottom, limit⟩ := Arena.top_of_ne_nil consistent offers.some_chunk
    have above := offers.low
    have fits := offers.high
    exact kept.settled.uncovered before found (lies_under_cursor _ saves owner arena)
      ⟨_, chunk, place, by omega, by omega, Or.inr ⟨rfl, by omega⟩⟩ other member f inside'
  · intro holding member
    rcases List.mem_cons.mp member with same | older
    · rw [same]
      intro e _ i _ value known
      simp [Grant.holding] at known
    · exact moved.intact holding older

theorem write_first {holding : Holding} (kept : Kept world (holding :: holdings) saves clock)
    {start : Nat} {bytes : List UInt8} (low : holding.start ≤ start)
    (high : start + bytes.length ≤ holding.finish holding.extent) (contents : Nat → Option Value)
    (intact : { holding with contents := contents }.Intact (world.memory.store start bytes)) :
    Kept (world.write start bytes) ({ holding with contents := contents } :: holdings) saves
      clock := by
  refine kept.rewrite rfl ?_
  have apart := (List.pairwise_cons.mp kept.settled.apart).1
  intro other member
  rcases List.mem_cons.mp member with same | older
  · rw [same]
    exact intact
  · exact (kept.intact other (List.mem_cons_of_mem _ older)).of_store
      (apart other.toPlot (List.mem_map_of_mem older)) low high

theorem store {kind : Kind} {align start length owner time : Nat}
    (kept : Kept world ((Grant.mk kind align start length []).holding owner time :: holdings)
      saves clock)
    {values : List Value} (few : values.length ≤ length) :
    Kept (world.store kind start values)
      ((Grant.mk kind align start length values).holding owner time :: holdings) saves clock := by
  refine Kept.count (kept.write_first (Nat.le_refl start) ?_ (fun i => values[i]?)
    ((Grant.mk kind align start length values).intact_store owner time _)) kind _
  exact Grant.store_within ⟨kind, align, start, length, values⟩ few

end Kept

/-- The invariant, as far as the system keeps its guarantees. -/
def Keeps (world : World) (holdings : List Holding) (saves : List Saved) (clock : Nat) : Prop :=
  Provided world.traffic → Kept world holdings saves clock

theorem Keeps.onArena {world : World} {holdings : List Holding} {saves : List Saved} {clock : Nat}
    (keeps : Keeps world holdings saves clock) (owner : Nat) {α : Type}
    (call : Arena → Env → Reply α) (known : Except Failure α × World → List Holding)
    (absent : ∀ failure, (known (.error failure, world)).Sublist holdings)
    (kept : ∀ arena env, world.arena? owner = some arena → env.profile = world.profile →
      Kept world holdings saves clock → Provided world.traffic →
      Provided (world.after owner (call arena env).effects (call arena env).arena).traffic →
      Kept (world.after owner (call arena env).effects (call arena env).arena)
        (known ((call arena env).result,
          world.after owner (call arena env).effects (call arena env).arena)) saves clock) :
    Keeps (world.onArena owner call).2 (known (world.onArena owner call)) saves clock := by
  intro provided
  have before := provided_of_suffix provided (world.onArena_suffix owner call)
  cases found : world.arena? owner with
  | none =>
    obtain ⟨cause, same⟩ := World.onArena_none found call
    rw [same]
    exact (keeps before).sublist (absent (.refused cause))
  | some arena =>
    obtain ⟨skew, same⟩ := World.onArena_some found call
    rw [same] at provided ⊢
    exact kept arena (world.env skew) found rfl (keeps before) before provided

theorem Keeps.count {world : World} {holdings : List Holding} {saves : List Saved} {clock : Nat}
    (keeps : Keeps world holdings saves clock) (kind : Kind) (change : Tally → Tally) :
    Keeps (world.count kind change) holdings saves clock := by
  intro provided
  rw [World.count_eq] at provided
  exact (keeps provided).count kind change

theorem Keeps.store {world : World} {holdings : List Holding} {saves : List Saved}
    {clock : Nat} {kind : Kind} {align start length owner time : Nat}
    (keeps : Keeps world ((Grant.mk kind align start length []).holding owner time :: holdings)
      saves clock)
    {values : List Value} (few : values.length ≤ length) :
    Keeps (world.store kind start values)
      ((Grant.mk kind align start length values).holding owner time :: holdings) saves clock := by
  intro provided
  obtain ⟨tally, same⟩ := world.store_eq kind start values
  rw [same] at provided
  exact (keeps provided).store few

theorem Keeps.perm {world : World} {holdings other : List Holding} {saves : List Saved}
    {clock : Nat} (keeps : Keeps world holdings saves clock) (perm : holdings.Perm other) :
    Keeps world other saves clock :=
  fun provided => (keeps provided).perm perm

theorem Keeps.sublist {world : World} {holdings fewer : List Holding} {saves : List Saved}
    {clock : Nat} (keeps : Keeps world holdings saves clock) (sublist : fewer.Sublist holdings) :
    Keeps world fewer saves clock :=
  fun provided => (keeps provided).sublist sublist

theorem Keeps.later {world : World} {holdings : List Holding} {saves : List Saved} {clock : Nat}
    (keeps : Keeps world holdings saves clock) : Keeps world holdings saves (clock + 1) := by
  intro provided
  have kept := keeps provided
  exact ⟨⟨kept.settled.sound, kept.settled.secured, kept.settled.aligned, kept.settled.apart,
    fun saved listed => Nat.le_succ_of_le (kept.settled.past saved listed)⟩, kept.intact⟩

section Requests

variable {world : World} {holdings : List Holding} {saves : List Saved} {owner clock : Nat}

/-- Whether a call kept the ledger and handed out that many bytes, if it did not fail. -/
def Yields (holdings : List Holding) (saves : List Saved) (owner clock size align : Nat) :
    Except Failure Nat × World → Prop
  | (.ok start, world) =>
      ∀ kind length, length * kind.size = size →
        Keeps world ((Grant.mk kind align start length []).holding owner clock :: holdings) saves
          clock
  | (.error _, world) => Keeps world holdings saves clock

theorem Keeps.onArena_yields (keeps : Keeps world holdings saves clock) (owner : Nat)
    {size align : Nat} {call : Arena → Env → Reply Nat} (asks : Arena.Asks size align call) :
    Yields holdings saves owner clock size align (world.onArena owner call) := by
  have served (kind : Kind) (length : Nat) (whole : length * kind.size = size) :=
    keeps.onArena owner call
      (fun answer => match answer.1 with
        | .ok start =>
            (Grant.mk kind align start length []).holding owner clock :: holdings
        | .error _ => holdings)
      (fun _ => List.Sublist.refl _) (by
        intro arena env found profile kept _ provided
        have consistent := (kept.settled.sound owner arena found).consistent
        obtain ⟨mid, effects, spill, ⟨failure, failed⟩ | ⟨start, offers, done⟩⟩ :=
          asks.answers consistent env
        · rw [profile] at spill
          rw [failed] at provided ⊢
          exact kept.spill found spill provided
        · rw [done] at provided ⊢
          rw [profile] at spill provided ⊢
          simp only at provided ⊢
          rw [← World.after_after owner world mid] at provided ⊢
          have between := provided_of_suffix provided (World.after_traffic_suffix owner _ _ _)
          have spilled := kept.spill found spill between
          rw [← world.after_profile owner effects mid] at provided ⊢
          exact spilled.take (world.arena?_after_self owner found effects mid) offers provided
            whole)
  generalize world.onArena owner call = result at served
  obtain ⟨answer, after⟩ := result
  cases answer with
  | error failure => exact served .u8 size (Nat.mul_one size)
  | ok start => exact served

def Keeps.invariant (holdings : List Holding) (saves : List Saved) (owner clock : Nat) :
    RequestInvariant owner where
  holds _ grants world := Keeps world (grants.map (·.holding owner clock) ++ holdings) saves clock
  fails _ _ := True
  refused keeps asks made := by
    have yields := keeps.onArena_yields owner asks
    rw [made] at yields
    exact ⟨trivial, yields⟩
  supplied keeps asks made kind length whole := by
    have yields := keeps.onArena_yields owner asks
    rw [made] at yields
    exact yields kind length whole
  stored keeps few := Keeps.store keeps few
  counted keeps kind change := Keeps.count keeps kind change
  abandoned _ _ := trivial
  stopped _ _ := trivial
  fewer keeps _ sublist := keeps.sublist ((sublist.map _).append (.refl holdings))
  reordered keeps perm := keeps.perm ((perm.map _).append_right holdings)

/-- Serving a request keeps what is held and adds what was granted. -/
theorem Keeps.serve (keeps : Keeps world holdings saves clock) (owner : Nat) (request : Request) :
    Keeps (request.serve world owner).2
      ((request.serve world owner).1.map (·.holding owner clock) ++ holdings) saves clock := by
  have kept : (Keeps.invariant holdings saves owner clock).holds (0 + request.calls)
    [] world := keeps
  have served := RequestInvariant.serve kept
  rw [List.append_nil] at served
  exact served

end Requests

end ChunkArena
