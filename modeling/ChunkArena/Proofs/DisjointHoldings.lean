import ChunkArena.Proofs.ClientHoldings

/-!
What clients hold never overlaps. Each array is aligned as it was asked for and lies in one chunk
that its arena still has, below the cursor if that chunk is the newest. A growth counts until a
rewind to a snapshot from before it, and then no longer.
-/

namespace ChunkArena

namespace Holding

def Overlap (a b : Holding) : Prop :=
  ∃ address, a.Covers a.extent address ∧ b.Covers b.extent address

/-- Where an array is. -/
structure Housed (holding : Holding) (arena : Arena) (chunk : Chunk) : Prop where
  member : chunk ∈ arena.chunks
  low : chunk.start ≤ holding.start
  high : holding.finish holding.extent ≤ chunk.finish
  below : arena.chunks.head? = some chunk → holding.finish holding.extent ≤ arena.cursor.next

end Holding

theorem Arena.Holds.housed {arena : Arena} {owner : Nat} {profile : Profile}
    {traffic : List Traffic} (backed : arena.Backed owner profile traffic) {holding : Holding}
    {position : Nat} (holds : arena.Holds position holding.start (holding.finish holding.extent)) :
    ∃ chunk, holding.Housed arena chunk := by
  obtain ⟨chunk, found, low, high⟩ := holds.inside
  have member := List.mem_reverse.mp (List.mem_of_getElem? found)
  refine ⟨chunk, member, low, high, ?_⟩
  intro newest
  apply holds.below
  -- A chunk stands at one position only, since it would overlap itself otherwise.
  by_contra other
  have inside := holds.lt_length
  have top : arena.chunks.reverse[arena.chunks.length - 1]? = some chunk :=
    (reverse_getElem?_head arena.chunks).trans newest
  have apart := reverse_apart backed.apart found top (by omega)
  have nonempty := backed.consistent.nonempty chunk member
  simp only [Chunk.Apart, Chunk.finish] at apart
  omega

/-- In every run, the arrays that are held are pairwise disjoint, aligned and housed. -/
theorem holdings_separate (profile : Profile) (site : Site) (logs : Logs) (moves : List Move)
    (provided : Provided ((Client.start profile site logs).run moves).world.traffic) :
    ((Client.start profile site logs).run moves).holdings.Pairwise
        (fun a b => ¬ a.Overlap b) ∧
      ∀ holding ∈ ((Client.start profile site logs).run moves).holdings,
        holding.align ∣ holding.start ∧
          ∃ arena chunk,
            ((Client.start profile site logs).run moves).world.arena? holding.owner = some arena ∧
              holding.Housed arena chunk := by
  have holdingsKept := (Client.start_holdingsKept profile site logs).run moves
  generalize (Client.start profile site logs).run moves = client at *
  have settled := (holdingsKept provided).settled
  constructor
  · refine (List.pairwise_map.mp settled.apart).imp ?_
    intro a b apart overlap
    obtain ⟨address, covered, covered'⟩ := overlap
    exact apart a.extent List.mem_cons_self b.extent List.mem_cons_self address covered covered'
  · intro holding member
    refine ⟨settled.aligned holding.toPlot (List.mem_map_of_mem member), ?_⟩
    obtain ⟨arena, found, everywhere⟩ :=
      settled.secured holding.toPlot (List.mem_map_of_mem member)
    obtain ⟨position, secured⟩ := everywhere holding.extent List.mem_cons_self
    obtain ⟨chunk, housed⟩ :=
      Arena.Holds.housed (settled.sound holding.owner arena found) secured.holds
    exact ⟨arena, chunk, found, housed⟩

def regrowth : List Move :=
  [.create ⟨"pairs", 16⟩ 0, .create ⟨"lines", 64⟩ 0, .place 0 (.objects .u8 [[1], [2], [3]] none),
    .save 0, .grow 0 8, .place 0 (.objectWith .u64 [(4, 1), (24, 2)] false [7]), .grow 1 9,
    .place 1 (.bytes 70 1), .rewind 0, .place 0 (.bytes 2 2)]

theorem regrowth_separate :
    Provided ((Client.start .debug pagedSite (Logs.empty none)).run regrowth).world.traffic ∧
      ((Client.start .debug pagedSite (Logs.empty none)).run regrowth).holdings.map
          (fun holding => (holding.owner, holding.length)) = [(0, 2), (1, 70), (0, 3)] ∧
      ((Client.start .debug pagedSite (Logs.empty none)).run regrowth).holdings.Pairwise
        (fun a b => ¬ a.Overlap b) :=
  ⟨by decide +kernel, by decide +kernel,
    (holdings_separate .debug pagedSite (Logs.empty none) regrowth (by decide +kernel)).1⟩

/-- With its grown length, an array of four bytes overlaps bytes that are handed out after a rewind
to a snapshot from between the array and its growth. -/
theorem grown_length_taken_back :
    let bare := (World.empty .debug (Logs.empty none)).addArena (Builder.mk "pairs" 16).build 0
    let array := bare.allocateArray 0 .u8 4
    ∃ start snapshot, array.1.toOption = some start ∧
      (array.2.arena? 0).map Arena.snapshot = some snapshot ∧
      let grown := array.2.grow 0 start 4 8 1
      let back := grown.2.rewind 0 snapshot
      let bytes := back.2.allocate 0 4 1
      grown.1.toOption = some true ∧ back.1.toOption = some () ∧
        bytes.1.toOption = some (start + 4) ∧ Provided bytes.2.traffic := by
  refine ⟨105553116332032, ⟨⟨some ⟨0, 0⟩, 105553116332036, 105553116332048⟩, 0⟩, ?_⟩
  decide +kernel

end ChunkArena
