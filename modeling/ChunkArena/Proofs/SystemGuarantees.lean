import Mathlib.Order.Interval.Finset.Nat
import ChunkArena.Proofs.ChunkStack
import ChunkArena.World.Basic

/-!
What the system guarantees about its blocks: every block is aligned, lies inside the address space
away from the null address, and shares no address with a block that was obtained before and not
given back. Addresses of returned blocks may come again, and blocks may touch, as they do at the
three sites below. This is stated for the traffic of a world as a whole. The chunks that an arena
holds together then have fewer bytes than there are addresses.
-/

namespace ChunkArena

namespace Traffic

def Apart (a b : Traffic) : Prop :=
  a.start + a.layout.size ≤ b.start ∨ b.start + b.layout.size ≤ a.start

def Placed (block : Traffic) : Prop :=
  block.layout.align ∣ block.start ∧ 0 < block.start ∧
    block.start + block.layout.size < wordLimit

instance (a b : Traffic) : Decidable (Apart a b) := inferInstanceAs (Decidable (_ ∨ _))

instance (block : Traffic) : Decidable block.Placed := inferInstanceAs (Decidable (_ ∧ _ ∧ _))

def concerns (entry block : Traffic) : Bool :=
  block.owner == entry.owner && block.start == entry.start

end Traffic

/-- The blocks that were obtained and not given back, newest first. -/
def held : List Traffic → List Traffic
  | [] => []
  | entry :: older =>
      match entry.passage with
      | .obtained => entry :: held older
      | .returned _ => (held older).filter fun block => !entry.concerns block

def Provided : List Traffic → Prop
  | [] => True
  | entry :: older =>
      (entry.passage = .obtained → entry.Placed ∧ ∀ block ∈ held older, entry.Apart block) ∧
        Provided older

instance decidableProvided : (traffic : List Traffic) → Decidable (Provided traffic)
  | [] => isTrue trivial
  | _ :: older =>
      have := decidableProvided older
      inferInstanceAs (Decidable (_ ∧ _))

def singleSite : Site where
  place _ _ layout := roundUp pageSize layout.align
  serves _ := true

def packedSite : Site where
  place traffic _ layout := roundUp (frontier traffic) layout.align
  serves _ := true

def lowSite : Site where
  place traffic skew layout :=
    if pageSize ∈ (held traffic).map Traffic.start then pagedSite.place traffic skew layout
    else roundUp pageSize layout.align
  serves _ := true

theorem provided_of_suffix {later earlier : List Traffic} (provided : Provided later)
    (suffix : earlier <:+ later) : Provided earlier := by
  induction later with
  | nil =>
    rw [List.suffix_nil.mp suffix]
    trivial
  | cons entry older ih =>
    rcases List.suffix_cons_iff.mp suffix with same | inside
    · rw [same]
      exact provided
    · exact ih provided.2 inside

section Runs

variable {σ τ : Type} (traffic : σ → List Traffic) {step : σ → τ → σ}
  (grows : ∀ state event, traffic state <:+ traffic (step state event))

include grows

theorem suffix_foldl (state : σ) (events : List τ) :
    traffic state <:+ traffic (events.foldl step state) := by
  induction events generalizing state with
  | nil => exact List.suffix_refl _
  | cons event rest ih => exact (grows state event).trans (ih (step state event))

theorem foldl_keeps {P : σ → Prop}
    (keeps : ∀ state event, P state → Provided (traffic (step state event)) → P (step state event))
    {state : σ} (holds : P state) (events : List τ)
    (provided : Provided (traffic (events.foldl step state))) : P (events.foldl step state) := by
  induction events generalizing state with
  | nil => exact holds
  | cons event rest ih =>
    have between := provided_of_suffix provided (suffix_foldl traffic grows (step state event) rest)
    exact ih (keeps state event holds between) provided

end Runs

theorem held_obtained {entry : Traffic} (obtained : entry.passage = .obtained)
    (older : List Traffic) : held (entry :: older) = entry :: held older := by
  simp [held, obtained]

theorem held_returned {entry : Traffic} {discarded : Bool}
    (returned : entry.passage = .returned discarded) (older : List Traffic) :
    held (entry :: older) = (held older).filter fun block => !entry.concerns block := by
  simp [held, returned]

theorem held_placed {traffic : List Traffic} (provided : Provided traffic) :
    ∀ block ∈ held traffic, block.Placed := by
  induction traffic with
  | nil => simp [held]
  | cons entry older ih =>
    intro block member
    cases way : entry.passage with
    | obtained =>
      rw [held_obtained way] at member
      rcases List.mem_cons.mp member with same | before
      · rw [same]
        exact (provided.1 way).1
      · exact ih provided.2 block before
    | returned discarded =>
      rw [held_returned way] at member
      exact ih provided.2 block (List.mem_filter.mp member).1

theorem held_pairwise {traffic : List Traffic} (provided : Provided traffic) :
    (held traffic).Pairwise Traffic.Apart := by
  induction traffic with
  | nil => exact List.Pairwise.nil
  | cons entry older ih =>
    cases way : entry.passage with
    | obtained =>
      rw [held_obtained way]
      exact List.pairwise_cons.mpr ⟨(provided.1 way).2, ih provided.2⟩
    | returned discarded =>
      rw [held_returned way]
      exact (ih provided.2).filter _

instance : Std.Symm Traffic.Apart := ⟨fun _ _ apart => Or.symm apart⟩

theorem held_apart {traffic : List Traffic} (provided : Provided traffic) {a b : Traffic}
    (first : a ∈ held traffic) (second : b ∈ held traffic) (different : a ≠ b) : a.Apart b :=
  (held_pairwise provided).forall first second different

namespace Chunk

def Apart (a b : Chunk) : Prop := a.finish ≤ b.start ∨ b.finish ≤ a.start

theorem Apart.symm {a b : Chunk} (apart : a.Apart b) : b.Apart a := Or.symm apart

def entry (owner : Nat) (chunk : Chunk) : Traffic :=
  ⟨some owner, chunk.serial, chunk.start, chunk.layout, .obtained⟩

theorem apart_start_ne {a b : Chunk} (apart : a.Apart b) (nonempty : 0 < a.capacity)
    (nonempty' : 0 < b.capacity) : a.start ≠ b.start := by
  intro same
  simp only [Apart, finish] at apart
  omega

end Chunk

def addresses : List Chunk → Finset Nat
  | [] => ∅
  | chunk :: rest => Finset.Ico chunk.start chunk.finish ∪ addresses rest

theorem mem_addresses {chunks : List Chunk} {address : Nat} :
    address ∈ addresses chunks ↔
      ∃ chunk ∈ chunks, chunk.start ≤ address ∧ address < chunk.finish := by
  induction chunks with
  | nil => simp [addresses]
  | cons chunk rest ih => simp [addresses, ih]

theorem card_addresses {chunks : List Chunk} (apart : chunks.Pairwise Chunk.Apart) :
    (addresses chunks).card = totalCapacity chunks := by
  induction chunks with
  | nil => rfl
  | cons chunk rest ih =>
    obtain ⟨here, below⟩ := List.pairwise_cons.mp apart
    have disjoint : Disjoint (Finset.Ico chunk.start chunk.finish) (addresses rest) := by
      rw [Finset.disjoint_left]
      intro address inside outside
      obtain ⟨other, member, low, high⟩ := mem_addresses.mp outside
      have bounds := Finset.mem_Ico.mp inside
      have := here other member
      simp only [Chunk.Apart] at this
      omega
    rw [addresses, Finset.card_union_of_disjoint disjoint, ih below, Nat.card_Ico, totalCapacity,
      Chunk.finish, Nat.add_sub_cancel_left]

theorem totalCapacity_lt {chunks : List Chunk} (apart : chunks.Pairwise Chunk.Apart)
    (placed : ∀ chunk ∈ chunks, chunk.finish < wordLimit) :
    totalCapacity chunks < wordLimit := by
  have inside : addresses chunks ⊆ Finset.range (wordLimit - 1) := by
    intro address member
    obtain ⟨chunk, present, _, high⟩ := mem_addresses.mp member
    have := placed chunk present
    exact Finset.mem_range.mpr (by omega)
  have few := Finset.card_le_card inside
  rw [card_addresses apart, Finset.card_range] at few
  have : 0 < wordLimit := by decide
  omega

end ChunkArena
