import ChunkArena.Proofs.ClientHoldings

/-!
What clients store stays stored. An element of an array that is held reads as the value that was
stored in it last, in both profiles and through everything that happens meanwhile: what debug builds
write over memory, and what others write, never reaches it.
-/

namespace ChunkArena

def Holding.Typed (holding : Holding) : Prop :=
  ∀ i value, holding.contents i = some value → Kind.Fits holding.kind.widths value

theorem Holding.Typed.of_fewer {holding fewer : Holding} (typed : holding.Typed)
    (kind : fewer.kind = holding.kind)
    (part : ∀ i value, fewer.contents i = some value → holding.contents i = some value) :
    fewer.Typed := by
  intro i value known
  rw [kind]
  exact typed i value (part i value known)

theorem granted_typed {kind : Kind} {align length : Nat} {values : List Value}
    {result : Except Failure Nat × World} (fits : ∀ value ∈ values, Kind.Fits kind.widths value) :
    ∀ grant ∈ (granted kind align length values result).1,
      ∀ value ∈ grant.values, Kind.Fits grant.kind.widths value := by
  intro grant member
  obtain ⟨answer, after⟩ := result
  cases answer with
  | error failure => cases member
  | ok start =>
    rw [List.mem_singleton.mp member]
    exact fits

theorem grantedEach_typed {requests : List (Nat × Nat)} {starts : List Nat} :
    ∀ grant ∈ grantedEach requests starts,
      ∀ value ∈ grant.values, Kind.Fits grant.kind.widths value := by
  intro grant member
  obtain ⟨i, inside, same⟩ := List.getElem_of_mem member
  simp only [grantedEach, List.getElem_zipWith] at same
  rw [← same]
  intro value stored
  cases stored

theorem Request.serve_typed {request : Request} (typed : request.Typed) (world : World)
    (owner : Nat) :
    ∀ grant ∈ (request.serve world owner).1,
      ∀ value ∈ grant.values, Kind.Fits grant.kind.widths value := by
  have one {kind : Kind} {value : Value} (fits : Kind.Fits kind.widths value) :
      ∀ v ∈ [value], Kind.Fits kind.widths v := by
    intro v member
    rw [List.mem_singleton.mp member]
    exact fits
  cases request with
  | bytes | tryBytes | raw | array => exact granted_typed (by simp)
  | object | objectCopy | construct => exact granted_typed (one typed)
  | objects | constructSlice => exact granted_typed typed
  | slice kind number make stop =>
    apply granted_typed
    intro value member
    obtain ⟨i, inside, rfl⟩ := List.mem_map.mp member
    exact typed i (List.mem_range.mp inside)
  | objectWith kind inner stops value =>
    intro grant member
    rcases List.mem_append.mp member with inside | outer
    · exact grantedEach_typed grant inside
    · exact granted_typed (one typed) grant outer

namespace Client

def Typed (client : Client) : Prop := ∀ holding ∈ client.holdings, holding.Typed

theorem Typed.modify {holdings : List Holding} (typed : ∀ holding ∈ holdings, holding.Typed)
    {which : Nat} {item : Holding} (found : holdings[which]? = some item) {f : Holding → Holding}
    (changed : (f item).Typed) : ∀ holding ∈ holdings.modify which f, holding.Typed := by
  intro holding member
  obtain ⟨rest, front, moved⟩ := perm_modify found
  rcases List.mem_cons.mp ((moved f).mem_iff.mp member) with same | older
  · rw [same]
    exact changed
  · exact typed holding (front.mem_iff.mpr (List.mem_cons_of_mem _ older))

theorem Typed.grow {client : Client} (typed : client.Typed) {which : Nat} {holding : Holding}
    (found : client.holdings[which]? = some holding) (new : Nat) :
    (client.grow which new holding).Typed := by
  have before := typed holding (List.mem_of_getElem? found)
  apply Typed.modify typed found
  unfold Holding.enlarged
  split
  · refine before.of_fewer rfl ?_
    intro i value known
    simp only [Holding.grown] at known
    split at known
    · exact known
    · cases known
  · exact before

theorem Typed.write {client : Client} (typed : client.Typed) {which : Nat} {holding : Holding}
    (found : client.holdings[which]? = some holding) (index : Nat) (value : Value) :
    (client.write which index value holding).Typed := by
  unfold Client.write
  split
  · rename_i proper
    apply Typed.modify typed found
    intro i stored known
    simp only [Holding.written] at known
    split at known
    · cases known
      exact proper.2
    · exact typed holding (List.mem_of_getElem? found) i stored known
  · exact typed

theorem Typed.giveUp {client : Client} (typed : client.Typed) {which : Nat} {holding : Holding}
    (found : client.holdings[which]? = some holding) (depth : Nat) (disposal : Disposal) :
    (client.giveUp which depth disposal holding).Typed := by
  unfold Client.giveUp
  split
  · apply Typed.modify typed found
    intro i value known
    cases known
  · exact typed

theorem Typed.rewind {client : Client} (typed : client.Typed) (saved : Saved) :
    (client.rewind saved).Typed := by
  simp only [Client.rewind]
  split
  · intro left member
    obtain ⟨holding, present, undone⟩ := List.mem_filterMap.mp member
    obtain ⟨⟨extent, earlier, rfl⟩, _⟩ := Holding.undo_eq_some undone
    exact typed holding present
  · exact typed

theorem Typed.make {client : Client} (typed : client.Typed) (move : Move) :
    (client.make move).Typed := by
  cases move with
  | create | disable | enable | release | drop | log => exact typed
  | place owner request =>
    simp only [Client.make]
    split
    · rename_i proper
      intro holding member
      rcases List.mem_append.mp member with fresh | older
      · obtain ⟨grant, present, rfl⟩ := List.mem_map.mp fresh
        intro i value known
        exact request.serve_typed proper client.world owner grant present value
          (List.mem_of_getElem? known)
      · exact typed holding older
    · exact typed
  | grow which new =>
    simp only [Client.make]
    cases found : client.holdings[which]? with
    | none => exact typed
    | some holding => exact typed.grow found new
  | write which index value =>
    simp only [Client.make]
    cases found : client.holdings[which]? with
    | none => exact typed
    | some holding => exact typed.write found index value
  | giveUp which depth disposal =>
    simp only [Client.make]
    cases found : client.holdings[which]? with
    | none => exact typed
    | some holding => exact typed.giveUp found depth disposal
  | dispose owner depth address disposal =>
    intro holding member
    obtain ⟨before, present, rfl⟩ := List.mem_map.mp member
    refine (typed before present).of_fewer rfl ?_
    intro i value known
    simp only [Holding.spoiled] at known
    split at known
    · cases known
    · exact known
  | save owner =>
    simp only [Client.make]
    cases client.world.arena? owner with
    | none => exact typed
    | some arena => exact typed
  | rewind which =>
    simp only [Client.make]
    cases client.saves[which]? with
    | none => exact typed
    | some saved => exact typed.rewind saved

theorem Typed.run {client : Client} (typed : client.Typed) (moves : List Move) :
    (client.run moves).Typed := by
  induction moves generalizing client with
  | nil => exact typed
  | cons move rest ih =>
    apply ih
    exact fun holding member => typed.make move holding (List.mem_filter.mp member).1

end Client

theorem Holding.Intact.elements {holding : Holding} {world : World}
    (intact : holding.Intact world.memory) (typed : holding.Typed) {i : Nat}
    (inside : i < holding.length) {value : Value} (known : holding.contents i = some value) :
    (world.elements holding.kind holding.start holding.length)[i]? = some value := by
  have stored := intact holding.extent List.mem_cons_self i inside value known
  rw [World.elements, List.getElem?_map, List.getElem?_range inside, Option.map_some, stored,
    Kind.decode_encode holding.kind (typed i value known)]

/-- In every run, reading an array that is held gives the values that were stored in it. -/
theorem stored_values_persist (profile : Profile) (site : Site) (logs : Logs) (moves : List Move)
    (provided : Provided ((Client.start profile site logs).run moves).world.traffic) :
    ∀ holding ∈ ((Client.start profile site logs).run moves).holdings,
      ∀ i < holding.length, ∀ value, holding.contents i = some value →
        (((Client.start profile site logs).run moves).world.elements holding.kind holding.start
          holding.length)[i]? = some value := by
  have holdingsKept := (Client.start_holdingsKept profile site logs).run moves
  have nothing : (Client.start profile site logs).Typed := by
    intro holding member
    cases member
  have typed := nothing.run moves
  generalize (Client.start profile site logs).run moves = client at *
  intro holding member i inside value known
  exact ((holdingsKept provided).intact holding member).elements (typed holding member) inside known

def storesAndRewinds : List Move :=
  [.create ⟨"pairs", 16⟩ 0, .create ⟨"lines", 64⟩ 0, .place 1 (.objects .u16 [[5], [6]] none),
    .place 0 (.objectWith .u32 [(3, 1), (20, 4)] false [7]), .save 0,
    .place 0 (.slice .u8 3 (fun i => [10 + i]) none), .grow 0 5, .write 0 2 [9], .save 0,
    .place 0 (.construct 1 .u64 [8] false), .giveUp 0 0 (.object .u64 false), .rewind 0,
    .place 0 (.objectCopy .u64 [4] false), .drop 1, .write 1 1 [3]]

theorem storesAndRewinds_persists :
    Provided
      ((Client.start .debug pagedSite (Logs.empty none)).run storesAndRewinds).world.traffic ∧
      ((Client.start .debug pagedSite (Logs.empty none)).run storesAndRewinds).holdings.map
          (fun holding => (List.range holding.length).map holding.contents) =
        [[some [4]], [some [10], some [3], some [9], none, none], [none, none, none],
          List.replicate 20 none, [some [7]]] ∧
      ∀ holding ∈ ((Client.start .debug pagedSite (Logs.empty none)).run storesAndRewinds).holdings,
        ∀ i < holding.length, ∀ value, holding.contents i = some value →
          (((Client.start .debug pagedSite (Logs.empty none)).run storesAndRewinds).world.elements
            holding.kind holding.start holding.length)[i]? = some value :=
  ⟨by decide +kernel, by decide +kernel,
    stored_values_persist .debug pagedSite (Logs.empty none) storesAndRewinds (by decide +kernel)⟩

end ChunkArena
