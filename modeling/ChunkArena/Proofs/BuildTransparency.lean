import ChunkArena.Proofs.BuildAgreement

/-!
The instrumentation of debug builds cannot be noticed. The same commands of the same client, in a
debug build and in a release build, get the same answers: the same addresses, errors and panics.
They leave the same chunks and cursors, pass the same blocks, and write the same lines. Every byte
that the client stored into something it still holds is there in both.
-/

namespace ChunkArena

namespace RecordingClient

def within (client : RecordingClient) (world : World) : RecordingClient :=
  { client with world := world }

theorem make_world (client : RecordingClient) (command : Command) :
    (client.make command).2.world = client.world ∨
      ∃ action, (client.make command).2.world = client.world.act action := by
  cases command with
  | create builder skew => exact Or.inr ⟨.create builder skew, rfl⟩
  | place owner request =>
    simp only [make]
    split
    · exact Or.inl rfl
    · refine Or.inr ⟨.place owner request, ?_⟩
      rw [World.act, request.serve_eq]
      rfl
  | grow which skip old new elementSize =>
    simp only [make]
    cases client.holdings[which]? with
    | none => exact Or.inl rfl
    | some holding =>
      simp only [Option.elim_some]
      split
      · exact Or.inl rfl
      · exact Or.inr ⟨.grow holding.owner (holding.start + skip) old new elementSize, rfl⟩
  | stretch owner start old new elementSize =>
    simp only [make]
    split
    · exact Or.inl rfl
    · exact Or.inr ⟨.grow owner start old new elementSize, rfl⟩
  | write which offset bytes =>
    simp only [make]
    cases client.holdings[which]? with
    | none => exact Or.inl rfl
    | some holding =>
      simp only [Option.elim_some, write]
      split
      · exact Or.inr ⟨.write (holding.start + offset) bytes, rfl⟩
      · exact Or.inl rfl
  | giveUp which depth disposal =>
    simp only [make]
    cases client.holdings[which]? with
    | none => exact Or.inl rfl
    | some holding =>
      simp only [Option.elim_some, giveUp]
      split
      · exact Or.inr ⟨.dispose holding.owner depth holding.start disposal, rfl⟩
      · exact Or.inl rfl
  | save owner =>
    simp only [make]
    cases client.world.arena? owner <;> exact Or.inl rfl
  | rewind owner which =>
    simp only [make]
    cases client.saves[which]? with
    | none => exact Or.inl rfl
    | some saved => exact Or.inr ⟨.rewind owner saved.snapshot, rfl⟩
  | disable owner => exact Or.inr ⟨.disable owner, rfl⟩
  | enable owner =>
    simp only [make]
    split
    · exact Or.inr ⟨.enable owner, rfl⟩
    · exact Or.inl rfl
  | release owner => exact Or.inr ⟨.release owner, rfl⟩
  | drop owner => exact Or.inr ⟨.drop owner, rfl⟩
  | log call => exact Or.inr ⟨.log call, rfl⟩

theorem step_suffix (client : RecordingClient) (command : Command) :
    client.world.traffic <:+ (client.step command).world.traffic := by
  rcases client.make_world command with same | ⟨action, acted⟩
  · have still : (client.step command).world.traffic = client.world.traffic :=
      congrArg World.traffic same
    rw [still]
  · have suffix := client.world.act_traffic_suffix action
    rwa [← acted] at suffix

theorem run_suffix (client : RecordingClient) (commands : List Command) :
    client.world.traffic <:+ (client.run commands).world.traffic :=
  suffix_foldl (fun client => client.world.traffic) step_suffix client commands

structure Paired (client : RecordingClient) (twin : World) : Prop where
  inStep : World.InStep client.guards client.world twin
  holdingsKept : client.HoldingsKept

/-- Whether a command got the same answer in both worlds and left them in step, with at most one
more disable guard. -/
def Parallel (client : RecordingClient) (made made' : Verdict × RecordingClient) : Prop :=
  ∃ twin, made' = (made.1, made.2.within twin) ∧
    World.InStep made.2.guards made.2.world twin ∧
    made.2.guards.length ≤ client.guards.length + 1

variable {client : RecordingClient} {twin : World}

theorem Paired.refuse (paired : client.Paired twin) :
    client.Parallel client.refuse (client.within twin).refuse :=
  ⟨twin, rfl, paired.inStep, Nat.le_succ _⟩

theorem Paired.unless (paired : client.Paired twin) (guarded : Prop) [Decidable guarded]
    {made made' : Verdict × RecordingClient} (parallel : ¬ guarded → client.Parallel made made') :
    client.Parallel (if guarded then client.refuse else made)
      (if guarded then (client.within twin).refuse else made') := by
  by_cases on : guarded
  · rw [if_pos on, if_pos on]
    exact paired.refuse
  · rw [if_neg on, if_neg on]
    exact parallel on

theorem Paired.elim (paired : client.Paired twin) {α : Type} (item : Option α)
    {made made' : α → Verdict × RecordingClient}
    (parallel : ∀ found, item = some found → client.Parallel (made found) (made' found)) :
    client.Parallel (item.elim client.refuse made)
      (item.elim (client.within twin).refuse made') := by
  cases item with
  | none => exact paired.refuse
  | some found => exact parallel found rfl

theorem Paired.place (paired : client.Paired twin) {owner : Nat} (enabled : owner ∉ client.guards)
    (request : Request) (roomy : Roomy owner (client.place owner request).2.world.traffic) :
    client.Parallel (client.place owner request) ((client.within twin).place owner request) := by
  obtain ⟨same, after⟩ := paired.inStep.ask enabled request roomy
  refine ⟨(request.ask twin owner).2, ?_, after, Nat.le_succ _⟩
  simp only [RecordingClient.place, within, same]

theorem Paired.grow (paired : client.Paired twin) {holding : Holding}
    (enabled : holding.owner ∉ client.guards) (which skip old new elementSize : Nat)
    (provided : Provided (client.grow which skip old new elementSize holding).2.world.traffic) :
    client.Parallel (client.grow which skip old new elementSize holding)
      ((client.within twin).grow which skip old new elementSize holding) := by
  obtain ⟨same, after⟩ :=
    paired.inStep.grow enabled (holding.start + skip) old new elementSize provided
  refine ⟨(twin.grow holding.owner (holding.start + skip) old new elementSize).2, ?_, after,
    Nat.le_succ _⟩
  simp only [RecordingClient.grow, within, same]

theorem Paired.stretch (paired : client.Paired twin) {owner : Nat}
    (enabled : owner ∉ client.guards) (start old new elementSize : Nat)
    (provided : Provided (client.stretch owner start old new elementSize).2.world.traffic) :
    client.Parallel (client.stretch owner start old new elementSize)
      ((client.within twin).stretch owner start old new elementSize) := by
  obtain ⟨same, after⟩ := paired.inStep.grow enabled start old new elementSize provided
  refine ⟨(twin.grow owner start old new elementSize).2, ?_, after,
    Nat.le_succ _⟩
  simp only [RecordingClient.stretch, within, same]

theorem Paired.write (paired : client.Paired twin) (which offset : Nat) (bytes : List UInt8)
    (holding : Holding) :
    client.Parallel (client.write which offset bytes holding)
      ((client.within twin).write which offset bytes holding) := by
  unfold RecordingClient.write
  split
  · have after := paired.inStep.outside
      (client.world.memory.store (holding.start + offset) bytes)
      (twin.memory.store (holding.start + offset) bytes) id paired.inStep.upToGuards.logs
    exact ⟨_, rfl, after, Nat.le_succ _⟩
  · exact paired.refuse

theorem HoldingsKept.owns (holdingsKept : client.HoldingsKept)
    (provided : Provided client.world.traffic)
    {holding : Holding} (held : holding ∈ client.holdings) {arena : Arena}
    (found : client.world.arena? holding.owner = some arena) :
    arena.owns holding.start = true :=
  (holdingsKept provided).settled.owns (List.mem_map_of_mem held) found

theorem Paired.giveUp (paired : client.Paired twin) {holding : Holding}
    (held : holding ∈ client.holdings) (which depth : Nat) (disposal : Disposal)
    (provided : Provided (client.giveUp which depth disposal holding).2.world.traffic) :
    client.Parallel (client.giveUp which depth disposal holding)
      ((client.within twin).giveUp which depth disposal holding) := by
  unfold RecordingClient.giveUp at provided ⊢
  by_cases proper : disposal.size ≤ holding.size
  · rw [if_pos proper] at provided
    simp only [if_pos proper]
    have before := provided_of_suffix provided
      (client.world.act_traffic_suffix (.dispose holding.owner depth holding.start disposal))
    obtain ⟨same, after⟩ := paired.inStep.dispose depth
      (fun arena found => paired.holdingsKept.owns before held found) disposal provided
    refine ⟨(disposal.dispose twin (.nested holding.owner depth) holding.start).2, ?_, after,
      Nat.le_succ _⟩
    simp only [within, same]
  · simp only [if_neg proper]
    exact paired.refuse

theorem Paired.rewind (paired : client.Paired twin) (owner : Nat) (saved : Saved)
    (provided : Provided (client.rewind owner saved).2.world.traffic) :
    client.Parallel (client.rewind owner saved) ((client.within twin).rewind owner saved) := by
  have matched := paired.inStep.rewind owner saved.snapshot provided
  have effective : Client.Effective twin owner _ ↔ Client.Effective client.world owner _ :=
    paired.inStep.effective matched
  obtain ⟨same, after⟩ := matched
  refine ⟨(twin.rewind owner saved.snapshot).2, ?_, after, Nat.le_succ _⟩
  simp only [RecordingClient.rewind, within, same, effective]

theorem Paired.disable (paired : client.Paired twin) (owner : Nat)
    (few : client.guards.length + 1 < wordLimit)
    (provided : Provided (client.disable owner).2.world.traffic) :
    client.Parallel (client.disable owner) ((client.within twin).disable owner) := by
  obtain ⟨same, after⟩ := paired.inStep.disable few owner provided
  refine ⟨(twin.disable owner).2, ?_, after, ?_⟩
  · simp only [RecordingClient.disable, within, same]
  · simp only [RecordingClient.disable]
    split
    · exact Nat.le_refl _
    · exact Nat.le_succ _

theorem Paired.enable (paired : client.Paired twin) {owner : Nat} (alive : owner ∈ client.guards)
    (provided : Provided (client.enable owner).2.world.traffic) :
    client.Parallel (client.enable owner) ((client.within twin).enable owner) := by
  have fewer := List.length_erase_of_mem alive
  obtain ⟨same, after⟩ := paired.inStep.enable alive provided
  refine ⟨(twin.enable owner).2, ?_, after, ?_⟩
  · simp only [RecordingClient.enable, within, same]
  · simp only [RecordingClient.enable]
    omega

theorem Paired.make (paired : client.Paired twin) (command : Command)
    (few : client.guards.length + 1 < wordLimit)
    (roomy : ∀ owner, Roomy owner (client.make command).2.world.traffic) :
    client.Parallel (client.make command) ((client.within twin).make command) := by
  have provided := (roomy 0).provided
  cases command with
  | create builder skew =>
    exact ⟨_, rfl, paired.inStep.addArena builder skew provided, Nat.le_succ _⟩
  | place owner request =>
    apply paired.unless
    intro enabled
    have acted : client.make (.place owner request) = client.place owner request := if_neg enabled
    have room := roomy owner
    rw [acted] at room
    exact paired.place enabled request room
  | grow which skip old new elementSize =>
    apply paired.elim
    intro holding found
    apply paired.unless
    intro enabled
    have acted : client.make (.grow which skip old new elementSize) =
        client.grow which skip old new elementSize holding := by
      simp only [RecordingClient.make, found, Option.elim_some, if_neg enabled]
    rw [acted] at provided
    exact paired.grow enabled which skip old new elementSize provided
  | stretch owner start old new elementSize =>
    apply paired.unless
    intro enabled
    have acted : client.make (.stretch owner start old new elementSize) =
        client.stretch owner start old new elementSize := if_neg enabled
    rw [acted] at provided
    exact paired.stretch enabled start old new elementSize provided
  | write which offset bytes =>
    apply paired.elim
    intro holding _
    exact paired.write which offset bytes holding
  | giveUp which depth disposal =>
    apply paired.elim
    intro holding found
    have acted : client.make (.giveUp which depth disposal) =
        client.giveUp which depth disposal holding := by
      simp only [RecordingClient.make, found, Option.elim_some]
    rw [acted] at provided
    exact paired.giveUp (List.mem_of_getElem? found) which depth disposal provided
  | save owner =>
    have present := paired.inStep.upToGuards.arena? owner
    simp only [RecordingClient.make, within, present]
    cases client.world.arena? owner with
    | none => exact ⟨twin, rfl, paired.inStep, Nat.le_succ _⟩
    | some arena => exact ⟨twin, rfl, paired.inStep, Nat.le_succ _⟩
  | rewind owner which =>
    apply paired.elim
    intro saved found
    have acted : client.make (.rewind owner which) = client.rewind owner saved := by
      simp only [RecordingClient.make, found, Option.elim_some]
    rw [acted] at provided
    exact paired.rewind owner saved provided
  | disable owner => exact paired.disable owner few provided
  | enable owner =>
    by_cases alive : owner ∈ client.guards
    · have acted (world : World) : (client.within world).make (.enable owner) =
          (client.within world).enable owner := if_pos alive
      have acted' : client.make (.enable owner) = client.enable owner := if_pos alive
      rw [acted'] at provided
      rw [acted, acted']
      exact paired.enable alive provided
    · have idle (world : World) : (client.within world).make (.enable owner) =
          (client.within world).refuse := if_neg alive
      have idle' : client.make (.enable owner) = client.refuse := if_neg alive
      rw [idle, idle']
      exact paired.refuse
  | release owner =>
    obtain ⟨same, after⟩ := paired.inStep.release owner provided
    refine ⟨(twin.release owner).2, ?_, after, Nat.le_succ _⟩
    simp only [RecordingClient.make, within, same]
  | drop owner =>
    obtain ⟨same, after⟩ := paired.inStep.drop owner provided
    refine ⟨(twin.drop owner).2, ?_, after, Nat.le_succ _⟩
    simp only [RecordingClient.make, within, same]
  | log call =>
    have lines := paired.inStep.upToGuards.logs
    have after := paired.inStep.outside client.world.memory twin.memory id
      (congrArg (fun logs => (Logs.call call logs).2) lines)
    refine ⟨twin.log call, ?_, after, Nat.le_succ _⟩
    simp only [RecordingClient.make, within, lines]

theorem Paired.step (paired : client.Paired twin) (command : Command)
    (few : client.guards.length + 1 < wordLimit)
    (roomy : ∀ owner, Roomy owner (client.step command).world.traffic) :
    ∃ next, (client.within twin).step command = (client.step command).within next ∧
      (client.step command).Paired next ∧
      (client.step command).guards.length ≤ client.guards.length + 1 := by
  obtain ⟨next, same, after, more⟩ := paired.make command few roomy
  refine ⟨next, ?_, ⟨after, paired.holdingsKept.step command⟩, more⟩
  have remains := after.upToGuards.remaining (client.make command).2.holdings
  unfold RecordingClient.step
  rw [same]
  simp only [within, remains]

theorem Paired.run (paired : client.Paired twin) (commands : List Command)
    (few : client.guards.length + commands.length < wordLimit)
    (roomy : ∀ owner, Roomy owner (client.run commands).world.traffic) :
    ∃ last, (client.within twin).run commands = (client.run commands).within last ∧
      (client.run commands).Paired last := by
  induction commands generalizing client twin with
  | nil => exact ⟨twin, rfl, paired⟩
  | cons command rest ih =>
    rw [List.length_cons] at few
    have between (owner : Nat) : Roomy owner (client.step command).world.traffic :=
      (roomy owner).of_suffix ((client.step command).run_suffix rest)
    obtain ⟨next, same, stepped, more⟩ := paired.step command (by omega) between
    obtain ⟨last, alike, ended⟩ := ih stepped (by omega) roomy
    have first : (client.within twin).run (command :: rest) =
        ((client.within twin).step command).run rest := rfl
    rw [← same] at alike
    exact ⟨last, first.trans alike, ended⟩

/-- Whether two clients cannot tell their worlds apart. The memory may differ, but not in a byte
that is known of what they hold. -/
structure Indistinguishable (client mate : RecordingClient) : Prop where
  verdicts : mate.verdicts = client.verdicts
  /-- The same chunks and cursors, and so as many bytes left; only the disable guards are not
  counted. -/
  arenas : ∀ owner, mate.world.arena? owner = (client.world.arena? owner).map Arena.stripped
  /-- The same blocks came and went; only whether they were filled on their way back may differ. -/
  blocks : mate.world.traffic.map Traffic.plain = client.world.traffic.map Traffic.plain
  lines : mate.world.logs = client.world.logs
  tally : mate.world.tally = client.world.tally
  holdings : mate.holdings = client.holdings
  bytes : ∀ holding ∈ client.holdings, ∀ i < holding.size, ∀ byte, holding.byte? i = some byte →
    client.world.memory.read (holding.start + i) = byte ∧
      mate.world.memory.read (holding.start + i) = byte

theorem HoldingsKept.read (holdingsKept : client.HoldingsKept)
    (provided : Provided client.world.traffic)
    {holding : Holding} (held : holding ∈ client.holdings) {i : Nat} (inside : i < holding.size)
    {byte : UInt8} (known : holding.byte? i = some byte) :
    client.world.memory.read (holding.start + i) = byte :=
  ((holdingsKept provided).intact holding held).read List.mem_cons_self inside known

end RecordingClient

/-- In every run, a debug build and a release build are the same to a client. The run is shorter
than 2^64 commands and no arena obtains 2^64 blocks, as a debug build stops where a counter runs
out. -/
theorem instrumentation_transparent (site : Site) (logs : Logs) (commands : List Command)
    (blind : Blind site) (few : commands.length < wordLimit)
    (roomy : ∀ owner,
      Roomy owner ((RecordingClient.start .debug site logs).run commands).world.traffic) :
    ((RecordingClient.start .debug site logs).run commands).Indistinguishable
      ((RecordingClient.start .release site logs).run commands) := by
  have start : (RecordingClient.start .debug site logs).Paired (World.new .release site logs) :=
    ⟨World.InStep.start site blind logs, RecordingClient.start_holdingsKept .debug site logs⟩
  obtain ⟨twin, same, paired⟩ :=
    start.run commands (by simpa [RecordingClient.start] using few) roomy
  have released : (RecordingClient.start .release site logs).run commands =
      ((RecordingClient.start .debug site logs).run commands).within twin := same
  have holdingsKept := (RecordingClient.start_holdingsKept .release site logs).run commands
  have provided := (roomy 0).provided
  have upToGuards := paired.inStep.upToGuards
  have provided' : Provided twin.traffic := provided_of_plain upToGuards.traffic.symm provided
  rw [released] at holdingsKept ⊢
  refine ⟨rfl, upToGuards.arena?, upToGuards.traffic, upToGuards.logs, upToGuards.tally, rfl, ?_⟩
  intro holding held i inside byte known
  exact
    ⟨paired.holdingsKept.read provided held inside known,
      holdingsKept.read provided' held inside known⟩

def mixedCommands : List Command :=
  [.create ⟨"pairs", 32⟩ 0, .create ⟨"lines", 64⟩ 0, .save 0,
    .place 0 (.objectWith .u32 [(8, 8)] false [5]), .place 0 (.bytes 6 2), .write 0 2 [7, 8, 9],
    .grow 0 4 2 6 1, .place 1 (.object .u64 [3]), .disable 0, .place 0 (.bytes 1 1), .enable 0,
    .save 0, .place 0 (.bytes 100 16), .save 0, .giveUp 0 0 (.bytes ⟨100, 16⟩), .rewind 1 2,
    .rewind 0 1, .rewind 0 0, .place 0 (.bytes 40 8), .release 1]

def mixedCommand (profile : Profile) : RecordingClient :=
  (RecordingClient.start profile pagedSite (Logs.empty none)).run mixedCommands

theorem mixedCommands_transparent :
    Blind pagedSite ∧ mixedCommands.length < wordLimit ∧
      (∀ owner, Roomy owner (mixedCommand .debug).world.traffic) ∧
      ((mixedCommand .debug).verdicts.countP fun verdict => verdict matches .refused) = 1 ∧
      (mixedCommand .release).verdicts = (mixedCommand .debug).verdicts ∧
      ∃ holding, (mixedCommand .debug).holdings[1]? = some holding ∧ holding.byte? 3 = some 8 ∧
        (mixedCommand .debug).world.memory.read (holding.start + 3) = 8 ∧
        (mixedCommand .release).world.memory.read (holding.start + 3) = 8 := by
  have few : mixedCommands.length < wordLimit := by decide +kernel
  have provided : Provided (mixedCommand .debug).world.traffic := by decide +kernel
  have short : (mixedCommand .debug).world.traffic.length + 1 < wordLimit := by decide +kernel
  have refused :
      ((mixedCommand .debug).verdicts.countP fun verdict => verdict matches .refused) = 1 := by
    decide +kernel
  have known : ((mixedCommand .debug).holdings[1]?.bind fun holding =>
      if 3 < holding.size then holding.byte? 3 else none) = some 8 := by decide +kernel
  have roomy (owner : Nat) : Roomy owner (mixedCommand .debug).world.traffic := by
    have fewer : obtainedBy owner (mixedCommand .debug).world.traffic ≤
        (mixedCommand .debug).world.traffic.length := List.countP_le_length
    exact ⟨provided, by omega⟩
  obtain ⟨holding, held, byte⟩ := Option.bind_eq_some_iff.mp known
  obtain ⟨inside, byte⟩ := Option.ite_none_right_eq_some.mp byte
  unfold mixedCommand at roomy refused held ⊢
  have same :=
    instrumentation_transparent pagedSite (Logs.empty none) mixedCommands pagedSite_blind few roomy
  obtain ⟨first, second⟩ := same.bytes holding (List.mem_of_getElem? held) 3 inside 8 byte
  exact ⟨pagedSite_blind, few, roomy, refused, same.verdicts, holding, held, byte, first, second⟩

end ChunkArena
