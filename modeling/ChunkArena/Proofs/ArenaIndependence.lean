import ChunkArena.Proofs.SharedWorlds

/-!
Arenas do not interfere. Whatever happens in a shared world, each arena shows its user the same as
if it were the only arena of a world of its own. Blocks may be anywhere in either world, as long as
the n-th one starts at addresses that agree modulo the alignments that are asked for, and comes with
the same bytes.
-/

namespace ChunkArena

/-- An arena of a shared world beside the only arena of another world. -/
def lonePair (own modulus : Nat) : Frame := ⟨own, 0, ⟨0, 0, modulus⟩, [], False⟩

namespace SharedWorld

def usesOf (own : Nat) (events : List Event) : List Use :=
  events.filterMap fun
    | .build .. => none
    | .use owner use => if owner = own then some use else none

theorem usesOf_own (own : Nat) (use : Use) (rest : List Event) :
    usesOf own (.use own use :: rest) = use :: usesOf own rest := by
  simp [usesOf]

theorem usesOf_other {own owner : Nat} (other : owner ≠ own) (use : Use) (rest : List Event) :
    usesOf own (.use owner use :: rest) = usesOf own rest := by
  simp [usesOf, other]

section Views

variable (own : Nat) (supply supply' : Supply) (shared : SharedWorld) (alone : ArenaUser)

def observed : Event → List (Verdict × World)
  | .build .. => []
  | .use owner use =>
      if owner = own then
        [((shared.made supply own use).1, (shared.made supply own use).2.world)]
      else []

def observe : SharedWorld → List Event → List (Verdict × World)
  | _, [] => []
  | shared, event :: rest =>
      shared.observed own supply event ++ observe (shared.step supply event) rest

def loneAfter : Event → ArenaUser
  | .build .. => alone
  | .use owner use => if owner = own then ((alone.supplied supply').use ⟨0, 0⟩ use).2 else alone

/-- What is counted on at an event of the shared world. Arenas that are used are there, and the
system keeps its guarantees. A use of the arena itself is fair, and a use of another arena gives up
nothing in the middle of which a chunk ends. -/
def Fair (modulus : Nat) : Event → Prop
  | .build .. => True
  | .use owner use =>
      owner < shared.world.tenants.length ∧
        Ample (shared.made supply owner use).2.world.traffic ∧
        if owner = own then
          (lonePair own modulus).Fair (shared.user supply own) (alone.supplied supply') use
        else (shared.user supply owner).world.GivesWithin ⟨owner, 0⟩ use

def AllFair (modulus : Nat) : SharedWorld → ArenaUser → List Event → Prop
  | _, _, [] => True
  | shared, alone, event :: rest =>
      shared.Fair own supply supply' alone modulus event ∧
        AllFair modulus (shared.step supply event) (loneAfter own supply' alone event) rest

instance (modulus : Nat) (event : Event) :
    Decidable (shared.Fair own supply supply' alone modulus event) := by
  cases event <;> unfold SharedWorld.Fair <;> infer_instance

instance decidableAllFair (modulus : Nat) :
    (shared : SharedWorld) → (alone : ArenaUser) → (events : List Event) →
      Decidable (AllFair own supply supply' modulus shared alone events)
  | _, _, [] => isTrue trivial
  | shared, alone, event :: rest =>
      have := decidableAllFair modulus (shared.step supply event)
        (loneAfter own supply' alone event) rest
      inferInstanceAs (Decidable (_ ∧ _))

end Views

end SharedWorld

namespace World

variable {frame : Frame} {couples : List Couple} {world twin : World}

theorem Sound.strangers (sound : world.Sound) (provided : Provided world.traffic)
    {first second : Nat} (different : first ≠ second) {chunk other : Chunk}
    (member : chunk ∈ world.chunks first) (member' : other ∈ world.chunks second) :
    chunk.Apart other := by
  cases found : world.arena? first with
  | none =>
    rw [chunks_of_none found] at member
    cases member
  | some arena =>
    cases found' : world.arena? second with
    | none =>
      rw [chunks_of_none found'] at member'
      cases member'
    | some stranger =>
      rw [chunks_of_some found] at member
      rw [chunks_of_some found'] at member'
      exact sound.foreign_apart provided different found found' member member'

theorem Reflects.elsewhere (reflects : Reflects frame couples world twin)
    (unlogged : ¬ frame.logged)
    {next : World} (wellFormed : next.WellFormed) (sequence : StepSequence world next)
    (complaint : next.logs.complaint = world.logs.complaint)
    (arena : next.arena? frame.owner = world.arena? frame.owner)
    (dealings : dealings frame.owner next.traffic = ChunkArena.dealings frame.owner world.traffic)
    (bytes : ∀ chunk ∈ world.chunks frame.owner, ∀ offset < chunk.capacity,
      next.memory.read (chunk.start + offset) = world.memory.read (chunk.start + offset)) :
    Reflects frame couples next twin := by
  have known := Nat.lt_of_lt_of_le reflects.known sequence.tenants_le
  have echoes : next.memory.Echoes twin.memory couples := by
    intro couple member offset below
    rw [bytes couple.here (reflects.inside member).1 offset below]
    exact reflects.echoes.bytes couple member offset below
  exact
    { sound := wellFormed.sound
      sound' := reflects.sound'
      conserved := wellFormed.conserved frame.owner
      conserved' := reflects.conserved'
      known := known
      known' := reflects.known'
      profile := reflects.profile.trans sequence.profile.symm
      echoes :=
        { complaint := reflects.echoes.complaint.trans complaint.symm
          logs := fun logged => absurd logged unlogged
          dealings := by
            rw [dealings]
            exact reflects.echoes.dealings
          bytes := echoes }
      arenas := by
        rw [arena]
        exact reflects.arenas }

end World

namespace SharedWorld

structure Beside (own modulus : Nat) (shared : SharedWorld) (alone : ArenaUser) : Prop where
  wellFormed : shared.WellFormed
  ample : Ample shared.world.traffic
  reflects : ∃ couples,
    ArenaUser.Reflects (lonePair own modulus) couples ⟨shared.world, shared.saves own⟩ alone

variable {own modulus : Nat} {supply supply' : Supply} {shared : SharedWorld} {alone : ArenaUser}

theorem Beside.used (beside : Beside own modulus shared alone) {use : Use}
    (fair : shared.Fair own supply supply' alone modulus (.use own use)) :
    Beside own modulus (shared.step supply (.use own use))
        (loneAfter own supply' alone (.use own use)) ∧
      (lonePair own modulus).Sees
        ((shared.made supply own use).1, (shared.made supply own use).2.world)
        (((alone.supplied supply').use ⟨0, 0⟩ use).1,
          ((alone.supplied supply').use ⟨0, 0⟩ use).2.world) := by
  obtain ⟨_, ample, fair⟩ := fair
  rw [if_pos rfl] at fair
  obtain ⟨couples, reflects⟩ := beside.reflects
  have before : ArenaUser.Reflects (lonePair own modulus) couples (shared.user supply own)
      (alone.supplied supply') := reflects.supplied supply supply'
  obtain ⟨⟨after, next⟩, sees⟩ := before.step fair
  refine ⟨⟨beside.wellFormed.step ample, ample, after, ?_⟩, sees⟩
  simp only [SharedWorld.step, SharedWorld.loneAfter, ↓reduceIte]
  exact ⟨next.worlds, next.saves⟩

theorem Beside.elsewhere (beside : Beside own modulus shared alone) {owner : Nat}
    (different : own ≠ owner) {use : Use}
    (fair : shared.Fair own supply supply' alone modulus (.use owner use)) :
    Beside own modulus (shared.step supply (.use owner use)) alone := by
  obtain ⟨known, ample, givesWithin⟩ := fair
  rw [if_neg different.symm] at givesWithin
  obtain ⟨couples, reflects⟩ := beside.reflects
  have wellFormed := beside.wellFormed.supplied supply owner
  have next := ArenaUser.use_wellFormed wellFormed ample.provided
  have supplied := World.Step.outside shared.world (shared.user supply owner).world.memory
    shared.world.tally shared.world.logs
  have sequence := supplied.sequence.trans (ArenaUser.use_sequence wellFormed ample.provided)
  have suffix := (shared.user supply owner).use_suffix ⟨owner, 0⟩ use
  have provided := provided_of_suffix ample.provided suffix
  have arena : (shared.made supply owner use).2.world.arena? own = shared.world.arena? own :=
    World.use_arena? (shared.user supply owner) different use
  have spares :=
    ArenaUser.use_spares wellFormed known (beside.wellFormed.rooted owner) givesWithin
      (ample.roomy owner)
  have bytes : ∀ chunk ∈ shared.world.chunks own, ∀ offset < chunk.capacity,
      (shared.made supply owner use).2.world.memory.read (chunk.start + offset) =
        shared.world.memory.read (chunk.start + offset) := by
    intro chunk member offset below
    have kept : (shared.user supply owner).world.memory.read (chunk.start + offset) =
        shared.world.memory.read (chunk.start + offset) :=
      beside.wellFormed.world.sound.supplied_read supply member below
    rw [← kept]
    apply spares.kept _ below
    intro other inside
    rcases List.mem_append.mp inside with old | new
    · exact wellFormed.sound.strangers provided different member old
    · have still : chunk ∈ (shared.made supply owner use).2.world.chunks own := by
        rw [World.chunks, arena]
        exact member
      exact next.sound.strangers ample.provided different still new
  have worlds := reflects.worlds.elsewhere id next sequence
    (World.use_complaint (shared.user supply owner) ⟨owner, 0⟩ use) arena
    (World.use_dealings (shared.user supply owner) different use) bytes
  refine ⟨beside.wellFormed.step ample, ample, couples, worlds, ?_⟩
  simp only [SharedWorld.step, if_neg different]
  exact reflects.saves.imp fun _ _ recalls => recalls.later suffix (List.suffix_refl _)

theorem Beside.build (beside : Beside own modulus shared alone) (builder : Builder) (skew : Nat) :
    Beside own modulus (shared.step supply (.build builder skew)) alone := by
  obtain ⟨couples, reflects⟩ := beside.reflects
  have wellFormed : (shared.step supply (.build builder skew)).WellFormed :=
    beside.wellFormed.step beside.ample
  have known : own < shared.world.tenants.length := reflects.worlds.known
  have arena : (shared.world.addArena builder.build skew).arena? own = shared.world.arena? own := by
    simp [World.arena?, World.addArena, List.getElem?_append_left known]
  have worlds := reflects.worlds.elsewhere id wellFormed.world
    (World.Step.arrive shared.world builder skew).sequence rfl arena rfl fun _ _ _ _ => rfl
  exact ⟨wellFormed, beside.ample, couples, worlds, reflects.saves⟩

/-- Whatever happens in a shared world, an arena shows what it shows as the only one. -/
theorem Beside.observe (beside : Beside own modulus shared alone) {events : List Event}
    (fair : AllFair own supply supply' modulus shared alone events) :
    List.Forall₂ (lonePair own modulus).Sees (observe own supply shared events)
      (alone.observe ⟨0, 0⟩ supply' (usesOf own events)) := by
  induction events generalizing shared alone with
  | nil => exact .nil
  | cons event rest ih =>
    obtain ⟨now, later⟩ := fair
    rw [SharedWorld.observe]
    cases event with
    | build builder skew => exact ih (beside.build builder skew) later
    | use owner use =>
      by_cases same : owner = own
      · subst same
        obtain ⟨next, sees⟩ := beside.used now
        rw [observed, if_pos rfl, usesOf_own]
        have below := ih next later
        rw [loneAfter, if_pos rfl] at below
        exact .cons sees below
      · have next := beside.elsewhere (Ne.symm same) now
        rw [observed, if_neg same, usesOf_other same]
        rw [loneAfter, if_neg same] at later
        exact ih next later

theorem step_steady (supply : Supply) (shared : SharedWorld) (event : Event) :
    (shared.step supply event).world.profile = shared.world.profile ∧
      (shared.step supply event).world.logs.complaint = shared.world.logs.complaint := by
  cases event with
  | build builder skew => exact ⟨rfl, rfl⟩
  | use owner use =>
    constructor
    · exact World.use_same_view World.profile (fun world _ call => world.onArena_profile owner call)
        (fun _ _ _ => rfl) (fun _ => rfl) (shared.user supply owner) rfl use
    · exact World.use_complaint (shared.user supply owner) ⟨owner, 0⟩ use

theorem run_steady (supply : Supply) (shared : SharedWorld) (events : List Event) :
    (shared.run supply events).world.profile = shared.world.profile ∧
      (shared.run supply events).world.logs.complaint = shared.world.logs.complaint := by
  induction events generalizing shared with
  | nil => exact ⟨rfl, rfl⟩
  | cons event rest ih =>
    obtain ⟨profile, complaint⟩ := shared.step_steady supply event
    obtain ⟨profile', complaint'⟩ := ih (shared.step supply event)
    exact ⟨profile'.trans profile, complaint'.trans complaint⟩

/-- The user of the only arena of a world, which was just built. -/
def lone (profile : Profile) (site : Site) (logs : Logs) (builder : Builder) (skew : Nat) :
    ArenaUser :=
  ⟨(World.new profile site logs).addArena builder.build skew, []⟩

theorem WellFormed.beside (wellFormed : shared.WellFormed) (ample : Ample shared.world.traffic)
    {profile : Profile} {logs : Logs} (same : shared.world.profile = profile)
    (same' : shared.world.logs.complaint = logs.complaint) (site : Site) (builder : Builder)
    (skew skew' modulus : Nat) :
    Beside shared.world.tenants.length modulus (shared.step supply (.build builder skew))
      (lone profile site logs builder skew') := by
  have next : (shared.step supply (.build builder skew)).WellFormed := wellFormed.step ample
  have soundIf : World.SoundIfProvided (World.new profile site logs) :=
    World.new_soundIfProvided profile site logs
  have sequence : World.StepSequence (World.new profile site logs)
      (lone profile site logs builder skew').world :=
    (World.Step.arrive (World.new profile site logs) builder skew').sequence
  have place : (shared.world.addArena builder.build skew).arena? shared.world.tenants.length =
      some builder.build := by
    simp [World.arena?, World.addArena]
  have nothing : dealings shared.world.tenants.length shared.world.traffic = [] :=
    List.map_eq_nil_iff.mp ((wellFormed.world.conserved _).unborn (Nat.le_refl _))
  have positive : 0 < wordLimit := by decide
  have reflects : World.Reflects (lonePair shared.world.tenants.length modulus) []
      (shared.world.addArena builder.build skew)
      (lone profile site logs builder skew').world :=
    { sound := next.world.sound
      sound' := sequence.soundIf soundIf trivial
      conserved := next.world.conserved _
      conserved' := (World.new_conserved profile site logs 0).sequence sequence
      known := World.arena?_lt place
      known' := Nat.zero_lt_one
      profile := same.symm
      echoes :=
        { complaint := same'.symm
          logs := False.elim
          dealings := ⟨[], nothing, .nil⟩
          bytes := by simp [Memory.Echoes] }
      arenas := by
        rw [lonePair, place]
        exact
          { label := rfl
            chunkCapacity := rfl
            disabled := rfl
            here := rfl
            there := rfl
            fits := by simp
            cursors := ⟨rfl, rfl⟩
            nextSerial := rfl
            generation := rfl
            small := positive } }
  have unsaved : shared.saves shared.world.tenants.length = [] :=
    wellFormed.unborn _ (Nat.le_refl _)
  refine ⟨next, ample, [], reflects, ?_⟩
  simp only [SharedWorld.step, unsaved]
  exact .nil

end SharedWorld

/-- For every shared world and every arena in it, what the arena answers and shows is the same, use
by use, as when its own uses are made alone in the same order. -/
theorem arenas_secluded (profile : Profile) (site site' : Site) (logs : Logs)
    (supply supply' : Supply) (before : List Event) (builder : Builder) (skew skew' modulus : Nat)
    (events : List Event) :
    let shared := (SharedWorld.start profile site logs).run supply before
    let own := shared.world.tenants.length
    let joint := shared.step supply (.build builder skew)
    let alone := SharedWorld.lone profile site' logs builder skew'
    Ample shared.world.traffic →
      SharedWorld.AllFair own supply supply' modulus joint alone events →
        List.Forall₂ (lonePair own modulus).Sees (SharedWorld.observe own supply joint events)
          (alone.observe ⟨0, 0⟩ supply' (SharedWorld.usesOf own events)) := by
  intro shared own joint alone ample fair
  have wellFormed : shared.WellFormed := (SharedWorld.start_wellFormed profile site logs).run ample
  obtain ⟨same, same'⟩ := (SharedWorld.start profile site logs).run_steady supply before
  exact (wellFormed.beside ample same same' site' builder skew skew' modulus).observe fair

def eventsBefore : List Event :=
  [.build ⟨"porch", 16⟩ 8, .use 0 (.place (.bytes 5 1)), .use 0 .save,
    .use 0 (.place (.slice .token 3 (fun i => [i]) none))]

def threeArenas : List Event :=
  [.use 1 .save, .use 0 (.place (.bytes 9 4)),
    .use 1 (.place (.slice .token 2 (fun i => [i]) none)),
    .use 0 (.rewind 0), .build ⟨"shed", 32⟩ 0, .use 2 (.place (.object .u64 [7])),
    .use 1 (.place (.array .u16 4)), .use 1 (.grow ⟨0, 8⟩ 4 6 2), .use 0 .disable, .use 1 .save,
    .use 1 (.write ⟨0, 8⟩ [1, 2, 3]), .use 2 (.dispose ⟨0, 0⟩ 0 (.object .u64 false)),
    .use 0 .enable,
    .use 1 (.place (.bytes 30 16)), .use 2 (.dispose ⟨0, 4⟩ 1 (.object .u64 false)),
    .use 0 .release,
    .use 1 (.dispose ⟨1, 0⟩ 0 (.bytes ⟨30, 16⟩)), .use 1 (.rewind 0), .use 1 (.owns ⟨1, 2⟩),
    .use 1 (.owns ⟨0, 2⟩), .use 0 (.place (.bytes 40 8)), .use 2 .drop, .use 1 .disable,
    .use 1 (.place (.bytes 1 1)), .use 1 .enable,
    .use 1 (.place (.slice .token 6 (fun i => [i]) none)),
    .use 1 .release, .use 1 (.rewind 1), .use 1 (.place (.bytes 3 1)), .use 1 .drop]

def beforeLodge : SharedWorld :=
  (SharedWorld.start .debug pagedSite (Logs.empty none)).run cleared eventsBefore

def lodgeShared : SharedWorld := beforeLodge.step cleared (.build ⟨"lodge", 24⟩ 48)

def lodgeAlone : ArenaUser := SharedWorld.lone .debug pagedSite (Logs.empty none) ⟨"lodge", 24⟩ 16

theorem threeArenas_secluded :
    (SharedWorld.usesOf 1 threeArenas).length = 19 ∧
      SharedWorld.AllFair 1 cleared cleared 16 lodgeShared lodgeAlone threeArenas ∧
        List.Forall₂ (lonePair 1 16).Sees (SharedWorld.observe 1 cleared lodgeShared threeArenas)
          (lodgeAlone.observe ⟨0, 0⟩ cleared (SharedWorld.usesOf 1 threeArenas)) := by
  have ample : Ample beforeLodge.world.traffic := by decide +kernel
  have fair : SharedWorld.AllFair 1 cleared cleared 16 lodgeShared lodgeAlone threeArenas := by
    decide +kernel
  have secluded := arenas_secluded .debug pagedSite pagedSite (Logs.empty none) cleared cleared
    eventsBefore ⟨"lodge", 24⟩ 48 16 16 threeArenas ample fair
  exact ⟨by decide +kernel, fair, secluded⟩

def blockTakeover : List Event :=
  [.build ⟨"lodge", 16⟩ 0, .build ⟨"annex", 16⟩ 0, .use 0 (.place (.bytes 4 1)), .use 0 .release,
    .use 1 (.place (.bytes 4 1)), .use 0 (.place (.bytes 4 1)), .use 0 (.owns ⟨0, 0⟩)]

def sevens : Supply := fun _ => .fill .blank 0 (2 * systemFloor) 7

/-- Where the system gives an address twice, an arena answers differently about a stale pointer when
another one got its old block. And what is in a new block is seen by whoever reads it. -/
theorem neighbour_takes_block :
    ((∃ seen ∈ SharedWorld.observe 0 cleared (SharedWorld.start .debug lowSite (Logs.empty none))
      blockTakeover,
        seen.1.flag? = some false ∧ Provided seen.2.traffic ∧
          ∀ block ∈ obtained 0 seen.2.traffic, pageSize ∣ block.start) ∧
      ∃ seen ∈ (SharedWorld.lone .debug lowSite (Logs.empty none) ⟨"lodge", 16⟩ 0).observe
        ⟨0, 0⟩ cleared
          (SharedWorld.usesOf 0 blockTakeover),
        seen.1.flag? = some true ∧ Provided seen.2.traffic ∧
          ∀ block ∈ obtained 0 seen.2.traffic, pageSize ∣ block.start) ∧
    (∃ seen ∈ ArenaUser.observe ⟨0, 0⟩ sevens
        (SharedWorld.lone .release pagedSite (Logs.empty none) ⟨"lodge", 16⟩ 0)
        [.place (.bytes 4 1), .save],
      ∃ chunk ∈ seen.2.chunks 0, seen.2.memory.read chunk.start = 7) := by
  decide +kernel

end ChunkArena
