import ChunkArena.Proofs.LoggerRegistration
import ChunkArena.Proofs.ChunkTiling

/-!
The pieces of an arena over a whole run. Requests and growths add to them, and nothing else does. A
rewind to a saved state leaves those that there were when it was saved, and a release leaves none. A
state may be used as often as one likes, until there is a rewind to an older one or a release.
However long such a run is, no space is lost.
-/

namespace ChunkArena

def Request.pieces (request : Request) (world : World) (owner : Nat) : List Piece :=
  (world.carve owner request.asks).1

def World.extension (world : World) (owner start old new elementSize : Nat) : List Piece :=
  match (world.grow owner start old new elementSize).1 with
  | .ok true =>
      [⟨(world.chunks owner).length - 1, start + old * elementSize, (new - old) * elementSize, 1,
        false⟩]
  | _ => []

def Action.pieces (world : World) (owner : Nat) : Action → List Piece
  | place other request => if other = owner then request.pieces world owner else []
  | grow other start old new elementSize =>
      if other = owner then world.extension owner start old new elementSize else []
  | _ => []

namespace Action

variable {world : World} {owner : Nat}

theorem pieces_elsewhere {action : Action} (elsewhere : action.owner? ≠ some owner) :
    action.pieces world owner = [] := by
  cases action with
  | place other | grow other =>
    rw [Action.pieces, if_neg fun own => elsewhere (congrArg some own)]
  | _ => rfl

theorem pieces_missing (missing : world.arena? owner = none) (action : Action) :
    action.pieces world owner = [] := by
  cases action with
  | place other request =>
    rw [Action.pieces, Request.pieces]
    split
    · cases request.asks with
      | nil => rfl
      | cons ask rest =>
        obtain ⟨cause, same⟩ := World.onArena_none missing ask.call
        rw [World.carve, same]
    · rfl
  | grow other start old new elementSize =>
    obtain ⟨cause, same⟩ :=
      World.onArena_none missing fun arena env => arena.grow env start old new elementSize
    rw [Action.pieces, World.extension, World.grow, same]
    split <;> rfl
  | _ => rfl

end Action

namespace World

variable {world : World} {owner : Nat} {loose : Chunk → Prop} {pieces : List Piece}

theorem act_complaint {level : Level} {cause : Panic}
    (loud : world.logs.complaint level = some cause) (action : Action) :
    (world.act action).logs.complaint level = some cause := by
  have about {other : Nat} (own : action.owner? = some other) :
      (world.act action).logs.complaint level = some cause := by
    have same := act_same_view (fun world => world.logs.complaint)
      (fun world _ call => world.onArena_complaint call) (fun _ _ _ => rfl) (fun _ => rfl) world
      (Or.inl own)
    exact (congrFun same level).trans loud
  cases action with
  | create | write => exact loud
  | log next => exact Logs.complaint_call loud next
  | place other | grow other | dispose other | rewind other | disable other | enable other
  | release other | drop other => exact about rfl

theorem act_quiet {action : Action} (quiet : (world.act action).logs.complaint .debug = none) :
    world.logs.complaint .debug = none := by
  cases before : world.logs.complaint .debug with
  | none => rfl
  | some cause =>
    rw [act_complaint before action] at quiet
    cases quiet

theorem Laid.elsewhere (laid : world.Laid owner loose pieces)
    (vacant : world.arena? owner = none → pieces = []) {action : Action}
    (elsewhere : action.owner? ≠ some owner) : (world.act action).Laid owner loose pieces := by
  cases found : world.arena? owner with
  | none =>
    intro arena present
    obtain ⟨_, builder, fresh⟩ := act_missing found present
    rw [fresh, vacant found]
    exact .bare
  | some arena =>
    refine laid.congr ?_
    intro after present
    cases (world.act_other elsewhere found).symm.trans present
    exact ⟨arena, found, rfl, rfl⟩

theorem Laid.place (laid : world.Laid owner loose pieces) (soundIf : world.SoundIfProvided)
    (request : Request) (provided : Provided (request.serve world owner).2.traffic)
    (lax : ∀ chunk ∈ world.unreported (request.serve world owner).2 owner, loose chunk) :
    (request.serve world owner).2.Laid owner loose (request.pieces world owner ++ pieces) := by
  obtain ⟨memory, tally, same⟩ := (request.serve_carved world owner).beside
  rw [same] at provided lax ⊢
  exact (laid.carve soundIf provided lax).congr fun arena found => ⟨arena, found, rfl, rfl⟩

theorem Laid.grow (laid : world.Laid owner loose pieces) (sound : world.Sound)
    (start old new elementSize : Nat) :
    (world.grow owner start old new elementSize).2.Laid owner loose
      (world.extension owner start old new elementSize ++ pieces) := by
  cases found : world.arena? owner with
  | none =>
    obtain ⟨cause, same⟩ :=
      onArena_none found fun arena env => arena.grow env start old new elementSize
    rw [extension, World.grow, same]
    exact laid
  | some arena =>
    obtain ⟨skew, same⟩ :=
      onArena_some found fun arena env => arena.grow env start old new elementSize
    intro after present
    have consistent := (sound owner arena found).consistent
    rw [World.grow, same] at present
    cases (arena?_after_self owner world found _ _).symm.trans present
    rw [extension, World.grow, same]
    rcases Arena.grow_forms consistent (world.env skew) start old new elementSize with
      ⟨_, stopped⟩ | ⟨_, refused⟩ | ⟨stretches, grown⟩
    · rw [stopped]
      exact laid arena found
    · rw [refused]
      exact laid arena found
    · rw [grown]
      obtain ⟨chunk, rest, stack⟩ := List.exists_cons_of_ne_nil stretches.some_chunk
      have longer : old * elementSize ≤ new * elementSize :=
        Nat.mul_le_mul_right elementSize stretches.ordered
      have before := laid arena found
      rw [stack, ← stretches.ends] at before
      have more : ChunkArena.Laid loose (chunk :: rest)
          (roundUp (start + old * elementSize) 1 + (new - old) * elementSize) _ :=
        .next before Nat.one_pos
      have reached : start + old * elementSize + (new - old) * elementSize =
          start + new * elementSize := by
        rw [Nat.sub_mul]
        omega
      rw [roundUp_of_dvd (Nat.one_dvd _), reached] at more
      rw [chunks_of_some found, stack]
      simp only [Arena.movedTo, stack]
      exact more

theorem Laid.onArena (laid : world.Laid owner loose pieces) {α : Type}
    {call : Arena → Env → Reply α}
    (still : ∀ (arena : Arena) (env : Env), (call arena env).arena.chunks = arena.chunks ∧
      (call arena env).arena.cursor = arena.cursor) :
    (world.onArena owner call).2.Laid owner loose pieces := by
  refine laid.congr ?_
  intro after present
  cases found : world.arena? owner with
  | none =>
    obtain ⟨cause, same⟩ := onArena_none found call
    rw [same, found] at present
    cases present
  | some arena =>
    obtain ⟨skew, _, home⟩ := onArena_self found call
    cases home.symm.trans present
    exact ⟨arena, rfl, still arena (world.env skew)⟩

theorem Laid.hold (laid : world.Laid owner loose pieces) {call : Arena → Env → Reply Unit}
    (holds : ∀ (arena : Arena) (env : Env), ∃ count result,
      call arena env = ⟨result, { arena with disabled := count }, []⟩) :
    (world.onArena owner call).2.Laid owner loose pieces := by
  refine laid.onArena ?_
  intro arena env
  obtain ⟨count, result, same⟩ := holds arena env
  rw [same]
  exact ⟨rfl, rfl⟩

theorem Laid.dispose (laid : world.Laid owner loose pieces) (depth address : Nat)
    (disposal : Disposal) :
    (disposal.dispose world (.nested owner depth) address).2.Laid owner loose pieces := by
  obtain ⟨kind, change, ⟨failure, _, stopped⟩ | ⟨layout, _, done⟩⟩ :=
    dispose_cases world owner depth address disposal
  · rw [stopped, count_eq]
    exact laid
  · have counted : (world.count kind change).Laid owner loose pieces := by
      rw [count_eq]
      exact laid
    rw [done]
    refine counted.onArena ?_
    intro arena env
    rcases Arena.deallocate_cases arena env address layout with refused | marked
    · rw [refused]
      exact ⟨rfl, rfl⟩
    · rw [marked]
      exact ⟨rfl, rfl⟩

theorem Laid.act (laid : world.Laid owner loose pieces)
    (vacant : world.arena? owner = none → pieces = []) (soundIf : world.SoundIfProvided)
    {action : Action}
    (inside : action.Inside owner) (provided : Provided (world.act action).traffic)
    (lax : ∀ chunk ∈ world.unreported (world.act action) owner, loose chunk) :
    (world.act action).Laid owner loose (action.pieces world owner ++ pieces) := by
  by_cases own : action.owner? = some owner
  swap
  · rw [Action.pieces_elsewhere own]
    exact laid.elsewhere vacant own
  have sound := soundIf (provided_of_suffix provided (world.act_traffic_suffix action))
  cases action with
  | create | write | log => cases own
  | rewind | release | drop =>
    cases own
    exact absurd rfl inside
  | place other request =>
    cases own
    rw [Action.pieces, if_pos rfl]
    exact laid.place soundIf request provided lax
  | grow other start old new elementSize =>
    cases own
    rw [Action.pieces, if_pos rfl]
    exact laid.grow sound start old new elementSize
  | dispose other depth address disposal =>
    cases own
    exact laid.dispose depth address disposal
  | disable other =>
    cases own
    exact laid.hold fun arena env => Arena.disable_holds arena env.profile
  | enable other =>
    cases own
    exact laid.hold fun arena env => Arena.enable_holds arena env.profile

theorem Sound.laid_bare (sound : world.Sound) (bare : world.chunks owner = []) :
    world.Laid owner loose [] := by
  intro arena found
  have seated := (sound owner arena found).consistent.seated
  rw [chunks_of_some found] at bare
  rw [bare] at seated ⊢
  rw [show arena.cursor = .empty from seated]
  exact .bare

end World

/-- An arena as it was saved, and the pieces that there were. -/
structure SavedPieces where
  arena : Arena
  pieces : List Piece

structure SavedPieces.Upon (newer older : SavedPieces) : Prop where
  higher : newer.arena.Over older.arena
  kept : older.pieces <:+ newer.pieces

/-- The pieces of an arena that were handed out and not undone, newest first, and the saved states
that it may be rewound to. -/
structure PieceHistory where
  world : World
  pieces : List Piece
  saves : List SavedPieces
  unreported : List Chunk

namespace PieceHistory

def start (world : World) : PieceHistory := ⟨world, [], [], []⟩

/-- A release gives up all pieces and all saved states. Whoever rewinds the arena by an action, does
so with any snapshot whatever, and this counts only if it leaves the arena as it is or empties it.
-/
def act (owner : Nat) (history : PieceHistory) (action : Action) : PieceHistory :=
  let after := history.world.act action
  if action.Inside owner then
    ⟨after, action.pieces history.world owner ++ history.pieces, history.saves,
      history.world.unreported after owner ++ history.unreported⟩
  else if after.arena? owner = history.world.arena? owner then { history with world := after }
  else if after.chunks owner = [] then ⟨after, [], [], []⟩
  else history

def back (owner : Nat) (history : PieceHistory) (which : Nat) (save : SavedPieces) :
    PieceHistory where
  world := (history.world.rewind owner save.arena.snapshot).2
  pieces := save.pieces
  saves := history.saves.drop which
  unreported := history.unreported

def turn (owner : Nat) (history : PieceHistory) : Turn → PieceHistory
  | .save =>
      (history.world.arena? owner).elim history fun arena =>
        { history with saves := ⟨arena, history.pieces⟩ :: history.saves }
  | .rewind which => (history.saves[which]?).elim history (history.back owner which)
  | .act action => history.act owner action

def run (owner : Nat) (history : PieceHistory) (turns : List Turn) : PieceHistory :=
  turns.foldl (turn owner) history

variable {owner : Nat} {history : PieceHistory}

theorem act_world (owner : Nat) (history : PieceHistory) (action : Action) :
    (history.act owner action).world = history.world ∨
      (history.act owner action).world = history.world.act action := by
  simp only [PieceHistory.act]
  split
  · exact Or.inr rfl
  · split
    · exact Or.inr rfl
    · split
      · exact Or.inr rfl
      · exact Or.inl rfl

theorem turn_traffic_suffix (owner : Nat) (history : PieceHistory) (turn : Turn) :
    history.world.traffic <:+ (history.turn owner turn).world.traffic := by
  cases turn with
  | save =>
    simp only [PieceHistory.turn]
    cases history.world.arena? owner <;> exact List.suffix_refl _
  | rewind which =>
    simp only [PieceHistory.turn]
    cases history.saves[which]? with
    | none => exact List.suffix_refl _
    | some save => exact history.world.act_traffic_suffix (.rewind owner save.arena.snapshot)
  | act action =>
    rcases history.act_world owner action with same | acted
    · rw [PieceHistory.turn, same]
    · rw [PieceHistory.turn, acted]
      exact history.world.act_traffic_suffix action

theorem run_traffic_suffix (owner : Nat) (history : PieceHistory) (turns : List Turn) :
    history.world.traffic <:+ (history.run owner turns).world.traffic :=
  suffix_foldl (fun history => history.world.traffic) (turn_traffic_suffix owner) history turns

/-- The pieces are laid as they should be, and were so in every saved state, upon which the arena
stands. -/
structure Fitted (history : PieceHistory) (owner : Nat) : Prop where
  soundIf : history.world.SoundIfProvided
  vacant : history.world.arena? owner = none → history.pieces = [] ∧ history.saves = []
  laid : history.world.Laid owner (· ∈ history.unreported) history.pieces
  saved : ∀ save ∈ history.saves, save.arena.Consistent ∧
    Laid (· ∈ history.unreported) save.arena.chunks save.arena.cursor.next save.pieces
  upon : ∀ arena, history.world.arena? owner = some arena →
    ∀ save ∈ history.saves, SavedPieces.Upon ⟨arena, history.pieces⟩ save
  nested : history.saves.Pairwise SavedPieces.Upon
  quiet : history.world.logs.complaint .debug = none → history.unreported = []

theorem start_fitted (profile : Profile) (site : Site) (logs : Logs) (owner : Nat) :
    (start (World.new profile site logs)).Fitted owner where
  soundIf := World.new_soundIfProvided profile site logs
  vacant _ := ⟨rfl, rfl⟩
  laid arena found := by simp [start, World.arena?, World.new] at found
  saved := by simp [start]
  upon := by simp [start]
  nested := .nil
  quiet _ := rfl

theorem Fitted.save (fitted : history.Fitted owner)
    (provided : Provided (history.turn owner .save).world.traffic) :
    (history.turn owner .save).Fitted owner := by
  simp only [PieceHistory.turn] at provided ⊢
  cases found : history.world.arena? owner with
  | none => exact fitted
  | some arena =>
    rw [found] at provided
    have consistent := (fitted.soundIf provided owner arena found).consistent
    refine ⟨fitted.soundIf, ?_, fitted.laid, ?_, ?_, ?_, fitted.quiet⟩
    · intro missing
      cases found.symm.trans missing
    · intro save listed
      rcases List.mem_cons.mp listed with same | older
      · rw [same]
        exact ⟨consistent, fitted.laid arena found⟩
      · exact fitted.saved save older
    · intro other present save listed
      cases found.symm.trans present
      rcases List.mem_cons.mp listed with same | older
      · rw [same]
        exact ⟨.refl arena, List.suffix_refl _⟩
      · exact fitted.upon arena found save older
    · exact List.pairwise_cons.mpr ⟨fitted.upon arena found, fitted.nested⟩

theorem Fitted.found (fitted : history.Fitted owner) {save : SavedPieces}
    (member : save ∈ history.saves) :
    ∃ arena, history.world.arena? owner = some arena := by
  cases found : history.world.arena? owner with
  | none =>
    rw [(fitted.vacant found).2] at member
    cases member
  | some arena => exact ⟨arena, rfl⟩

theorem Fitted.back (fitted : history.Fitted owner) (before : Provided history.world.traffic)
    {which : Nat} {save : SavedPieces} (listed : history.saves[which]? = some save) :
    (history.back owner which save).Fitted owner := by
  have member := List.mem_of_getElem? listed
  obtain ⟨arena, found⟩ := fitted.found member
  obtain ⟨settled, laid⟩ := fitted.saved save member
  have present : (history.back owner which save).world.arena? owner =
      some (arena.regained save.arena) :=
    (World.rewind_back (fitted.soundIf before) before found settled
      (fitted.upon arena found save member).higher).1
  have complaint : (history.back owner which save).world.logs.complaint =
      history.world.logs.complaint := history.world.onArena_complaint _
  have nested : (history.saves.drop which).Pairwise SavedPieces.Upon :=
    fitted.nested.sublist (List.drop_sublist which history.saves)
  refine ⟨fitted.soundIf.act (.rewind owner save.arena.snapshot), ?_, ?_, ?_, ?_, nested, ?_⟩
  · intro missing
    cases present.symm.trans missing
  · intro other home
    cases present.symm.trans home
    exact laid
  · exact fun other kept => fitted.saved other (List.mem_of_mem_drop kept)
  · -- The state itself is the newest that is left, and the arena is as it was then.
    intro other home older kept
    cases present.symm.trans home
    obtain ⟨inside, here⟩ := List.getElem?_eq_some_iff.mp listed
    have newest : history.saves.drop which = save :: history.saves.drop (which + 1) := by
      rw [List.drop_eq_getElem_cons inside, here]
    simp only [PieceHistory.back, newest] at nested kept
    rcases List.mem_cons.mp kept with same | deeper
    · rw [same]
      exact ⟨(Arena.Over.refl save.arena).regain arena, List.suffix_refl _⟩
    · have upon := (List.pairwise_cons.mp nested).1 older deeper
      exact ⟨upon.higher.regain arena, upon.kept⟩
  · rw [complaint]
    exact fitted.quiet

theorem Fitted.add (fitted : history.Fitted owner) {action : Action} (inside : action.Inside owner)
    (provided : Provided (history.world.act action).traffic) :
    Fitted
      ⟨history.world.act action, action.pieces history.world owner ++ history.pieces, history.saves,
      history.world.unreported (history.world.act action) owner ++ history.unreported⟩ owner := by
  have known (chunk : Chunk) (before : chunk ∈ history.unreported) :
      chunk ∈ history.world.unreported (history.world.act action) owner ++ history.unreported :=
    List.mem_append_right _ before
  have laid : history.world.Laid owner
      (· ∈ history.world.unreported (history.world.act action) owner ++ history.unreported)
      history.pieces := fun arena found => (fitted.laid arena found).mono known
  refine ⟨fitted.soundIf.act action, ?_, ?_, ?_, ?_, fitted.nested, ?_⟩
  · intro missing
    cases found : history.world.arena? owner with
    | none =>
      obtain ⟨pieces, saves⟩ := fitted.vacant found
      exact ⟨by rw [Action.pieces_missing found, pieces]; rfl, saves⟩
    | some arena =>
      obtain ⟨after, present, _⟩ := World.act_over fitted.soundIf inside provided found
      cases present.symm.trans missing
  · exact laid.act (fun missing => (fitted.vacant missing).1) fitted.soundIf inside provided
      fun chunk fresh => List.mem_append_left _ fresh
  · intro save listed
    exact (fitted.saved save listed).imp_right fun laid => laid.mono known
  · intro after present save listed
    obtain ⟨arena, found⟩ := fitted.found listed
    obtain ⟨higher, kept⟩ := fitted.upon arena found save listed
    obtain ⟨other, home, rises⟩ := World.act_over fitted.soundIf inside provided found
    cases home.symm.trans present
    exact ⟨rises save.arena higher, kept.trans (List.suffix_append _ _)⟩
  · intro quiet
    have before := World.act_quiet quiet
    have none_now : history.world.unreported (history.world.act action) owner = [] :=
      if_neg fun both => both.1 before
    simp only [none_now, fitted.quiet before, List.append_nil]

theorem Fitted.act (fitted : history.Fitted owner) {action : Action}
    (provided : Provided (history.act owner action).world.traffic) :
    (history.act owner action).Fitted owner := by
  have soundIf := fitted.soundIf.act action
  simp only [PieceHistory.act] at provided ⊢
  split
  · next inside =>
    rw [if_pos inside] at provided
    exact fitted.add inside provided
  · next away =>
    rw [if_neg away] at provided
    split
    · next still =>
      refine ⟨soundIf, ?_, ?_, fitted.saved, ?_, fitted.nested, ?_⟩
      · intro missing
        exact fitted.vacant (still.symm.trans missing)
      · exact fitted.laid.congr fun arena present =>
          ⟨arena, still.symm.trans present, rfl, rfl⟩
      · intro arena present
        exact fitted.upon arena (still.symm.trans present)
      · exact fun quiet => fitted.quiet (World.act_quiet quiet)
    · next moved =>
      rw [if_neg moved] at provided
      split
      · next bare =>
        rw [if_pos bare] at provided
        exact
          ⟨soundIf, fun _ => ⟨rfl, rfl⟩, (soundIf provided).laid_bare bare, by simp, by simp, .nil,
          fun _ => rfl⟩
      · exact fitted

theorem Fitted.turn (fitted : history.Fitted owner) (turn : Turn)
    (provided : Provided (history.turn owner turn).world.traffic) :
    (history.turn owner turn).Fitted owner := by
  cases turn with
  | save => exact fitted.save provided
  | rewind which =>
    have before := provided_of_suffix provided (history.turn_traffic_suffix owner (.rewind which))
    simp only [PieceHistory.turn]
    cases listed : history.saves[which]? with
    | none => exact fitted
    | some save => exact fitted.back before listed
  | act action => exact fitted.act provided

theorem Fitted.run (fitted : history.Fitted owner) (turns : List Turn)
    (provided : Provided (history.run owner turns).world.traffic) :
    (history.run owner turns).Fitted owner :=
  foldl_keeps (P := fun history : PieceHistory => history.Fitted owner)
    (fun history => history.world.traffic) (turn_traffic_suffix owner)
    (fun _ turn fitted between => fitted.turn turn between) fitted turns provided

end PieceHistory

def Turn.Onward (owner : Nat) : Turn → Prop
  | save => True
  | rewind _ => False
  | act action => action.Inside owner

instance (owner : Nat) : (turn : Turn) → Decidable (turn.Onward owner)
  | .save => .isTrue trivial
  | .rewind _ => .isFalse id
  | .act action => inferInstanceAs (Decidable (action.Inside owner))

namespace PieceHistory

variable {owner : Nat} {history : PieceHistory}

theorem turn_onward {turn : Turn} (onward : turn.Onward owner) :
    history.pieces <:+ (history.turn owner turn).pieces := by
  cases turn with
  | save =>
    simp only [PieceHistory.turn]
    cases history.world.arena? owner <;> exact List.suffix_refl _
  | rewind which => exact onward.elim
  | act action =>
    have inside : action.Inside owner := onward
    simp only [PieceHistory.turn, PieceHistory.act, if_pos inside]
    exact List.suffix_append _ _

/-- Along a stretch without rewinds and releases all pieces stay, and more come in front. -/
theorem run_onward (turns : List Turn) (onward : ∀ turn ∈ turns, turn.Onward owner) :
    history.pieces <:+ (history.run owner turns).pieces := by
  induction turns generalizing history with
  | nil => exact List.suffix_refl _
  | cons turn rest ih =>
    have first : history.pieces <:+ (history.turn owner turn).pieces :=
      turn_onward (onward turn List.mem_cons_self)
    exact first.trans (ih fun later listed => onward later (List.mem_cons_of_mem turn listed))

theorem act_grants (owner : Nat) (history : PieceHistory) (request : Request) :
    ∀ grant ∈ (request.serve history.world owner).1,
      ∃ piece ∈ (history.act owner (.place owner request)).pieces, piece.start = grant.start ∧
        piece.size = grant.length * grant.kind.size ∧ piece.align = grant.align := by
  intro grant listed
  obtain ⟨piece, member, told⟩ := (request.serve_carved history.world owner).granted grant listed
  refine ⟨piece, ?_, told⟩
  simp only [PieceHistory.act, Action.Inside, Action.pieces, ↓reduceIte]
  exact List.mem_append_left _ member

theorem act_growth {start old new elementSize : Nat}
    (grown : (history.world.grow owner start old new elementSize).1 = .ok true) :
    ∃ piece ∈ (history.act owner (.grow owner start old new elementSize)).pieces,
      piece.start = start + old * elementSize ∧ piece.size = (new - old) * elementSize ∧
        piece.align = 1 := by
  simp only [PieceHistory.act, Action.Inside, Action.pieces, World.extension, grown, ↓reduceIte]
  exact ⟨_, List.mem_append_left _ (List.mem_singleton_self _), rfl, rfl, rfl⟩

/-- No space is lost, however often an arena is rewound to its saved states, if each is used only
until an older one is used or the arena is released. The pieces that were not undone cover each
chunk from its start on, in the newest one up to the cursor, but for less than their alignment in
front of each. Only a chunk whose report could not be written may begin with such a gap. Between two
rewinds or releases, whatever is handed out lies behind what was handed out before. -/
theorem run_seamless (profile : Profile) (site : Site) (logs : Logs) {owner : Nat}
    (turns later : List Turn) {history last : PieceHistory}
    (reached : history = (start (World.new profile site logs)).run owner turns)
    (onward : last = history.run owner later) (provided : Provided last.world.traffic)
    {arena : Arena} (found : last.world.arena? owner = some arena) :
    Seamless (· ∈ last.unreported) arena last.pieces ∧
      (last.world.logs.complaint .debug = none → last.unreported = []) ∧
      ((∀ turn ∈ later, turn.Onward owner) → history.pieces <:+ last.pieces) ∧
      (∀ request, ∀ grant ∈ (Request.serve last.world owner request).1,
        ∃ piece ∈ (last.act owner (.place owner request)).pieces, piece.start = grant.start ∧
          piece.size = grant.length * grant.kind.size ∧ piece.align = grant.align) ∧
      ∀ start old new elementSize,
        (last.world.grow owner start old new elementSize).1 = .ok true →
          ∃ piece ∈ (last.act owner (.grow owner start old new elementSize)).pieces,
            piece.start = start + old * elementSize ∧ piece.size = (new - old) * elementSize ∧
              piece.align = 1 := by
  have between : Provided history.world.traffic := by
    rw [onward] at provided
    exact provided_of_suffix provided (history.run_traffic_suffix owner later)
  have begun : history.Fitted owner := by
    rw [reached] at between ⊢
    exact (start_fitted profile site logs owner).run turns between
  have fitted : last.Fitted owner := by
    rw [onward] at provided ⊢
    exact begun.run later provided
  have consistent := (fitted.soundIf provided owner arena found).consistent
  refine ⟨(fitted.laid arena found).seamless consistent, fitted.quiet, ?_,
    fun request => last.act_grants owner request, fun _ _ _ _ => act_growth⟩
  intro straight
  rw [onward]
  exact run_onward later straight

def paving : List Turn :=
  [.act (.create ⟨"pairs", 64⟩ 0), .act (.create ⟨"lines", 16⟩ 0), .act (.place 0 (.bytes 3 1)),
    .save, .act (.place 0 (.objectWith .u64 [(4, 4)] true [1])), .act (.place 0 (.bytes 100 16)),
    .save, .rewind 1, .act (.place 0 (.array .u32 3)), .save, .act (.place 1 (.bytes 5 1)),
    .rewind 1]

def widening : List Turn :=
  [.act (.place 0 (.array .u32 3)), .act (.grow 0 105553116332036 3 5 4), .save,
    .act (.place 0 (.bytes 0 8)), .act (.place 0 (.slice .u16 40 (fun _ => [0]) none)),
    .act (.place 0 (.bytes 1 1)),
    .act (.place 0 (.bytes 8 8))]

theorem widening_seamless :
    ∃ history last arena, history =
      (start (World.new .debug pagedSite (Logs.empty none))).run 0 paving ∧
      last = history.run 0 widening ∧ last.world.arena? 0 = some arena ∧
      Seamless (· ∈ last.unreported) arena last.pieces ∧ last.unreported = [] ∧
      (last.pieces.map fun piece => (piece.index, piece.size, piece.align)) =
        [(2, 8, 8), (2, 1, 1), (1, 80, 2), (0, 0, 8), (0, 8, 1), (0, 12, 4), (0, 3, 1)] ∧
      history.pieces <:+ last.pieces := by
  let history := (start (World.new .debug pagedSite (Logs.empty none))).run 0 paving
  have present : ((history.run 0 widening).world.arena? 0).isSome = true := by decide +kernel
  obtain ⟨arena, found⟩ := Option.isSome_iff_exists.mp present
  obtain ⟨seamless, quiet, straight, _⟩ :=
    run_seamless .debug pagedSite (Logs.empty none) paving widening
      rfl rfl (by decide +kernel) found
  exact ⟨history, _, arena, rfl, rfl, found, seamless, quiet (by decide +kernel), by decide +kernel,
    straight (by decide)⟩

/-- The first piece of a chunk does not begin where the chunk does, if the chunk was appended for
another one and the report about it could not be written. And a release starts over from the oldest
chunk. -/
theorem unreported_chunk_begins_late :
    let logs := ((Logs.empty none).init Logs.coreName ⟨.debug, "Core", [.stdout], "%Q"⟩).2
    let last := (start (World.new .debug pagedSite logs)).run 0
      [.act (.create ⟨"pairs", 256⟩ 8), .act (.place 0 (.bytes 4 1)), .act (.place 0 (.bytes 4 64))]
    let full := (start (World.new .debug pagedSite (Logs.empty none))).run 0
      [.act (.create ⟨"pairs", 16⟩ 0), .act (.place 0 (.bytes 4 1)), .act (.place 0 (.bytes 20 1))]
    let again := full.run 0 [.act (.release 0), .act (.place 0 (.bytes 4 1))]
    (Provided last.world.traffic ∧ (last.world.chunks 0).length = 1 ∧
      (piecesIn 0 last.pieces).map Piece.start =
        (last.world.chunks 0).map fun chunk => chunk.start + 56) ∧
      Provided again.world.traffic ∧ full.pieces.map Piece.index = [1, 0] ∧
      again.pieces.map Piece.index = [0] := by
  decide +kernel

end PieceHistory

end ChunkArena
