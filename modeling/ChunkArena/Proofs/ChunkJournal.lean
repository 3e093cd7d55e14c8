import ChunkArena.Proofs.ActionLines

/-!
The core log as a journal. Through any run, the lines about an arena tell of its chunks step by
step: every chunk that is appended has a line with its position and its size, and all that are given
back at once have one line with their number, and with their bytes if it was a release. Failures,
panics, rewinds to stale snapshots, guards and the end of the arena make no difference. There is a
warning when a rewind meets a snapshot that a release has outdated, and only then.

The lines are handed over to the core logger in any case. It writes all of them if a message at the
level `debug` does not end in a panic; otherwise every line is lost for the targets from the one on
that ends in it.
-/

namespace ChunkArena

namespace Action

def Stays (owner : Nat) : Action → Prop
  | create .. | write .. => True
  | log _ => False
  | place other _ | grow other .. | dispose other .. | rewind other _ | disable other
  | enable other | release other | drop other => other = owner

instance (owner : Nat) : (action : Action) → Decidable (action.Stays owner)
  | create .. | write .. => .isTrue trivial
  | log _ => .isFalse id
  | place other _ | grow other .. | dispose other .. | rewind other _ | disable other
  | enable other | release other | drop other => Nat.decEq other owner

def page (world : World) (owner : Nat) (action : Action) : List Line :=
  if action.owner? = some owner then action.lines world else []

theorem page_of_stays {world : World} {owner : Nat} {action : Action}
    (stays : action.Stays owner) : action.page world owner = action.lines world := by
  cases action with
  | create | write => rfl
  | log => cases stays
  | place | grow | dispose | rewind | disable | enable | release | drop =>
    cases stays
    exact if_pos rfl

end Action

def Turn.Stays (owner : Nat) : Turn → Prop
  | .save | .rewind _ => True
  | .act action => action.Stays owner

instance (owner : Nat) : (turn : Turn) → Decidable (turn.Stays owner)
  | .save | .rewind _ => .isTrue trivial
  | .act action => inferInstanceAs (Decidable (action.Stays owner))

namespace History

def action? (history : History) (owner : Nat) : Turn → Option Action
  | .save => none
  | .rewind which =>
      history.memos[which]?.map fun memo => .rewind owner memo.arena.snapshot
  | .act action => some action

def page (history : History) (owner : Nat) (turn : Turn) : List Line :=
  (history.action? owner turn).elim [] (Action.page history.world owner)

def journal (history : History) (owner : Nat) : List Turn → List Line
  | [] => []
  | turn :: rest => history.page owner turn ++ (history.turn owner turn).journal owner rest

/-- Whether a turn is a rewind to a snapshot that a release has outdated. -/
def Warns (history : History) (owner : Nat) (turn : Turn) : Prop :=
  ∃ action ∈ history.action? owner turn, action.Warns history.world owner

/-- The same, where the history says it of a snapshot that was taken before. -/
def MeetsReleased (history : History) (owner : Nat) : Turn → Prop
  | .save => False
  | .rewind which => ∃ memo, history.memos[which]? = some memo ∧
      (history.world.arena? owner).isSome = true ∧ history.fate owner memo = .released
  | .act action => action.Warns history.world owner

variable {history : History} {owner : Nat} {core : Logger}

theorem turn_of_none {turn : Turn} (idle : history.action? owner turn = none) :
    (history.turn owner turn).world = history.world := by
  cases turn with
  | save =>
    simp only [History.turn]
    cases history.world.arena? owner <;> rfl
  | rewind which =>
    rw [History.turn, Option.map_eq_none_iff.mp idle]
    rfl
  | act action => cases idle

theorem turn_of_some {turn : Turn} {action : Action}
    (acts : history.action? owner turn = some action) :
    history.turn owner turn = history.act owner action := by
  cases turn with
  | save => cases acts
  | rewind which =>
    obtain ⟨memo, taken, rfl⟩ := Option.map_eq_some_iff.mp acts
    rw [History.turn, taken]
    rfl
  | act other =>
    cases acts
    rfl

theorem Faithful.outlived_iff (faithful : history.Faithful owner) {memo : Memo}
    (listed : memo ∈ history.memos) {arena : Arena}
    (found : history.world.arena? owner = some arena) (before : Provided history.world.traffic)
    (few : obtainedBy owner history.world.traffic < wordLimit)
    (fewer : history.releases < wordLimit) :
    arena.Outlived memo.arena.snapshot ↔ history.fate owner memo = .released := by
  have holds := faithful.memos memo listed
  have seated := holds.consistent.seated
  -- The cases are those of the fate: no chunk, a chunk that stands, and a chunk that is gone.
  cases stack : memo.arena.chunks with
  | nil =>
    rw [stack] at seated
    have bare : memo.arena.snapshot.cursor.chunk = none := congrArg Cursor.chunk seated
    simp [Arena.Outlived, bare, fate, stack]
  | cons chunk rest =>
    rw [stack] at seated
    have names : memo.arena.snapshot.cursor.chunk = some ⟨rest.length, chunk.serial⟩ := seated.1
    have same := faithful.same_generation holds found fewer
    have older := holds.releases
    have later : ¬ memo.releases = history.releases ↔ memo.releases < history.releases := by omega
    have outlived : arena.Outlived memo.arena.snapshot ↔
        arena.liveChunk? ⟨rest.length, chunk.serial⟩ = none ∧
          memo.releases < history.releases := by
      simp only [Arena.Outlived, names, Option.some.injEq, ne_eq, same, later, exists_eq_left']
    rw [outlived]
    simp only [fate, stack]
    by_cases kept : chunk.entry owner ∉
        departures (passages owner (since memo.traffic history.world.traffic))
    · have consistent := (faithful.soundIf before owner arena found).consistent
      have live := Arena.live_of_suffix (faithful.standing holds found consistent stack kept)
      simp [if_pos kept, live]
    · have gone := faithful.gone holds found few (not_not.mp kept) rest.length
      rw [if_neg kept]
      by_cases released : memo.releases < history.releases
      · simp [gone, released]
      · simp [released]

theorem Faithful.warns_iff (faithful : history.Faithful owner) (turn : Turn)
    (before : Provided history.world.traffic)
    (few : obtainedBy owner history.world.traffic < wordLimit)
    (fewer : history.releases < wordLimit) :
    history.Warns owner turn ↔ history.MeetsReleased owner turn := by
  cases turn with
  | save => simp [Warns, MeetsReleased, action?]
  | act action => simp [Warns, MeetsReleased, action?]
  | rewind which =>
    constructor
    · rintro ⟨action, acts, warns⟩
      obtain ⟨memo, taken, rfl⟩ := Option.map_eq_some_iff.mp acts
      obtain ⟨_, arena, found, outlived⟩ := warns
      have listed := List.mem_of_getElem? taken
      refine ⟨memo, taken, Option.isSome_iff_exists.mpr ⟨arena, found⟩, ?_⟩
      exact (faithful.outlived_iff listed found before few fewer).mp outlived
    · rintro ⟨memo, taken, present, fate⟩
      obtain ⟨arena, found⟩ := Option.isSome_iff_exists.mp present
      have listed := List.mem_of_getElem? taken
      refine ⟨.rewind owner memo.arena.snapshot, by rw [action?, taken]; rfl, rfl, arena, found, ?_⟩
      exact (faithful.outlived_iff listed found before few fewer).mpr fate

theorem turn_told (logsAll : history.world.logs.LogsAll core) {turn : Turn}
    (stays : turn.Stays owner) :
    history.world.logs.Told core (history.page owner turn)
      (history.turn owner turn).world.logs := by
  cases acts : history.action? owner turn with
  | none =>
    rw [page, acts, turn_of_none acts]
    exact .refl _ core
  | some action =>
    have stays : action.Stays owner := by
      cases turn with
      | save => cases acts
      | rewind which =>
        obtain ⟨memo, _, rfl⟩ := Option.map_eq_some_iff.mp acts
        rfl
      | act other =>
        cases acts
        exact stays
    rw [page, acts, turn_of_some acts, Option.elim_some, Action.page_of_stays stays]
    refine World.act_told logsAll ?_
    rintro call rfl
    exact stays

/-- A run that stays with one arena tells the core logger the journal of this arena. -/
theorem run_told (logsAll : history.world.logs.LogsAll core) {turns : List Turn}
    (stay : ∀ turn ∈ turns, turn.Stays owner) :
    history.world.logs.Told core (history.journal owner turns)
      (history.run owner turns).world.logs := by
  induction turns generalizing history with
  | nil => exact .refl _ core
  | cons turn rest ih =>
    have here := stay turn List.mem_cons_self
    have told := turn_told logsAll here
    exact told.trans (ih (told.logsAll logsAll) fun other member => stay other (.tail _ member))

theorem Faithful.turn_records (faithful : history.Faithful owner) {turn : Turn}
    (provided : Provided (history.turn owner turn).world.traffic) :
    history.world.Records owner (history.page owner turn) (history.Warns owner turn)
      (history.turn owner turn).world := by
  cases acts : history.action? owner turn with
  | none =>
    rw [page, acts, turn_of_none acts]
    exact .nothing rfl (by simp [Warns, acts])
  | some action =>
    rw [turn_of_some acts] at provided ⊢
    simp only
      [page, Warns, acts, Option.elim_some, Option.mem_def, Option.some.injEq, exists_eq_left',
      Action.page]
    by_cases about : action.owner? = some owner
    · rw [if_pos about]
      exact World.act_records faithful.soundIf provided about
    · -- A rewind of another arena may warn, but that is a line about the other arena.
      have calm : action.Warns history.world owner ↔ False := by
        refine ⟨?_, False.elim⟩
        cases action with
        | rewind other snapshot =>
          rintro ⟨rfl, _⟩
          exact about rfl
        | _ => exact id
      rw [if_neg about, calm]
      exact World.records_elsewhere about

theorem Faithful.journal_balance (faithful : history.Faithful owner) (turns : List Turn)
    (provided : Provided (history.run owner turns).world.traffic) :
    gainedIn (history.journal owner turns) + (history.world.chunks owner).length =
      lostIn (history.journal owner turns) +
        ((history.run owner turns).world.chunks owner).length := by
  induction turns generalizing history with
  | nil => rfl
  | cons turn rest ih =>
    have early : Provided (history.turn owner turn).world.traffic :=
      provided_of_suffix provided (run_traffic_suffix owner _ rest)
    have here := (faithful.turn_records early).lineTrace.balance
    have later := ih (faithful.turn turn early) provided
    have onward : history.run owner (turn :: rest) = (history.turn owner turn).run owner rest := rfl
    rw [onward]
    simp only [journal, gainedIn_append, lostIn_append]
    omega

end History

theorem Logs.Told.wrote {before after : Logs} {core : Logger} {lines : List Line}
    (told : before.Told core lines after) :
    core.Wrote (lines.map (Line.message before)) before.outputs after.outputs := by
  obtain ⟨errLines, each, gains⟩ :=
    core.tellAll_gains (rfl : before.outputs.disk.folders = _) (lines.map (Line.message before))
  rw [told.outputs]
  exact core.wrote_of_gains each gains

theorem Logs.LogsAll.served {logs : Logs} {core : Logger} (logsAll : logs.LogsAll core)
    (quiet : logs.complaint .debug = none) (line : Line) :
    core.served logs.outputs (line.message logs) = core.targets := by
  have accepted : core.accepts line.level = true :=
    decide_eq_true (Nat.le_trans (of_decide_eq_true logsAll.accepts) (Nat.zero_le line.level.rank))
  have below : ¬ Level.error ≤ line.level := by
    intro high
    exact absurd (Nat.le_trans high line.report.level_le_warn) (by decide)
  have returned : core.stop line.level logs.now logs.outputs = none := by
    rw [complaint_eq, logsAll.known, Option.bind_some] at quiet
    rw [core.stop_of_below below (by decide) accepted logsAll.accepts, quiet]
  rw [Logger.served_of_returned returned]
  exact if_pos accepted

/-- In every run, the lines about an arena account for its chunks, and if the run stays with this
arena, they are all that the core logger is told, which serves its targets with them. Every single
turn is recorded like this, and what it warns of is what the history says, as long as the arena got
and was released fewer than 2^64 times. -/
theorem core_log_journals (profile : Profile) (site : Site) {logs : Logs} {core : Logger}
    (logsAll : logs.LogsAll core) (owner : Nat) (turns : List Turn) {history : History}
    (reached : history = (History.start (World.new profile site logs)).run owner turns)
    (provided : Provided history.world.traffic) :
    let journal := (History.start (World.new profile site logs)).journal owner turns
    gainedIn journal = lostIn journal + (history.world.chunks owner).length ∧
      ((∀ turn ∈ turns, turn.Stays owner) →
        core.Wrote (journal.map (Line.message logs)) logs.outputs history.world.logs.outputs) ∧
      (logs.complaint .debug = none →
        ∀ line ∈ journal, core.served logs.outputs (line.message logs) = core.targets) ∧
      ∀ turn, Provided (history.turn owner turn).world.traffic →
        history.world.Records owner (history.page owner turn) (history.Warns owner turn)
            (history.turn owner turn).world ∧
          (obtainedBy owner history.world.traffic < wordLimit → history.releases < wordLimit →
            (history.Warns owner turn ↔ history.MeetsReleased owner turn)) := by
  subst reached
  have begun := History.start_faithful profile site logs owner
  have faithful := begun.run turns provided
  refine ⟨?_, ?_, fun quiet line _ => logsAll.served quiet line, ?_⟩
  · have balance := begun.journal_balance turns provided
    have nothing : (World.new profile site logs).chunks owner = [] := by
      simp [World.chunks, World.arena?, World.new]
    rwa [History.start, nothing, List.length_nil, Nat.add_zero] at balance
  · intro stay
    have heard : (History.start (World.new profile site logs)).world.logs.LogsAll core := logsAll
    exact (History.run_told heard stay).wrote
  · intro turn provided'
    exact ⟨faithful.turn_records provided', faithful.warns_iff turn provided⟩

def noonLogger : Logger := ⟨.debug, "Core", [.file "core.log"], "noon"⟩

def noonLogs : Logs := ((Logs.empty none).init Logs.coreName noonLogger).2

def daybook : List Turn :=
  [.act (.create ⟨"pairs", 16⟩ 0), .act (.place 0 (.bytes 8 8)), .save,
    .act (.place 0 (.bytes 24 1)), .rewind 0, .act (.release 0), .act (.place 0 (.bytes 4 1))]

def noon : History := (History.start (World.new .debug pagedSite noonLogs)).run 0 daybook

theorem noon_journals :
    noon.MeetsReleased 0 (.rewind 0) ∧
      (noon.page 0 (.rewind 0)).map Line.text =
        ["pairs: rewinding to chunk #0 which was already released",
          "pairs: released 1 chunk(s), 16 bytes"] ∧
      (noon.world.chunks 0).length = 1 ∧
      noon.world.logs.outputs.disk.content ["tmp", "/", "core.log"] =
        "noon - Core [DEBUG]: pairs: appended chunk #0 (16 bytes)\n" ++
        "noon - Core [DEBUG]: pairs: appended chunk #1 (24 bytes)\n" ++
        "noon - Core [DEBUG]: pairs: rewind discarded 1 chunk(s), chunk #0 is active again\n" ++
        "noon - Core [DEBUG]: pairs: released 1 chunk(s), 16 bytes\n" ++
        "noon - Core [DEBUG]: pairs: appended chunk #0 (16 bytes)\n" ∧
      ∀ line ∈ (History.start (World.new .debug pagedSite noonLogs)).journal 0 daybook,
        noonLogger.served noonLogs.outputs (line.message noonLogs) = [.file "core.log"] := by
  have logsAll : noonLogs.LogsAll noonLogger := ⟨rfl, rfl⟩
  have provided : Provided noon.world.traffic := by decide +kernel
  have provided' : Provided (noon.turn 0 (.rewind 0)).world.traffic := by decide +kernel
  have few : obtainedBy 0 noon.world.traffic < wordLimit := by decide +kernel
  have fewer : noon.releases < wordLimit := by decide +kernel
  obtain ⟨balance, written, served, each⟩ :=
    core_log_journals .debug pagedSite logsAll 0 daybook (rfl : noon = _) provided
  obtain ⟨records, agreed⟩ := each (.rewind 0) provided'
  have totals : gainedIn ((History.start (World.new .debug pagedSite noonLogs)).journal 0 daybook) =
        3 ∧
      lostIn ((History.start (World.new .debug pagedSite noonLogs)).journal 0 daybook) = 2 := by
    decide +kernel
  have page : noon.page 0 (.rewind 0) =
      [⟨"pairs", .alreadyReleased 0⟩, ⟨"pairs", .released 1 16⟩] := by decide +kernel
  refine ⟨?_, ?_, ?_, ?_, served (by decide +kernel)⟩
  · rw [← agreed few fewer]
    by_contra calm
    have debug := records.unwarned calm ⟨"pairs", .alreadyReleased 0⟩
    rw [page] at debug
    exact absurd (debug (by simp)) (by decide)
  · rw [page]
    decide +kernel
  · rw [totals.1, totals.2] at balance
    exact (Nat.add_left_cancel balance).symm
  · rw [(written (by decide +kernel)).files]
    decide +kernel

/-- With a time format that does not exist, a chunk is appended, but there is no line about it. -/
theorem unformed_time_hides_chunk :
    let core : Logger := ⟨.debug, "Core", [.stdout], "%Q"⟩
    let logs := ((Logs.empty none).init Logs.coreName core).2
    let history := (History.start (World.new .debug pagedSite logs)).run 0
      [.act (.create (Builder.mk "pairs" 16) 0), .act (.place 0 (.bytes 4 1))]
    (logs.registry.find? Logs.coreName).map (Logger.accepts · .debug) = some true ∧
      (history.world.chunks 0).length = 1 ∧ history.world.logs.outputs.out = "" := by
  decide +kernel

end ChunkArena
