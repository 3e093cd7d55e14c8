import ChunkArena.Proofs.ChunkLines
import ChunkArena.Proofs.LoggerRegistration

/-!
What one action writes to the core log. Its lines are the reports among the effects of its calls, in
their order. About the arena in question they tell every step of its chunks, and nothing else: an
action that neither appends a chunk nor gives one back is silent, and one that warns is a rewind to
a snapshot that a release has outdated.
-/

namespace ChunkArena

namespace Logs

structure LogsAll (logs : Logs) (core : Logger) : Prop where
  known : logs.registry.find? coreName = some core
  accepts : core.accepts .debug = true

/-- What became of logs whose core logger was told some lines. -/
structure Told (before : Logs) (core : Logger) (lines : List Line) (after : Logs) : Prop where
  outputs : after.outputs = (core.tellAll before.outputs (lines.map (Line.message before))).2
  fault : after.outputs.fault = before.outputs.fault
  rest : after = { before with outputs := after.outputs }

namespace Told

variable {before next after : Logs} {core : Logger} {lines more : List Line}

theorem refl (logs : Logs) (core : Logger) : logs.Told core [] logs := ⟨rfl, rfl, rfl⟩

theorem message (told : before.Told core lines after) :
    Line.message after = Line.message before := by
  funext line
  rw [Line.message, Line.message, told.fault, told.rest]

theorem trans (head : before.Told core lines next) (tail : next.Told core more after) :
    before.Told core (lines ++ more) after := by
  refine ⟨?_, tail.fault.trans head.fault, ?_⟩
  · rw [tail.outputs, head.message, head.outputs, List.map_append, Logger.tellAll_append]
  · rw [tail.rest, head.rest]

theorem logsAll (told : before.Told core lines after) (logsAll : before.LogsAll core) :
    after.LogsAll core := by
  rw [told.rest]
  exact ⟨logsAll.known, logsAll.accepts⟩

end Told

namespace LogsAll

variable {logs : Logs} {core : Logger}

theorem told (logsAll : logs.LogsAll core) (line : Line) :
    logs.Told core [line] (logs.logTo coreName line.level line.text).2 := by
  obtain ⟨outputs, same, alike⟩ := logs.logTo_outputs coreName line.level line.text
  refine ⟨?_, ?_, ?_⟩
  · simp only [logTo, logsAll.known]
    rfl
  · rw [same]
    exact alike.fault
  · rw [same]

end LogsAll

end Logs

namespace World

def lines {α : Type} (world : World) (owner : Nat) (call : Arena → Env → Reply α) : List Line :=
  (world.reply? owner call).elim [] Reply.lines

def linesEach (world : World) (owner : Nat) : List Ask → List Line
  | [] => []
  | ask :: rest =>
      match world.onArena owner ask.call with
      | (.error _, _) => world.lines owner ask.call
      | (.ok _, after) => world.lines owner ask.call ++ after.linesEach owner rest

end World

def Action.lines (world : World) : Action → List Line
  | place owner request => world.linesEach owner request.asks
  | grow owner start old new elementSize =>
      world.lines owner fun arena env => arena.grow env start old new elementSize
  | dispose owner _ address disposal =>
      disposal.layout?.elim [] fun layout =>
        world.lines owner fun arena env => arena.deallocate env address layout
  | rewind owner snapshot => world.lines owner fun arena env => arena.rewind env snapshot
  | disable owner => world.lines owner fun arena env => arena.disable env.profile
  | enable owner => world.lines owner fun arena env => arena.enable env.profile
  | release owner | drop owner => world.lines owner Arena.release
  | create .. | write .. | log _ => []

namespace World

variable {world : World} {owner : Nat} {core : Logger} {α : Type}

def label (world : World) (owner : Nat) : String := (world.arena? owner).elim "" Arena.label

theorem label_of_some {arena : Arena} (found : world.arena? owner = some arena) :
    world.label owner = arena.label := by
  rw [label, found]
  rfl

theorem lines_of_none (missing : world.arena? owner = none) (call : Arena → Env → Reply α) :
    world.lines owner call = [] := by
  cases place : world.tenants[owner]? with
  | none => simp [lines, reply?, place]
  | some tenant =>
    have gone : tenant.arena = none := by simpa [arena?, place] using missing
    simp [lines, reply?, place, gone]

theorem lines_of_some {arena : Arena} (found : world.arena? owner = some arena)
    (call : Arena → Env → Reply α) :
    ∃ skew, world.lines owner call = (call arena (world.env skew)).lines ∧
      (world.onArena owner call).2.arena? owner = some (call arena (world.env skew)).arena := by
  obtain ⟨skew, replied, present⟩ := reply?_some found call
  refine ⟨skew, ?_, present⟩
  rw [lines, replied]
  rfl

theorem perform_told (logsAll : world.logs.LogsAll core) (owner : Nat) (effects : List Effect) :
    world.logs.Told core (effects.filterMap Effect.line?)
      (effects.foldl (perform owner) world).logs := by
  induction effects generalizing world with
  | nil => exact .refl world.logs core
  | cons effect rest ih =>
    rw [List.foldl_cons]
    cases effect with
    | obtain chunk =>
      have still : (perform owner world (.obtain chunk)).logs.LogsAll core := logsAll
      exact ih still
    | giveBack chunk =>
      have still : (perform owner world (.giveBack chunk)).logs.LogsAll core := logsAll
      exact ih still
    | fill start count byte =>
      have still : (perform owner world (.fill start count byte)).logs.LogsAll core := logsAll
      exact ih still
    | report label entry =>
      have told := logsAll.told ⟨label, entry⟩
      have still : (perform owner world (.report label entry)).logs.LogsAll core :=
        told.logsAll logsAll
      exact told.trans (ih still)

theorem onArena_told (logsAll : world.logs.LogsAll core) (owner : Nat)
    (call : Arena → Env → Reply α) :
    world.logs.Told core (world.lines owner call) (world.onArena owner call).2.logs := by
  cases place : world.tenants[owner]? with
  | none =>
    simp only [lines, reply?, onArena, place, Option.bind_none, Option.elim_none]
    exact .refl world.logs core
  | some tenant =>
    cases present : tenant.arena with
    | none =>
      simp only [lines, reply?, onArena, place, present, Option.bind_some, Option.map_none,
        Option.elim_none]
      exact .refl world.logs core
    | some arena =>
      simp only [lines, reply?, onArena, place, present, Option.bind_some, Option.map_some,
        Option.elim_some]
      let reply := call arena (world.env tenant.skew)
      let settled : World := { world with
        tenants := world.tenants.set owner { tenant with arena := some reply.arena } }
      have still : settled.logs.LogsAll core := logsAll
      exact perform_told still owner reply.effects

theorem linesEach_told (logsAll : world.logs.LogsAll core) (owner : Nat) (asks : List Ask) :
    world.logs.Told core (world.linesEach owner asks) (world.carve owner asks).2.logs := by
  induction asks generalizing world with
  | nil => exact .refl world.logs core
  | cons ask rest ih =>
    have told := onArena_told logsAll owner ask.call
    simp only [linesEach, carve]
    generalize world.onArena owner ask.call = answer at told
    obtain ⟨reply, after⟩ := answer
    cases reply with
    | error failure => exact told
    | ok start => exact told.trans (ih (told.logsAll logsAll))

theorem lines_deallocate (world : World) (owner address : Nat) (layout : Layout) :
    (world.lines owner fun arena env => arena.deallocate env address layout) = [] := by
  cases found : world.arena? owner with
  | none => exact lines_of_none found _
  | some arena =>
    obtain ⟨skew, lines, _⟩ := lines_of_some found fun arena env =>
      arena.deallocate env address layout
    rw [lines]
    exact (arena.deallocate_silent (world.env skew) address layout).1

theorem lines_dispose (world : World) (owner depth address : Nat) (disposal : Disposal) :
    (Action.dispose owner depth address disposal).lines world = [] := by
  cases shape : disposal.layout? with
  | none => simp only [Action.lines, shape, Option.elim_none]
  | some layout =>
    simp only [Action.lines, shape, Option.elim_some]
    exact world.lines_deallocate owner address layout

theorem act_told (logsAll : world.logs.LogsAll core) {action : Action}
    (silent : ∀ call, action ≠ .log call) :
    world.logs.Told core (action.lines world) (world.act action).logs := by
  cases action with
  | create | write => exact .refl world.logs core
  | log call => exact absurd rfl (silent call)
  | place owner request =>
    have told := linesEach_told logsAll owner request.asks
    obtain ⟨memory, tally, same⟩ := (request.serve_carved world owner).beside
    rw [act, same]
    exact told
  | grow owner | rewind owner | disable owner | enable owner | release owner =>
    exact onArena_told logsAll owner _
  | drop owner => exact onArena_told logsAll owner Arena.release
  | dispose owner depth address disposal =>
    rw [lines_dispose]
    simp only [act]
    obtain ⟨kind, change, ⟨failure, _, stopped⟩ | ⟨layout, _, done⟩⟩ :=
      dispose_cases world owner depth address disposal
    · rw [stopped, count_eq]
      exact .refl world.logs core
    · -- The destroyed values are counted first, which the logs do not notice.
      have same : (world.count kind change).logs = world.logs := by rw [count_eq]
      have still : (world.count kind change).logs.LogsAll core := same ▸ logsAll
      have told := onArena_told still owner fun arena env => arena.deallocate env address layout
      rw [lines_deallocate, same] at told
      rw [done]
      exact told

/-- What the lines of one action say about an arena, and whether they warn. -/
structure Records (world : World) (owner : Nat) (lines : List Line) (warns : Prop) (after : World) :
    Prop where
  lineTrace :
    LineTrace (world.label owner) lines (world.chunks owner) (after.chunks owner)
  silent : after.chunks owner = world.chunks owner → ∀ line ∈ lines, line.level ≠ .debug
  /-- A warning that cannot be written is the last line: the call panics before the release. -/
  warned : warns → ∃ index, lines = ⟨world.label owner, .alreadyReleased index⟩ ::
    if world.logs.complaint .warn = none then
      releaseLines (world.label owner) (world.chunks owner)
    else []
  unwarned : ¬ warns → ∀ line ∈ lines, line.level = .debug

theorem Records.nothing {after : World} (same : after.chunks owner = world.chunks owner)
    {warns : Prop} (calm : ¬ warns) : world.Records owner [] warns after := by
  refine ⟨?_, by simp, fun warned => absurd warned calm, by simp⟩
  rw [same]
  exact .nil _

theorem linesEach_lineTrace (world : World) (owner : Nat) (asks : List Ask) :
    LineTrace (world.label owner) (world.linesEach owner asks) (world.chunks owner)
        ((world.carve owner asks).2.chunks owner) ∧
      ∀ line ∈ world.linesEach owner asks, ∃ index capacity,
        line.report = .appended index capacity := by
  -- By induction on the questions; the label stays after each of them.
  induction asks generalizing world with
  | nil => exact ⟨.nil _, by simp [linesEach]⟩
  | cons ask rest ih =>
    cases found : world.arena? owner with
    | none =>
      obtain ⟨cause, same⟩ := onArena_none found ask.call
      simp only [linesEach, carve, same, lines_of_none found]
      exact ⟨.nil _, by simp⟩
    | some arena =>
      obtain ⟨skew, here, present⟩ := lines_of_some found ask.call
      have grows : arena.Grows (ask.call arena (world.env skew)) := Arena.ask_grows ask
      simp only [linesEach, carve]
      generalize ask.call arena (world.env skew) = reply at here present grows
      generalize world.lines owner ask.call = lines at here ⊢
      generalize world.onArena owner ask.call = answer at present
      obtain ⟨outcome, after⟩ := answer
      obtain ⟨label, grown⟩ := grows
      have step : LineTrace (world.label owner) lines (world.chunks owner) (after.chunks owner) ∧
          ∀ line ∈ lines, ∃ index capacity, line.report = .appended index capacity := by
        rw [here, label_of_some found, chunks_of_some found, chunks_of_some present]
        rcases grown with ⟨none_told, same⟩ | ⟨chunk, one, more⟩
        · rw [none_told, same]
          exact ⟨.nil _, by simp⟩
        · rw [one, more]
          exact ⟨(Report.Fits.appended chunk _).lineTrace _, by simp⟩
      cases outcome with
      | error failure => exact step
      | ok start =>
        obtain ⟨later, each⟩ := ih after
        rw [label_of_some present, label, ← label_of_some found] at later
        refine ⟨step.1.append later, ?_⟩
        intro line member
        rcases List.mem_append.mp member with first | second
        · exact step.2 line first
        · exact each line second

end World

/-- Whether an action is a rewind of an arena to a snapshot that a release has outdated. -/
def Action.Warns (world : World) (owner : Nat) : Action → Prop
  | rewind other snapshot =>
      other = owner ∧ ∃ arena, world.arena? owner = some arena ∧ arena.Outlived snapshot
  | _ => False

namespace World

variable {world : World} {owner : Nat} {core : Logger}

theorem act_chunks_missing (missing : world.arena? owner = none) (action : Action) :
    (world.act action).chunks owner = [] := by
  cases found : (world.act action).arena? owner with
  | none => exact chunks_of_none found
  | some arena =>
    obtain ⟨_, builder, fresh⟩ := act_missing missing found
    rw [chunks_of_some found, fresh]
    rfl

theorem records_missing (missing : world.arena? owner = none) {action : Action}
    (about : action.owner? = some owner) :
    world.Records owner (action.lines world) (action.Warns world owner) (world.act action) := by
  have calm : ¬ action.Warns world owner := by
    cases action with
    | rewind other snapshot =>
      rintro ⟨_, arena, found, _⟩
      rw [missing] at found
      cases found
    | _ => exact id
  have nothing : action.lines world = [] := by
    cases action with
    | create | write | log => rfl
    | place other request =>
      cases about
      simp only [Action.lines]
      cases request.asks with
      | nil => rfl
      | cons ask rest =>
        obtain ⟨cause, same⟩ := onArena_none missing ask.call
        simp only [linesEach, same, lines_of_none missing]
    | dispose other depth address disposal => exact world.lines_dispose ..
    | grow other | rewind other | disable other | enable other | release other | drop other =>
      cases about
      exact lines_of_none missing _
  rw [nothing]
  refine .nothing ?_ calm
  rw [act_chunks_missing missing, chunks_of_none missing]

theorem records_silent {arena : Arena} (found : world.arena? owner = some arena) {α : Type}
    {call : Arena → Env → Reply α} (silent : ∀ env, arena.Silent (call arena env)) {warns : Prop}
    (calm : ¬ warns) :
    world.Records owner (world.lines owner call) warns (world.onArena owner call).2 := by
  obtain ⟨skew, lines, present⟩ := lines_of_some found call
  obtain ⟨nothing, same⟩ := silent (world.env skew)
  rw [lines, nothing]
  refine .nothing ?_ calm
  rw [chunks_of_some present, same, chunks_of_some found]

theorem records_plain {lines : List Line} {after : World}
    (lineTrace : LineTrace (world.label owner) lines (world.chunks owner) (after.chunks owner))
    (oneWay : gainedIn lines = 0 ∨ lostIn lines = 0) (debug : ∀ line ∈ lines, line.level = .debug)
    {warns : Prop} (calm : ¬ warns) : world.Records owner lines warns after :=
  ⟨lineTrace, lineTrace.silent oneWay, fun warned => absurd warned calm, fun _ => debug⟩

theorem records_place (world : World) (owner : Nat) (request : Request) {warns : Prop}
    (calm : ¬ warns) :
    world.Records owner (world.linesEach owner request.asks) warns
      (request.serve world owner).2 := by
  obtain ⟨lineTrace, appended⟩ := linesEach_lineTrace world owner request.asks
  have kept : (request.serve world owner).2.chunks owner =
      (world.carve owner request.asks).2.chunks owner := by
    obtain ⟨memory, tally, same⟩ := (request.serve_carved world owner).beside
    rw [same]
    rfl
  rw [← kept] at lineTrace
  refine records_plain lineTrace (Or.inr ?_) ?_ calm
  · apply List.sum_eq_zero
    intro count listed
    obtain ⟨line, member, rfl⟩ := List.mem_map.mp listed
    obtain ⟨index, capacity, about⟩ := appended line member
    simp only [Line.lost, about]
  · intro line member
    obtain ⟨index, capacity, about⟩ := appended line member
    rw [Line.level, about]
    rfl

section Frees

variable {arena : Arena} (found : world.arena? owner = some arena)
  (consistent : arena.Consistent) (small : totalCapacity arena.chunks < wordLimit)

include found consistent small

theorem records_release {warns : Prop} (calm : ¬ warns) {after : World}
    (bare : after.chunks owner = []) :
    world.Records owner (world.lines owner Arena.release) warns after := by
  obtain ⟨skew, lines, _⟩ := lines_of_some found Arena.release
  rw [lines, Arena.release_lines consistent small]
  refine records_plain ?_ (Or.inl (releaseLines_gained _ _)) (releaseLines_debug _ _) calm
  rw [bare, chunks_of_some found, label_of_some found]
  exact releaseLines_lineTrace _ _

theorem records_outlived {snapshot : Snapshot} (outlived : arena.Outlived snapshot) {warns : Prop}
    (warned : warns) :
    world.Records owner (world.lines owner fun arena env => arena.rewind env snapshot) warns
      (world.rewind owner snapshot).2 := by
  obtain ⟨handle, names, gone, later⟩ := outlived
  obtain ⟨skew, lines, present⟩ := lines_of_some found fun arena env => arena.rewind env snapshot
  have after : (world.rewind owner snapshot).2.chunks owner =
      (arena.rewind (world.env skew) snapshot).arena.chunks := chunks_of_some present
  -- The warning, and then the line of the release that follows, if that gave anything back.
  have told : ∃ more,
      world.lines owner (fun arena env => arena.rewind env snapshot) =
          ⟨world.label owner, .alreadyReleased handle.index⟩ :: more ∧
        (more = if world.logs.complaint .warn = none then
          releaseLines (world.label owner) (world.chunks owner) else []) ∧
        LineTrace (world.label owner) more (world.chunks owner)
          ((world.rewind owner snapshot).2.chunks owner) ∧
        gainedIn more = 0 := by
    cases loud : world.logs.complaint .warn with
    | none =>
      have released : arena.rewind (world.env skew) snapshot = _ :=
        Arena.rewind_of_released names gone later loud
      have freed : (arena.release (world.env skew)).lines = _ :=
        Arena.release_lines consistent small
      refine ⟨releaseLines (world.label owner) (world.chunks owner), ?_, by simp, ?_,
        releaseLines_gained _ _⟩
      · rw [lines, released, label_of_some found, chunks_of_some found, ← freed]
        rfl
      · rw [after, released]
        simp only [chunks_of_release consistent small]
        exact releaseLines_lineTrace _ _
    | some cause =>
      have unwarned : arena.rewind (world.env skew) snapshot = _ :=
        Arena.rewind_of_unwarned names gone later loud
      refine ⟨[], ?_, by simp, ?_, rfl⟩
      · rw [lines, unwarned, label_of_some found]
        rfl
      · rw [after, unwarned, chunks_of_some found]
        exact .nil _
  obtain ⟨more, same, length, rest, nothing_gained⟩ := told
  have lineTrace := LineTrace.cons (.alreadyReleased handle.index _) rest
  rw [← same] at lineTrace
  have oneWay : gainedIn (world.lines owner fun arena env => arena.rewind env snapshot) = 0 := by
    rw [same, gainedIn_cons, nothing_gained]
    rfl
  exact ⟨lineTrace, lineTrace.silent (Or.inl oneWay), fun _ => ⟨handle.index, length ▸ same⟩,
    fun calm => absurd warned calm⟩

theorem records_valid {snapshot : Snapshot} (valid : ¬ arena.Outlived snapshot) {warns : Prop}
    (calm : ¬ warns) :
    world.Records owner (world.lines owner fun arena env => arena.rewind env snapshot) warns
      (world.rewind owner snapshot).2 := by
  obtain ⟨skew, lines, present⟩ := lines_of_some found fun arena env => arena.rewind env snapshot
  have after : (world.rewind owner snapshot).2.chunks owner =
      (arena.rewind (world.env skew) snapshot).arena.chunks := chunks_of_some present
  rcases Arena.rewind_lines consistent small valid with
    ⟨nothing, same⟩ | ⟨report, fits, debug, gained, one⟩
  · rw [lines, nothing]
    refine .nothing ?_ calm
    rw [after, same, chunks_of_some found]
  · rw [lines, one]
    refine records_plain ?_ (Or.inl ?_) ?_ calm
    · rw [after, label_of_some found, chunks_of_some found]
      exact fits.lineTrace arena.label
    · rw [gainedIn_cons, gained, gainedIn_nil]
    · intro line member
      rw [List.mem_singleton.mp member]
      exact debug

end Frees

/-- What any action about an arena writes. -/
theorem act_records (soundIf : world.SoundIfProvided) {action : Action}
    (provided : Provided (world.act action).traffic) (about : action.owner? = some owner) :
    world.Records owner (action.lines world) (action.Warns world owner) (world.act action) := by
  have before := provided_of_suffix provided (world.act_traffic_suffix action)
  have sound := soundIf before
  cases found : world.arena? owner with
  | none => exact records_missing found about
  | some arena =>
    have consistent := (sound owner arena found).consistent
    have small := sound.small before found
    cases action with
    | create | write | log => cases about
    | place other request =>
      cases about
      exact records_place world owner request id
    | grow other start old new elementSize =>
      cases about
      exact records_silent found (fun env => arena.grow_silent consistent env start old new
        elementSize) id
    | dispose other depth address disposal =>
      cases about
      rw [lines_dispose]
      refine .nothing ?_ id
      simp only [act]
      obtain ⟨kind, change, ⟨failure, _, stopped⟩ | ⟨layout, _, done⟩⟩ :=
        dispose_cases world owner depth address disposal
      · rw [stopped, count_eq]
        rfl
      · have counted : (world.count kind change).arena? owner = some arena := by
          rw [count_eq]
          exact found
        obtain ⟨skew, _, present⟩ := onArena_self counted fun arena env =>
          arena.deallocate env address layout
        rw [done, chunks_of_some present, (arena.deallocate_silent _ address layout).2,
          chunks_of_some found]
    | rewind other snapshot =>
      cases about
      by_cases outlived : arena.Outlived snapshot
      · exact records_outlived found consistent small outlived ⟨rfl, arena, found, outlived⟩
      · refine records_valid found consistent small outlived ?_
        rintro ⟨_, other, found', outlived'⟩
        cases found.symm.trans found'
        exact outlived outlived'
    | disable other =>
      cases about
      exact records_silent found (fun env => arena.disable_silent env.profile) id
    | enable other =>
      cases about
      exact records_silent found (fun env => arena.enable_silent env.profile) id
    | release other =>
      cases about
      exact records_release found consistent small id (release_chunks sound before owner)
    | drop other =>
      cases about
      exact records_release found consistent small id (act_drop_chunks soundIf provided)

theorem records_elsewhere {action : Action} (elsewhere : action.owner? ≠ some owner) :
    world.Records owner [] False (world.act action) := by
  refine .nothing ?_ id
  cases found : world.arena? owner with
  | some arena => rw [chunks_of_some (world.act_other elsewhere found), chunks_of_some found]
  | none => rw [act_chunks_missing found, chunks_of_none found]

end World

end ChunkArena
