import ChunkArena.Proofs.RequestPieces
import ChunkArena.Proofs.RewindOutcomes
import ChunkArena.Proofs.LogTranscripts

/-!
The lines about the chunks of one arena in the core log. Each of them tells of one step in the life
of the stack of chunks, with the numbers that belong to it: one chunk more, or some chunks less, or
a release that is about to come. So lines that follow each other tell how many chunks there are.

The lines are those that are handed over to the core logger, whether or not it can write them: the
chunks have changed by then.
-/

namespace ChunkArena

/-- A report with the label of the arena that makes it. -/
structure Line where
  label : String
  report : Report
  deriving DecidableEq

namespace Line

def level (line : Line) : Level := line.report.level

def text (line : Line) : String := line.report.text line.label

def message (logs : Logs) (line : Line) : Message :=
  ⟨logs.now, logs.outputs.fault, line.level, line.text⟩

def gained (line : Line) : Nat :=
  match line.report with
  | .appended .. => 1
  | .released .. | .emptied _ | .reactivated .. | .alreadyReleased _ => 0

def lost (line : Line) : Nat :=
  match line.report with
  | .released count _ | .emptied count | .reactivated count _ => count
  | .appended .. | .alreadyReleased _ => 0

end Line

def gainedIn (lines : List Line) : Nat := (lines.map Line.gained).sum

def lostIn (lines : List Line) : Nat := (lines.map Line.lost).sum

@[simp] theorem gainedIn_nil : gainedIn [] = 0 := rfl

@[simp] theorem gainedIn_cons (line : Line) (lines : List Line) :
    gainedIn (line :: lines) = line.gained + gainedIn lines := rfl

@[simp] theorem lostIn_cons (line : Line) (lines : List Line) :
    lostIn (line :: lines) = line.lost + lostIn lines := rfl

theorem gainedIn_append (first second : List Line) :
    gainedIn (first ++ second) = gainedIn first + gainedIn second := by
  simp [gainedIn]

theorem lostIn_append (first second : List Line) :
    lostIn (first ++ second) = lostIn first + lostIn second := by
  simp [lostIn]

/-- What a report tells of the chunks before and after, newest first. -/
inductive Report.Fits : Report → List Chunk → List Chunk → Prop where
  | appended (chunk : Chunk) (chunks : List Chunk) :
      Fits (.appended chunks.length chunk.capacity) chunks (chunk :: chunks)
  | released {chunks : List Chunk} (some_chunk : chunks ≠ []) :
      Fits (.released chunks.length (totalCapacity chunks)) chunks []
  | emptied {chunks : List Chunk} (some_chunk : chunks ≠ []) :
      Fits (.emptied chunks.length) chunks []
  | reactivated {gone : List Chunk} (some_gone : gone ≠ []) (chunk : Chunk) (below : List Chunk) :
      Fits (.reactivated gone.length below.length) (gone ++ chunk :: below) (chunk :: below)
  | alreadyReleased (index : Nat) (chunks : List Chunk) :
      Fits (.alreadyReleased index) chunks chunks

/-- Lines that tell, step by step, how one stack of chunks became another one. -/
inductive LineTrace (label : String) : List Line → List Chunk → List Chunk → Prop where
  | nil (chunks : List Chunk) : LineTrace label [] chunks chunks
  | cons {report : Report} {lines : List Line} {first next last : List Chunk}
      (fits : report.Fits first next) (rest : LineTrace label lines next last) :
      LineTrace label (⟨label, report⟩ :: lines) first last

theorem Report.Fits.lineTrace {report : Report} {first last : List Chunk}
    (fits : report.Fits first last) (label : String) :
    LineTrace label [⟨label, report⟩] first last :=
  .cons fits (.nil last)

namespace LineTrace

variable {label : String} {lines more : List Line} {first next last : List Chunk}

theorem append (head : LineTrace label lines first next) (tail : LineTrace label more next last) :
    LineTrace label (lines ++ more) first last := by
  induction head with
  | nil => exact tail
  | cons fits _ ih => exact .cons fits (ih tail)

/-- The numbers in the lines account for the chunks. -/
theorem balance (lineTrace : LineTrace label lines first last) :
    gainedIn lines + first.length = lostIn lines + last.length := by
  induction lineTrace with
  | nil => rfl
  | cons fits _ ih =>
    cases fits with
    | appended | released | emptied | reactivated | alreadyReleased =>
      simp only [gainedIn_cons, lostIn_cons, Line.gained, Line.lost, List.length_append,
        List.length_cons, List.length_nil] at ih ⊢
      omega

theorem debug_counts (lineTrace : LineTrace label lines first last) {line : Line}
    (member : line ∈ lines) (debug : line.level = .debug) : 0 < gainedIn lines + lostIn lines := by
  induction lineTrace with
  | nil => cases member
  | cons fits _ ih =>
    rw [gainedIn_cons, lostIn_cons]
    rcases List.mem_cons.mp member with here | later
    · subst here
      cases fits with
      | appended =>
        simp only [Line.gained]
        omega
      | released some_chunk | emptied some_chunk | reactivated some_chunk =>
        have some_chunk := List.length_pos_iff.mpr some_chunk
        simp only [Line.lost]
        omega
      | alreadyReleased => cases debug
    · have counted := ih later
      omega

theorem silent (lineTrace : LineTrace label lines first last)
    (oneWay : gainedIn lines = 0 ∨ lostIn lines = 0) (same : last = first) :
    ∀ line ∈ lines, line.level ≠ .debug := by
  intro line member debug
  have counted := lineTrace.debug_counts member debug
  have balance := lineTrace.balance
  rw [same] at balance
  omega

end LineTrace

def Effect.line? : Effect → Option Line
  | report label entry => some ⟨label, entry⟩
  | obtain _ | giveBack _ | fill .. => none

def Reply.lines {α : Type} (reply : Reply α) : List Line := reply.effects.filterMap Effect.line?

def releaseLines (label : String) (chunks : List Chunk) : List Line :=
  if chunks = [] then [] else [⟨label, .released chunks.length (totalCapacity chunks)⟩]

theorem releaseLines_lineTrace (label : String) (chunks : List Chunk) :
    LineTrace label (releaseLines label chunks) chunks [] := by
  by_cases bare : chunks = []
  · rw [releaseLines, if_pos bare, bare]
    exact .nil []
  · rw [releaseLines, if_neg bare]
    exact (Report.Fits.released bare).lineTrace label

theorem releaseLines_gained (label : String) (chunks : List Chunk) :
    gainedIn (releaseLines label chunks) = 0 := by
  unfold releaseLines
  split <;> rfl

theorem releaseLines_debug (label : String) (chunks : List Chunk) :
    ∀ line ∈ releaseLines label chunks, line.level = .debug := by
  unfold releaseLines
  split <;> simp [Line.level, Report.level]

theorem lines_mark (profile : Profile) (byte : UInt8) (start count : Nat) :
    (profile.mark byte start count).filterMap Effect.line? = [] := by
  unfold Profile.mark
  split <;> rfl

theorem lines_surrender (profile : Profile) (gone : List Chunk) :
    (gone.flatMap profile.surrender).filterMap Effect.line? = [] := by
  induction gone with
  | nil => rfl
  | cons chunk rest ih =>
    rw [List.flatMap_cons, List.filterMap_append, ih, Profile.surrender, List.filterMap_append,
      Profile.discard, lines_mark]
    rfl

theorem lines_clearing (arena : Arena) (profile : Profile) (saved : Cursor) (handle : Handle) :
    (arena.clearing profile saved handle).filterMap Effect.line? = [] := by
  apply List.filterMap_eq_nil_iff.mpr
  intro effect member
  obtain ⟨used, marked, _⟩ := Arena.mem_clearing member
  exact List.filterMap_eq_nil_iff.mp (lines_mark profile _ _ _) effect marked

theorem Env.lines_unless (env : Env) {arena : Arena} {effects : List Effect} {entry : Report}
    (silent : effects.filterMap Effect.line? = []) (nothing : Prop) [Decidable nothing]
    {reply : Reply Unit}
    (same : reply =
      if nothing then ⟨.ok (), arena, effects⟩ else env.conclude arena effects entry) :
    reply.arena = arena ∧
      reply.lines = if nothing then [] else [⟨arena.label, entry⟩] := by
  rw [same]
  split
  · exact ⟨rfl, silent⟩
  · refine ⟨rfl, ?_⟩
    rw [Reply.lines, Env.conclude, List.filterMap_append, silent]
    rfl

namespace Arena

variable {arena : Arena} {env : Env}

def Grows (arena : Arena) {α : Type} (reply : Reply α) : Prop :=
  reply.arena.label = arena.label ∧
    (reply.lines = [] ∧ reply.arena.chunks = arena.chunks ∨
      ∃ chunk : Chunk,
        reply.lines = [⟨arena.label, .appended arena.chunks.length chunk.capacity⟩] ∧
          reply.arena.chunks = chunk :: arena.chunks)

theorem Grows.advance {α : Type} {reply : Reply Unit} (grows : arena.Grows reply)
    (result : Except Failure α) (cursor : Cursor) (start count : Nat) :
    arena.Grows (⟨result, { reply.arena with cursor := cursor },
      reply.effects ++ env.profile.handOut start count⟩ : Reply α) := by
  have lines : (⟨result, { reply.arena with cursor := cursor },
      reply.effects ++ env.profile.handOut start count⟩ : Reply α).lines = reply.lines := by
    rw [Reply.lines, List.filterMap_append, Profile.handOut, lines_mark,
      List.append_nil, Reply.lines]
  rw [Grows, lines]
  exact grows

theorem append_grows (size align : Nat) : arena.Grows (arena.append env size align) := by
  unfold append
  simp only
  split
  · exact ⟨rfl, Or.inl ⟨rfl, rfl⟩⟩
  · next layout _ =>
    split
    · exact ⟨rfl, Or.inl ⟨rfl, rfl⟩⟩
    · exact ⟨rfl, Or.inr ⟨_, rfl, rfl⟩⟩

theorem reserve_grows (size align : Nat) : arena.Grows (arena.reserve env size align) := by
  have grown : arena.Grows (arena.append env size align) := append_grows size align
  unfold reserve
  split
  · exact ⟨rfl, Or.inl ⟨rfl, rfl⟩⟩
  · exact ⟨rfl, Or.inl ⟨lines_mark env.profile _ _ _, rfl⟩⟩
  · -- No further chunk comes after this, whether or not the request fits in the new one.
    generalize arena.append env size align = appended at grown
    simp only
    split
    · exact grown
    · split
      · exact grown
      · exact grown
      · exact grown.advance _ _ _ _

theorem tryAllocate_grows (size align : Nat) : arena.Grows (arena.tryAllocate env size align) := by
  unfold tryAllocate
  split
  · exact ⟨rfl, Or.inl ⟨rfl, rfl⟩⟩
  · split
    · exact reserve_grows size align
    · exact ⟨rfl, Or.inl ⟨rfl, rfl⟩⟩

theorem allocate_grows (size align : Nat) : arena.Grows (arena.allocate env size align) := by
  have grows : arena.Grows (arena.tryAllocate env size align) := tryAllocate_grows size align
  rcases allocate_forms arena env size align with same | ⟨cause, _, same⟩
  · rw [same]
    exact grows
  · rw [same]
    exact grows

theorem ask_grows (ask : Ask) : arena.Grows (ask.call arena env) := by
  cases ask with
  | bytes size align => exact allocate_grows size align
  | tryBytes size align => exact tryAllocate_grows size align
  | array kind count =>
    simp only [Ask.call, allocateArray]
    split
    · exact ⟨rfl, Or.inl ⟨rfl, rfl⟩⟩
    · exact allocate_grows _ _

def Silent (arena : Arena) {α : Type} (reply : Reply α) : Prop :=
  reply.lines = [] ∧ reply.arena.chunks = arena.chunks

theorem grow_silent (consistent : arena.Consistent) (env : Env) (start old new elementSize : Nat) :
    arena.Silent (arena.grow env start old new elementSize) := by
  rcases grow_cases consistent env start old new elementSize with ⟨result, _, same⟩ | ⟨_, same⟩
  · rw [same]
    exact ⟨rfl, rfl⟩
  · rw [same]
    exact ⟨lines_mark env.profile _ _ _, rfl⟩

theorem deallocate_silent (arena : Arena) (env : Env) (address : Nat) (layout : Layout) :
    arena.Silent (arena.deallocate env address layout) := by
  rcases deallocate_cases arena env address layout with same | same
  · rw [same]
    exact ⟨rfl, rfl⟩
  · rw [same]
    exact ⟨lines_mark env.profile _ _ _, rfl⟩

theorem disable_silent (arena : Arena) (profile : Profile) :
    arena.Silent (arena.disable profile) := by
  obtain ⟨count, result, same⟩ := disable_holds arena profile
  rw [same]
  exact ⟨rfl, rfl⟩

theorem enable_silent (arena : Arena) (profile : Profile) :
    arena.Silent (arena.enable profile) := by
  obtain ⟨count, result, same⟩ := enable_holds arena profile
  rw [same]
  exact ⟨rfl, rfl⟩

theorem fits_above {handle : Handle} {chunk : Chunk} (live : arena.liveChunk? handle = some chunk)
    (some_gone : arena.chunks.length - (handle.index + 1) ≠ 0) :
    Report.Fits (.reactivated (arena.chunks.length - (handle.index + 1)) handle.index) arena.chunks
      (arena.chunks.drop (arena.chunks.length - (handle.index + 1))) := by
  have below : (arena.chunks.drop (arena.chunks.length - handle.index)).length = handle.index := by
    rw [List.length_drop]
    omega
  have above : (arena.above (handle.index + 1)).length =
      arena.chunks.length - (handle.index + 1) := by
    rw [Arena.above, List.length_take]
    omega
  have whole : arena.chunks = arena.above (handle.index + 1) ++
      chunk :: arena.chunks.drop (arena.chunks.length - handle.index) := by
    rw [← drop_eq_cons_of_live live]
    exact (List.take_append_drop _ _).symm
  have some_above : arena.above (handle.index + 1) ≠ [] := by
    intro nothing
    rw [nothing] at above
    exact some_gone above.symm
  have fits := Report.Fits.reactivated some_above chunk
    (arena.chunks.drop (arena.chunks.length - handle.index))
  rwa [above, below, ← whole, ← drop_eq_cons_of_live live] at fits

/-- A snapshot whose chunk is not there, and since which the arena was released. -/
def Outlived (arena : Arena) (snapshot : Snapshot) : Prop :=
  ∃ handle, snapshot.cursor.chunk = some handle ∧ arena.liveChunk? handle = none ∧
    snapshot.generation ≠ arena.generation

section Releases

variable (consistent : arena.Consistent) (small : totalCapacity arena.chunks < wordLimit)

include consistent small

theorem release_lines :
    (arena.release env).lines = releaseLines arena.label arena.chunks := by
  obtain ⟨_, lines⟩ := env.lines_unless (lines_surrender env.profile arena.chunks) _
    (release_eq consistent small env)
  rw [lines]
  simp only [List.length_eq_zero_iff]
  rfl

theorem rewind_lines {snapshot : Snapshot} (valid : ¬ arena.Outlived snapshot) :
    arena.Silent (arena.rewind env snapshot) ∨
      ∃ report : Report, report.Fits arena.chunks (arena.rewind env snapshot).arena.chunks ∧
        report.level = .debug ∧ Line.gained ⟨arena.label, report⟩ = 0 ∧
        (arena.rewind env snapshot).lines = [⟨arena.label, report⟩] := by
  cases names : snapshot.cursor.chunk with
  | none =>
    obtain ⟨back, lines⟩ := env.lines_unless (lines_surrender env.profile arena.chunks) _
      (rewind_of_bare consistent small env names)
    simp only [List.length_eq_zero_iff] at lines
    by_cases bare : arena.chunks = []
    · rw [if_pos bare] at lines
      refine Or.inl ⟨lines, ?_⟩
      rw [back, bare]
      rfl
    · rw [if_neg bare] at lines
      refine Or.inr ⟨_, ?_, rfl, rfl, lines⟩
      rw [back]
      exact .emptied bare
  | some handle =>
    cases live : arena.liveChunk? handle with
    | none =>
      have recent : snapshot.generation = arena.generation := by
        by_contra later
        exact valid ⟨handle, names, live, later⟩
      rw [rewind_of_stale names live recent]
      exact Or.inl ⟨rfl, rfl⟩
    | some chunk =>
      by_cases own : snapshot.cursor.limit = chunk.finish ∧ chunk.start ≤ snapshot.cursor.next ∧
          snapshot.cursor.next ≤ snapshot.cursor.limit
      · obtain ⟨limit, low, high⟩ := own
        have cleared : (arena.clearing env.profile snapshot.cursor handle ++
            (arena.above (handle.index + 1)).flatMap env.profile.surrender).filterMap
              Effect.line? = [] := by
          rw [List.filterMap_append, lines_clearing, lines_surrender, List.nil_append]
        obtain ⟨back, lines⟩ := env.lines_unless cleared _
          (rewind_of_live consistent small env names live limit low high)
        have kept : (arena.rewind env snapshot).arena.chunks =
            arena.chunks.drop (arena.chunks.length - (handle.index + 1)) := by
          rw [back]
          rfl
        by_cases none_gone : arena.chunks.length - (handle.index + 1) = 0
        · rw [if_pos none_gone] at lines
          refine Or.inl ⟨lines, ?_⟩
          rw [kept, none_gone, List.drop_zero]
        · rw [if_neg none_gone] at lines
          refine Or.inr ⟨_, ?_, rfl, rfl, lines⟩
          rw [kept]
          exact fits_above live none_gone
      · have foreign : snapshot.cursor.limit ≠ chunk.finish ∨
            snapshot.cursor.next < chunk.start ∨
              snapshot.cursor.limit < snapshot.cursor.next := by omega
        have refused : arena.rewind env snapshot =
            ⟨.error (.panic (.foreignSnapshot arena.label)), arena, []⟩ := by
          simp only [rewind, names, live, restore, foreign, ↓reduceIte]
        rw [refused]
        exact Or.inl ⟨rfl, rfl⟩

end Releases

end Arena

end ChunkArena
