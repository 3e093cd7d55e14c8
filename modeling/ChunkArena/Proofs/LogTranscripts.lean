import Mathlib.Data.List.Forall2
import ChunkArena.Proofs.MessageDelivery

/-!
What log calls write, all in all. A call serves the targets of its logger one after the other: an
accepted message adds one line to each file, for each time that the file is listed, and one line in
color to the console stream of its level, for each time that the stream is listed. A file that
cannot be opened or written costs one line on the error stream, and the targets behind it are served
all the same. A call panics before it serves any target if its time format does not exist, and
otherwise at the first line for a console stream that takes nothing; the targets from there on get
nothing of that call, and later calls are made as if nothing had happened.

Which files can be written is decided by the folders, so it does not change while lines are written.
-/

namespace ChunkArena

/-- A message, with the time at which it is logged and the console streams that take nothing then.
-/
structure Message where
  now : TimeText
  fault : Console → Option FileFault
  level : Level
  text : String

namespace Disk

def content (disk : Disk) (path : Path) : String := (disk.files.lookup path).getD ""

/-- Whether what is written to a target is kept in the file at a path. -/
def Keeps (disk : Disk) (path : Path) : Target → Prop
  | .file text => (disk.locate text).toOption = some path ∧ path ∉ sinks ∧ path ≠ ["dev", "full"]
  | .stdout | .stderr => False

instance (disk : Disk) (path : Path) : (target : Target) → Decidable (disk.Keeps path target)
  | .file _ => inferInstanceAs (Decidable (_ ∧ _))
  | .stdout | .stderr => inferInstanceAs (Decidable False)

theorem writable_of_keeps {disk : Disk} {path : Path} {text : String}
    (keeps : disk.Keeps path (.file text)) : disk.Writable text := by
  obtain ⟨named, file, room⟩ := keeps
  refine (writable_iff disk text).mpr ⟨path, ?_, ?_⟩
  · cases located : disk.locate text with
    | error fault =>
      rw [located] at named
      cases named
    | ok found =>
      rw [located] at named
      exact congrArg Except.ok (Option.some.inj named)
  · simp only [node?, if_neg file, if_neg room]
    split
    · simp
    · cases disk.files.lookup path <;> simp

section Folders

variable {disk grown : Disk} (same : grown.folders = disk.folders)

include same

theorem locate_toOption (text : String) :
    (grown.locate text).toOption = (disk.locate text).toOption := by
  cases found : disk.locate text with
  | ok path => rw [locate_of_folders same found]
  | error fault =>
    cases found' : grown.locate text with
    | ok path => cases found.symm.trans (locate_of_folders same.symm found')
    | error fault' => rfl

theorem keeps_of_folders (path : Path) (target : Target) :
    grown.Keeps path target ↔ disk.Keeps path target := by
  cases target with
  | file text => simp only [Keeps, locate_toOption same]
  | stdout | stderr => exact .rfl

end Folders

theorem locate_not_folder {disk : Disk} {text : String} {path : Path}
    (located : disk.locate text = .ok path) : path ∉ disk.folders := by
  intro folder
  have seen : disk.node? path = some .folder := by rw [node?, if_pos folder]
  unfold locate at located
  split at located
  · cases located
  · split at located
    · cases located
    · split at located
      split at located
      · cases located
      · split at located
        · cases located
        · split at located
          · cases located
          · split at located
            · cases located
            · next absent =>
              cases located
              exact absent seen

theorem append_located {disk : Disk} {text : String} {path : Path}
    (located : disk.locate text = .ok path) (line : String) :
    disk.append text line =
      if path ∈ sinks then .ok disk
      else if path = ["dev", "full"] then .error (.couldNotWrite text .noSpace)
      else .ok ⟨disk.folders, write disk.files path (disk.content path ++ line)⟩ := by
  have ordinary := locate_not_folder located
  by_cases sink : path ∈ sinks
  · simp only [append, located, node?, if_neg ordinary, if_pos sink]
  · by_cases full : path = ["dev", "full"]
    · simp only [append, located, node?, if_neg ordinary, if_neg sink, if_pos full]
    · simp only [append, located, node?, if_neg ordinary, if_neg sink, if_neg full, content]
      cases disk.files.lookup path with
      | none => simp
      | some old => rfl

theorem content_append {disk grown : Disk} {text line : String}
    (appended : disk.append text line = .ok grown) (path : Path) :
    (disk.Keeps path (.file text) → grown.content path = disk.content path ++ line) ∧
      (¬ disk.Keeps path (.file text) → grown.files.lookup path = disk.files.lookup path) := by
  cases located : disk.locate text with
  | error fault =>
    rw [append, located] at appended
    cases appended
  | ok found =>
    have named : (disk.locate text).toOption = some found := by
      rw [located]
      rfl
    rw [append_located located] at appended
    split at appended
    · next sink =>
      cases appended
      refine ⟨?_, fun _ => rfl⟩
      rintro ⟨same, file, _⟩
      cases named.symm.trans same
      exact absurd sink file
    · next file =>
      split at appended
      · cases appended
      · next room =>
        cases appended
        constructor
        · rintro ⟨same, _⟩
          cases named.symm.trans same
          simp [content, lookup_write_same]
        · intro elsewhere
          apply lookup_write_other
          intro same
          exact elsewhere (same ▸ ⟨named, file, room⟩)

end Disk

namespace Outputs

/-- Whether outputs differ in lines that were added to the two streams and to files. -/
structure Gains (before after : Outputs) (out err : List String) (file : Path → List String) :
    Prop where
  out : after.out = before.out ++ String.join out
  err : after.err = before.err ++ String.join err
  content : ∀ path, after.disk.content path = before.disk.content path ++ String.join (file path)
  untouched : ∀ path, file path = [] →
    after.disk.files.lookup path = before.disk.files.lookup path
  folders : after.disk.folders = before.disk.folders

theorem Gains.refl (outputs : Outputs) : Gains outputs outputs [] [] fun _ => [] := by
  constructor <;> simp

theorem Gains.trans {first next last : Outputs} {out more err wrong : List String}
    {file further : Path → List String} (head : Gains first next out err file)
    (tail : Gains next last more wrong further) :
    Gains first last (out ++ more) (err ++ wrong) fun path => file path ++ further path := by
  refine ⟨?_, ?_, fun path => ?_, fun path none => ?_, tail.folders.trans head.folders⟩
  · rw [tail.out, head.out, String.join_append, String.append_assoc]
  · rw [tail.err, head.err, String.join_append, String.append_assoc]
  · rw [tail.content, head.content, String.join_append, String.append_assoc]
  · obtain ⟨early, late⟩ := List.append_eq_nil_iff.mp none
    rw [tail.untouched path late, head.untouched path early]

def linesOn (printed stream : Console) (line : String) : List String :=
  if printed = stream then [line ++ "\n"] else []

theorem gains_put (outputs : Outputs) (line : String) (console : Console) :
    Gains outputs (outputs.put line console) (linesOn console .stdout line)
      (linesOn console .stderr line) fun _ => [] := by
  cases console <;> constructor <;> simp [put, linesOn, String.append_assoc]

theorem gains_print {outputs after : Outputs} {console : Console} {line : String}
    (printed : outputs.print console line = .ok after) :
    Gains outputs after (linesOn console .stdout line) (linesOn console .stderr line)
      fun _ => [] := by
  rcases outputs.print_cases console line with ⟨_, done⟩ | ⟨cause, _, failed⟩
  · cases done.symm.trans printed
    exact outputs.gains_put line console
  · cases failed.symm.trans printed

theorem gains_append {outputs : Outputs} {disk : Disk} {text line : String}
    (appended : outputs.disk.append text line = .ok disk) :
    Gains outputs { outputs with disk := disk } [] []
      fun path => if outputs.disk.Keeps path (.file text) then [line] else [] := by
  refine ⟨by simp, by simp, fun path => ?_, fun path none => ?_, Disk.append_folders appended⟩
  · obtain ⟨kept, spared⟩ := Disk.content_append appended path
    split
    · next keeps => simp [kept keeps]
    · next elsewhere => simp [Disk.content, spared elsewhere]
  · refine (Disk.content_append appended path).2 fun keeps => ?_
    simp [keeps] at none

end Outputs

inductive Target.ErrLines (level : Level) (colored : String) (disk : Disk) :
    Target → List String → Prop
  | stdout : ErrLines level colored disk .stdout []
  | low (below : ¬ Level.error ≤ level) : ErrLines level colored disk .stderr []
  | high (above : Level.error ≤ level) : ErrLines level colored disk .stderr [colored ++ "\n"]
  | served {text : String} (writable : disk.Writable text) :
      ErrLines level colored disk (.file text) []
  | failed {text : String} (refused : ¬ disk.Writable text) (error : LogError) (fault : FileFault)
      (about : error = .couldNotOpen text fault ∨ error = .couldNotWrite text fault) :
      ErrLines level colored disk (.file text) [error.message ++ "\n"]

def Target.outLines (level : Level) (colored : String) : Target → List String
  | .stdout => if .error ≤ level then [] else [colored ++ "\n"]
  | .stderr | .file _ => []

theorem Disk.append_error {disk : Disk} {text line : String} {error : LogError}
    (failed : disk.append text line = .error error) :
    ∃ fault, error = .couldNotOpen text fault ∨ error = .couldNotWrite text fault := by
  unfold append at failed
  split at failed
  · next fault _ =>
    cases failed
    exact ⟨fault, Or.inl rfl⟩
  · split at failed <;> cases failed
    exact ⟨.noSpace, Or.inr rfl⟩

namespace Logger

variable (logger : Logger)

/-- One target is served, whatever came before as long as no folders were made. -/
theorem serve_gains {base : Disk} {outputs after : Outputs}
    (same : outputs.disk.folders = base.folders) {level : Level} {time message : String}
    {target : Target} (served : logger.serve level time message outputs target = .ok after) :
    ∃ err, target.ErrLines level (logger.coloredLine level time message) base err ∧
      outputs.Gains after (target.outLines level (logger.coloredLine level time message)) err
        fun path =>
          if base.Keeps path target then [logger.line level time message ++ "\n"] else [] := by
  cases target with
  | stdout =>
    refine ⟨[], .stdout, ?_⟩
    simp only [serve] at served
    simp only [Target.outLines, Disk.Keeps]
    split at served
    · next high =>
      cases served
      rw [if_pos high]
      exact .refl outputs
    · next low =>
      rw [if_neg low]
      exact Outputs.gains_print served
  | stderr =>
    simp only [serve] at served
    simp only [Target.outLines, Disk.Keeps]
    split at served
    · next above => exact ⟨_, .high above, Outputs.gains_print served⟩
    · next below =>
      cases served
      exact ⟨_, .low below, .refl outputs⟩
  | file text =>
    simp only [serve] at served
    simp only [Target.outLines]
    split at served
    · next disk appended =>
      cases served
      have writable : base.Writable text :=
        (Disk.writable_of_folders same text).mp (Disk.writable_of_append appended)
      have gains := Outputs.gains_append appended
      simp only [Disk.keeps_of_folders same] at gains
      exact ⟨[], .served writable, gains⟩
    · next error failed =>
      have refused : ¬ base.Writable text := by
        intro writable
        obtain ⟨grown, appended⟩ := (Disk.writable_of_folders same text).mpr writable
          (logger.line level time message ++ "\n")
        cases failed.symm.trans appended
      obtain ⟨fault, about⟩ := Disk.append_error failed
      have nowhere (path : Path) : ¬ base.Keeps path (.file text) :=
        fun keeps => refused (Disk.writable_of_keeps keeps)
      refine ⟨_, .failed refused error fault about, ?_⟩
      simp only [nowhere, if_false]
      exact Outputs.gains_print served

theorem serveAll_gains {base : Disk} {outputs : Outputs}
    (same : outputs.disk.folders = base.folders)
    (level : Level) (time message : String) (targets : List Target) :
    ∃ pieces, List.Forall₂ (Target.ErrLines level (logger.coloredLine level time message) base)
        (Target.served level outputs targets) pieces ∧
      outputs.Gains (logger.serveAll level time message targets outputs).2
        ((Target.served level outputs targets).flatMap
          (Target.outLines level (logger.coloredLine level time message)))
        (List.flatten pieces)
        fun path => (Target.served level outputs targets).flatMap fun target =>
          if base.Keeps path target then [logger.line level time message ++ "\n"] else [] := by
  induction targets generalizing outputs with
  | nil => exact ⟨[], .nil, .refl outputs⟩
  | cons target rest ih =>
    rcases logger.serve_cases level time message outputs target with
      ⟨after, done, alike, free⟩ | ⟨cause, failed, stops⟩
    · obtain ⟨err, errLines, gains⟩ := logger.serve_gains same done
      obtain ⟨pieces, later, more⟩ := ih (gains.folders.trans same)
      rw [Target.served_of_alike alike] at later more
      simp only [serveAll, done, Target.served_cons_of_free free]
      exact ⟨err :: pieces, .cons errLines later, gains.trans more⟩
    · simp only [serveAll, failed, Target.served_cons_of_halt stops]
      exact ⟨[], .nil, .refl outputs⟩

end Logger

theorem flatMap_ite_eq_replicate {α β : Type} (holds : α → Prop) [DecidablePred holds] (copy : β)
    (list : List α) :
    (list.flatMap fun a => if holds a then [copy] else []) =
      List.replicate (list.countP fun a => holds a) copy := by
  induction list with
  | nil => rfl
  | cons a rest ih =>
    rw [List.flatMap_cons, ih, List.countP_cons]
    split
    · next yes => simp [yes, List.replicate_succ]
    · next no => simp [no]

theorem flatMap_outLines (level : Level) (colored : String) (targets : List Target) :
    targets.flatMap (Target.outLines level colored) =
      List.replicate (if .error ≤ level then 0 else targets.count .stdout) (colored ++ "\n") := by
  induction targets with
  | nil => simp
  | cons target rest ih =>
    rw [List.flatMap_cons, ih, List.count_cons]
    cases target with
    | stdout =>
      simp only [Target.outLines]
      split
      · rfl
      · simp [List.replicate_succ]
    | stderr => simp [Target.outLines]
    | file text => simp [Target.outLines]

namespace Logger

variable (logger : Logger)

def stamp (message : Message) : String := (message.now logger.timeFormat).getD ""

def plainLine (message : Message) : String :=
  logger.line message.level (logger.stamp message) message.text ++ "\n"

def colored (message : Message) : String :=
  logger.coloredLine message.level (logger.stamp message) message.text

/-- The targets that are served: none if the message is not accepted or its time cannot be written,
and otherwise those before the first that ends in a panic. -/
def served (base : Outputs) (message : Message) : List Target :=
  if logger.accepts message.level ∧ (message.now logger.timeFormat).isSome then
    Target.served message.level { base with fault := message.fault } logger.targets
  else []

def ErrLines (base : Outputs) (message : Message) (lines : List String) : Prop :=
  ∃ pieces, List.Forall₂ (Target.ErrLines message.level (logger.colored message) base.disk)
    (logger.served base message) pieces ∧ lines = pieces.flatten

def tell (outputs : Outputs) (message : Message) : Option Panic × Outputs :=
  logger.log message.now message.level message.text { outputs with fault := message.fault }

def tellAll (logger : Logger) : Outputs → List Message → List (Option Panic) × Outputs
  | outputs, [] => ([], outputs)
  | outputs, message :: rest =>
      let (stopped, after) := logger.tell outputs message
      let (stops, last) := logger.tellAll after rest
      (stopped :: stops, last)

theorem tellAll_append (outputs : Outputs) (first second : List Message) :
    (logger.tellAll outputs (first ++ second)).2 =
      (logger.tellAll (logger.tellAll outputs first).2 second).2 := by
  induction first generalizing outputs with
  | nil => rfl
  | cons message rest ih => exact ih (logger.tell outputs message).2

/-- What a sequence of messages adds to outputs. -/
structure Wrote (messages : List Message) (before after : Outputs) : Prop where
  out : after.out = before.out ++ String.join (messages.flatMap fun message =>
    List.replicate
      (if .error ≤ message.level then 0 else (logger.served before message).count .stdout)
      (logger.colored message ++ "\n"))
  err : ∃ errLines, List.Forall₂ (logger.ErrLines before) messages errLines ∧
    after.err = before.err ++ String.join errLines.flatten
  files : ∀ path, after.disk.content path =
    before.disk.content path ++ String.join (messages.flatMap fun message =>
      List.replicate
        ((logger.served before message).countP fun target => before.disk.Keeps path target)
        (logger.plainLine message))
  /-- Of texts that name different files, each counts for its own. -/
  listed : ∀ text path, before.disk.Keeps path (.file text) →
    (∀ other, .file other ∈ logger.targets → before.disk.Keeps path (.file other) →
      other = text) →
    after.disk.content path =
      before.disk.content path ++ String.join (messages.flatMap fun message =>
        List.replicate ((logger.served before message).count (.file text))
          (logger.plainLine message))
  untouched : ∀ path, (∀ target ∈ logger.targets, ¬ before.disk.Keeps path target) →
    after.disk.files.lookup path = before.disk.files.lookup path
  folders : after.disk.folders = before.disk.folders

theorem served_subset (base : Outputs) (message : Message) :
    logger.served base message ⊆ logger.targets := by
  unfold served
  split
  · exact List.takeWhile_subset _
  · exact List.nil_subset _

/-- One message, on top of others. -/
theorem tell_gains {base outputs : Outputs} (same : outputs.disk.folders = base.disk.folders)
    (message : Message) :
    ∃ lines, logger.ErrLines base message lines ∧
      outputs.Gains (logger.tell outputs message).2
        (List.replicate
          (if .error ≤ message.level then 0 else (logger.served base message).count .stdout)
          (logger.colored message ++ "\n"))
        lines
        fun path => List.replicate
          ((logger.served base message).countP fun target => base.disk.Keeps path target)
          (logger.plainLine message) := by
  have alike : Outputs.Alike { outputs with fault := message.fault }
      { base with fault := message.fault } := ⟨rfl, same⟩
  by_cases written : logger.accepts message.level ∧ (message.now logger.timeFormat).isSome
  · obtain ⟨accepted, formed⟩ := written
    obtain ⟨time, shown⟩ := Option.isSome_iff_exists.mp formed
    have stamp : logger.stamp message = time := by simp [Logger.stamp, shown]
    have served : logger.served base message = Target.served message.level
        { base with fault := message.fault } logger.targets := if_pos ⟨accepted, formed⟩
    have told : logger.tell outputs message = logger.serveAll message.level time message.text
        logger.targets { outputs with fault := message.fault } := by
      simp only [tell, log, accepted, if_true, shown]
    have folders : ({ outputs with fault := message.fault } : Outputs).disk.folders =
        base.disk.folders := same
    obtain ⟨pieces, errLines, gains⟩ :=
      logger.serveAll_gains folders message.level time message.text logger.targets
    rw [Target.served_of_alike alike, ← served] at errLines gains
    simp only [flatMap_outLines, flatMap_ite_eq_replicate] at gains
    rw [← stamp] at errLines gains
    rw [told, ← stamp]
    exact ⟨pieces.flatten, ⟨pieces, errLines, rfl⟩,
      gains.out, gains.err, gains.content, gains.untouched, gains.folders⟩
  · have served : logger.served base message = [] := if_neg written
    have told : (logger.tell outputs message).2 = { outputs with fault := message.fault } := by
      unfold tell log
      split
      · next accepted =>
        cases shown : message.now logger.timeFormat with
        | none => rfl
        | some time => exact absurd ⟨accepted, by simp [shown]⟩ written
      · rfl
    refine ⟨[], ⟨[], by rw [served]; exact .nil, rfl⟩, ?_⟩
    rw [told, served]
    constructor <;> simp

theorem tellAll_gains {base outputs : Outputs} (same : outputs.disk.folders = base.disk.folders)
    (messages : List Message) :
    ∃ errLines, List.Forall₂ (logger.ErrLines base) messages errLines ∧
      outputs.Gains (logger.tellAll outputs messages).2
        (messages.flatMap fun message => List.replicate
          (if .error ≤ message.level then 0 else (logger.served base message).count .stdout)
          (logger.colored message ++ "\n"))
        errLines.flatten
        fun path => messages.flatMap fun message => List.replicate
          ((logger.served base message).countP fun target => base.disk.Keeps path target)
          (logger.plainLine message) := by
  induction messages generalizing outputs with
  | nil => exact ⟨[], .nil, .refl outputs⟩
  | cons message rest ih =>
    obtain ⟨lines, errLines, gains⟩ := logger.tell_gains same message
    obtain ⟨later, more, further⟩ := ih (gains.folders.trans same)
    exact ⟨lines :: later, .cons errLines more, gains.trans further⟩

theorem wrote_of_gains {messages : List Message} {before after : Outputs}
    {errLines : List (List String)} (each : List.Forall₂ (logger.ErrLines before) messages errLines)
    (gains : before.Gains after
      (messages.flatMap fun message => List.replicate
        (if .error ≤ message.level then 0 else (logger.served before message).count .stdout)
        (logger.colored message ++ "\n"))
      errLines.flatten
      fun path => messages.flatMap fun message => List.replicate
        ((logger.served before message).countP fun target => before.disk.Keeps path target)
        (logger.plainLine message)) :
    logger.Wrote messages before after := by
  refine ⟨gains.out, ⟨errLines, each, gains.err⟩, gains.content, ?_, ?_, gains.folders⟩
  · intro text path keeps distinct
    have same (message : Message) :
        ((logger.served before message).countP fun target => before.disk.Keeps path target) =
          (logger.served before message).count (.file text) := by
      rw [List.count]
      apply List.countP_congr
      intro target here
      have listed := logger.served_subset before message here
      rw [decide_eq_true_eq, beq_iff_eq]
      constructor
      · intro kept
        cases target with
        | file other => rw [distinct other listed kept]
        | stdout | stderr => cases kept
      · exact fun own => own ▸ keeps
    rw [gains.content]
    simp only [same]
  · intro path nowhere
    have nothing (message : Message) :
        ((logger.served before message).countP fun target => before.disk.Keeps path target) =
          0 := by
      rw [List.countP_eq_zero]
      intro target here
      simpa using nowhere target (logger.served_subset before message here)
    exact gains.untouched path (by simp [nothing])

end Logger

theorem Logger.served_of_returned {logger : Logger} {base : Outputs} {message : Message}
    (returned : logger.stop message.level message.now { base with fault := message.fault } = none) :
    logger.served base message = if logger.accepts message.level then logger.targets else [] := by
  unfold Logger.stop at returned
  unfold Logger.served
  split at returned
  · next accepted =>
    rw [if_pos accepted]
    cases shown : message.now logger.timeFormat with
    | none => simp [shown] at returned
    | some time =>
      simp only [shown, List.findSome?_eq_none_iff] at returned
      rw [if_pos ⟨accepted, rfl⟩]
      exact (Target.served_of_free returned).2
  · next dropped => rw [if_neg dropped, if_neg fun both => dropped both.1]

end ChunkArena
