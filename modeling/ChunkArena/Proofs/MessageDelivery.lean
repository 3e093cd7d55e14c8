import Mathlib.Data.List.TakeWhile
import ChunkArena.Log.Registry

/-!
Which targets a message reaches. The filter between the console streams looks at one target at a
time: the output stream drops every message from `error` on, and the error stream every other one,
also when it is the only stream of its logger. So a logger whose only target is a console stream
accepts messages that it writes nowhere. Files take every accepted message, as long as they can be
opened and written; whether they can does not change while lines are appended to files. A console
stream that takes nothing ends the call in a panic, and the targets behind it get nothing; which
target that is does not depend on the message.
-/

namespace ChunkArena

namespace Disk

/-- Whether the file can be opened and takes every line. -/
def Writable (disk : Disk) (path : String) : Prop :=
  ∀ line, ∃ grown, disk.append path line = .ok grown

section Appending

variable {disk grown : Disk} (same : grown.folders = disk.folders)

include same

theorem node?_folder_of_folders (path : Path) :
    grown.node? path = some .folder ↔ disk.node? path = some .folder := by
  have folder (disk : Disk) : disk.node? path = some .folder ↔ path ∈ disk.folders := by
    simp only [node?]
    split
    · simp_all
    · split
      · simp_all
      · split <;> simp_all
  rw [folder, folder, same]

theorem node?_full_of_folders (path : Path) :
    grown.node? path = some .full ↔ disk.node? path = some .full := by
  simp only [node?, same]
  split
  · rfl
  · split
    · rfl
    · split <;> simp

/-- The fault may change, since a name may now belong to a file; the folder that is reached does
not. -/
theorem descend_of_folders {here next : Path} {name : String}
    (reached : disk.descend here name = .ok next) : grown.descend here name = .ok next := by
  have folder := node?_folder_of_folders same (here ++ [name])
  simp only [descend] at reached ⊢
  split at reached
  · simp_all
  · split at reached
    · simp_all
    · split at reached
      · cases reached
      · split at reached
        · next present =>
          rw [folder.mpr present]
          simp_all
        · cases reached
        · cases reached

theorem descendAll_of_folders {names : List String} {here last : Path}
    (reached : disk.descendAll here names = .ok last) :
    grown.descendAll here names = .ok last := by
  induction names generalizing here with
  | nil => exact reached
  | cons name rest ih =>
    simp only [descendAll] at reached ⊢
    split at reached
    · next next step =>
      rw [descend_of_folders same step]
      exact ih reached
    · cases reached

theorem locate_of_folders {text : String} {path : Path} (found : disk.locate text = .ok path) :
    grown.locate text = .ok path := by
  unfold locate at found ⊢
  split at found
  · cases found
  · split at found
    · cases found
    · next named =>
      rw [if_neg named]
      split at found
      split at found
      · cases found
      · next here reached =>
        rw [descendAll_of_folders same reached]
        split at found
        · cases found
        · split at found
          · cases found
          · next proper short =>
            simp only [if_neg proper, if_neg short]
            split at found
            · cases found
            · next absent =>
              split
              · next present =>
                exact absurd ((node?_folder_of_folders same _).mp present) absent
              · exact found

end Appending

theorem append_folders {disk grown : Disk} {name line : String}
    (appended : disk.append name line = .ok grown) : grown.folders = disk.folders := by
  simp only [append] at appended
  split at appended
  · cases appended
  · split at appended <;> cases appended <;> rfl

theorem append_ok_iff (disk : Disk) (name line : String) :
    (∃ grown, disk.append name line = .ok grown) ↔
      ∃ path, disk.locate name = .ok path ∧ disk.node? path ≠ some .full := by
  simp only [append]
  split
  · next fault => simp [fault]
  · next path found =>
    split <;> simp_all

theorem writable_iff (disk : Disk) (text : String) :
    disk.Writable text ↔ ∃ path, disk.locate text = .ok path ∧ disk.node? path ≠ some .full := by
  simp only [Writable, append_ok_iff]
  exact ⟨fun each => each "", fun found _ => found⟩

instance (disk : Disk) (text : String) : Decidable (disk.Writable text) :=
  decidable_of_iff (∃ path ∈ (disk.locate text).toOption, disk.node? path ≠ some .full) <| by
    rw [writable_iff]
    cases disk.locate text with
    | ok path => simp [Except.toOption]
    | error fault => simp [Except.toOption]

theorem writable_of_folders {disk grown : Disk} (same : grown.folders = disk.folders)
    (text : String) : grown.Writable text ↔ disk.Writable text := by
  have located (path : Path) : grown.locate text = .ok path ↔ disk.locate text = .ok path :=
    ⟨locate_of_folders same.symm, locate_of_folders same⟩
  simp only [writable_iff, located, ne_eq, node?_full_of_folders same]

theorem writable_of_append {disk grown : Disk} {text line : String}
    (appended : disk.append text line = .ok grown) : disk.Writable text :=
  (writable_iff disk text).mpr ((append_ok_iff disk text line).mp ⟨grown, appended⟩)

end Disk

namespace Outputs

def refusal (outputs : Outputs) (console : Console) : Option Panic :=
  (outputs.fault console).map (.printFailed console)

structure Alike (a b : Outputs) : Prop where
  fault : a.fault = b.fault
  folders : a.disk.folders = b.disk.folders

theorem Alike.refl (outputs : Outputs) : outputs.Alike outputs := ⟨rfl, rfl⟩

theorem Alike.trans {a b c : Outputs} (first : a.Alike b) (second : b.Alike c) : a.Alike c :=
  ⟨first.fault.trans second.fault, first.folders.trans second.folders⟩

theorem put_alike (outputs : Outputs) (line : String) (console : Console) :
    (outputs.put line console).Alike outputs := by
  cases console <;> exact ⟨rfl, rfl⟩

theorem print_cases (outputs : Outputs) (console : Console) (line : String) :
    (outputs.refusal console = none ∧
        outputs.print console line = .ok (outputs.put line console)) ∨
      ∃ cause, outputs.refusal console = some cause ∧
        outputs.print console line = .error cause := by
  unfold refusal print
  cases outputs.fault console with
  | none => exact .inl ⟨rfl, rfl⟩
  | some fault => exact .inr ⟨_, rfl, rfl⟩

end Outputs

namespace Target

/-- Whether a message of that level is sent to a target. -/
def takes (level : Level) : Target → Bool
  | .stdout => !(.error ≤ level)
  | .stderr => .error ≤ level
  | .file _ => true

/-- The panic that serving a target ends in, if any. A file that cannot be written costs a line on
the error stream. -/
def halt (level : Level) (outputs : Outputs) : Target → Option Panic
  | .stdout => if .error ≤ level then none else outputs.refusal .stdout
  | .stderr => if .error ≤ level then outputs.refusal .stderr else none
  | .file path => if outputs.disk.Writable path then none else outputs.refusal .stderr

theorem halt_of_alike {a b : Outputs} (alike : a.Alike b) (level : Level) :
    halt level a = halt level b := by
  funext target
  cases target with
  | stdout | stderr => simp only [halt, Outputs.refusal, alike.fault]
  | file path =>
    simp only [halt, Outputs.refusal, alike.fault, Disk.writable_of_folders alike.folders]

theorem halt_of_below {low high : Level} (low_below : ¬ Level.error ≤ low)
    (high_below : ¬ Level.error ≤ high) (outputs : Outputs) :
    halt low outputs = halt high outputs := by
  funext target
  cases target <;> simp only [halt, low_below, high_below]

def served (level : Level) (outputs : Outputs) (targets : List Target) : List Target :=
  targets.takeWhile fun target => (target.halt level outputs).isNone

theorem served_cons_of_free {level : Level} {outputs : Outputs} {target : Target}
    (free : target.halt level outputs = none) (rest : List Target) :
    served level outputs (target :: rest) = target :: served level outputs rest :=
  List.takeWhile_cons_of_pos (by simp [free])

theorem served_cons_of_halt {level : Level} {outputs : Outputs} {target : Target} {cause : Panic}
    (stops : target.halt level outputs = some cause) (rest : List Target) :
    served level outputs (target :: rest) = [] :=
  List.takeWhile_cons_of_neg (by simp [stops])

theorem halt_of_skipped {level : Level} {target : Target} (skipped : target.takes level = false)
    (outputs : Outputs) : target.halt level outputs = none := by
  cases target with
  | stdout => simp_all [takes, halt]
  | stderr => simp_all [takes, halt]
  | file path => simp [takes] at skipped

theorem served_takers (level : Level) (outputs : Outputs) (targets : List Target) :
    (served level outputs targets).filter (takes level) =
        served level outputs (targets.filter (takes level)) ∧
      targets.findSome? (halt level outputs) =
        (targets.filter (takes level)).findSome? (halt level outputs) := by
  induction targets with
  | nil => exact ⟨rfl, rfl⟩
  | cons target rest ih =>
    cases taken : target.takes level with
    | false =>
      have skipped : ¬ target.takes level = true := by simp [taken]
      have free := halt_of_skipped taken outputs
      rw [served_cons_of_free free, List.filter_cons_of_neg skipped,
        List.filter_cons_of_neg skipped, List.findSome?_cons, free]
      exact ih
    | true =>
      rw [List.filter_cons_of_pos taken, List.findSome?_cons, List.findSome?_cons]
      cases stops : target.halt level outputs with
      | none =>
        rw [served_cons_of_free stops, served_cons_of_free stops,
          List.filter_cons_of_pos taken, ih.1]
        exact ⟨rfl, ih.2⟩
      | some cause =>
        rw [served_cons_of_halt stops, served_cons_of_halt stops]
        exact ⟨rfl, rfl⟩

theorem served_of_free {level : Level} {outputs : Outputs} {targets : List Target}
    (free : ∀ target ∈ targets, target.halt level outputs = none) :
    targets.findSome? (halt level outputs) = none ∧ served level outputs targets = targets := by
  constructor
  · exact List.findSome?_eq_none_iff.mpr free
  · exact List.takeWhile_eq_self_iff.mpr fun target listed => by simp [free target listed]

theorem served_of_alike {a b : Outputs} (alike : a.Alike b) (level : Level)
    (targets : List Target) : served level a targets = served level b targets := by
  rw [served, served, halt_of_alike alike]

end Target

namespace Outputs

inductive Gets (plain colored : String) : Target → Outputs → Outputs → Prop
  | stdout (outputs : Outputs) : Gets plain colored .stdout outputs (outputs.put colored .stdout)
  | stderr (outputs : Outputs) : Gets plain colored .stderr outputs (outputs.put colored .stderr)
  | file {path : String} {outputs : Outputs} {disk : Disk}
      (appended : outputs.disk.append path (plain ++ "\n") = .ok disk) :
      Gets plain colored (.file path) outputs { outputs with disk := disk }

/-- Targets get a message one after the other, and nothing else is written. -/
inductive Trail (plain colored : String) : List Target → Outputs → Outputs → Prop
  | nil (outputs : Outputs) : Trail plain colored [] outputs outputs
  | cons {target : Target} {rest : List Target} {outputs next last : Outputs}
      (first : Gets plain colored target outputs next)
      (later : Trail plain colored rest next last) :
      Trail plain colored (target :: rest) outputs last

end Outputs

namespace Logger

def FilesWritable (logger : Logger) (disk : Disk) : Prop :=
  ∀ path, .file path ∈ logger.targets → disk.Writable path

variable (logger : Logger) (level : Level) (time message : String) {outputs : Outputs}

theorem serve_cases (outputs : Outputs) (target : Target) :
    (∃ after, logger.serve level time message outputs target = .ok after ∧
        after.Alike outputs ∧ target.halt level outputs = none) ∨
      ∃ cause, logger.serve level time message outputs target = .error cause ∧
        target.halt level outputs = some cause := by
  have printed (console : Console) (line : String) :
      (∃ after, outputs.print console line = .ok after ∧ after.Alike outputs ∧
          outputs.refusal console = none) ∨
        ∃ cause, outputs.print console line = .error cause ∧
          outputs.refusal console = some cause := by
    rcases outputs.print_cases console line with ⟨free, done⟩ | ⟨cause, stops, failed⟩
    · exact .inl ⟨_, done, outputs.put_alike line console, free⟩
    · exact .inr ⟨cause, failed, stops⟩
  cases target with
  | stdout =>
    by_cases high : Level.error ≤ level
    · simp only [serve, Target.halt, if_pos high]
      exact .inl ⟨outputs, rfl, .refl outputs, trivial⟩
    · simp only [serve, Target.halt, if_neg high]
      exact printed .stdout _
  | stderr =>
    by_cases high : Level.error ≤ level
    · simp only [serve, Target.halt, if_pos high]
      exact printed .stderr _
    · simp only [serve, Target.halt, if_neg high]
      exact .inl ⟨outputs, rfl, .refl outputs, trivial⟩
  | file path =>
    simp only [serve, Target.halt]
    cases appended : outputs.disk.append path (logger.line level time message ++ "\n") with
    | ok disk =>
      rw [if_pos (Disk.writable_of_append appended)]
      exact .inl ⟨_, rfl, ⟨rfl, Disk.append_folders appended⟩, rfl⟩
    | error failure =>
      have refused : ¬ outputs.disk.Writable path := by
        intro writable
        obtain ⟨disk, done⟩ := writable (logger.line level time message ++ "\n")
        cases appended.symm.trans done
      rw [if_neg refused]
      exact printed .stderr failure.message

theorem serveAll_stop (targets : List Target) (outputs : Outputs) :
    (logger.serveAll level time message targets outputs).1 =
        targets.findSome? (Target.halt level outputs) ∧
      (logger.serveAll level time message targets outputs).2.Alike outputs := by
  induction targets generalizing outputs with
  | nil => exact ⟨rfl, .refl outputs⟩
  | cons target rest ih =>
    rcases logger.serve_cases level time message outputs target with
      ⟨after, done, alike, free⟩ | ⟨cause, failed, stops⟩
    · simp only [serveAll, done, List.findSome?_cons, free]
      rw [← Target.halt_of_alike alike level]
      exact ⟨(ih after).1, (ih after).2.trans alike⟩
    · simp only [serveAll, failed, List.findSome?_cons, stops]
      exact ⟨trivial, .refl outputs⟩

def stop (now : TimeText) (outputs : Outputs) : Option Panic :=
  if logger.accepts level then
    match now logger.timeFormat with
    | none => some .timeFormat
    | some _ => logger.targets.findSome? (Target.halt level outputs)
  else none

theorem log_stop (now : TimeText) (outputs : Outputs) :
    (logger.log now level message outputs).1 = logger.stop level now outputs ∧
      (logger.log now level message outputs).2.Alike outputs := by
  unfold log stop
  split
  · cases now logger.timeFormat with
    | none => exact ⟨rfl, .refl outputs⟩
    | some time => exact logger.serveAll_stop level time message logger.targets outputs
  · exact ⟨rfl, .refl outputs⟩

theorem stop_of_alike {a b : Outputs} (alike : a.Alike b) (now : TimeText) :
    logger.stop level now a = logger.stop level now b := by
  rw [stop, stop, Target.halt_of_alike alike]

theorem stop_of_below {low high : Level} (low_below : ¬ Level.error ≤ low)
    (high_below : ¬ Level.error ≤ high) (low_accepted : logger.accepts low = true)
    (high_accepted : logger.accepts high = true) (now : TimeText) (outputs : Outputs) :
    logger.stop low now outputs = logger.stop high now outputs := by
  rw [stop, stop, if_pos low_accepted, if_pos high_accepted,
    Target.halt_of_below low_below high_below]

theorem serve_skips {target : Target} (skipped : target.takes level = false) :
    logger.serve level time message outputs target = .ok outputs := by
  cases target with
  | stdout => simp_all [Target.takes, serve]
  | stderr => simp_all [Target.takes, serve]
  | file path => simp [Target.takes] at skipped

theorem serve_gets {target : Target} {after : Outputs} (taken : target.takes level = true)
    (writable : ∀ path, target = .file path → outputs.disk.Writable path)
    (done : logger.serve level time message outputs target = .ok after) :
    Outputs.Gets (logger.line level time message) (logger.coloredLine level time message) target
      outputs after := by
  have printed {console : Console} {line : String}
      (shown : outputs.print console line = .ok after) : after = outputs.put line console := by
    rcases outputs.print_cases console line with ⟨_, same⟩ | ⟨_, _, failed⟩
    · cases shown.symm.trans same
      rfl
    · cases shown.symm.trans failed
  cases target with
  | stdout =>
    have low : ¬ Level.error ≤ level := by simpa [Target.takes] using taken
    rw [serve, if_neg low] at done
    rw [printed done]
    exact .stdout outputs
  | stderr =>
    have high : Level.error ≤ level := by simpa [Target.takes] using taken
    rw [serve, if_pos high] at done
    rw [printed done]
    exact .stderr outputs
  | file path =>
    obtain ⟨disk, appended⟩ := writable path rfl (logger.line level time message ++ "\n")
    simp only [serve, appended, Except.ok.injEq] at done
    rw [← done]
    exact .file appended

/-- Serving targets one after the other is to write to those that take the level, up to the first
that ends in a panic. -/
theorem serveAll_trail {targets : List Target}
    (writable : ∀ path, .file path ∈ targets → outputs.disk.Writable path) :
    Outputs.Trail (logger.line level time message) (logger.coloredLine level time message)
      ((Target.served level outputs targets).filter (Target.takes level)) outputs
      (logger.serveAll level time message targets outputs).2 := by
  induction targets generalizing outputs with
  | nil => exact .nil outputs
  | cons target rest ih =>
    rcases logger.serve_cases level time message outputs target with
      ⟨after, done, alike, free⟩ | ⟨cause, failed, stops⟩
    · have later (path : String) (listed : .file path ∈ rest) : after.disk.Writable path :=
        (Disk.writable_of_folders alike.folders path).mpr
          (writable path (List.mem_cons_of_mem target listed))
      have trail := ih later
      rw [Target.served_of_alike alike] at trail
      simp only [serveAll, done, Target.served_cons_of_free free]
      cases taken : target.takes level with
      | true =>
        rw [List.filter_cons_of_pos taken]
        refine .cons (logger.serve_gets level time message taken ?_ done) trail
        intro path same
        exact writable path (same ▸ List.mem_cons_self)
      | false =>
        have skipped : ¬ target.takes level = true := by simp [taken]
        rw [logger.serve_skips level time message taken] at done
        cases done
        rwa [List.filter_cons_of_neg skipped]
    · simp only [serveAll, failed, Target.served_cons_of_halt stops, List.filter_nil]
      exact .nil outputs

theorem takers_nonempty_iff (targets : List Target) :
    targets.filter (Target.takes level) ≠ [] ↔
      (¬ Level.error ≤ level ∧ .stdout ∈ targets) ∨ (Level.error ≤ level ∧ .stderr ∈ targets) ∨
        ∃ path, .file path ∈ targets := by
  constructor
  · intro some
    obtain ⟨target, member⟩ := List.exists_mem_of_ne_nil _ some
    obtain ⟨listed, taken⟩ := List.mem_filter.mp member
    cases target with
    | stdout => exact .inl ⟨by simpa [Target.takes] using taken, listed⟩
    | stderr => exact .inr (.inl ⟨by simpa [Target.takes] using taken, listed⟩)
    | file path => exact .inr (.inr ⟨path, listed⟩)
  · have member {target : Target} (listed : target ∈ targets) (taken : target.takes level = true) :
        targets.filter (Target.takes level) ≠ [] :=
      List.ne_nil_of_mem (List.mem_filter.mpr ⟨listed, taken⟩)
    rintro (⟨low, listed⟩ | ⟨high, listed⟩ | ⟨path, listed⟩)
    · exact member listed (by simpa [Target.takes] using low)
    · exact member listed (by simpa [Target.takes] using high)
    · exact member listed rfl

end Logger

namespace Logs

variable (logs : Logs) (name : String) (level : Level) (message : String)

theorem logTo_outputs :
    ∃ outputs, (logs.logTo name level message).2 = { logs with outputs := outputs } ∧
      outputs.Alike logs.outputs := by
  unfold logTo
  cases logs.registry.find? name with
  | none => exact ⟨logs.outputs, rfl, .refl _⟩
  | some logger => exact ⟨_, rfl, (logger.log_stop level message logs.now logs.outputs).2⟩

@[simp] theorem logTo_registry : (logs.logTo name level message).2.registry = logs.registry := by
  obtain ⟨_, same, _⟩ := logs.logTo_outputs name level message
  rw [same]

@[simp] theorem logTo_now : (logs.logTo name level message).2.now = logs.now := by
  obtain ⟨_, same, _⟩ := logs.logTo_outputs name level message
  rw [same]

theorem logTo_stop :
    (logs.logTo name level message).1 = (logs.registry.find? name).bind fun logger =>
      logger.stop level logs.now logs.outputs := by
  unfold logTo
  cases logs.registry.find? name with
  | none => rfl
  | some logger => exact (logger.log_stop level message logs.now logs.outputs).1

theorem complaint_eq :
    logs.complaint level = (logs.registry.find? coreName).bind fun logger =>
      logger.stop level logs.now logs.outputs :=
  logs.logTo_stop coreName level ""

theorem logTo_core : (logs.logTo coreName level message).1 = logs.complaint level :=
  (logs.logTo_stop coreName level message).trans (logs.complaint_eq level).symm

theorem complaint_of_alike {logs after : Logs}
    (known : after.registry.find? coreName = logs.registry.find? coreName)
    (now : after.now = logs.now) (alike : after.outputs.Alike logs.outputs) :
    after.complaint = logs.complaint := by
  funext level
  rw [complaint_eq, complaint_eq, known, now]
  simp only [Logger.stop_of_alike _ _ alike]

theorem complaint_logTo : (logs.logTo name level message).2.complaint = logs.complaint := by
  obtain ⟨outputs, same, alike⟩ := logs.logTo_outputs name level message
  rw [same]
  exact complaint_of_alike rfl rfl alike

end Logs

inductive Panic.OfLine (fault : Console → Option FileFault) : Panic → Prop
  | timeFormat : OfLine fault .timeFormat
  | printFailed {console : Console} {why : FileFault} (shut : fault console = some why) :
      OfLine fault (.printFailed console why)

theorem Outputs.refusal_ofLine {outputs : Outputs} {console : Console} {cause : Panic}
    (stops : outputs.refusal console = some cause) : cause.OfLine outputs.fault := by
  obtain ⟨why, shut, rfl⟩ := Option.map_eq_some_iff.mp stops
  exact .printFailed shut

theorem Target.halt_ofLine {target : Target} {level : Level} {outputs : Outputs} {cause : Panic}
    (stops : target.halt level outputs = some cause) : cause.OfLine outputs.fault := by
  cases target with
  | stdout | file path =>
    simp only [halt] at stops
    split at stops
    · cases stops
    · exact Outputs.refusal_ofLine stops
  | stderr =>
    simp only [halt] at stops
    split at stops
    · exact Outputs.refusal_ofLine stops
    · cases stops

theorem Logger.stop_ofLine {logger : Logger} {level : Level} {now : TimeText} {outputs : Outputs}
    {cause : Panic} (stops : logger.stop level now outputs = some cause) :
    cause.OfLine outputs.fault := by
  unfold stop at stops
  split at stops
  · split at stops
    · cases stops
      exact .timeFormat
    · obtain ⟨target, _, halts⟩ := List.exists_of_findSome?_eq_some stops
      exact Target.halt_ofLine halts
  · cases stops

theorem Logs.complaint_ofLine {logs : Logs} {level : Level} {cause : Panic}
    (loud : logs.complaint level = some cause) : cause.OfLine logs.outputs.fault := by
  rw [complaint_eq] at loud
  obtain ⟨logger, _, stops⟩ := Option.bind_eq_some_iff.mp loud
  exact Logger.stop_ofLine stops

/-- A registered logger whose files can be written drops a message that it does not accept, panics
on an accepted one if its time format does not exist, and otherwise writes the message, in order, to
exactly the targets that take the level; a console stream that takes nothing ends this in a panic.
It writes the message somewhere only if a file, or the one stream of the level, is among its
targets. -/
theorem message_reaches_takers {logs : Logs} {name : String} {logger : Logger}
    (registered : logs.registry.find? name = some logger)
    (writable : logger.FilesWritable logs.outputs.disk) (level : Level) (message : String) :
    (logs.registry.enabled name level = logger.accepts level) ∧
      (logger.accepts level = false → logs.logTo name level message = (none, logs)) ∧
      (logger.accepts level = true → logs.now logger.timeFormat = none →
        logs.logTo name level message = (some .timeFormat, logs)) ∧
      (∀ time, logger.accepts level = true → logs.now logger.timeFormat = some time →
        ∃ outputs, logs.logTo name level message =
            ((logger.targets.filter (Target.takes level)).findSome?
              (Target.halt level logs.outputs), { logs with outputs := outputs }) ∧
          Outputs.Trail (logger.line level time message) (logger.coloredLine level time message)
            (Target.served level logs.outputs (logger.targets.filter (Target.takes level)))
            logs.outputs outputs) ∧
      ((∀ console, logs.outputs.fault console = none) →
        (logger.targets.filter (Target.takes level)).findSome?
            (Target.halt level logs.outputs) = none ∧
          Target.served level logs.outputs (logger.targets.filter (Target.takes level)) =
            logger.targets.filter (Target.takes level)) ∧
      (logger.targets.filter (Target.takes level) ≠ [] ↔
        (¬ Level.error ≤ level ∧ .stdout ∈ logger.targets) ∨
          (Level.error ≤ level ∧ .stderr ∈ logger.targets) ∨
          ∃ path, .file path ∈ logger.targets) := by
  refine ⟨?_, ?_, ?_, ?_, ?_, Logger.takers_nonempty_iff level logger.targets⟩
  · simp [Registry.enabled, registered]
  · intro refused
    simp [Logs.logTo, registered, Logger.log, refused]
  · intro accepted missing
    simp [Logs.logTo, registered, Logger.log, accepted, missing]
  · intro time accepted shown
    have stop := logger.serveAll_stop level time message logger.targets logs.outputs
    have trail := logger.serveAll_trail level time message writable
    obtain ⟨served, stopped⟩ := Target.served_takers level logs.outputs logger.targets
    rw [served] at trail
    refine ⟨_, ?_, trail⟩
    simp only [Logs.logTo, registered, Logger.log, accepted, if_true, shown, ← stopped, ← stop.1]
  · intro clear
    refine Target.served_of_free fun target _ => ?_
    cases target with
    | stdout | stderr => simp [Target.halt, Outputs.refusal, clear]
    | file path => simp [Target.halt, Outputs.refusal, clear]

namespace Logs

def withTargets (targets : List Target) : Logs :=
  { empty none with registry := ⟨[("app", { Logger.default with targets := targets })]⟩ }

end Logs

/-- With a file next to the output stream, an error goes to the file only. -/
theorem error_reaches_file :
    Disk.empty.Writable "app.log" ∧
      ∃ outputs, (Logs.withTargets [.stdout, .file "app.log"]).logTo "app" .error "kept" =
          (none, { Logs.withTargets [.stdout, .file "app.log"] with outputs := outputs }) ∧
        Outputs.Trail "12:34:56.789 - System [ERROR]: kept"
          "\x1b[1;31m12:34:56.789 - System [ERROR]: kept\x1b[0m"
            [.file "app.log"] .empty outputs := by
  have writable : Disk.empty.Writable "app.log" := by decide +kernel
  have files : Logger.FilesWritable { Logger.default with targets := [.stdout, .file "app.log"] }
      (Logs.withTargets [.stdout, .file "app.log"]).outputs.disk := by
    intro path listed
    have same : path = "app.log" := by simpa using listed
    exact same ▸ writable
  have shown : Clock.sample.format? Logger.default.timeFormat = some "12:34:56.789" := by
    decide +kernel
  have registered : (Logs.withTargets [.stdout, .file "app.log"]).registry.find? "app" =
      some { Logger.default with targets := [.stdout, .file "app.log"] } := rfl
  obtain ⟨-, -, -, written, free, -⟩ := message_reaches_takers registered files .error "kept"
  obtain ⟨outputs, done, trail⟩ := written "12:34:56.789" rfl shown
  obtain ⟨quiet, all⟩ := free fun _ => rfl
  rw [quiet] at done
  rw [all] at trail
  exact ⟨writable, outputs, done, trail⟩

/-- An accepted message that is written nowhere: an error on the output stream alone. -/
theorem lone_stdout_drops_errors :
    (Logs.withTargets [.stdout]).registry.find? "app" =
        some { Logger.default with targets := [.stdout] } ∧
      (Logs.withTargets [.stdout]).registry.enabled "app" .error = true ∧
      (Logs.withTargets [.stdout]).logTo "app" .error "lost" =
        (none, Logs.withTargets [.stdout]) := by
  have registered : (Logs.withTargets [.stdout]).registry.find? "app" =
      some { Logger.default with targets := [.stdout] } := rfl
  have shown : (Logs.withTargets [.stdout]).now Logger.default.timeFormat =
      some "12:34:56.789" := by
    decide +kernel
  refine ⟨registered, rfl, ?_⟩
  simp only [Logs.logTo, registered, Logger.log, shown]
  rfl

end ChunkArena
