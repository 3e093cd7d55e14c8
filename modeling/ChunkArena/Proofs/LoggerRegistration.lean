import ChunkArena.Proofs.MessageDelivery

/-!
The registry over whole runs. Whatever calls are made, also by the arguments of a message while it
is formed, the registry is what the registrations they ask for make of it, one after the other; and
of these only the first one of each name counts. So the logger that a message finds when it has been
formed is the one for whose sake it was formed, and forming it early or late makes no difference
unless that has effects of its own.
-/

namespace ChunkArena

namespace Registry

def enter (registry : Registry) (entry : String × Logger) : Registry :=
  match registry.init entry.1 entry.2 with
  | .ok grown => grown
  | .error _ => registry

theorem init_taken {registry : Registry} {name : String} {known : Logger}
    (taken : registry.find? name = some known) (logger : Logger) :
    registry.init name logger = .error (.alreadyInitialized name) := by
  simp [init, taken]

theorem find?_enter (registry : Registry) (entry : String × Logger) (name : String) :
    (registry.enter entry).find? name = (registry.find? name).or ([entry].lookup name) := by
  obtain ⟨other, logger⟩ := entry
  simp only [enter]
  split
  · next grown done =>
    by_cases same : name = other
    · subst same
      have absent : registry.find? name = none := by
        cases taken : registry.find? name with
        | none => rfl
        | some known =>
          rw [init_taken taken] at done
          cases done
      simp [find?_init_same done, absent]
    · have apart : (name == other) = false := by simpa using same
      simp [find?_init_other done same, List.lookup_cons, apart]
  · next cause failed =>
    by_cases same : name = other
    · subst same
      cases taken : registry.find? name with
      | none => simp [init, taken] at failed
      | some known => rfl
    · have apart : (name == other) = false := by simpa using same
      simp [List.lookup_cons, apart]

theorem find?_foldl_enter (registry : Registry) (entries : List (String × Logger))
    (name : String) :
    (entries.foldl enter registry).find? name =
      (registry.find? name).or (entries.lookup name) := by
  induction entries generalizing registry with
  | nil => simp
  | cons entry rest ih =>
    calc (rest.foldl enter (registry.enter entry)).find? name
      _ = ((registry.enter entry).find? name).or (rest.lookup name) := ih (registry.enter entry)
      _ = ((registry.find? name).or ([entry].lookup name)).or (rest.lookup name) := by
          rw [find?_enter]
      _ = (registry.find? name).or ((entry :: rest).lookup name) := by
          rw [Option.or_assoc, ← List.lookup_append, List.singleton_append]

end Registry

namespace Call

mutual

/-- The registrations that a call asks for, in order, with those of the calls made while its message
is formed. -/
def attempts : Call → Logs → List (String × Logger)
  | .init name logger, _ => [(name, logger)]
  | .initCore logger, logs => [(Logs.coreName, logger.getD (.core logs.setting))]
  | .enabled _ _, _ => []
  | .logTo _ _ _, _ => []
  | .send name level during _, logs =>
      if logs.registry.enabled name level then attemptsAll during logs else []

/-- A panic keeps the calls after it from being made. -/
def attemptsAll : List Call → Logs → List (String × Logger)
  | [], _ => []
  | first :: rest, logs =>
      attempts first logs ++
        match Logs.call first logs with
        | (.error (.panic _), _) => []
        | (_, after) => attemptsAll rest after

end

end Call

namespace Logs

def afterCalls (logs : Logs) : List Call → Logs
  | [] => logs
  | first :: rest => (call first logs).2.afterCalls rest

def registrations (logs : Logs) : List Call → List (String × Logger)
  | [] => []
  | first :: rest => first.attempts logs ++ (call first logs).2.registrations rest

def handTo (logs : Logs) (logger : Logger) (level : Level) (message : String) :
    Except CallFailure CallAnswer × Logs :=
  match logger.log logs.now level message logs.outputs with
  | (none, outputs) => (.ok (.formed 1), { logs with outputs := outputs })
  | (some cause, outputs) => (.error (.panic cause), { logs with outputs := outputs })

theorem init_registry (logs : Logs) (name : String) (logger : Logger) :
    (logs.init name logger).2.registry = logs.registry.enter (name, logger) := by
  cases taken : logs.registry.init name logger with
  | ok grown => simp only [init, Registry.enter, taken]
  | error cause => simp only [init, Registry.enter, taken]

mutual

/-- All that a call does to the registry is to make the registrations it asks for. -/
theorem call_registry : ∀ (next : Call) (logs : Logs),
    (call next logs).2.registry = (next.attempts logs).foldl Registry.enter logs.registry
  | .init name logger, logs => init_registry logs name logger
  | .initCore logger, logs => init_registry logs coreName (logger.getD (.core logs.setting))
  | .enabled name level, logs => rfl
  | .logTo name level message, logs => by
      have written := logs.logTo_registry name level message
      simp only [call, Call.attempts, List.foldl_nil]
      rcases made : logs.logTo name level message with ⟨stop | cause, after⟩
      · rw [made] at written
        exact written
      · rw [made] at written
        exact written
  | .send name level during message, logs => by
      have formation := callAll_registry during logs
      simp only [call, Call.attempts]
      split
      · split
        · next cause formed stopped =>
          rw [stopped] at formation
          exact formation
        · next formed made =>
          have written := formed.logTo_registry name level message
          rw [made] at formation
          split
          · next after told =>
            rw [told] at written
            exact written.trans formation
          · next cause after told =>
            rw [told] at written
            exact written.trans formation
      · rfl

theorem callAll_registry : ∀ (calls : List Call) (logs : Logs),
    (callAll calls logs).2.registry =
      (Call.attemptsAll calls logs).foldl Registry.enter logs.registry
  | [], logs => rfl
  | first :: rest, logs => by
      have step := call_registry first logs
      have later (after : Logs) := callAll_registry rest after
      simp only [callAll, Call.attemptsAll, List.foldl_append]
      rcases made : call first logs with ⟨(cause | cause) | answer, after⟩
      · rw [← step, made]
        exact later after
      · rw [← step, made]
        rfl
      · rw [← step, made]
        exact later after

end

theorem afterCalls_registry (calls : List Call) (logs : Logs) :
    (logs.afterCalls calls).registry =
      (logs.registrations calls).foldl Registry.enter logs.registry := by
  induction calls generalizing logs with
  | nil => rfl
  | cons first rest ih =>
    rw [afterCalls, registrations, List.foldl_append, ← call_registry]
    exact ih (call first logs).2

theorem callAll_keeps {during : List Call} {logs : Logs} {name : String} {logger : Logger}
    (known : logs.registry.find? name = some logger) :
    (callAll during logs).2.registry.find? name = some logger := by
  rw [callAll_registry, Registry.find?_foldl_enter, known]
  rfl

structure SameWriting (before after : Logs) : Prop where
  now : after.now = before.now
  alike : after.outputs.Alike before.outputs

theorem SameWriting.refl (logs : Logs) : SameWriting logs logs := ⟨rfl, .refl _⟩

theorem SameWriting.trans {first next last : Logs} (early : SameWriting first next)
    (late : SameWriting next last) : SameWriting first last :=
  ⟨late.now.trans early.now, late.alike.trans early.alike⟩

theorem logTo_sameWriting (logs : Logs) (name : String) (level : Level) (message : String) :
    SameWriting logs (logs.logTo name level message).2 := by
  obtain ⟨outputs, same, alike⟩ := logs.logTo_outputs name level message
  rw [same]
  exact ⟨rfl, alike⟩

theorem init_sameWriting (logs : Logs) (name : String) (logger : Logger) :
    SameWriting logs (logs.init name logger).2 := by
  unfold init
  split
  · exact ⟨rfl, .refl logs.outputs⟩
  · exact .refl logs

mutual

theorem call_sameWriting : ∀ (next : Call) (logs : Logs), SameWriting logs (call next logs).2
  | .init name logger, logs => init_sameWriting logs name logger
  | .initCore logger, logs => init_sameWriting logs coreName (logger.getD (.core logs.setting))
  | .enabled name level, logs => .refl logs
  | .logTo name level message, logs => by
      have written := logs.logTo_sameWriting name level message
      simp only [call]
      split
      · next after told => rwa [told] at written
      · next cause after told => rwa [told] at written
  | .send name level during message, logs => by
      have formation := callAll_sameWriting during logs
      simp only [call]
      split
      · split
        · next cause formed stopped => rwa [stopped] at formation
        · next formed made =>
          have written := formed.logTo_sameWriting name level message
          rw [made] at formation
          split
          · next after told =>
            rw [told] at written
            exact formation.trans written
          · next cause after told =>
            rw [told] at written
            exact formation.trans written
      · exact .refl logs

theorem callAll_sameWriting : ∀ (calls : List Call) (logs : Logs),
    SameWriting logs (callAll calls logs).2
  | [], logs => .refl logs
  | first :: rest, logs => by
      have step := call_sameWriting first logs
      have later (after : Logs) := callAll_sameWriting rest after
      simp only [callAll]
      rcases made : call first logs with ⟨(cause | cause) | answer, after⟩
      · rw [made] at step
        exact step.trans (later after)
      · rwa [made] at step
      · rw [made] at step
        exact step.trans (later after)

end

theorem complaint_call {logs : Logs} {level : Level} {cause : Panic}
    (loud : logs.complaint level = some cause) (next : Call) :
    (call next logs).2.complaint level = some cause := by
  have writing := call_sameWriting next logs
  cases known : logs.registry.find? coreName with
  | none => simp [complaint_eq, known] at loud
  | some logger =>
    have kept : (call next logs).2.registry.find? coreName = some logger := by
      rw [call_registry, Registry.find?_foldl_enter, known]
      rfl
    rw [complaint_of_alike (kept.trans known.symm) writing.now writing.alike]
    exact loud

theorem send_disabled {logs : Logs} {name : String} {level : Level}
    (idle : logs.registry.enabled name level = false) (during : List Call) (message : String) :
    call (.send name level during message) logs = (.ok (.formed 0), logs) := by
  simp [call, idle]

theorem send_enabled {logs : Logs} {name : String} {logger : Logger} {level : Level}
    (known : logs.registry.find? name = some logger) (accepted : logger.accepts level = true)
    (during : List Call) (message : String) :
    call (.send name level during message) logs =
      match callAll during logs with
      | (some cause, formed) => (.error (.panic cause), formed)
      | (none, formed) => formed.handTo logger level message := by
  have used : logs.registry.enabled name level = true := by
    simpa [Registry.enabled, known] using accepted
  have kept : (callAll during logs).2.registry.find? name = some logger := callAll_keeps known
  simp only [call, used, if_true]
  rcases formation : callAll during logs with ⟨stop, formed⟩
  rw [formation] at kept
  cases stop with
  | some cause => rfl
  | none =>
    simp only [logTo, kept, handTo]
    rcases logger.log formed.now level message formed.outputs with ⟨stop | cause, outputs⟩
    · rfl
    · rfl

theorem send_plain {logs : Logs} {name : String} {level : Level} {during : List Call}
    (pure : logs.registry.enabled name level = true → callAll during logs = (none, logs))
    (message : String) :
    (call (.send name level during message) logs).2 =
      (call (.logTo name level message) logs).2 := by
  simp only [call]
  split
  · next used =>
    rw [pure used]
    simp only
    split <;> rfl
  · next idle =>
    have unwritten : logs.logTo name level message = (none, logs) := by
      simp only [logTo]
      split
      · rfl
      · next logger known =>
        have refused : logger.accepts level = false := by
          simpa [Registry.enabled, known] using idle
        simp [Logger.log, refused]
    rw [unwritten]

end Logs

/-- After any calls, a name belongs to the logger it belonged to at the start, or else to the first
one that was registered under it. Registering it again is an error and changes nothing, and only
registrations change the registry. A message is formed if and only if its logger is there at the
start of the call and accepts the level, and that logger gets it; where forming it has no effects,
all outputs are those of an unconditional call. -/
theorem first_registration_lasts (start : Logs) (calls : List Call) :
    let logs := start.afterCalls calls
    (∀ name, logs.registry.find? name =
      (start.registry.find? name).or ((start.registrations calls).lookup name)) ∧
    (∀ name known, logs.registry.find? name = some known → ∀ next : Call,
      (∃ logger, next = .init name logger ∨ name = Logs.coreName ∧ next = .initCore logger) →
        logs.call next = (.error (.error (.alreadyInitialized name)), logs)) ∧
    (∀ next : Call, next.attempts logs = [] →
      (logs.call next).2.registry = logs.registry) ∧
    (∀ name level, logs.registry.enabled name level = true ↔
      ∃ logger, logs.registry.find? name = some logger ∧ logger.accepts level = true) ∧
    (∀ name level during message, logs.registry.enabled name level = false →
      logs.call (.send name level during message) = (.ok (.formed 0), logs)) ∧
    (∀ name level during message logger, logs.registry.find? name = some logger →
      logger.accepts level = true → logs.call (.send name level during message) =
        match logs.callAll during with
        | (some cause, formed) => (.error (.panic cause), formed)
        | (none, formed) => formed.handTo logger level message) ∧
    (∀ name level during message,
      (logs.registry.enabled name level = true → logs.callAll during = (none, logs)) →
        (logs.call (.send name level during message)).2 =
          (logs.call (.logTo name level message)).2) := by
  intro logs
  refine ⟨?stored, ?later, ?others, ?used, ?idle, ?formed, ?plain⟩
  case stored =>
    intro name
    rw [Logs.afterCalls_registry, Registry.find?_foldl_enter]
  case later =>
    rintro name known taken next ⟨logger, rfl | ⟨rfl, rfl⟩⟩
    · simp [Logs.call, Logs.init, Registry.init_taken taken]
    · simp [Logs.call, Logs.init, Registry.init_taken taken]
  case others =>
    intro next silent
    rw [Logs.call_registry, silent]
    rfl
  case used =>
    intro name level
    simp only [Registry.enabled]
    split <;> simp_all
  case idle =>
    intro name level during message idle
    exact Logs.send_disabled idle during message
  case formed =>
    intro name level during message logger known accepted
    exact Logs.send_enabled known accepted during message
  case plain =>
    intro name level during message pure
    exact Logs.send_plain pure message

/-- The message's own argument tries to register another logger under the name, and does register
one for the library: the message goes to the first logger all the same. -/
theorem registered_meanwhile :
    let quiet : Logger := { Logger.blank with minLevel := .warn, timeFormat := "now" }
    let logs := (Logs.empty none).afterCalls [.init "app" quiet]
    let during : List Call := [.init "app" .default, .initCore none]
    logs.registry.find? "app" = some quiet ∧
      logs.call (.init "app" .default) = (.error (.error (.alreadyInitialized "app")), logs) ∧
      (logs.call (.logTo "app" .warn "plain")).2.registry = logs.registry ∧
      logs.call (.send "app" .info during "hidden") = (.ok (.formed 0), logs) ∧
      (logs.callAll during).2.registry.find? Logs.coreName = some (.core none) ∧
      logs.call (.send "app" .warn during "kept") =
        (logs.callAll during).2.handTo quiet .warn "kept" ∧
      (logs.call (.send "app" .warn [] "plain")).2 =
        (logs.call (.logTo "app" .warn "plain")).2 := by
  intro quiet logs during
  have known : logs.registry.find? "app" = some quiet := rfl
  obtain ⟨stored, later, others, used, idle, formed, plain⟩ :=
    first_registration_lasts (Logs.empty none) [.init "app" quiet]
  refine ⟨stored "app", later "app" quiet known _ ⟨.default, .inl rfl⟩, others _ rfl,
    idle "app" .info during "hidden" rfl, rfl, ?_, plain "app" .warn [] "plain" fun _ => rfl⟩
  exact formed "app" .warn during "kept" quiet known rfl

end ChunkArena
