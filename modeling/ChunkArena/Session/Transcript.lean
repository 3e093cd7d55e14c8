import ChunkArena.Log.Capture
import ChunkArena.Session.Step

/-!
Whole sessions, and transcripts in which sessions and logging calls take turns. A session that is
part of a transcript writes its reports to the logs of that transcript, through whatever logger is
registered for them at the time.
-/

namespace ChunkArena

namespace Session

def advanceAll (session : Session) : List Step → List StepReport × Session
  | [] => ([], session)
  | first :: rest =>
      let (report, session) := session.advance first
      let (reports, session) := session.advanceAll rest
      (report :: reports, session)

def run (session : Session) (steps : List Step) :
    List StepReport × List EndReport × Session :=
  let (reports, session) := session.advanceAll steps
  let (ends, session) := session.close
  (reports, ends, session)

end Session

inductive Entry
  | call (call : Call)
  | session (steps : List Step)
  | unreadable

inductive EntryAnswer
  | call (result : Except CallFailure CallAnswer)
  | session (steps : List StepReport) (ends : List EndReport)
  | refused (cause : Refusal)

namespace Logs

def withOutputs (logs : Logs) (outputs : Outputs) : Logs := { logs with outputs := outputs }

def play (logs : Logs) (profile : Profile) : Entry → EntryAnswer × Logs
  | .call call =>
      let (result, after) := logs.call call
      (.call result, after)
  | .session steps =>
      let (reports, ends, session) := (Session.start profile logs).run steps
      (.session reports ends, session.world.logs)
  | .unreadable => (.refused .badInput, logs)

def playAll (logs : Logs) (profile : Profile) : List Entry → List (EntryAnswer × Capture)
  | [] => []
  | first :: rest =>
      let (answer, after) := (logs.withOutputs logs.outputs.withBlankConsoles).play profile first
      (answer, after.outputs.capture) :: after.playAll profile rest

end Logs

end ChunkArena
