import ChunkArena.Log.Registry

/-!
What can be seen of a logging step from outside: the texts printed while it ran, and all log files
as it left them. Clock readings are hidden in all of them.
-/

namespace ChunkArena

structure Capture where
  out : String
  err : String
  files : List (String × String)

namespace Outputs

def capture (outputs : Outputs) : Capture where
  out := maskReadings outputs.out
  err := maskReadings outputs.err
  files := outputs.disk.workingFiles.map fun (path, text) => (path, maskReadings text)

def withBlankConsoles (outputs : Outputs) : Outputs := { outputs with out := "", err := "" }

def createFolders (outputs : Outputs) (folders : List String) : Except FileFault Outputs :=
  match folders.foldlM Disk.createFolder outputs.disk with
  | .ok disk => .ok { outputs with disk := disk }
  | .error fault => .error fault

end Outputs

namespace Logger

def captureEach (logger : Logger) (now : TimeText) :
    Outputs → List (Level × String) → List (Option Panic × Capture)
  | _, [] => []
  | outputs, (level, message) :: rest =>
      let (stopped, after) := logger.log now level message outputs.withBlankConsoles
      (stopped, after.capture) :: logger.captureEach now after rest

end Logger

end ChunkArena
