/-!
What can go wrong in logging, and the operating system's word for why a file or a console stream
could not be used.
-/

namespace ChunkArena

inductive FileFault
  | notFound
  | notDirectory
  | isDirectory
  | noSpace
  | nameTooLong
  | zeroByte
  | brokenPipe
  deriving DecidableEq

def FileFault.message : FileFault → String
  | notFound => "No such file or directory (os error 2)"
  | notDirectory => "Not a directory (os error 20)"
  | isDirectory => "Is a directory (os error 21)"
  | noSpace => "No space left on device (os error 28)"
  | nameTooLong => "File name too long (os error 36)"
  | zeroByte => "file name contained an unexpected NUL byte"
  | brokenPipe => "Broken pipe (os error 32)"

inductive Console
  | stdout
  | stderr
  deriving DecidableEq

def Console.name : Console → String
  | stdout => "stdout"
  | stderr => "stderr"

inductive LogError
  | alreadyInitialized (name : String)
  | unknownLevel (text : String)
  | couldNotOpen (path : String) (fault : FileFault)
  | couldNotWrite (path : String) (fault : FileFault)
  deriving DecidableEq

def LogError.message : LogError → String
  | alreadyInitialized name => s!"logger \"{name}\" is already initialized"
  | unknownLevel text => s!"unknown log level \"{text}\""
  | couldNotOpen path fault => s!"could not open file '{path}': {fault.message}"
  | couldNotWrite path fault => s!"could not write to file '{path}': {fault.message}"

end ChunkArena
