import NoiseLink.Log.Event
import NoiseLink.SystemError

namespace NoiseLink.Log

inductive SetupError where
  | file (e : SystemError)
  | alreadyInitialized
  deriving DecidableEq, Repr

def SetupError.message : SetupError → String
  | .file e => "Failed to open log file: " ++ e.message
  | .alreadyInitialized => "Logging is already initialized"

structure Logger where
  filter : Filter
  console : List Event
  file : Option (List Event)
  deriving DecidableEq, Repr

namespace Logger

def new (filter : Filter) (toFile : Bool) : Logger := ⟨filter, [], if toFile then some [] else none⟩

def log (l : Logger) (e : Event) : Logger :=
  if l.filter.admits e.level then { l with console := l.console ++ [e], file := l.file.map (· ++ [e]) } else l

/-- Opening the file comes before the question whether a logger is installed. -/
def install (current : Option Logger) (filter : Filter) (file : Option (Except SystemError Unit)) :
    Except SetupError Logger :=
  match file, current with
  | some (.error e), _ => .error (.file e)
  | _, some _ => .error .alreadyInitialized
  | file, none => .ok (new filter file.isSome)

end Logger
end NoiseLink.Log
