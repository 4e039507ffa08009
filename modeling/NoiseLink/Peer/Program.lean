import NoiseLink.Directory.System
import NoiseLink.Document.Path
import NoiseLink.Document.Toml
import NoiseLink.Log.Logger
import NoiseLink.Log.Stamp
import NoiseLink.Peer.CommandLine
import NoiseLink.Peer.Node

namespace NoiseLink.Program

open Document (ReadError Setting Source Value)

variable {S : Suite}

def configSuffix : Bytes := Text.utf8 ".toml".toList

def shown (path : Bytes) : Bytes :=
  (if Directory.isAbsolute path then [Directory.slash] else []) ++
    [Directory.slash].intercalate ((Directory.names path).filter (· ≠ Directory.here))

/-- The file that a path leads to, or else the one with the suffix of configurations, each under the name that
messages show. -/
def findConfig {m : Type → Type} [Monad m] (read : Bytes → m (Option Bytes)) (path : Bytes) :
    m (Option (Bytes × Bytes)) := do
  let path' := shown path
  if let some content ← read path then return some (path', content)
  match (Directory.names path').getLast? with
  | none => return none
  | some name =>
    if name = Directory.above then return none
    return (← read (Directory.stem path ++ configSuffix)).map fun content => (path' ++ configSuffix, content)

inductive LoadError where
  | reported (e : PeerError)
  | misplaced

def LoadError.complaint : LoadError → String
  | .reported e => "Failed to process CLI arguments: " ++ e.message
  | .misplaced => "Failed to process CLI arguments: an entry is named by an index that no array has"

def LoadError.exitCode : LoadError → Nat
  | .reported _ => 1
  | .misplaced => 101

def badBuild (reason : String) : LoadError := .reported (.badConfiguration ("Failed to build config: " ++ reason))

def notATable (file : Option String) (v : Value) : String :=
  (ReadError.conversion ((Source.lenient file).name v) "a map" "" file).message ++ ReadError.place file

def configOf (file : Option String) (text : String) : Except LoadError (Config S) :=
  match Document.Toml.parse text with
  | none => .error (badBuild "TOML")
  | some (.table es) =>
    match Setting.ofEntries? es with
    | none => .error .misplaced
    | some s =>
      (Config.read (Source.lenient file) s).mapError fun e =>
        .reported (.badConfiguration ("Failed to deserialize config: " ++ e.message))
  | some v => .error (badBuild (notATable file v))

/-- The configuration that a command line asks for, with `read` to look up files. -/
def loadFrom {m : Type → Type} [Monad m] (read : Bytes → m (Option Bytes)) (options : CommandLine.Options) :
    ExceptT LoadError m (Config S) := do
  let path := options.config.getD CommandLine.defaultConfig
  let some name := Text.ofUtf8? path | throw (.reported .badArguments)
  let some (file, content) ← ExceptT.lift (findConfig read path)
    | throw (badBuild ("configuration file \"" ++ name ++ "\" not found"))
  let some text := Text.ofUtf8? content | throw (badBuild "stream did not contain valid UTF-8")
  let config ← ExceptT.mk (pure (configOf (some (Text.lossy file)) text))
  return config.setLogFile options.logFile

def load (d : Directory) (options : CommandLine.Options) : Except LoadError (Config S) :=
  Id.run (loadFrom (fun path => pure (d.read? path)) options).run

structure Outcome where
  exitCode : Option Nat
  complaint : Option String
  log : Option (Log.Logger × Option Location)

/-- What the console shows of a run at one moment: each event twice if it is the log file as well. -/
def Outcome.console (o : Outcome) (d : Directory) (micros : Nat) : String :=
  match o.log with
  | none => ""
  | some (logger, file) =>
    let both := file.any fun place => d.get place = .device .console
    Log.text micros (logger.console.flatMap fun e => if both then [e, e] else [e])

def Outcome.file? (o : Outcome) (d : Directory) (micros : Nat) (path : Bytes) : Option String := do
  let place ← (d.append path).toOption
  let logged := match o.log with
    | some (logger, file) => if file = some place then logger.file.map (Log.text micros) else none
    | none => none
  match d.get place with
  | .file content => some (Text.lossy content ++ logged.getD "")
  | .device _ => some ""
  | .directory | .nothing => logged

def failed (exitCode : Nat) (complaint : String) : Outcome := ⟨some exitCode, some complaint, none⟩

def stoppedBy (e : PeerError) : Log.Event := ⟨.error, Node.target, "Peer stopped: " ++ e.message⟩

def serve (config : Config S) (network : Network S) (shutdown : Shutdown) (logger : Log.Logger) :
    Option Nat × Log.Logger :=
  match Node.runToEnd config network shutdown with
  | (events, .ok n) => (if n.stopped then some 0 else none, events.foldl .log logger)
  | (events, .error e) => (some 1, (events ++ [stoppedBy e]).foldl .log logger)

def run (args : List Bytes) (logSetting : Option String) (d : Directory) (network : Network S)
    (shutdown : Shutdown) : Except CommandLine.Halt Outcome := do
  let options ← CommandLine.read args
  match load (S := S) d options with
  | .error e => return failed e.exitCode e.complaint
  | .ok config =>
    let file := config.logFile.map d.append
    match Log.Logger.install none (.ofSetting logSetting) (file.map (·.map fun _ => ())) with
    | .error e => return failed 1 e.message
    | .ok logger =>
      let (code, logger) := serve config network shutdown logger
      return ⟨code, none, some (logger, file.bind (·.toOption))⟩

end NoiseLink.Program
