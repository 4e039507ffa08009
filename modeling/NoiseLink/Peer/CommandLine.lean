import NoiseLink.Text.Utf8

namespace NoiseLink.CommandLine

inductive Opt where
  | config
  | logFile
  deriving DecidableEq, Repr

inductive Notice where
  | help
  | version
  deriving DecidableEq, Repr

inductive Name where
  | opt (o : Opt)
  | notice (n : Notice)
  deriving DecidableEq, Repr

inductive Halt where
  | notice (n : Notice)
  | refused
  deriving DecidableEq, Repr

def Halt.exitCode : Halt → Nat
  | .notice _ => 0
  | .refused => 2

def usage : String := "Usage: peer_bolt8 [OPTIONS]"

def Halt.text : Halt → String
  | .notice .help =>
    "BOLT 8 peer\n\n" ++ usage ++ "\n\nOptions:\n" ++
      "  -c, --config <CONFIG_PATH>  Path to the TOML configuration file [default: peer-config.toml]\n" ++
      "  -f, --log-file <LOG_FILE>   Path to the log file. If not set, logs will only be written to stdout.\n" ++
      "  -h, --help                  Print help\n" ++
      "  -V, --version               Print version"
  | .notice .version => "peer_bolt8 0.1.0"
  | .refused => "error: the arguments cannot be taken\n\n" ++ usage ++ "\n\nFor more information, try '--help'."

structure Options where
  config : Option Bytes
  logFile : Option Bytes
  deriving DecidableEq, Repr

def defaultConfig : Bytes := Text.utf8 "peer-config.toml".toList

def ascii (s : String) : Bytes := Text.utf8 s.toList

def longNames : List (Bytes × Name) :=
  [(ascii "config", .opt .config), (ascii "log-file", .opt .logFile), (ascii "help", .notice .help),
    (ascii "version", .notice .version)]

def shortNames : List (UInt8 × Name) :=
  [(99, .opt .config), (102, .opt .logFile), (104, .notice .help), (86, .notice .version)]

def dash : UInt8 := 45
def equals : UInt8 := 61

structure Progress where
  options : Options
  pending : Option (Opt × Option Bytes)

/-- A value may be given once and may not be empty. -/
def store (options : Options) (o : Opt) (value : Bytes) : Except Halt Options :=
  if value.isEmpty then .error .refused
  else
    match o, options with
    | .config, ⟨none, logFile⟩ => .ok ⟨some value, logFile⟩
    | .logFile, ⟨config, none⟩ => .ok ⟨config, some value⟩
    | _, _ => .error .refused

def settle (p : Progress) : Except Halt Options :=
  match p.pending with
  | none => .ok p.options
  | some (o, some value) => store p.options o value
  | some (_, none) => .error .refused

def bare (p : Progress) (n : Name) : Except Halt Progress := do
  let options ← settle p
  match n with
  | .opt o => return ⟨options, some (o, none)⟩
  | .notice n => throw (.notice n)

def attached (p : Progress) (n : Name) (value : Bytes) : Except Halt Progress := do
  match n with
  | .opt o => return ⟨← store (← settle p) o value, none⟩
  | .notice _ => throw .refused

def long (p : Progress) (arg : Bytes) : Except Halt Progress :=
  let name := arg.takeWhile (· ≠ equals)
  match longNames.lookup name, arg.drop name.length with
  | none, _ => .error .refused
  | some n, [] => bare p n
  | some n, _ :: value => attached p n value

/-- Names of one letter, of which a notice ends the line and an option takes the rest as its value. -/
def short (p : Progress) : Bytes → Except Halt Progress
  | [] => .ok p
  | c :: rest =>
    match shortNames.lookup c, rest with
    | none, _ => .error .refused
    | some (.notice n), _ => bare p (.notice n)
    | some n, [] => bare p n
    | some n, c :: value => attached p n (if c = equals then value else c :: value)

def plain (p : Progress) (arg : Bytes) : Except Halt Progress :=
  match p.pending with
  | some (o, none) => .ok { p with pending := some (o, some arg) }
  | _ => .error .refused

/-- Takes the arguments in order; after two dashes no more may follow. -/
def readFrom (p : Progress) : List Bytes → Except Halt Options
  | [] => settle p
  | arg :: rest => do
    if arg = [dash, dash] then
      if rest.isEmpty then settle p else throw .refused
    else if [dash, dash].isPrefixOf arg then readFrom (← long p (arg.drop 2)) rest
    else if [dash].isPrefixOf arg && arg.length > 1 then readFrom (← short p (arg.drop 1)) rest
    else readFrom (← plain p arg) rest

def read (args : List Bytes) : Except Halt Options := readFrom ⟨⟨none, none⟩, none⟩ args

end NoiseLink.CommandLine
