import NoiseLink.Noise.Symmetric

namespace NoiseLink

/-- The act that a side produces or processes next. -/
inductive Progress where
  | actOne
  | actTwo
  | actThree
  | complete
  | aborted
  deriving DecidableEq, Repr

def Progress.label : Progress → String
  | .actOne => "ActOne"
  | .actTwo => "ActTwo"
  | .actThree => "ActThree"
  | .complete => "Complete"
  | .aborted => "Aborted"

def Progress.expect (p step : Progress) : Except NoiseError Unit :=
  if p = step then .ok ()
  else if p = .aborted then .error .handshakeAborted
  else .error .unexpectedHandshakeMessage

def version : UInt8 := 0
def publicKeySize : Nat := 33
def actOneSize : Nat := 1 + publicKeySize + macSize
def actTwoSize : Nat := 1 + publicKeySize + macSize
def actThreeSize : Nat := 1 + publicKeySize + macSize + macSize

/-- The size of an act is checked before its version. -/
def checkAct (m : Bytes) (size : Nat) (act : Act) : Except NoiseError Unit :=
  if m.length ≠ size then .error (.invalidMessageLength size m.length)
  else if m.headD version = version then .ok ()
  else .error (.unsupportedVersion act (m.headD version))

def slice (m : Bytes) (first last : Nat) : Bytes := (m.take last).drop first

structure Party (S : Suite) where
  sym : Symmetric S
  static : S.Secret
  ephemeral : S.Secret
  progress : Progress

namespace Party

variable {S : Suite} {α : Type}

def parsePoint (S : Suite) (act : Act) (b : Bytes) : Except NoiseError S.Point :=
  match S.point.decode b with
  | some p => .ok p
  | none => .error (.invalidPublicKey act)

def erase (p : Party S) : Party S :=
  { p with sym := p.sym.erase, static := S.overwritten, ephemeral := S.overwritten }

def settle (p : Party S) (next : Progress) : Except NoiseError (α × Symmetric S) → Except NoiseError α × Party S
  | .ok (a, sym) =>
    let p := { p with sym, progress := next }
    (.ok a, if next = .complete then p.erase else p)
  | .error e => (.error e, { p.erase with progress := .aborted })

end Party
end NoiseLink
