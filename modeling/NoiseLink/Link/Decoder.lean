import NoiseLink.Link.Error
import NoiseLink.Record.Opener

namespace NoiseLink

structure Decoder (S : Suite) where
  opener : Opener S
  buffer : Bytes
  /-- The size of the body being read, tag included, once its header is open. -/
  pending : Option Nat

namespace Decoder

variable {S : Suite}

def new (opener : Opener S) : Decoder S := ⟨opener, [], none⟩

def feed (d : Decoder S) (b : Bytes) : Decoder S := { d with buffer := d.buffer ++ b }

def buffered (d : Decoder S) : Nat := d.buffer.length

def missing (d : Decoder S) : Nat := d.pending.getD headerSize - d.buffer.length

/-- Fills the region of missing bytes with the start of `b`, and with zeros after it. -/
def fill (d : Decoder S) (b : Bytes) : Decoder S :=
  d.feed (b.take d.missing ++ Bytes.zeros (d.missing - b.length))

def erase (d : Decoder S) : Decoder S := ⟨d.opener.erase, [], none⟩

def decodeBody (d : Decoder S) (size : Nat) : Except LinkError Bytes × Decoder S :=
  if d.buffer.length < size then (.error (.missingBytes d.missing), d)
  else
    match d.opener.decryptBody (d.buffer.take size) with
    | (.ok payload, opener) => (.ok payload, ⟨opener, d.buffer.drop size, none⟩)
    | (.error e, opener) => (.error (.noise e), ⟨opener, d.buffer.drop size, none⟩)

def decode (d : Decoder S) : Except LinkError Bytes × Decoder S :=
  match d.pending with
  | some size => d.decodeBody size
  | none =>
    if d.buffer.length < headerSize then (.error (.missingBytes d.missing), d)
    else
      match d.opener.decryptLength (d.buffer.take headerSize) with
      | (.error e, opener) => (.error (.noise e), { d with opener, buffer := d.buffer.drop headerSize })
      | (.ok size, opener) =>
        decodeBody ⟨opener, d.buffer.drop headerSize, some (size + macSize)⟩ (size + macSize)

/-- The next payload. Any error but a lack of bytes erases the key and drops what is buffered. -/
def next (d : Decoder S) : Except LinkError Bytes × Decoder S :=
  if d.opener.isErased then (.error (.noise .keyErased), d)
  else
    match d.decode with
    | (.error e, d) => (.error e, if e.isFatal then d.erase else d)
    | r => r

abbrev Stop := Option LinkError

def takeAll : (fuel : Nat) → Decoder S → List Bytes × Stop × Decoder S
  | 0, d => ([], none, d)
  | fuel + 1, d =>
    match d.next with
    | (.ok payload, d) =>
      let (payloads, stop, d) := takeAll fuel d
      (payload :: payloads, stop, d)
    | (.error (.missingBytes _), d) => ([], none, d)
    | (.error e, d) => ([], some e, d)

def drain (d : Decoder S) : List Bytes × Stop × Decoder S := d.takeAll (d.buffer.length + 1)

/-- Feeds pieces and takes the payloads that each completes, up to a record that fails. Until then the cuts between the
pieces make no difference, and a failure drops what is buffered, so all pieces are fed at once. Only without a key
the first piece ends it, and stays. -/
def receive (d : Decoder S) (pieces : List Bytes) : List Bytes × Stop × Decoder S :=
  if pieces = [] then ([], none, d)
  else (d.feed ((if d.opener.isErased then pieces.take 1 else pieces).flatten)).drain

def finish (d : Decoder S) : Except LinkError Unit :=
  match d.pending with
  | none => if d.buffer = [] then .ok () else .error (.truncatedRecord headerSize d.buffer.length)
  | some size => .error (.truncatedRecord (headerSize + size) (headerSize + d.buffer.length))

def describe (d : Decoder S) : String :=
  let buffer := ", ".intercalate (d.buffer.map (toString ·.toNat))
  let pending := match d.pending with
    | some size => "Some(" ++ toString size ++ ")"
    | none => "None"
  "NoiseDecoder \x7b decryptor: " ++ d.opener.describe ++ ", buffer: [" ++ buffer ++ "], body_len: " ++ pending ++ " \x7d"

end Decoder
end NoiseLink
