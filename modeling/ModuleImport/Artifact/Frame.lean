import ModuleImport.Artifact.Body
import ModuleImport.Artifact.Checksum

namespace ModuleImport.Artifact

def magic : List UInt8 := [0x4D, 0x46, 0x53, 0x1A]

def version : Nat := 1

def headerSize : Nat := 20

def frame (payload : List UInt8) : List UInt8 :=
  magic ++ littleEndian 2 version ++ littleEndian 2 0 ++ littleEndian 4 payload.length ++
    littleEndian 8 (checksum payload).toNat ++ payload

/-- The artifact of a code. Only a body of four gigabytes has none, for its length has no room. -/
def encode (code : Code) : Except ArtifactError (List UInt8) :=
  let payload := body.write code
  if payload.length < capacity 4 then .ok (frame payload) else .error (.tooLarge payload.length)

structure Header where
  length : Nat
  checksum : UInt64
deriving DecidableEq

def field (bytes : List UInt8) (offset width : Nat) : Nat :=
  ofLittleEndian ((bytes.drop offset).take width)

/-- The header of some bytes. Bytes that are too few to hold the magic bytes are compared with as
many of them as there are, so that a cut artifact is called truncated. -/
def readHeader (bytes : List UInt8) : Except ArtifactError Header :=
  if bytes.take magic.length ≠ magic.take bytes.length then .error .badMagic
  else if bytes.length < headerSize then .error (.truncated headerSize bytes.length)
  else if field bytes 4 2 ≠ version then .error (.unsupportedVersion (field bytes 4 2) version)
  else if field bytes 6 2 ≠ 0 then .error (.unknownFlags (field bytes 6 2))
  else .ok ⟨field bytes 8 4, UInt64.ofNat (field bytes 12 8)⟩

def unframe (bytes : List UInt8) : Except ArtifactError (List UInt8) :=
  match readHeader bytes with
  | .error e => .error e
  | .ok header =>
    let payload := bytes.drop headerSize
    if payload.length < header.length then
      .error (.truncated (headerSize + header.length) bytes.length)
    else if header.length < payload.length then
      .error (.trailingBytes (payload.length - header.length))
    else if checksum payload ≠ header.checksum then
      .error (.checksumMismatch header.checksum (checksum payload))
    else .ok payload

/-- The code in an artifact. Bytes of the payload after the body are not looked at. -/
def decode (bytes : List UInt8) : Except ArtifactError Code :=
  match unframe bytes with
  | .error e => .error e
  | .ok payload =>
    match body.read payload with
    | .ok (code, _) => .ok code
    | .error cause => .error (.undecodable cause)

end ModuleImport.Artifact
