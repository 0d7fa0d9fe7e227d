import ModuleImport.Text.Utf8

namespace ModuleImport

inductive BodyError where
  | unexpectedEnd
  | textTooLong
  | invalidText (fault : Text.Utf8Fault)
  | invalidOption (tag : Nat)
  | invalidBool (byte : Nat)
  | unknownAlternative (found count : Nat)
deriving DecidableEq, Repr

def BodyError.message : BodyError → String
  | .unexpectedEnd => "io error: unexpected end of file"
  | .textTooLong => "io error: "
  | .invalidText fault => "string is not valid utf8: " ++ fault.message
  | .invalidOption tag => s!"tag for enum is not valid, found {tag}"
  | .invalidBool byte => s!"invalid u8 while decoding bool, expected 0 or 1, found {byte}"
  | .unknownAlternative found count =>
    s!"invalid value: integer `{found}`, expected variant index 0 <= i < {count}"

inductive ArtifactError where
  | badMagic
  | unsupportedVersion (found expected : Nat)
  | unknownFlags (flags : Nat)
  /-- Fewer bytes than the header, or than the header promises. -/
  | truncated (expected found : Nat)
  | trailingBytes (extra : Nat)
  | checksumMismatch (expected found : UInt64)
  | undecodable (cause : BodyError)
  | tooLarge (size : Nat)
deriving DecidableEq, Repr

/-- A number in lower case hexadecimal digits, with zeros before it up to the given width. -/
def hexadecimal (width n : Nat) : String :=
  let digits := Nat.toDigits 16 n
  String.ofList (List.replicate (width - digits.length) '0' ++ digits)

def ArtifactError.message : ArtifactError → String
  | .badMagic => "bad magic number in compiled code"
  | .unsupportedVersion found expected =>
    s!"unsupported compiled code version {found} (expected {expected})"
  | .unknownFlags flags => "unknown compiled code flags 0x" ++ hexadecimal 4 flags
  | .truncated expected found =>
    s!"compiled code is truncated: expected {expected} bytes, found {found}"
  | .trailingBytes extra => s!"compiled code has {extra} trailing bytes"
  | .checksumMismatch expected found =>
    "compiled code checksum mismatch: header " ++ hexadecimal 16 expected.toNat ++
      ", payload " ++ hexadecimal 16 found.toNat
  | .undecodable cause => "failed to decode compiled code: " ++ cause.message
  | .tooLarge size => s!"compiled code payload of {size} bytes is too large"

end ModuleImport
