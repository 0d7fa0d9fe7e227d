namespace ModuleImport.Artifact

/-- The high half of the full product of two words against its low half. -/
def foldedProduct (x y : UInt64) : UInt64 :=
  let product := x.toNat * y.toNat
  UInt64.ofNat product ^^^ UInt64.ofNat (product / UInt64.size)

/-- The word that the first `width` bytes make, the lowest byte first. -/
def word (width : Nat) (bytes : List UInt8) : UInt64 :=
  (bytes.take width).foldr (fun b w => w <<< 8 ||| b.toUInt64) 0

structure Mix where
  first : UInt64
  second : UInt64
deriving DecidableEq

namespace Mix

def start : Mix := ⟨0x243f6a8885a308d3, 0x13198a2e03707344⟩

def absorb (m : Mix) (x y : UInt64) : Mix :=
  ⟨m.first ^^^ x, m.second ^^^ y⟩

def chunk (m : Mix) (x y : UInt64) : Mix :=
  ⟨m.second, foldedProduct (m.first ^^^ x) (0xa4093822299f31d0 ^^^ y)⟩

def chunks (m : Mix) : Nat → List UInt8 → Mix
  | 0, _ => m
  | n + 1, bytes => (m.chunk (word 8 bytes) (word 8 (bytes.drop 8))).chunks n (bytes.drop 16)

end Mix

def mixBytes (bytes : List UInt8) : UInt64 :=
  let length := bytes.length
  let last (n : Nat) := bytes.drop (length - n)
  let byte (i : Nat) := (bytes.getD i 0).toUInt64
  let m : Mix :=
    if length > 16 then
      (Mix.start.chunks ((length - 1) / 16) bytes).absorb (word 8 (last 16)) (word 8 (last 8))
    else if length ≥ 8 then Mix.start.absorb (word 8 bytes) (word 8 (last 8))
    else if length ≥ 4 then Mix.start.absorb (word 4 bytes) (word 4 (last 4))
    else if length ≥ 1 then
      Mix.start.absorb (byte 0) (byte (length - 1) <<< 8 ||| byte (length / 2))
    else Mix.start
  foldedProduct m.first m.second ^^^ UInt64.ofNat length

def addWord (hash x : UInt64) : UInt64 :=
  (hash + x) * 0xf1357aea2e62a9c5

def rotateLeft (x : UInt64) (n : UInt64) : UInt64 :=
  x <<< n ||| x >>> (64 - n)

def checksum (bytes : List UInt8) : UInt64 :=
  rotateLeft (addWord (addWord 0 (UInt64.ofNat bytes.length)) (mixBytes bytes)) 26

end ModuleImport.Artifact
