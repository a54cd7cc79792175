import BlockLattice.Identifier
import BlockLattice.Blake2b
import BlockLattice.Ed25519.Signing

namespace BlockLattice

structure PublicKey where
  bits : BitVec 256
deriving DecidableEq, Repr

structure PrivateKey where
  bits : BitVec 256
deriving DecidableEq, Repr

structure Signature where
  bits : BitVec 512
deriving DecidableEq, Repr

def PublicKey.ofBytes (bytes : Bytes) : PublicKey := ⟨BitVec.ofNat 256 (Bytes.ofBigEndian bytes)⟩
def PublicKey.bytes (k : PublicKey) : Bytes := Bytes.bigEndian 32 k.bits.toNat
def PrivateKey.ofBytes (bytes : Bytes) : PrivateKey := ⟨BitVec.ofNat 256 (Bytes.ofBigEndian bytes)⟩
def PrivateKey.bytes (k : PrivateKey) : Bytes := Bytes.bigEndian 32 k.bits.toNat
def Signature.ofBytes (bytes : Bytes) : Signature := ⟨BitVec.ofNat 512 (Bytes.ofBigEndian bytes)⟩
def Signature.bytes (s : Signature) : Bytes := Bytes.bigEndian 64 s.bits.toNat

@[irreducible] def PrivateKey.publicKey (k : PrivateKey) : PublicKey := .ofBytes (Ed25519.publicKey k.bytes)

-- The halves are kept as given; nothing forces them to belong together.
structure KeyPair where
  publicKey : PublicKey
  privateKey : PrivateKey
deriving DecidableEq, Repr

def KeyPair.ofPrivate (k : PrivateKey) : KeyPair := ⟨k.publicKey, k⟩

@[irreducible] def PrivateKey.sign (k : PrivateKey) (message : Bytes) : Signature :=
  .ofBytes (Ed25519.sign k.bytes message)

@[irreducible] def PublicKey.verify (k : PublicKey) (message : Bytes) (s : Signature) : Bool :=
  Ed25519.verify k.bytes message s.bytes

@[irreducible] def AccountId.ofPublicKey (k : PublicKey) : AccountId :=
  .ofBytes (Blake2b.digest (Bytes.ofText "vigil-account" ++ k.bytes))

structure KeySource where
  seeds : Nat → PrivateKey
  drawn : Nat

def KeySource.draw (s : KeySource) : KeyPair × KeySource :=
  (.ofPrivate (s.seeds s.drawn), { s with drawn := s.drawn + 1 })

def KeySource.drawMany : Nat → KeySource → List KeyPair × KeySource
  | 0, s => ([], s)
  | n + 1, s =>
    let (first, s) := s.draw
    let (others, s) := s.drawMany n
    (first :: others, s)

end BlockLattice
