import BlockLattice.Ed25519.Curve
import BlockLattice.Ed25519.Sha512

namespace BlockLattice.Ed25519

def clamp (bytes : Bytes) : Nat :=
  let word := Bytes.ofLittleEndian bytes
  word % (1 <<< 254) / 8 * 8 + (1 <<< 254)

def publicKey (seed : Bytes) : Bytes :=
  (Point.scaleBase (clamp ((Sha512.digest seed).take 32))).encode

def challenge (commitment key message : Bytes) : Nat :=
  Bytes.ofLittleEndian (Sha512.digest (commitment ++ key ++ message)) % order

def sign (seed message : Bytes) : Bytes :=
  let expanded := Sha512.digest seed
  let secret := clamp (expanded.take 32)
  let nonce := Bytes.ofLittleEndian (Sha512.digest (expanded.drop 32 ++ message)) % order
  let commitment := (Point.scaleBase nonce).encode
  let key := (Point.scaleBase secret).encode
  commitment ++ Bytes.littleEndian 32 ((nonce + challenge commitment key message * secret) % order)

-- The scalar must be reduced and the recomputed commitment must equal the
-- given one byte for byte; the key may be any encoding that has a point.
def verify (key message signature : Bytes) : Bool :=
  let commitment := signature.take 32
  let scalar := Bytes.ofLittleEndian (signature.drop 32)
  match Point.decode? key with
  | none => false
  | some point =>
    if order ≤ scalar then false
    else
      let k := challenge commitment key message
      ((Point.scaleBase scalar).add (point.negate.scale k)).encode == commitment

end BlockLattice.Ed25519
