import BlockLattice.Amount
import BlockLattice.Share
import BlockLattice.Time
import BlockLattice.Keys
import BlockLattice.Vote

namespace BlockLattice

inductive BlockKind where
  | opening
  | send
  | receive
  | change
  | delegate
deriving DecidableEq, Repr

def BlockKind.text : BlockKind → String
  | .opening => "open"
  | .send => "send"
  | .receive => "receive"
  | .change => "change"
  | .delegate => "delegate"

-- The first byte of a digest, so that no two kinds share one.
def BlockKind.tag : BlockKind → UInt8
  | .opening => 0
  | .send => 1
  | .receive => 2
  | .change => 3
  | .delegate => 4

-- The part of a block that is hashed and signed. `balance` is the balance
-- after the block; a receive block whose source is zero credits a reward.
inductive Content where
  | opening (account : AccountId) (balance : Amount) (time : Timestamp)
  | send (balance : Amount) (destination : AccountId) (previous : BlockHash) (time : Timestamp)
  | receive (balance : Amount) (previous : BlockHash) (source : BlockHash) (time : Timestamp)
  | change (balance : Amount) (changes : List VoteChange) (previous : BlockHash) (time : Timestamp)
  | delegate (balance : Amount) (previous : BlockHash) (share : Share) (time : Timestamp)
deriving DecidableEq, Repr

namespace Content

def kind : Content → BlockKind
  | opening .. => .opening
  | send .. => .send
  | receive .. => .receive
  | change .. => .change
  | delegate .. => .delegate

def balance : Content → Amount
  | opening _ b _ => b
  | send b _ _ _ => b
  | receive b _ _ _ => b
  | change b _ _ _ => b
  | delegate b _ _ _ => b

def previous : Content → BlockHash
  | opening .. => .zero
  | send _ _ p _ => p
  | receive _ p _ _ => p
  | change _ _ p _ => p
  | delegate _ p _ _ => p

def time : Content → Timestamp
  | opening _ _ t => t
  | send _ _ _ t => t
  | receive _ _ _ t => t
  | change _ _ _ t => t
  | delegate _ _ _ t => t

def source? : Content → Option BlockHash
  | receive _ _ s _ => if s = .zero then none else some s
  | _ => none

def destination? : Content → Option AccountId
  | send _ d _ _ => some d
  | _ => none

def isOpening : Content → Bool
  | opening .. => true
  | _ => false

def isReward : Content → Bool
  | receive _ _ s _ => s == .zero
  | _ => false

def amountBytes (a : Amount) : Bytes := Bytes.bigEndian 16 a.raw
def timeBytes (t : Timestamp) : Bytes := Bytes.bigEndian 8 t.seconds.toNat

def changeBytes (c : VoteChange) : Bytes := UInt8.ofNat c.symbol.toNat :: c.delegate.bytes

def changesBytes (cs : List VoteChange) : Bytes :=
  Bytes.bigEndian 4 cs.length ++ cs.flatMap changeBytes

def digest (c : Content) : Bytes :=
  c.kind.tag :: match c with
  | opening account balance time => account.bytes ++ amountBytes balance ++ timeBytes time
  | send balance destination previous time =>
    amountBytes balance ++ destination.bytes ++ previous.bytes ++ timeBytes time
  | receive balance previous source time =>
    amountBytes balance ++ previous.bytes ++ source.bytes ++ timeBytes time
  | change balance changes previous time =>
    amountBytes balance ++ changesBytes changes ++ previous.bytes ++ timeBytes time
  | delegate balance previous share time =>
    amountBytes balance ++ previous.bytes ++ Bytes.bigEndian 2 share.points.toNat ++ timeBytes time

-- Opaque to unification: what is said of blocks elsewhere never looks inside.
@[irreducible] def hash (c : Content) : BlockHash := .ofBytes (Blake2b.digest c.digest)

end Content

structure Block where
  content : Content
  owner : Option Signature
  witness : Option Signature
deriving DecidableEq, Repr

namespace Block

def unsigned (content : Content) : Block := ⟨content, none, none⟩

def kind (b : Block) : BlockKind := b.content.kind
def balance (b : Block) : Amount := b.content.balance
def previous (b : Block) : BlockHash := b.content.previous
def source? (b : Block) : Option BlockHash := b.content.source?
def destination? (b : Block) : Option AccountId := b.content.destination?
def isOpening (b : Block) : Bool := b.content.isOpening
def isReward (b : Block) : Bool := b.content.isReward
def digest (b : Block) : Bytes := b.content.digest
def hash (b : Block) : BlockHash := b.content.hash

def sign (b : Block) (k : PrivateKey) : Block := { b with owner := some (k.sign b.digest) }
def signWitness (b : Block) (k : PrivateKey) : Block := { b with witness := some (k.sign b.digest) }

-- A missing signature verifies under no key.
def verify (b : Block) (k : PublicKey) : Bool := b.owner.any (k.verify b.digest)
def verifyWitness (b : Block) (k : PublicKey) : Bool := b.witness.any (k.verify b.digest)

end Block
end BlockLattice
