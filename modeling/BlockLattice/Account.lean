import BlockLattice.Keys
import BlockLattice.Share
import BlockLattice.Vote

-- A participant: its keys, and what its chain has made of it. The name of an
-- account follows from its public key and is not stored.
namespace BlockLattice

structure Account where
  keys : KeyPair
  isDelegate : Bool
  votes : VoteSet
  share : Share
  forged : UInt64
  missed : UInt64

namespace Account

def new (keys : KeyPair) : Account := ⟨keys, false, ∅, .none, 0, 0⟩

def id (a : Account) : AccountId := .ofPublicKey a.keys.publicKey

def publicKey (a : Account) : PublicKey := a.keys.publicKey
def privateKey (a : Account) : PrivateKey := a.keys.privateKey

def votesFor (a : Account) (delegate : AccountId) : Bool := a.votes.contains delegate

def applyVotes (a : Account) (changes : List VoteChange) : Account :=
  { a with votes := VoteSet.apply a.votes changes }

end Account
end BlockLattice
