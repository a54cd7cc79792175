import BlockLattice.Block

-- A blueprint is a block that has not been forged: the operation, the block it
-- builds on and the balance it leads to. The time and the witness are missing.
namespace BlockLattice

inductive Payload where
  | opening
  | send (destination : AccountId)
  | receive (source : Option BlockHash)
  | change (changes : List VoteChange)
  | delegate (share : Share)
deriving DecidableEq, Repr

def Payload.kind : Payload → BlockKind
  | opening => .opening
  | send _ => .send
  | receive _ => .receive
  | change _ => .change
  | delegate _ => .delegate

structure Blueprint where
  previous : Option BlockHash
  balance : Amount
  amount : Amount
  payload : Payload
deriving DecidableEq, Repr

def Blueprint.kind (bp : Blueprint) : BlockKind := bp.payload.kind

-- What the forged block says. A reward credit names the zero hash as source.
def Blueprint.content (bp : Blueprint) (account : AccountId) (previous : BlockHash) (time : Timestamp) : Content :=
  match bp.payload with
  | .opening => .opening account bp.balance time
  | .send destination => .send bp.balance destination previous time
  | .receive source => .receive bp.balance previous (source.getD .zero) time
  | .change changes => .change bp.balance changes previous time
  | .delegate share => .delegate bp.balance previous share time

structure Request where
  account : AccountId
  blueprint : Blueprint
deriving DecidableEq, Repr

end BlockLattice
