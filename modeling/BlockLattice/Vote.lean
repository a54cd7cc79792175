import BlockLattice.Identifier

namespace BlockLattice

inductive VoteChange where
  | add (delegate : AccountId)
  | remove (delegate : AccountId)
deriving DecidableEq, Repr

def VoteChange.delegate : VoteChange → AccountId
  | .add d => d
  | .remove d => d

def VoteChange.symbol : VoteChange → Char
  | .add _ => '+'
  | .remove _ => '-'

abbrev VoteSet := Std.ExtTreeSet AccountId

namespace VoteSet

def change (votes : VoteSet) : VoteChange → VoteSet
  | .add d => votes.insert d
  | .remove d => votes.erase d

def apply (votes : VoteSet) (changes : List VoteChange) : VoteSet :=
  changes.foldl change votes

end VoteSet
end BlockLattice
