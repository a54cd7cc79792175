import BlockLattice.Payout

namespace BlockLattice

structure Outcome where
  hash : BlockHash
  kind : BlockKind
  forger : AccountId
  reward : Amount
  pairedReceive : Option BlockHash
  credits : List Payout.Credit
  warnings : List Payout.Warning
deriving DecidableEq, Repr

end BlockLattice
