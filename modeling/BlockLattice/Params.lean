import BlockLattice.Amount

namespace BlockLattice

structure Params where
  version : UInt32
  transactionFee : Amount
  votingFee : Amount
  delegateFee : Amount
  forgeReward : Amount
  genesisBalance : Amount
  maxDelegatesPerAccount : UInt64
  maxDelegatesPerBlock : UInt64
  maxForgers : UInt64
deriving DecidableEq, Repr

namespace Params

def standard : Params where
  version := 1
  transactionFee := Amount.clamp 100000
  votingFee := Amount.clamp 1000000
  delegateFee := Amount.clamp 25000000
  forgeReward := Amount.clamp 4000000
  genesisBalance := Amount.clamp 100000000000000
  maxDelegatesPerAccount := 101
  maxDelegatesPerBlock := 33
  maxForgers := 101

instance : Inhabited Params := ⟨standard⟩

def changeCost (p : Params) : Amount := p.transactionFee.saturatingAdd p.votingFee
def delegateCost (p : Params) : Amount := p.transactionFee.saturatingAdd p.delegateFee

end Params
end BlockLattice
