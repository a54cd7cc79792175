import BlockLattice.Config
import BlockLattice.Node.Operations

-- Bringing up a network. It starts with a single forger, the first account,
-- which opens a number of delegates, funds each with an equal cut of its own
-- balance and has each vote for itself. A delegate that fails on the way is
-- skipped and the others still come up.
namespace BlockLattice.Node

def delegateName (number : Nat) : String := "genesis_" ++ toString number

def bringUp (genesis : AccountId) (username : String) (funding : Amount) : Action AccountId := do
  let id ← openAccount username
  let _ ← transfer genesis id funding
  let _ ← registerDelegate id 100.0
  let _ ← elect id ["+" ++ username]
  return id

def bringUpFrom (genesis : AccountId) (funding : Amount) : Nat → Nat → StateM Node (List AccountId)
  | _, 0 => return []
  | first, count + 1 => do
    let result ← (bringUp genesis (delegateName first) funding).run
    let others ← bringUpFrom genesis funding (first + 1) count
    return result.toOption.toList ++ others

-- The cut of each delegate when the fees of all transfers are set aside.
def fundingFor (p : Params) (balance : Amount) (count : Nat) : Option Amount :=
  ((balance.saturatingSub (p.transactionFee.saturatingMul count)).split count).map Prod.fst

def canList (count : Nat) : Bool := count * 32 < 9223372036854775808

-- The list of names is laid out in full before the first delegate comes up.
def bootstrap (genesis : AccountId) (count : Nat) : Action (List AccountId) := do
  let n ← get
  match (n.ledger.latest? genesis).bind fun tip => fundingFor n.params tip.balance count with
  | none => return []
  | some funding =>
    if canList count then ExceptT.lift (bringUpFrom genesis funding 1 count) else throw .listTooLong

def launch (c : Config) (keys : KeyPair) : Action (List AccountId) := do
  let genesis ← openGenesis keys c.genesisUsername
  bootstrap genesis c.genesisDelegates.toNat

end BlockLattice.Node
