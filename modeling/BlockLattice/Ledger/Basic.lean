import Std.Data.ExtTreeMap
import BlockLattice.Account
import BlockLattice.Chain

-- The ledger: who is registered under which name, every chain, where each
-- block lies and which sends have been received. All six tables are ordered
-- and equal as soon as they hold the same entries.
namespace BlockLattice

structure Position where
  account : AccountId
  height : Nat
deriving DecidableEq, Repr

structure Ledger where
  accounts : Std.ExtTreeMap AccountId Account
  chains : Std.ExtTreeMap AccountId Chain
  usernames : Std.ExtTreeMap String AccountId
  names : Std.ExtTreeMap AccountId String
  index : Std.ExtTreeMap BlockHash Position
  -- From a send to the receive block that consumed it.
  received : Std.ExtTreeMap BlockHash BlockHash

namespace Ledger

def empty : Ledger := ⟨∅, ∅, ∅, ∅, ∅, ∅⟩

def account? (l : Ledger) (id : AccountId) : Option Account := l.accounts[id]?

def isRegistered (l : Ledger) (id : AccountId) : Bool := l.accounts.contains id

def isOpened (l : Ledger) (id : AccountId) : Bool := l.chains.contains id

def chain? (l : Ledger) (id : AccountId) : Option Chain := l.chains[id]?

def latest? (l : Ledger) (id : AccountId) : Option Block := (l.chain? id).bind Chain.latest?

def position? (l : Ledger) (hash : BlockHash) : Option Position := l.index[hash]?

def block? (l : Ledger) (hash : BlockHash) : Option Block := do
  let position ← l.position? hash
  let chain ← l.chain? position.account
  chain.get? position.height

def blockAccount? (l : Ledger) (hash : BlockHash) : Option AccountId :=
  (l.position? hash).map Position.account

def isReceived (l : Ledger) (send : BlockHash) : Bool := l.received.contains send

def isDelegate (l : Ledger) (id : AccountId) : Bool := (l.account? id).any Account.isDelegate

def modifyAccount (l : Ledger) (id : AccountId) (change : Account → Account) : Ledger :=
  match l.account? id with
  | some a => { l with accounts := l.accounts.insert id (change a) }
  | none => l

end Ledger
end BlockLattice
