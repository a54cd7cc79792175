import BlockLattice.Ledger.Basic
import BlockLattice.Snapshot

namespace BlockLattice.Ledger

def stakeholders (l : Ledger) (delegate : AccountId) : List AccountId :=
  (l.accounts.toList.filter fun (id, a) => a.votesFor delegate && l.isOpened id).map Prod.fst

def totalBalance (l : Ledger) : Amount :=
  (l.chains.toList.filterMap fun (_, c) => c.latest?).foldl (fun total b => total.saturatingAdd b.balance) .zero

def intact (l : Ledger) : Bool := l.chains.values.all Chain.intact

structure Summary where
  accounts : Nat
  opened : Nat
  blocks : Nat
  delegates : Nat
  receivedSends : Nat
deriving DecidableEq, Repr

def summary (l : Ledger) : Summary where
  accounts := l.accounts.size
  opened := l.chains.size
  blocks := l.index.size
  delegates := (l.accounts.toList.filter fun (_, a) => a.isDelegate).length
  receivedSends := l.received.size

def row (l : Ledger) (id : AccountId) (a : Account) : Snapshot.Row where
  id := id
  username := (l.names[id]?).getD ""
  head := ((l.chain? id).map Chain.head).getD .zero
  blockCount := UInt64.ofNat (((l.chain? id).map Chain.length).getD 0)
  balance := ((l.latest? id).map Block.balance).getD .zero
  isDelegate := a.isDelegate
  share := a.share
  votes := a.votes.toList
  forged := a.forged
  missed := a.missed

def snapshot (l : Ledger) (createdAt : Timestamp) : Snapshot :=
  .create (l.accounts.toList.map fun (id, a) => l.row id a) (UInt64.ofNat l.index.size) createdAt

end BlockLattice.Ledger
