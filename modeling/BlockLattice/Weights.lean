import BlockLattice.Ledger.Basic

-- Voting weight. Every opened account lends the balance of its tip, in full,
-- to each delegate it votes for; the heaviest delegate comes first.
namespace BlockLattice

structure Delegate where
  account : AccountId
  weight : Amount
deriving DecidableEq, Repr

def Delegate.ranksBefore (a b : Delegate) : Bool :=
  b.weight.raw < a.weight.raw
    || (a.weight.raw == b.weight.raw && (compare a.account b.account).isLE)

structure WeightTable where
  weights : Std.ExtTreeMap AccountId Amount

namespace WeightTable

def empty : WeightTable := ⟨∅⟩

def weight (t : WeightTable) (delegate : AccountId) : Amount := (t.weights[delegate]?).getD .zero

def add (t : WeightTable) (delegate : AccountId) (weight : Amount) : WeightTable :=
  ⟨t.weights.insert delegate ((t.weight delegate).saturatingAdd weight)⟩

def delegateCount (t : WeightTable) : Nat := t.weights.size

def addVotes (t : WeightTable) (votes : List AccountId) (balance : Amount) : WeightTable :=
  votes.foldl (fun t d => t.add d balance) t

def ofVoters (voters : List (List AccountId × Amount)) : WeightTable :=
  voters.foldl (fun t v => t.addVotes v.1 v.2) empty

def ranked (t : WeightTable) : List Delegate :=
  (t.weights.toList.map fun (account, weight) => ⟨account, weight⟩).mergeSort Delegate.ranksBefore

end WeightTable

namespace Ledger

def voter? (l : Ledger) (id : AccountId) (a : Account) : Option (List AccountId × Amount) :=
  (l.latest? id).map fun tip => (a.votes.toList.filter l.isDelegate, tip.balance)

def weightTable (l : Ledger) : WeightTable :=
  .ofVoters (l.accounts.toList.filterMap fun (id, a) => l.voter? id a)

def ranking (l : Ledger) : List Delegate := l.weightTable.ranked

end Ledger
end BlockLattice
