import BlockLattice.Share
import BlockLattice.Block

-- Rewards. A forger passes a share of each reward on, in equal parts, to the
-- accounts that vote for it, and keeps the rest together with whatever the
-- equal parts leave over. Nothing of a reward is lost in the plan.
namespace BlockLattice.Payout

structure Due where
  account : AccountId
  amount : Amount
deriving DecidableEq, Repr

def eachPart (reward : Amount) (share : Share) (holders : Nat) : Except Overflow Amount := do
  let passed ← reward.percentOf share
  match passed.split holders with
  | some (each, _) => return each
  | none => return .zero

def holderDues (each : Amount) (holders : List AccountId) : List Due :=
  if each.isZero then [] else holders.map fun h => ⟨h, each⟩

def kept (reward : Amount) (dues : List Due) : Amount :=
  dues.foldl (fun left d => left.saturatingSub d.amount) reward

def plan (reward : Amount) (share : Share) (forger : AccountId) (holders : List AccountId) :
    Except Overflow (List Due) := do
  let each ← eachPart reward share holders.length
  let dues := holderDues each holders
  let rest := kept reward dues
  return dues ++ if rest.isZero then [] else [⟨forger, rest⟩]

structure Credit where
  account : AccountId
  amount : Amount
  hash : BlockHash
deriving DecidableEq, Repr

-- A reward credit that could not be forged. Its amount is never minted.
structure Warning where
  account : AccountId
  amount : Amount
  reason : String
deriving DecidableEq, Repr

structure Report where
  credits : List Credit
  warnings : List Warning
deriving DecidableEq, Repr

namespace Report

def empty : Report := ⟨[], []⟩

def addCredit (r : Report) (c : Credit) : Report := { r with credits := r.credits ++ [c] }

def addWarning (r : Report) (w : Warning) : Report := { r with warnings := r.warnings ++ [w] }

def credited (r : Report) : Amount :=
  r.credits.foldl (fun total c => total.saturatingAdd c.amount) .zero

end Report
end BlockLattice.Payout
