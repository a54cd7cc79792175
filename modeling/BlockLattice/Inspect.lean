import BlockLattice.Node.Basic

namespace BlockLattice

namespace Inspect

def record (name : String) (fields : List (String × String)) : String :=
  name ++ " \x7b " ++ String.intercalate ", " (fields.map fun f => f.1 ++ ": " ++ f.2) ++ " \x7d"

def list (items : List String) : String := "[" ++ String.intercalate ", " items ++ "]"

def set (items : List String) : String := "\x7b" ++ String.intercalate ", " items ++ "\x7d"

def wrap (name inner : String) : String := name ++ "(" ++ inner ++ ")"

def number (n : Nat) : String := toString n

def shortened (bytes : Bytes) : String := Hex.text (bytes.take 4) ++ "…"

end Inspect

open Inspect

def Amount.inspect (a : Amount) : String := wrap "Amount" (number a.raw)
def Share.inspect (s : Share) : String := wrap "RewardShare" (number s.points.toNat)
def Timestamp.inspect (t : Timestamp) : String := wrap "Timestamp" (number t.seconds.toNat)
def AccountId.inspect (a : AccountId) : String := wrap "AccountId" ("vgl_" ++ shortened a.bytes)
def BlockHash.inspect (h : BlockHash) : String := wrap "BlockHash" (shortened h.bytes)

def VoteChange.inspect : VoteChange → String
  | .add d => wrap "Add" d.inspect
  | .remove d => wrap "Remove" d.inspect

def Account.inspect (a : Account) : String :=
  record "Account" [("id", a.id.inspect), ("is_delegate", toString a.isDelegate),
    ("voted_delegates", number a.votes.size), ("reward_share", a.share.inspect),
    ("forged_count", number a.forged.toNat), ("missed_count", number a.missed.toNat)]

def Delegate.inspect (d : Delegate) : String :=
  record "Delegate" [("account", d.account.inspect), ("weight", d.weight.inspect)]

def Round.inspect (r : Round) : String :=
  record "Round" [("forgers", list (r.forgers.map Delegate.inspect)), ("index", number r.index)]

def Delegation.inspect (d : Delegation) : String :=
  record "Dpos" [("delegates", list (d.delegates.map Delegate.inspect)),
    ("registered", set (d.registered.toList.map AccountId.inspect)), ("round", d.round.inspect),
    ("rounds_started", number d.roundsStarted)]

def Params.inspect (p : Params) : String :=
  record "ProtocolParams" [("version", number p.version.toNat), ("transaction_fee", p.transactionFee.inspect),
    ("voting_fee", p.votingFee.inspect), ("delegate_fee", p.delegateFee.inspect),
    ("forge_reward", p.forgeReward.inspect), ("genesis_balance", p.genesisBalance.inspect),
    ("max_delegates_per_account", number p.maxDelegatesPerAccount.toNat),
    ("max_delegates_per_block", number p.maxDelegatesPerBlock.toNat),
    ("max_forgers", number p.maxForgers.toNat)]

def Ledger.Summary.inspect (s : Ledger.Summary) : String :=
  record "LedgerSummary" [("accounts", number s.accounts), ("opened", number s.opened),
    ("blocks", number s.blocks), ("delegates", number s.delegates), ("received_sends", number s.receivedSends)]

-- The clock, the metrics and the keys are left out.
def Node.inspect (n : Node) : String :=
  "Node \x7b params: " ++ n.params.inspect ++ ", ledger: " ++ n.ledger.summary.inspect
    ++ ", dpos: " ++ n.delegation.inspect ++ ", .. \x7d"

end BlockLattice
