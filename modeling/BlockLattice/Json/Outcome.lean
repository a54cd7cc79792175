import BlockLattice.Outcome
import BlockLattice.Round
import BlockLattice.Json.Types

namespace BlockLattice

namespace Payout

def Credit.toJson (c : Credit) : Json :=
  .record [("account", c.account.toJson), ("amount", c.amount.toJson), ("hash", c.hash.toJson)]

def Credit.ofJson? (v : Json) : Option Credit :=
  match Json.slots? ["account", "amount", "hash"] v with
  | some [account, amount, hash] => do
    return ⟨← account.required AccountId.ofJson?, ← amount.required Amount.ofJson?,
      ← hash.required BlockHash.ofJson?⟩
  | _ => none

def Warning.toJson (w : Warning) : Json :=
  .record [("account", w.account.toJson), ("amount", w.amount.toJson), ("reason", .string w.reason)]

def Warning.ofJson? (v : Json) : Option Warning :=
  match Json.slots? ["account", "amount", "reason"] v with
  | some [account, amount, reason] => do
    return ⟨← account.required AccountId.ofJson?, ← amount.required Amount.ofJson?,
      ← reason.required Json.string?⟩
  | _ => none

def Report.toJson (r : Report) : Json :=
  .record [("credits", .array (r.credits.map Credit.toJson)), ("warnings", .array (r.warnings.map Warning.toJson))]

def Report.ofJson? (v : Json) : Option Report :=
  match Json.slots? ["credits", "warnings"] v with
  | some [credits, warnings] => do
    return ⟨← credits.required (Json.list? Credit.ofJson?), ← warnings.required (Json.list? Warning.ofJson?)⟩
  | _ => none

end Payout

def Outcome.toJson (o : Outcome) : Json :=
  .record [("hash", o.hash.toJson), ("block_type", o.kind.toJson), ("forger", o.forger.toJson),
    ("reward", o.reward.toJson), ("paired_receive", .option BlockHash.toJson o.pairedReceive),
    ("credits", .array (o.credits.map Payout.Credit.toJson)),
    ("warnings", .array (o.warnings.map Payout.Warning.toJson))]

def Outcome.ofJson? (v : Json) : Option Outcome :=
  match Json.slots? ["hash", "block_type", "forger", "reward", "paired_receive", "credits", "warnings"] v with
  | some [hash, kind, forger, reward, paired, credits, warnings] => do
    return ⟨← hash.required BlockHash.ofJson?, ← kind.required BlockKind.ofJson?,
      ← forger.required AccountId.ofJson?, ← reward.required Amount.ofJson?,
      ← paired.optional BlockHash.ofJson?, ← credits.required (Json.list? Payout.Credit.ofJson?),
      ← warnings.required (Json.list? Payout.Warning.ofJson?)⟩
  | _ => none

def Delegate.toJson (d : Delegate) : Json :=
  .record [("account", d.account.toJson), ("weight", d.weight.toJson)]

def Delegate.ofJson? (v : Json) : Option Delegate :=
  match Json.slots? ["account", "weight"] v with
  | some [account, weight] => do
    return ⟨← account.required AccountId.ofJson?, ← weight.required Amount.ofJson?⟩
  | _ => none

def Round.toJson (r : Round) : Json :=
  .record [("forgers", .array (r.forgers.map Delegate.toJson)), ("index", .natural r.index)]

def Round.ofJson? (v : Json) : Option Round :=
  match Json.slots? ["forgers", "index"] v with
  | some [forgers, index] => do
    return ⟨← forgers.required (Json.list? Delegate.ofJson?), (← index.required Json.word64?).toNat⟩
  | _ => none

end BlockLattice
