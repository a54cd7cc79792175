import BlockLattice.Account
import BlockLattice.Amount.Text
import BlockLattice.Blueprint
import BlockLattice.Decimal.Shortest
import BlockLattice.Params

-- What an account asks for. Each maker checks the wish on the account's side
-- and first of all that the block it builds on is signed with its own key, so
-- that nothing is ever built on a tip that somebody else made.
namespace BlockLattice

inductive ValidationError where
  | insufficientFunds (needed available : Amount)
  | invalidShare (percent : Float)
  | alreadyDelegate
  | tooManyDelegates (count max : Nat)
  | tooManyChanges (count max : Nat)
  | signatureInvalid
  | notASend
  | balanceOverflow

def ValidationError.message : ValidationError → String
  | insufficientFunds needed available =>
    "insufficient funds: need " ++ needed.text ++ ", have " ++ available.text
  | invalidShare percent => "reward share " ++ Decimal.text percent ++ " is outside [0, 100]"
  | alreadyDelegate => "account is already a delegate"
  | tooManyDelegates count max =>
    "vote set would hold " ++ toString count ++ " delegates, limit is " ++ toString max
  | tooManyChanges count max =>
    "change block carries " ++ toString count ++ " vote changes, limit is " ++ toString max
  | signatureInvalid => "block signature does not verify"
  | notASend => "source block is not a send"
  | balanceOverflow => "resulting balance overflows"

def ValidationError.code : ValidationError → String
  | insufficientFunds .. => "InsufficientFunds"
  | invalidShare _ => "InvalidShare"
  | alreadyDelegate => "AlreadyDelegate"
  | tooManyDelegates .. => "TooManyDelegates"
  | tooManyChanges .. => "TooManyChanges"
  | signatureInvalid => "SignatureInvalid"
  | notASend => "NotASend"
  | balanceOverflow => "BalanceOverflow"

namespace Account

def debit (available needed : Amount) : Except ValidationError Amount :=
  match available.checkedSub needed with
  | some left => .ok left
  | none => .error (.insufficientFunds needed available)

def credit (balance amount : Amount) : Except ValidationError Amount :=
  match balance.checkedAdd amount with
  | some total => .ok total
  | none => .error .balanceOverflow

def checkTip (a : Account) (tip : Block) : Except ValidationError Unit :=
  if tip.verify a.publicKey then .ok () else .error .signatureInvalid

def openBlueprint : Blueprint := ⟨none, .zero, .zero, .opening⟩

def sendBlueprint (a : Account) (p : Params) (amount : Amount) (destination : AccountId) (tip : Block) :
    Except ValidationError Blueprint := do
  a.checkTip tip
  let needed ← credit amount p.transactionFee
  let balance ← debit tip.balance needed
  return ⟨some tip.hash, balance, amount, .send destination⟩

def receiveBlueprint (a : Account) (amount : Amount) (tip source : Block) (senderKey : PublicKey) :
    Except ValidationError Blueprint := do
  a.checkTip tip
  if !source.verify senderKey then throw .signatureInvalid
  if source.destination?.isNone then throw .notASend
  let balance ← credit tip.balance amount
  return ⟨some tip.hash, balance, amount, .receive (some source.hash)⟩

def rewardBlueprint (a : Account) (amount : Amount) (tip : Block) : Except ValidationError Blueprint := do
  a.checkTip tip
  let balance ← credit tip.balance amount
  return ⟨some tip.hash, balance, amount, .receive none⟩

def changeBlueprint (a : Account) (p : Params) (changes : List VoteChange) (tip : Block) :
    Except ValidationError Blueprint := do
  a.checkTip tip
  if p.maxDelegatesPerBlock.toNat < changes.length then
    throw (.tooManyChanges changes.length p.maxDelegatesPerBlock.toNat)
  let balance ← debit tip.balance p.changeCost
  return ⟨some tip.hash, balance, .zero, .change changes⟩

def delegateBlueprint (a : Account) (p : Params) (tip : Block) (percent : Float) :
    Except ValidationError Blueprint := do
  a.checkTip tip
  match Share.ofPercent? percent with
  | none => throw (.invalidShare percent)
  | some share =>
    if a.isDelegate then throw .alreadyDelegate
    let balance ← debit tip.balance p.delegateCost
    return ⟨some tip.hash, balance, .zero, .delegate share⟩

end Account
end BlockLattice
