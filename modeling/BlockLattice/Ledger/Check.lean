import BlockLattice.Ledger.Append
import BlockLattice.Params

namespace BlockLattice.Ledger

-- What a send moved to its destination: the balance before it, less the balance
-- after it, less the fee.
def sentAmount? (l : Ledger) (p : Params) (send : BlockHash) : Option Amount := do
  let block ← l.block? send
  let _ ← block.destination?
  let before ← l.block? block.previous
  let moved ← before.balance.checkedSub block.balance
  moved.checkedSub p.transactionFee

def tipBalance (l : Ledger) (id : AccountId) (bp : Blueprint) : Except LedgerError (Option Amount) :=
  if !l.isRegistered id then .error (.accountNotFound id)
  else
    match bp.previous, l.latest? id with
    | none, none => .ok none
    | none, some _ => .error (.alreadyOpened id)
    | some _, none => .error (.notOpened id)
    | some previous, some tip =>
      if previous = tip.hash then .ok (some tip.balance) else .error (.blockGap tip.hash previous)

def strayVote? (l : Ledger) : List VoteChange → Option AccountId
  | [] => none
  | .add d :: rest => if l.isDelegate d then l.strayVote? rest else some d
  | .remove _ :: rest => l.strayVote? rest

def votesOf (l : Ledger) (id : AccountId) : VoteSet :=
  match l.account? id with
  | some a => a.votes
  | none => ∅

def checkVotes (l : Ledger) (p : Params) (id : AccountId) (changes : List VoteChange) :
    Except LedgerError Unit :=
  if p.maxDelegatesPerBlock.toNat < changes.length then
    .error (.tooManyChanges changes.length p.maxDelegatesPerBlock.toNat)
  else
    match l.strayVote? changes with
    | some d => .error (.notADelegate d)
    | none =>
      let votes := VoteSet.apply (l.votesOf id) changes
      if p.maxDelegatesPerAccount.toNat < votes.size then
        .error (.tooManyDelegates votes.size p.maxDelegatesPerAccount.toNat)
      else .ok ()

def checkPayload (l : Ledger) (p : Params) (id : AccountId) (bp : Blueprint) : Except LedgerError Unit :=
  match bp.payload with
  | .opening => .ok ()
  | .send destination =>
    if !l.isRegistered destination then .error (.unknownDestination destination)
    else if !l.isOpened destination then .error (.notOpened destination)
    else .ok ()
  | .receive none => .ok ()
  | .receive (some source) => do
    l.checkSource id source
    match l.sentAmount? p source with
    | none => throw (.sourceNotFound source)
    | some sent => if sent ≠ bp.amount then throw (.amountMismatch sent bp.amount)
  | .change changes => l.checkVotes p id changes
  | .delegate share =>
    if l.isDelegate id then .error (.alreadyDelegate id)
    else if Share.whole < share.points.toNat then .error (.invalidBlock (.shareAboveWhole share))
    else .ok ()

def debit (available needed : Amount) : Except LedgerError Amount :=
  match available.checkedSub needed with
  | some left => .ok left
  | none => .error (.insufficientFunds needed available)

def credit (balance amount : Amount) : Except LedgerError Amount :=
  match balance.checkedAdd amount with
  | some total => .ok total
  | none => .error .balanceOverflow

def balanceAfter (p : Params) (available : Amount) (bp : Blueprint) : Except LedgerError Amount :=
  match bp.payload with
  | .opening => .ok .zero
  | .send _ => do
    let needed ← credit bp.amount p.transactionFee
    debit available needed
  | .receive _ => credit available bp.amount
  | .change _ => debit available p.changeCost
  | .delegate _ => debit available p.delegateCost

def movesValue : Payload → Bool
  | .send _ => true
  | .receive _ => true
  | _ => false

-- A blueprint of the wrong kind for its place, an opening after the first block
-- or another kind as first block, is left to the forger to refuse.
def checkBalance (p : Params) (tip : Option Amount) (bp : Blueprint) : Except LedgerError Unit :=
  if (bp.payload == .opening) != bp.previous.isNone then .ok ()
  else do
    let expected ← balanceAfter p (tip.getD .zero) bp
    if !movesValue bp.payload && !bp.amount.isZero then throw (.invalidBlock (.carriesAmount bp.kind))
    if bp.balance ≠ expected then throw (.balanceMismatch expected bp.balance)

def check (l : Ledger) (p : Params) (id : AccountId) (bp : Blueprint) : Except LedgerError Unit := do
  if bp.payload = .receive none then throw .rewardNotAllowed
  let tip ← l.tipBalance id bp
  l.checkPayload p id bp
  checkBalance p tip bp

def checkReward (l : Ledger) (id : AccountId) (bp : Blueprint) : Except LedgerError Unit := do
  if bp.payload ≠ .receive none then throw (.invalidBlock (.notAReward bp.kind))
  match ← l.tipBalance id bp with
  | none => throw (.notOpened id)
  | some available =>
    let expected ← credit available bp.amount
    if bp.balance ≠ expected then throw (.balanceMismatch expected bp.balance)

end BlockLattice.Ledger
