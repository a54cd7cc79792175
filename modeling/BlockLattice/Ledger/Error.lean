import BlockLattice.Amount.Text
import BlockLattice.Blueprint

namespace BlockLattice

inductive BlockFault where
  | foreignOpening
  | shareAboveWhole (share : Share)
  | carriesAmount (kind : BlockKind)
  | notAReward (kind : BlockKind)
deriving DecidableEq, Repr

def BlockFault.text : BlockFault → String
  | foreignOpening => "open block account does not match chain account"
  | shareAboveWhole share => "reward share " ++ share.text ++ " exceeds 100%"
  | carriesAmount kind => kind.text ++ " blueprint carries an amount"
  | notAReward kind => kind.text ++ " blueprint is not a reward credit"

inductive LedgerError where
  | accountNotFound (id : AccountId)
  | accountExists (id : AccountId)
  | usernameTaken (name : String)
  | invalidUsername (name : String)
  | notOpened (id : AccountId)
  | alreadyOpened (id : AccountId)
  | accountInUse (id : AccountId)
  | blockGap (expected found : BlockHash)
  | invalidBlock (fault : BlockFault)
  | duplicateBlock (hash : BlockHash)
  | blockNotFound (hash : BlockHash)
  | unknownDestination (id : AccountId)
  | sourceNotFound (hash : BlockHash)
  | sourceNotASend (hash : BlockHash)
  | sourceWrongDestination (hash : BlockHash)
  | duplicateSource (hash : BlockHash)
  | amountMismatch (expected actual : Amount)
  | notChainTip (hash : BlockHash)
  | sendAlreadyReceived (hash : BlockHash)
  | balanceMismatch (expected actual : Amount)
  | insufficientFunds (needed available : Amount)
  | balanceOverflow
  | tooManyChanges (count max : Nat)
  | tooManyDelegates (count max : Nat)
  | notADelegate (id : AccountId)
  | alreadyDelegate (id : AccountId)
  | rewardNotAllowed
deriving DecidableEq, Repr

def LedgerError.message : LedgerError → String
  | accountNotFound id => "account not found: " ++ id.text
  | accountExists id => "account already registered: " ++ id.text
  | usernameTaken name => "username already taken: " ++ name
  | invalidUsername name => "invalid username: " ++ Quoted.text name
  | notOpened id => "account " ++ id.text ++ " has not been opened"
  | alreadyOpened id => "account " ++ id.text ++ " is already opened"
  | accountInUse id => "account " ++ id.text ++ " already has blocks and cannot be removed"
  | blockGap expected found => "block gap: expected previous " ++ expected.text ++ ", found " ++ found.text
  | invalidBlock fault => "invalid block: " ++ fault.text
  | duplicateBlock hash => "duplicate block: " ++ hash.text
  | blockNotFound hash => "block not found: " ++ hash.text
  | unknownDestination id => "unknown send destination: " ++ id.text
  | sourceNotFound hash => "source block not found: " ++ hash.text
  | sourceNotASend hash => "source block " ++ hash.text ++ " is not a send"
  | sourceWrongDestination hash => "source block " ++ hash.text ++ " was sent to a different account"
  | duplicateSource hash => "source block " ++ hash.text ++ " has already been received"
  | amountMismatch expected actual =>
    "receive amount " ++ actual.text ++ " does not match sent amount " ++ expected.text
  | notChainTip hash => "block " ++ hash.text ++ " is not the chain tip"
  | sendAlreadyReceived hash => "send " ++ hash.text ++ " has already been received and cannot be rolled back"
  | balanceMismatch expected actual =>
    "resulting balance " ++ actual.text ++ " does not match expected " ++ expected.text
  | insufficientFunds needed available =>
    "insufficient funds: need " ++ needed.text ++ ", have " ++ available.text
  | balanceOverflow => "resulting balance overflows"
  | tooManyChanges count max =>
    "change block carries " ++ toString count ++ " vote changes, limit is " ++ toString max
  | tooManyDelegates count max =>
    "vote set would hold " ++ toString count ++ " delegates, limit is " ++ toString max
  | notADelegate id => "account " ++ id.text ++ " is not a delegate"
  | alreadyDelegate id => "account " ++ id.text ++ " is already a delegate"
  | rewardNotAllowed => "reward credits are issued by the node only"

def LedgerError.code : LedgerError → String
  | accountNotFound _ => "AccountNotFound"
  | accountExists _ => "AccountExists"
  | usernameTaken _ => "UsernameTaken"
  | invalidUsername _ => "InvalidUsername"
  | notOpened _ => "NotOpened"
  | alreadyOpened _ => "AlreadyOpened"
  | accountInUse _ => "AccountInUse"
  | blockGap .. => "BlockGap"
  | invalidBlock _ => "InvalidBlock"
  | duplicateBlock _ => "DuplicateBlock"
  | blockNotFound _ => "BlockNotFound"
  | unknownDestination _ => "UnknownDestination"
  | sourceNotFound _ => "SourceNotFound"
  | sourceNotASend _ => "SourceNotASend"
  | sourceWrongDestination _ => "SourceWrongDestination"
  | duplicateSource _ => "DuplicateSource"
  | amountMismatch .. => "AmountMismatch"
  | notChainTip _ => "NotChainTip"
  | sendAlreadyReceived _ => "SendAlreadyReceived"
  | balanceMismatch .. => "BalanceMismatch"
  | insufficientFunds .. => "InsufficientFunds"
  | balanceOverflow => "BalanceOverflow"
  | tooManyChanges .. => "TooManyChanges"
  | tooManyDelegates .. => "TooManyDelegates"
  | notADelegate _ => "NotADelegate"
  | alreadyDelegate _ => "AlreadyDelegate"
  | rewardNotAllowed => "RewardNotAllowed"

end BlockLattice
