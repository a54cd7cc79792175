import BlockLattice.Weights

-- Forger rotation. A round is a list of elected forgers and the place of the
-- one whose turn it is; each forged block passes the turn on, and after the
-- last turn the round has ended. Nothing runs by the clock.
namespace BlockLattice

inductive Misplaced where
  | openingNamesPrevious
  | alreadyOpened
  | noPrevious
deriving DecidableEq, Repr

def Misplaced.text : Misplaced → String
  | openingNamesPrevious => "open blueprint names a previous block"
  | alreadyOpened => "account is already opened"
  | noPrevious => "blueprint has no previous block"

inductive ForgeFault where
  | foreignPrevious (previous : BlockHash)
  | unknownForger (forger : AccountId)
deriving DecidableEq, Repr

def ForgeFault.text : ForgeFault → String
  | foreignPrevious previous => "previous block " ++ previous.text ++ " is not in the account chain"
  | unknownForger forger => "forger " ++ forger.text ++ " is not in the ledger"

inductive ConsensusError where
  | noForger
  | roundEnded
  | invalidBlockType (kind : BlockKind) (reason : Misplaced)
  | forgeFailed (reason : ForgeFault)
deriving DecidableEq, Repr

def ConsensusError.message : ConsensusError → String
  | noForger => "no forger available"
  | roundEnded => "round has ended"
  | invalidBlockType kind reason => kind.text ++ " block is not valid here: " ++ reason.text
  | forgeFailed reason => "forge failed: " ++ reason.text

def ConsensusError.code : ConsensusError → String
  | noForger => "NoForger"
  | roundEnded => "RoundEnded"
  | invalidBlockType .. => "InvalidBlockType"
  | forgeFailed _ => "ForgeFailed"

structure Round where
  forgers : List Delegate
  index : Nat
deriving DecidableEq, Repr

namespace Round

def empty : Round := ⟨[], 0⟩

def ofRanking (delegates : List Delegate) (maxForgers : Nat) : Round := ⟨delegates.take maxForgers, 0⟩

def hasEnded (r : Round) : Bool :=
  r.forgers.isEmpty || (r.index != 0 && r.index % r.forgers.length == 0)

def forger (r : Round) : Except ConsensusError Delegate :=
  if r.hasEnded then .error .roundEnded
  else
    match r.forgers[r.index]? with
    | some d => .ok d
    | none => .error .roundEnded

def previousFor (l : Ledger) (account : AccountId) (bp : Blueprint) : Except ConsensusError BlockHash :=
  match bp.kind, bp.previous with
  | .opening, some _ => .error (.invalidBlockType .opening .openingNamesPrevious)
  | .opening, none =>
    if l.isOpened account then .error (.invalidBlockType .opening .alreadyOpened) else .ok .zero
  | kind, none => .error (.invalidBlockType kind .noPrevious)
  | _, some previous =>
    if l.blockAccount? previous = some account then .ok previous
    else .error (.forgeFailed (.foreignPrevious previous))

-- Builds the block of a blueprint, witnesses it with the forger's key and
-- passes the turn on. The owner signs afterwards; a failure keeps the turn.
def forge (r : Round) (l : Ledger) (account : AccountId) (bp : Blueprint) (time : Timestamp) :
    Except ConsensusError (Round × Block) := do
  let forger ← r.forger
  let previous ← previousFor l account bp
  match l.account? forger.account with
  | none => throw (.forgeFailed (.unknownForger forger.account))
  | some witness =>
    let block := (Block.unsigned (bp.content account previous time)).signWitness witness.privateKey
    return ({ r with index := r.index + 1 }, block)

end Round
end BlockLattice
