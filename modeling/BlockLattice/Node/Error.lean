import BlockLattice.Account.Blueprints
import BlockLattice.Ledger.Error
import BlockLattice.Round

namespace BlockLattice

inductive Signer where
  | owner
  | witness
deriving DecidableEq, Repr

def Signer.text : Signer → String
  | .owner => "owner"
  | .witness => "witness"

inductive NodeError where
  | ledger (e : LedgerError)
  | validation (e : ValidationError)
  | consensus (e : ConsensusError)
  | signatureInvalid (signer : Signer)
  | appendFailed (e : LedgerError)
  | accountNotFound (id : AccountId)
  | listTooLong

def NodeError.message : NodeError → String
  | ledger e => "ledger error: " ++ e.message
  | validation e => "validation error: " ++ e.message
  | consensus e => "consensus error: " ++ e.message
  | signatureInvalid signer => signer.text ++ " signature is invalid"
  | appendFailed e => "append failed: " ++ e.message
  | accountNotFound id => "account not found: " ++ id.text
  | listTooLong => "capacity overflow"

def NodeError.code : NodeError → String
  | ledger e => "Ledger." ++ e.code
  | validation e => "Validation." ++ e.code
  | consensus e => "Consensus." ++ e.code
  | signatureInvalid _ => "SignatureInvalid"
  | appendFailed e => "AppendFailed." ++ e.code
  | accountNotFound _ => "AccountNotFound"
  | listTooLong => "panic"

end BlockLattice
