import BlockLattice.Account.Blueprints
import BlockLattice.Ledger.Directory

-- Vote tokens. `+name` votes for the account of that name and `-name` takes the
-- vote back; what does not name an account is skipped and never refused. A
-- change block holds a limited number of changes, so a long list of tokens is
-- cut into chunks, and the last chunk is forged first.
namespace BlockLattice.Election

def isAdd (token : String) : Bool :=
  match token.toList with
  | '+' :: _ :: _ => true
  | _ => false

def isRemove (token : String) : Bool :=
  match token.toList with
  | '-' :: _ :: _ => true
  | _ => false

-- Refuses tokens that would take the votes above the limit. Every token that
-- has a sign and a name counts, whether or not it changes anything.
def checkLimit (p : Params) (a : Account) (tokens : List String) : Except ValidationError Unit :=
  let count := a.votes.size + (tokens.filter isAdd).length - (tokens.filter isRemove).length
  if p.maxDelegatesPerAccount.toNat < count then
    .error (.tooManyDelegates count p.maxDelegatesPerAccount.toNat)
  else .ok ()

def parseToken? (l : Ledger) (token : String) : Option VoteChange :=
  match token.toList with
  | sign :: name =>
    if name.isEmpty then none
    else (l.idByUsername? (String.ofList name)).bind fun id =>
      if sign = '+' then some (.add id)
      else if sign = '-' then some (.remove id)
      else none
  | [] => none

def takesEffect (l : Ledger) (votes : VoteSet) : VoteChange → Bool
  | .add d => l.isDelegate d && !votes.contains d
  | .remove d => votes.contains d

def plan (l : Ledger) (votes : VoteSet) : List String → List VoteChange
  | [] => []
  | token :: rest =>
    match parseToken? l token with
    | some change =>
      if takesEffect l votes change then change :: plan l (votes.change change) rest
      else plan l votes rest
    | none => plan l votes rest

def planChunk (l : Ledger) (a : Account) (tokens : List String) : List VoteChange := plan l a.votes tokens

-- Pieces of `size` items, the last one perhaps shorter; `fuel` bounds their number.
def pieces (size : Nat) : Nat → List α → List (List α)
  | 0, _ => []
  | fuel + 1, items =>
    if items.isEmpty then [] else items.take size :: pieces size fuel (items.drop size)

def chunks (p : Params) (tokens : List String) : List (List String) :=
  (pieces (Nat.max 1 p.maxDelegatesPerBlock.toNat) tokens.length tokens).reverse

end BlockLattice.Election
