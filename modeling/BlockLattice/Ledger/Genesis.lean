import BlockLattice.Ledger.Append
import BlockLattice.Ledger.Directory
import BlockLattice.Params

-- The first account. No forger exists before it, so its three blocks are
-- witnessed by itself: it opens with the genesis balance, becomes a delegate
-- that passes on everything, and votes for itself. No fee is taken.
namespace BlockLattice.Ledger

def signBoth (b : Block) (keys : KeyPair) : Block := (b.sign keys.privateKey).signWitness keys.privateKey

def appendSelfWitnessed (l : Ledger) (id : AccountId) (content : Content) :
    Except LedgerError (Ledger × BlockHash) :=
  match l.account? id with
  | none => .error (.accountNotFound id)
  | some a => l.append id (signBoth (.unsigned content) a.keys)

-- The ledger is returned with a failure too: what was done before it stays, and
-- the clock has been read for each block that was tried.
def openGenesis (l : Ledger) (p : Params) (keys : KeyPair) (username : String) (clock : Clock) :
    Ledger × Clock × Except LedgerError AccountId :=
  match l.register (.new keys) username with
  | .error e => (l, clock, .error e)
  | .ok (l, id) =>
    match l.appendSelfWitnessed id (.opening id p.genesisBalance clock.now) with
    | .error e => (l, clock.next, .error e)
    | .ok (l, opening) =>
      match l.appendSelfWitnessed id (.delegate p.genesisBalance opening .full clock.next.now) with
      | .error e => (l, clock.next.next, .error e)
      | .ok (l, delegate) =>
        match l.appendSelfWitnessed id (.change p.genesisBalance [.add id] delegate clock.next.next.now) with
        | .error e => (l, clock.next.next.next, .error e)
        | .ok (l, _) =>
          match l.account? id with
          | none => (l, clock.next.next.next, .error (.accountNotFound id))
          | some _ =>
            (l.modifyAccount id fun a =>
              { a with isDelegate := true, share := .full }.applyVotes [.add id], clock.next.next.next, .ok id)

end BlockLattice.Ledger
