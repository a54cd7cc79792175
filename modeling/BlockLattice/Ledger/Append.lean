import BlockLattice.Ledger.Basic

-- How chains grow and shrink. The ledger keeps its own structure whatever it
-- is handed: a block must fit its chain, a send is received once and by its
-- destination, and only a tip that nobody has received is taken back.
namespace BlockLattice.Ledger

def chainOf (l : Ledger) (id : AccountId) : Chain := (l.chain? id).getD (.empty id)

def checkSource (l : Ledger) (id : AccountId) (source : BlockHash) : Except LedgerError Unit :=
  match l.block? source with
  | none => .error (.sourceNotFound source)
  | some block =>
    match block.destination? with
    | none => .error (.sourceNotASend source)
    | some destination =>
      if destination ≠ id then .error (.sourceWrongDestination source)
      else if l.isReceived source then .error (.duplicateSource source)
      else .ok ()

def checkSourceOf (l : Ledger) (id : AccountId) (b : Block) : Except LedgerError Unit :=
  match b.source? with
  | some source => l.checkSource id source
  | none => .ok ()

def place (l : Ledger) (id : AccountId) (b : Block) : Ledger :=
  let chain := l.chainOf id
  { l with
    received := match b.source? with
      | some source => l.received.insert source b.hash
      | none => l.received
    chains := l.chains.insert id (chain.push b b.hash)
    index := l.index.insert b.hash ⟨id, chain.length⟩ }

def ownerSigned (l : Ledger) (id : AccountId) (b : Block) : Block :=
  match l.account? id with
  | some a => b.sign a.privateKey
  | none => b

-- Appends to the chain of a registered account. Signatures are the caller's
-- concern.
def append (l : Ledger) (id : AccountId) (b : Block) : Except LedgerError (Ledger × BlockHash) := do
  if !l.isRegistered id then throw (.accountNotFound id)
  (l.chainOf id).checkAppend b
  l.checkSourceOf id b
  if l.index.contains b.hash then throw (.duplicateBlock b.hash)
  return (l.place id b, b.hash)

-- Takes the tip of an account's chain off. Without its opening block an
-- account is not opened any more.
def rollback (l : Ledger) (id : AccountId) (hash : BlockHash) : Except LedgerError (Ledger × Block) :=
  match l.chain? id with
  | none => .error (.notOpened id)
  | some chain =>
    if chain.head ≠ hash then
      if l.index.contains hash then .error (.notChainTip hash) else .error (.blockNotFound hash)
    else if l.isReceived hash then .error (.sendAlreadyReceived hash)
    else
      match chain.pop? with
      | none => .error (.blockNotFound hash)
      | some (block, shorter) =>
        .ok ({ l with
          chains := if shorter.isEmpty then l.chains.erase id else l.chains.insert id shorter
          index := l.index.erase hash
          received := match block.source? with
            | some source => l.received.erase source
            | none => l.received }, block)

end BlockLattice.Ledger
