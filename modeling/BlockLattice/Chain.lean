import BlockLattice.Ledger.Error

-- The chain of one account: its blocks from the first one on, and the hash of
-- the last. The head is a field of its own, so it can be wrong; `intact` tells.
namespace BlockLattice

structure Chain where
  account : AccountId
  head : BlockHash
  blocks : List Block
deriving DecidableEq, Repr

namespace Chain

def empty (account : AccountId) : Chain := ⟨account, .zero, []⟩

def latest? (c : Chain) : Option Block := c.blocks.getLast?

def get? (c : Chain) (height : Nat) : Option Block := c.blocks[height]?

def length (c : Chain) : Nat := c.blocks.length

def isEmpty (c : Chain) : Bool := c.blocks.isEmpty

def checkAppend (c : Chain) (b : Block) : Except LedgerError Unit :=
  match c.blocks, b.content with
  | [], .opening account _ _ =>
    if account = c.account then .ok () else .error (.invalidBlock .foreignOpening)
  | [], _ => .error (.notOpened c.account)
  | _ :: _, .opening .. => .error (.alreadyOpened c.account)
  | _ :: _, _ => if b.previous = c.head then .ok () else .error (.blockGap c.head b.previous)

def push (c : Chain) (b : Block) (hash : BlockHash) : Chain :=
  { c with head := hash, blocks := c.blocks ++ [b] }

def pop? (c : Chain) : Option (Block × Chain) :=
  c.latest?.map fun b => (b, { c with head := b.previous, blocks := c.blocks.dropLast })

-- Follows the links from a block with the given hash to the last hash; a second
-- opening block breaks the chain.
def walk (hash : BlockHash) : List Block → Option BlockHash
  | [] => some hash
  | b :: rest => if b.isOpening || b.previous != hash then none else walk b.hash rest

def intact (c : Chain) : Bool :=
  match c.blocks with
  | [] => c.head == .zero
  | first :: rest => first.isOpening && walk first.hash rest == some c.head

end Chain
end BlockLattice
