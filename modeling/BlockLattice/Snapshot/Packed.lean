import BlockLattice.Snapshot

-- The packed form of snapshots, for storage: every number little-endian at its
-- width, lists and texts behind their length in eight bytes, a truth value in
-- one byte that is 0 or 1. Bytes behind the snapshot are left alone.
namespace BlockLattice.Snapshot

namespace Packed

def word (width v : Nat) : Bytes := Bytes.littleEndian width v

def bool (b : Bool) : Bytes := [if b then 1 else 0]

def text (s : String) : Bytes :=
  let bs := Bytes.ofText s
  word 8 bs.length ++ bs

def list (write : α → Bytes) (items : List α) : Bytes :=
  word 8 items.length ++ items.flatMap write

def row (r : Row) : Bytes :=
  r.id.bytes ++ (text r.username ++ (r.head.bytes ++ (word 8 r.blockCount.toNat ++ (word 16 r.balance.raw
    ++ (bool r.isDelegate ++ (word 2 r.share.points.toNat ++ (list AccountId.bytes r.votes
    ++ (word 8 r.forged.toNat ++ word 8 r.missed.toNat))))))))

abbrev Reader (α : Type) := Bytes → Option (α × Bytes)

def take? (n : Nat) : Reader Bytes := fun bs =>
  if n ≤ bs.length then some (bs.take n, bs.drop n) else none

def word? (width : Nat) : Reader Nat := fun bs => do
  let (taken, rest) ← take? width bs
  return (Bytes.ofLittleEndian taken, rest)

def bool? : Reader Bool
  | 0 :: rest => some (false, rest)
  | 1 :: rest => some (true, rest)
  | _ => none

def account? : Reader AccountId := fun bs => do
  let (taken, rest) ← take? 32 bs
  return (.ofBytes taken, rest)

def hash? : Reader BlockHash := fun bs => do
  let (taken, rest) ← take? 32 bs
  return (.ofBytes taken, rest)

def amount? : Reader Amount := fun bs => do
  let (n, rest) ← word? 16 bs
  let a ← Amount.ofRaw? n
  return (a, rest)

def text? : Reader String := fun bs => do
  let (n, rest) ← word? 8 bs
  let (taken, rest) ← take? n rest
  let s ← Bytes.text? taken
  return (s, rest)

def items? (read : Reader α) : Nat → Reader (List α)
  | 0, bs => some ([], bs)
  | count + 1, bs => do
    let (item, rest) ← read bs
    let (items, rest) ← items? read count rest
    return (item :: items, rest)

def list? (read : Reader α) : Reader (List α) := fun bs => do
  let (count, rest) ← word? 8 bs
  items? read count rest

def row? : Reader Row := fun bs => do
  let (id, bs) ← account? bs
  let (username, bs) ← text? bs
  let (head, bs) ← hash? bs
  let (blockCount, bs) ← word? 8 bs
  let (balance, bs) ← amount? bs
  let (isDelegate, bs) ← bool? bs
  let (share, bs) ← word? 2 bs
  let (votes, bs) ← list? account? bs
  let (forged, bs) ← word? 8 bs
  let (missed, bs) ← word? 8 bs
  return (⟨id, username, head, UInt64.ofNat blockCount, balance, isDelegate, ⟨UInt16.ofNat share⟩, votes,
    UInt64.ofNat forged, UInt64.ofNat missed⟩, bs)

end Packed

open Packed

def pack (s : Snapshot) : Bytes :=
  s.hash.bytes ++ (word 8 s.blockCount.toNat ++ (word 8 s.createdAt.seconds.toNat
    ++ (list row s.rows ++ word 4 s.version.toNat)))

def read? : Reader Snapshot := fun bs => do
  let (hash, bs) ← hash? bs
  let (blockCount, bs) ← word? 8 bs
  let (createdAt, bs) ← word? 8 bs
  let (rows, bs) ← list? row? bs
  let (version, bs) ← word? 4 bs
  return (⟨hash, UInt64.ofNat blockCount, ⟨UInt64.ofNat createdAt⟩, rows, UInt32.ofNat version⟩, bs)

def unpack? (bs : Bytes) : Option Snapshot := (read? bs).map Prod.fst

end BlockLattice.Snapshot
