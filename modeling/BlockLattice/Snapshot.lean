import BlockLattice.Block

-- A snapshot lists every account's state under one hash, so that two nodes
-- that processed the same requests can compare their ledgers cheaply.
namespace BlockLattice

namespace Snapshot

-- The state of one account. An account that was never opened has the zero
-- head, no block and no balance.
structure Row where
  id : AccountId
  username : String
  head : BlockHash
  blockCount : UInt64
  balance : Amount
  isDelegate : Bool
  share : Share
  votes : List AccountId
  forged : UInt64
  missed : UInt64
deriving DecidableEq, Repr

def Row.digest (r : Row) : Bytes :=
  let name := Bytes.ofText r.username
  r.id.bytes ++ Bytes.bigEndian 4 name.length ++ name ++ r.head.bytes
    ++ Bytes.bigEndian 8 r.blockCount.toNat ++ Bytes.bigEndian 16 r.balance.raw
    ++ [if r.isDelegate then 1 else 0] ++ Bytes.bigEndian 2 r.share.points.toNat
    ++ Bytes.bigEndian 4 r.votes.length ++ r.votes.flatMap AccountId.bytes
    ++ Bytes.bigEndian 8 r.forged.toNat ++ Bytes.bigEndian 8 r.missed.toNat

def digest (rows : List Row) (blockCount : UInt64) : Bytes :=
  rows.flatMap Row.digest ++ Bytes.bigEndian 8 blockCount.toNat

def hashOf (rows : List Row) (blockCount : UInt64) : BlockHash :=
  .ofBytes (Blake2b.digest (digest rows blockCount))

def currentVersion : UInt32 := 1

end Snapshot

structure Snapshot where
  hash : BlockHash
  blockCount : UInt64
  -- Not covered by the hash.
  createdAt : Timestamp
  rows : List Snapshot.Row
  version : UInt32
deriving DecidableEq, Repr

namespace Snapshot

def create (rows : List Row) (blockCount : UInt64) (createdAt : Timestamp) : Snapshot :=
  ⟨hashOf rows blockCount, blockCount, createdAt, rows, currentVersion⟩

def verify (s : Snapshot) : Bool := s.hash == hashOf s.rows s.blockCount

end Snapshot
end BlockLattice
