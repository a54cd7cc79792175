import BlockLattice.Snapshot
import BlockLattice.Json.Types

namespace BlockLattice.Snapshot

def Row.toJson (r : Row) : Json :=
  .record [("id", r.id.toJson), ("username", .string r.username), ("head", r.head.toJson),
    ("block_count", .natural r.blockCount.toNat), ("balance", r.balance.toJson),
    ("is_delegate", .bool r.isDelegate), ("reward_share", r.share.toJson),
    ("voted_delegates", .array (r.votes.map AccountId.toJson)),
    ("forged_count", .natural r.forged.toNat), ("missed_count", .natural r.missed.toNat)]

def Row.ofJson? (v : Json) : Option Row :=
  match Json.slots? ["id", "username", "head", "block_count", "balance", "is_delegate", "reward_share",
      "voted_delegates", "forged_count", "missed_count"] v with
  | some [id, username, head, blockCount, balance, isDelegate, share, votes, forged, missed] => do
    return ⟨← id.required AccountId.ofJson?, ← username.required Json.string?,
      ← head.required BlockHash.ofJson?, ← blockCount.required Json.word64?,
      ← balance.required Amount.ofJson?, ← isDelegate.required Json.bool?,
      ← share.required Share.ofJson?, ← votes.required (Json.list? AccountId.ofJson?),
      ← forged.required Json.word64?, ← missed.required Json.word64?⟩
  | _ => none

def toJson (s : Snapshot) : Json :=
  .record [("hash", s.hash.toJson), ("block_count", .natural s.blockCount.toNat),
    ("created_at", s.createdAt.toJson), ("accounts", .array (s.rows.map Row.toJson)),
    ("version", .natural s.version.toNat)]

def ofJson? (v : Json) : Option Snapshot :=
  match Json.slots? ["hash", "block_count", "created_at", "accounts", "version"] v with
  | some [hash, blockCount, createdAt, rows, version] => do
    return ⟨← hash.required BlockHash.ofJson?, ← blockCount.required Json.word64?,
      ← createdAt.required Timestamp.ofJson?, ← rows.required (Json.list? Row.ofJson?),
      ← version.required Json.word32?⟩
  | _ => none

end BlockLattice.Snapshot
