import BlockLattice.Json.Block
import BlockLattice.Proofs.JsonTexts

namespace BlockLattice

namespace Json

variable {α β : Type}

theorem mapM_some {read : α → Option β} {value : α → β} {items : List α} (each : ∀ a ∈ items, read a = some (value a)) :
    items.mapM read = some (items.map value) := by
  induction items with
  | nil => rfl
  | cons a rest ih =>
    obtain ⟨first, later⟩ := List.forall_mem_cons.mp each
    simp [first, ih later]

theorem list?_array {write : α → Json} {read : Json → Option α} (kept : ∀ a, read (write a) = some a) (items : List α) :
    list? read (.array (items.map write)) = some items := by
  have each : items.mapM (read ∘ write) = some (items.map id) := mapM_some fun a _ => kept a
  rw [list?, List.mapM_map, each, List.map_id]

theorem byte?_natural (b : UInt8) : byte? (.natural b.toNat) = some b := by
  simp [byte?, natBelow?, b.toNat_lt]

theorem bytes?_bytes {n : Nat} {bs : Bytes} (long : bs.length = n) : bytes? n (.bytes bs) = some bs := by
  simp [bytes?, Json.bytes, list?_array byte?_natural, long]

theorem plain_array {write : α → Json} (each : ∀ a, Plain (write a)) (items : List α) :
    Plain (.array (items.map write)) := by
  refine .array fun v listed => ?_
  obtain ⟨a, _, rfl⟩ := List.mem_map.mp listed
  exact each a

theorem plain_bytes (bs : Bytes) : Plain (.bytes bs) := plain_array (fun b : UInt8 => Plain.natural b.toNat) bs

theorem filter_named {members : List (String × Json)} (distinct : (members.map Prod.fst).Nodup) {m : String × Json}
    (listed : m ∈ members) : (named members).filter (fun x => x.1 == .plain m.1) = [(.plain m.1, m.2)] := by
  induction members with
  | nil => cases listed
  | cons x others ih =>
    obtain ⟨new, later⟩ := List.nodup_cons.mp distinct
    rcases List.mem_cons.mp listed with rfl | old
    · have none : (named others).filter (fun y => y.1 == .plain m.1) = [] := by
        refine List.filter_eq_nil_iff.mpr fun y later => ?_
        obtain ⟨x, old, rfl⟩ := List.mem_map.mp later
        have differs : x.1 ≠ m.1 := fun same => new (same ▸ List.mem_map_of_mem old)
        simpa using differs
      change List.filter _ ((.plain m.1, m.2) :: named others) = _
      rw [List.filter_cons, if_pos (beq_self_eq_true _), none]
    · have differs : x.1 ≠ m.1 := fun same => new (same ▸ List.mem_map_of_mem old)
      simpa [named, differs] using ih later old

theorem slots?_record {names : List String} {members : List (String × Json)} (named : members.map Prod.fst = names)
    (distinct : names.Nodup) : slots? names (.record members) = some (members.map fun m => .given m.2) := by
  subst named
  have texts : (Json.named members).all (fun m => m.1.plain?.isSome) = true := by simp [Json.named, Text.plain?]
  change (if (Json.named members).all (fun m => m.1.plain?.isSome) then _ else _) = _
  rw [texts, if_pos rfl, List.mapM_map]
  refine mapM_some fun m listed => ?_
  change memberSlot? (Json.named members) m.1 = _
  rw [memberSlot?, filter_named distinct listed]

@[simp] theorem variant?_tagged (tag : String) (content : Json) :
    variant? (.tagged tag content) = some (tag, some content) := rfl

end Json

theorem Signature.ofBytes_bytes (s : Signature) : ofBytes s.bytes = s := by
  have fits : s.bits.toNat < Bytes.wordCount 64 := Nat.lt_of_lt_of_eq s.bits.isLt (by decide +kernel)
  simp [ofBytes, bytes, Bytes.ofBigEndian_bigEndian_of_lt fits]

section fields

open Json

theorem Amount.ofJson?_toJson (a : Amount) : ofJson? a.toJson = some a := by
  have kept : ofRaw? a.raw = some a := ofRaw?_eq_some.mpr rfl
  simp [ofJson?, toJson, natBelow?, a.raw_lt, kept]

theorem Share.ofJson?_toJson (s : Share) : ofJson? s.toJson = some s := by
  simp [ofJson?, toJson, word16?, natBelow?, s.points.toNat_lt]

theorem Timestamp.ofJson?_toJson (t : Timestamp) : ofJson? t.toJson = some t := by
  simp [ofJson?, toJson, word64?, natBelow?, t.seconds.toNat_lt]

theorem AccountId.ofJson?_toJson (a : AccountId) : ofJson? a.toJson = some a := by
  simp [ofJson?, toJson, bytes?_bytes a.length_bytes]

theorem BlockHash.ofJson?_toJson (h : BlockHash) : ofJson? h.toJson = some h := by
  simp [ofJson?, toJson, bytes?_bytes h.length_bytes]

theorem Signature.ofJson?_toJson (s : Signature) : ofJson? s.toJson = some s := by
  have long : s.bytes.length = 64 := Bytes.length_bigEndian ..
  simp [ofJson?, toJson, bytes?_bytes long, ofBytes_bytes]

theorem VoteChange.ofJson?_toJson (c : VoteChange) : ofJson? c.toJson = some c := by
  cases c <;> simp [ofJson?, toJson, AccountId.ofJson?_toJson]

theorem BlockKind.ofName?_name (k : BlockKind) : ofName? k.name = some k := by
  cases k <;> rfl

end fields

theorem VoteChange.plain_toJson (c : VoteChange) : c.toJson.Plain := by
  cases c <;> exact .record (by simp [AccountId.toJson, Json.plain_bytes])

theorem Content.plain_toJson (c : Content) : c.toJson.Plain := by
  have numbers := Json.Plain.natural
  cases c <;>
    exact .record (by simp [Amount.toJson, Share.toJson, Timestamp.toJson, AccountId.toJson, BlockHash.toJson, numbers,
      Json.plain_bytes, Json.plain_array VoteChange.plain_toJson])

theorem Content.ofJson?_toJson (c : Content) : ofJson? c.kind c.toJson = some c := by
  cases c <;>
    simp [ofJson?, kind, toJson, Json.slots?_record, Json.Slot.required, Amount.ofJson?_toJson, AccountId.ofJson?_toJson,
      BlockHash.ofJson?_toJson, Share.ofJson?_toJson, Timestamp.ofJson?_toJson, Json.list?_array VoteChange.ofJson?_toJson]

namespace Block

theorem optional_option (s : Option Signature) :
    (Json.Slot.given (.option Signature.toJson s)).optional Signature.ofJson? = some s := by
  cases s with
  | none => rfl
  | some s =>
    have kept := Signature.ofJson?_toJson s
    simp only [Json.option, Signature.toJson, Json.bytes, Json.Slot.optional] at kept ⊢
    rw [kept]
    rfl

theorem signaturesOfJson?_record (owner witness : Option Signature) :
    signaturesOfJson? (.record [("owner", .option Signature.toJson owner), ("witness", .option Signature.toJson witness)]) =
      some (owner, witness) := by
  simp [signaturesOfJson?, Json.slots?_record, optional_option]

theorem ofJson?_toJson (b : Block) : ofJson? b.toJson = some b := by
  have content := Content.ofJson?_toJson b.content
  simp [ofJson?, toJson, kind, BlockKind.ofName?_name, Json.slots?_record, Json.Slot.required, content,
    signaturesOfJson?_record]

theorem plain_toJson (b : Block) : b.toJson.Plain := by
  have signed (s : Option Signature) : (Json.option Signature.toJson s).Plain := by
    cases s with
    | none => exact .null
    | some s => exact Json.plain_bytes s.bytes
  have body := b.content.plain_toJson
  exact .record (List.forall_mem_singleton.mpr (.record (by simp [Json.Plain.record, body, signed])))

-- The text of a block is JSON for the block's fields, and it is read as the same block,
-- which has the same name and is signed by the same keys.
theorem survives_json (b : Block) :
    Json.ofText? b.jsonText = some b.toJson ∧ ofJsonText? b.jsonText = some b ∧
    ∀ r, ofJsonText? b.jsonText = some r →
      r.hash = b.hash ∧ ∀ k, r.verify k = b.verify k ∧ r.verifyWitness k = b.verifyWitness k := by
  have text : Json.ofText? b.jsonText = some b.toJson := Json.ofText?_compactText b.plain_toJson
  have read : ofJsonText? b.jsonText = some b := by rw [ofJsonText?, text, Option.bind_some, ofJson?_toJson]
  refine ⟨text, read, fun r again => ?_⟩
  cases again.symm.trans read
  exact ⟨rfl, fun _ => ⟨rfl, rfl⟩⟩

end Block
end BlockLattice
