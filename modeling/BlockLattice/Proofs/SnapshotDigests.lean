import BlockLattice.Snapshot
import BlockLattice.Proofs.Digests

namespace BlockLattice

namespace Bytes

theorem ofText_inj {s t : String} (same : ofText s = ofText t) : s = t := by
  have read := text?_ofText s
  rw [same, text?_ofText] at read
  exact (Option.some.inj read).symm

theorem length_ofText (s : String) : (ofText s).length = s.utf8ByteSize := by
  simp [ofText]

theorem ofLittleEndian_lt (bytes : Bytes) : ofLittleEndian bytes < wordCount bytes.length := by
  induction bytes with
  | nil => decide
  | cons b rest ih =>
    have low := b.toNat_lt
    simp only [ofLittleEndian, List.length_cons, wordCount]
    omega

theorem ofLittleEndian_inj {xs ys : Bytes} (count : xs.length = ys.length)
    (same : ofLittleEndian xs = ofLittleEndian ys) : xs = ys := by
  induction xs generalizing ys with
  | nil => exact (List.eq_nil_of_length_eq_zero count.symm).symm
  | cons x rest ih =>
    cases ys with
    | nil => cases count
    | cons y others =>
      have left := x.toNat_lt
      have right := y.toNat_lt
      simp only [ofLittleEndian] at same
      have first : x = y := UInt8.toNat_inj.mp (by omega)
      have later : ofLittleEndian rest = ofLittleEndian others := by omega
      rw [first, ih (Nat.succ.inj count) later]

end Bytes

namespace Blake2b

@[simp] theorem length_digest (message : Bytes) : (digest message).length = 32 := by
  simp [digest, State.digest]

def Collide (x y : Bytes) : Prop := x ≠ y ∧ digest x = digest y

end Blake2b

theorem BlockHash.ofBytes_inj {xs ys : Bytes} (left : xs.length = 32) (right : ys.length = 32)
    (same : ofBytes xs = ofBytes ys) : xs = ys := by
  have bound {zs : Bytes} (long : zs.length = 32) : Bytes.ofBigEndian zs < 2 ^ 256 := by
    have fits := Bytes.ofLittleEndian_lt zs.reverse
    rw [List.length_reverse, long] at fits
    exact fits
  have words := congrArg (fun h : BlockHash => h.bits.toNat) same
  simp only [ofBytes, BitVec.toNat_ofNat, Nat.mod_eq_of_lt (bound left), Nat.mod_eq_of_lt (bound right)] at words
  exact List.reverse_inj.mp (Bytes.ofLittleEndian_inj (by simp [left, right]) words)

namespace Snapshot

variable {r q : Row} {rs qs : List Row} {count total : UInt64}

-- The name and the votes are short enough for four bytes to count them.
structure Row.Countable (r : Row) : Prop where
  name : r.username.utf8ByteSize < UInt32.size
  votes : r.votes.length < UInt32.size

instance (r : Row) : Decidable r.Countable :=
  decidable_of_iff (r.username.utf8ByteSize < UInt32.size ∧ r.votes.length < UInt32.size)
    ⟨fun both => ⟨both.1, both.2⟩, fun countable => ⟨countable.name, countable.votes⟩⟩

theorem counted_inj {v w : Nat} (left : v < UInt32.size) (right : w < UInt32.size)
    (same : Bytes.bigEndian 4 v = Bytes.bigEndian 4 w) : v = w :=
  Bytes.bigEndian_inj (n := 4) left right same

theorem wide_inj {v w : UInt64} (same : Bytes.bigEndian 8 v.toNat = Bytes.bigEndian 8 w.toNat) : v = w :=
  UInt64.toNat_inj.mp (Bytes.bigEndian_inj (n := 8) v.toNat_lt w.toNat_lt same)

theorem length_votes (vs : List AccountId) : (vs.flatMap AccountId.bytes).length = 32 * vs.length := by
  induction vs with
  | nil => rfl
  | cons v rest ih => simp only [List.flatMap_cons, List.length_append, ih, AccountId.length_bytes, List.length_cons]; omega

-- The fields are peeled off from the left: a row can be read without knowing where it ends.
theorem Row.digest_append_inj (left : r.Countable) (right : q.Countable) {xs ys : Bytes}
    (same : r.digest ++ xs = q.digest ++ ys) : r = q ∧ xs = ys := by
  simp only [digest, List.append_assoc, Bytes.length_ofText] at same
  obtain ⟨id, same⟩ := List.append_inj same (by simp)
  obtain ⟨size, same⟩ := List.append_inj same (by simp)
  have sized := counted_inj left.name right.name size
  obtain ⟨name, same⟩ := List.append_inj same (by simpa [Bytes.length_ofText] using sized)
  obtain ⟨head, same⟩ := List.append_inj same (by simp)
  obtain ⟨blocks, same⟩ := List.append_inj same (by simp)
  obtain ⟨balance, same⟩ := List.append_inj same (by simp)
  obtain ⟨delegate, same⟩ := List.append_inj same rfl
  obtain ⟨share, same⟩ := List.append_inj same (by simp)
  obtain ⟨number, same⟩ := List.append_inj same (by simp)
  have numbered := counted_inj left.votes right.votes number
  obtain ⟨votes, same⟩ := List.append_inj same (by rw [length_votes, length_votes, numbered])
  obtain ⟨forged, same⟩ := List.append_inj same (by simp)
  obtain ⟨missed, rest⟩ := List.append_inj same (by simp)
  have role : r.isDelegate = q.isDelegate := by
    cases mine : r.isDelegate <;> cases other : q.isDelegate <;> simp_all
  refine ⟨?_, rest⟩
  cases r; cases q
  rw [Row.mk.injEq]
  exact ⟨AccountId.bytes_inj id, Bytes.ofText_inj name, BlockHash.bytes_inj head, wide_inj blocks,
    Content.amountBytes_inj balance, role, Content.shareBytes_inj share,
    Bytes.flatMap_inj (by decide : 0 < 32) AccountId.length_bytes AccountId.bytes_inj votes,
    wide_inj forged, wide_inj missed⟩

theorem Row.long (r : Row) : 8 < r.digest.length := by
  simp only [digest, List.length_append, AccountId.length_bytes, Bytes.length_bigEndian]
  omega

theorem digest_inj (left : ∀ r ∈ rs, r.Countable) (right : ∀ q ∈ qs, q.Countable)
    (same : digest rs count = digest qs total) : rs = qs ∧ count = total := by
  unfold digest at same
  induction rs generalizing qs with
  | nil =>
    cases qs with
    | nil => exact ⟨rfl, wide_inj same⟩
    | cons q others =>
      have size := congrArg List.length same
      simp only [List.flatMap_nil, List.flatMap_cons, List.length_append, List.length_nil, Bytes.length_bigEndian] at size
      have long := q.long
      omega
  | cons r rest ih =>
    cases qs with
    | nil =>
      have size := congrArg List.length same
      simp only [List.flatMap_nil, List.flatMap_cons, List.length_append, List.length_nil, Bytes.length_bigEndian] at size
      have long := r.long
      omega
    | cons q others =>
      simp only [List.flatMap_cons, List.append_assoc] at same
      obtain ⟨mine, fewer⟩ := List.forall_mem_cons.mp left
      obtain ⟨its, less⟩ := List.forall_mem_cons.mp right
      obtain ⟨first, later⟩ := Row.digest_append_inj mine its same
      obtain ⟨equal, total⟩ := ih fewer less later
      exact ⟨by rw [first, equal], total⟩

-- Snapshots hash one string if and only if they list the same rows in the same order
-- and count the same blocks. So a snapshot that holds under its hash does not hold
-- under it any more once a row or the number of blocks is changed, unless the two
-- strings are a collision of the hash. The time it was taken at plays no part.
theorem hash_covers {s t : Snapshot} (left : ∀ r ∈ s.rows, r.Countable) (right : ∀ r ∈ t.rows, r.Countable) :
    (digest s.rows s.blockCount = digest t.rows t.blockCount ↔ s.rows = t.rows ∧ s.blockCount = t.blockCount) ∧
    (s.verify = true → t.hash = s.hash → t.rows ≠ s.rows ∨ t.blockCount ≠ s.blockCount →
      t.verify = false ∨ Blake2b.Collide (digest s.rows s.blockCount) (digest t.rows t.blockCount)) ∧
    (∀ time, ({ s with createdAt := time } : Snapshot).verify = s.verify) := by
  have tells : digest s.rows s.blockCount = digest t.rows t.blockCount ↔ s.rows = t.rows ∧ s.blockCount = t.blockCount := by
    constructor
    · exact digest_inj left right
    · rintro ⟨rows, blocks⟩
      rw [rows, blocks]
  refine ⟨tells, fun sealed kept changed => ?_, fun _ => rfl⟩
  cases holds : t.verify with
  | false => exact .inl rfl
  | true =>
    refine .inr ⟨fun same => ?_, ?_⟩
    · obtain ⟨rows, blocks⟩ := tells.mp same
      exact changed.elim (· rows.symm) (· blocks.symm)
    · have mine : s.hash = hashOf s.rows s.blockCount := eq_of_beq sealed
      have its : t.hash = hashOf t.rows t.blockCount := eq_of_beq holds
      exact BlockHash.ofBytes_inj (by simp) (by simp) (mine.symm.trans (kept.symm.trans its))

def taken : Snapshot :=
  create [⟨⟨1⟩, "alice", ⟨2⟩, 10, .clamp 500, true, ⟨4000⟩, [⟨1⟩], 3, 1⟩] 42 ⟨5⟩

def enriched : Snapshot := { taken with
  rows := [⟨⟨1⟩, "alice", ⟨2⟩, 10, .clamp 501, true, ⟨4000⟩, [⟨1⟩], 3, 1⟩]
  createdAt := ⟨6⟩ }

theorem enriched_refused : (∀ r ∈ taken.rows, r.Countable) ∧ (∀ r ∈ enriched.rows, r.Countable) ∧
    taken.verify = true ∧ enriched.verify = false ∧
    digest taken.rows taken.blockCount ≠ digest enriched.rows enriched.blockCount := by
  have mine : ∀ r ∈ taken.rows, r.Countable := by decide
  have its : ∀ r ∈ enriched.rows, r.Countable := by decide
  have sealed : taken.verify = true := beq_self_eq_true _
  have differ : enriched.rows ≠ taken.rows := by decide +kernel
  obtain ⟨tells, changed, _⟩ := hash_covers mine its
  have refused := changed sealed rfl (.inl differ)
  have clear : ¬ Blake2b.Collide (digest taken.rows taken.blockCount) (digest enriched.rows enriched.blockCount) :=
    fun collision => absurd collision.2 (by decide +kernel)
  exact ⟨mine, its, sealed, refused.resolve_right clear, fun same => differ (tells.mp same).1.symm⟩

end Snapshot
end BlockLattice
