import BlockLattice.Block

namespace BlockLattice

theorem Bytes.bigEndian_inj {n v w : Nat} (left : v < wordCount n) (right : w < wordCount n)
    (same : bigEndian n v = bigEndian n w) : v = w := by
  rw [← ofBigEndian_bigEndian_of_lt left, same, ofBigEndian_bigEndian_of_lt right]

theorem Bytes.flatMap_inj {α : Type} {f : α → Bytes} {width : Nat} (wide : 0 < width)
    (even : ∀ a, (f a).length = width) (tells : ∀ {a b}, f a = f b → a = b) {xs ys : List α}
    (same : xs.flatMap f = ys.flatMap f) : xs = ys := by
  induction xs generalizing ys with
  | nil =>
    cases ys with
    | nil => rfl
    | cons b rest =>
      have count := congrArg List.length same
      simp only [List.flatMap_nil, List.flatMap_cons, List.length_nil, List.length_append, even] at count
      omega
  | cons a rest ih =>
    cases ys with
    | nil =>
      have count := congrArg List.length same
      simp only [List.flatMap_nil, List.flatMap_cons, List.length_nil, List.length_append, even] at count
      omega
    | cons b others =>
      simp only [List.flatMap_cons] at same
      obtain ⟨first, later⟩ := List.append_inj same ((even a).trans (even b).symm)
      rw [tells first, ih later]

theorem AccountId.bytes_inj {a b : AccountId} (same : a.bytes = b.bytes) : a = b := by
  rw [← ofBytes_bytes a, same, ofBytes_bytes]

theorem BlockHash.bytes_inj {g h : BlockHash} (same : g.bytes = h.bytes) : g = h := by
  rw [← ofBytes_bytes g, same, ofBytes_bytes]

theorem BlockKind.tag_inj {k l : BlockKind} (same : k.tag = l.tag) : k = l := by
  cases k <;> cases l <;> first | rfl | exact absurd same (by decide)

namespace Content

@[simp] theorem length_amountBytes (a : Amount) : (amountBytes a).length = 16 := by simp [amountBytes]
@[simp] theorem length_timeBytes (t : Timestamp) : (timeBytes t).length = 8 := by simp [timeBytes]
@[simp] theorem length_changeBytes (c : VoteChange) : (changeBytes c).length = 33 := by simp [changeBytes]

theorem amountBytes_inj {a b : Amount} (same : amountBytes a = amountBytes b) : a = b := by
  have fits : Amount.size = Bytes.wordCount 16 := by decide
  apply Amount.ext
  exact Bytes.bigEndian_inj (fits ▸ a.raw_lt) (fits ▸ b.raw_lt) same

theorem timeBytes_inj {s t : Timestamp} (same : timeBytes s = timeBytes t) : s = t := by
  have seconds := Bytes.bigEndian_inj s.seconds.toNat_lt t.seconds.toNat_lt same
  cases s; cases t
  exact congrArg Timestamp.mk (UInt64.toNat_inj.mp seconds)

theorem shareBytes_inj {s t : Share} (same : Bytes.bigEndian 2 s.points.toNat = Bytes.bigEndian 2 t.points.toNat) :
    s = t := by
  have points := Bytes.bigEndian_inj s.points.toNat_lt t.points.toNat_lt same
  cases s; cases t
  exact congrArg Share.mk (UInt16.toNat_inj.mp points)

theorem changeBytes_inj {c d : VoteChange} (same : changeBytes c = changeBytes d) : c = d := by
  unfold changeBytes at same
  obtain ⟨symbol, delegate⟩ := List.cons.inj same
  have named := AccountId.bytes_inj delegate
  cases c <;> cases d
  case add.add => exact congrArg VoteChange.add named
  case remove.remove => exact congrArg VoteChange.remove named
  all_goals simp [VoteChange.symbol] at symbol

theorem changesBytes_inj {xs ys : List VoteChange} (same : changesBytes xs = changesBytes ys) : xs = ys :=
  Bytes.flatMap_inj (by decide : 0 < 33) length_changeBytes changeBytes_inj (List.append_inj same (by simp)).2

theorem eq_of_digest {c d : Content} (same : c.digest = d.digest) : c = d := by
  unfold digest at same
  obtain ⟨tag, same⟩ := List.cons.inj same
  have kinds := BlockKind.tag_inj tag
  cases c <;> cases d
  case opening.opening =>
    obtain ⟨same, time⟩ := List.append_inj' same (by simp)
    obtain ⟨account, balance⟩ := List.append_inj' same (by simp)
    rw [AccountId.bytes_inj account, amountBytes_inj balance, timeBytes_inj time]
  case send.send =>
    obtain ⟨same, time⟩ := List.append_inj' same (by simp)
    obtain ⟨same, previous⟩ := List.append_inj' same (by simp)
    obtain ⟨balance, destination⟩ := List.append_inj' same (by simp)
    rw [amountBytes_inj balance, AccountId.bytes_inj destination, BlockHash.bytes_inj previous, timeBytes_inj time]
  case receive.receive =>
    obtain ⟨same, time⟩ := List.append_inj' same (by simp)
    obtain ⟨same, source⟩ := List.append_inj' same (by simp)
    obtain ⟨balance, previous⟩ := List.append_inj' same (by simp)
    rw [amountBytes_inj balance, BlockHash.bytes_inj previous, BlockHash.bytes_inj source, timeBytes_inj time]
  case change.change =>
    obtain ⟨same, time⟩ := List.append_inj' same (by simp)
    obtain ⟨same, previous⟩ := List.append_inj' same (by simp)
    -- The changes may differ in width, the balance before them does not.
    obtain ⟨balance, changes⟩ := List.append_inj same (by simp)
    rw [amountBytes_inj balance, changesBytes_inj changes, BlockHash.bytes_inj previous, timeBytes_inj time]
  case delegate.delegate =>
    obtain ⟨same, time⟩ := List.append_inj' same (by simp)
    obtain ⟨same, share⟩ := List.append_inj' same (by simp)
    obtain ⟨balance, previous⟩ := List.append_inj' same (by simp)
    rw [amountBytes_inj balance, BlockHash.bytes_inj previous, shareBytes_inj share, timeBytes_inj time]
  all_goals cases kinds

theorem digest_eq_iff {c d : Content} : c.digest = d.digest ↔ c = d := by
  constructor
  · exact eq_of_digest
  · rintro rfl
    rfl

end Content

-- Blocks have one digest if and only if they are of one kind and say the same. The
-- signatures are no part of it, and whatever else is altered alters it: one field,
-- one vote, or the order of the votes, however many there are. The number of the
-- changes is cut to four bytes, and still no two lists are confused.
theorem Block.digest_tells_all (a b : Block) :
    (a.digest = b.digest ↔ a.kind = b.kind ∧ a.content = b.content) ∧
    (∀ owner witness, (Block.mk a.content owner witness).digest = a.digest) ∧
    (∀ k l, (a.sign k).digest = a.digest ∧ (a.signWitness l).digest = a.digest) ∧
    (∀ content owner witness, content ≠ a.content → (Block.mk content owner witness).digest ≠ a.digest) ∧
    (∀ balance balance' changes changes' previous previous' time time',
      (Content.change balance changes previous time).digest = (Content.change balance' changes' previous' time').digest ↔
        balance = balance' ∧ changes = changes' ∧ previous = previous' ∧ time = time') := by
  refine ⟨?_, fun _ _ => rfl, fun _ _ => ⟨rfl, rfl⟩, ?_, ?_⟩
  · rw [digest, digest, Content.digest_eq_iff]
    constructor
    · intro same
      exact ⟨by rw [kind, kind, same], same⟩
    · exact And.right
  · intro content owner witness altered same
    exact altered (Content.eq_of_digest same)
  · intro balance balance' changes changes' previous previous' time time'
    rw [Content.digest_eq_iff, Content.change.injEq]

end BlockLattice
