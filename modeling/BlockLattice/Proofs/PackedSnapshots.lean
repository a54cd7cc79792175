import BlockLattice.Proofs.SnapshotDigests
import BlockLattice.Snapshot.Packed

namespace BlockLattice

namespace Bytes

theorem littleEndian_ofLittleEndian (bytes : Bytes) : littleEndian bytes.length (ofLittleEndian bytes) = bytes :=
  ofLittleEndian_inj (length_littleEndian ..) (ofLittleEndian_littleEndian_of_lt (ofLittleEndian_lt bytes))

theorem bigEndian_ofBigEndian (bytes : Bytes) : bigEndian bytes.length (ofBigEndian bytes) = bytes := by
  have turned := littleEndian_ofLittleEndian bytes.reverse
  rw [List.length_reverse] at turned
  rw [bigEndian, ofBigEndian, turned, List.reverse_reverse]

theorem bigEndian_bits {bytes : Bytes} (long : bytes.length = 32) :
    bigEndian 32 (BitVec.ofNat 256 (ofBigEndian bytes)).toNat = bytes := by
  have fits : ofBigEndian bytes < 2 ^ 256 := by
    have below := ofLittleEndian_lt bytes.reverse
    rwa [List.length_reverse, long] at below
  rw [BitVec.toNat_ofNat, Nat.mod_eq_of_lt fits, ← long]
  exact bigEndian_ofBigEndian bytes

end Bytes

theorem AccountId.bytes_ofBytes {bytes : Bytes} (long : bytes.length = 32) : (ofBytes bytes).bytes = bytes :=
  Bytes.bigEndian_bits long

theorem BlockHash.bytes_ofBytes {bytes : Bytes} (long : bytes.length = 32) : (ofBytes bytes).bytes = bytes :=
  Bytes.bigEndian_bits long

namespace Snapshot

namespace Packed

variable {α β : Type} {Fits : α → Prop} {write : α → Bytes} {read : Reader α} {bs rest : Bytes}

-- What is written is found with anything behind it, and nothing else is found.
-- `Fits` are the values that the writer has room for.
structure Exact (Fits : α → Prop) (write : α → Bytes) (read : Reader α) : Prop where
  finds : ∀ {a}, Fits a → ∀ rest, read (write a ++ rest) = some (a, rest)
  only : ∀ {bs a rest}, read bs = some (a, rest) → Fits a ∧ bs = write a ++ rest

theorem Exact.bind_eq_some (exact : Exact Fits write read) {next : α × Bytes → Option β} {b : β} :
    (read bs).bind next = some b ↔ ∃ a rest, Fits a ∧ bs = write a ++ rest ∧ next (a, rest) = some b := by
  constructor
  · intro found
    obtain ⟨⟨a, rest⟩, first, later⟩ := Option.bind_eq_some_iff.mp found
    obtain ⟨fits, parts⟩ := exact.only first
    exact ⟨a, rest, fits, parts, later⟩
  · rintro ⟨a, rest, fits, rfl, later⟩
    rw [exact.finds fits]
    exact later

theorem take?_exact (n : Nat) : Exact (fun taken => taken.length = n) id (take? n) where
  finds {taken} long rest := by
    subst long
    simp [take?]
  only found := by
    unfold take? at found
    split at found
    · rename_i long
      cases found
      exact ⟨List.length_take_of_le long, (List.take_append_drop n _).symm⟩
    · cases found

theorem fixed_exact {width : Nat} {read : Bytes → α} (long : ∀ a, (write a).length = width)
    (back : ∀ a, Fits a → read (write a) = a)
    (only : ∀ taken, taken.length = width → Fits (read taken) ∧ write (read taken) = taken) :
    Exact Fits write fun bs => (take? width bs).bind fun (taken, rest) => some (read taken, rest) where
  finds {a} fits rest := by
    have taken : take? width (write a ++ rest) = some (write a, rest) := (take?_exact width).finds (long a) rest
    simp [taken, back a fits]
  only found := by
    simp only [(take?_exact width).bind_eq_some] at found
    obtain ⟨taken, _, long, rfl, ⟨⟩⟩ := found
    obtain ⟨fits, same⟩ := only taken long
    exact ⟨fits, by rw [same, id]⟩

theorem word?_exact (width : Nat) : Exact (· < Bytes.wordCount width) (word width) (word? width) :=
  fixed_exact (Bytes.length_littleEndian width) (fun _ => Bytes.ofLittleEndian_littleEndian_of_lt) fun taken long => by
    subst long
    exact ⟨Bytes.ofLittleEndian_lt taken, Bytes.littleEndian_ofLittleEndian taken⟩

theorem bool?_exact : Exact (fun _ => True) bool bool? where
  finds {b} _ rest := by cases b <;> rfl
  only found := by
    unfold bool? at found
    split at found <;> cases found
    · exact ⟨trivial, rfl⟩
    · exact ⟨trivial, rfl⟩

theorem account?_exact : Exact (fun _ => True) AccountId.bytes account? :=
  fixed_exact AccountId.length_bytes (fun a _ => a.ofBytes_bytes) fun _ long => ⟨trivial, AccountId.bytes_ofBytes long⟩

theorem hash?_exact : Exact (fun _ => True) BlockHash.bytes hash? :=
  fixed_exact BlockHash.length_bytes (fun h _ => h.ofBytes_bytes) fun _ long => ⟨trivial, BlockHash.bytes_ofBytes long⟩

theorem amount?_exact : Exact (fun _ => True) (fun a => word 16 a.raw) amount? where
  finds {a} _ rest := by
    have kept : Amount.ofRaw? a.raw = some a := Amount.ofRaw?_eq_some.mpr rfl
    simp [amount?, (word?_exact 16).finds a.raw_lt, kept]
  only found := by
    simp only [amount?, Option.bind_eq_bind, Option.pure_def, (word?_exact 16).bind_eq_some,
      Option.bind_eq_some_iff, Amount.ofRaw?_eq_some] at found
    obtain ⟨_, _, _, rfl, a, rfl, ⟨⟩⟩ := found
    exact ⟨trivial, rfl⟩

theorem text?_exact : Exact (fun s => s.utf8ByteSize < UInt64.size) text text? where
  finds {s} fits rest := by
    rw [← Bytes.length_ofText] at fits
    have taken : take? (Bytes.ofText s).length (Bytes.ofText s ++ rest) = some (Bytes.ofText s, rest) :=
      (take?_exact _).finds rfl rest
    simp [text?, text, (word?_exact 8).finds fits, taken, Bytes.text?_ofText]
  only found := by
    simp only [text?, Option.bind_eq_bind, Option.pure_def, (word?_exact 8).bind_eq_some,
      (take?_exact _).bind_eq_some, Option.bind_eq_some_iff] at found
    obtain ⟨_, _, fits, rfl, taken, _, rfl, rfl, s, valid, ⟨⟩⟩ := found
    have same := Bytes.ofText_of_text? valid
    rw [← same, Bytes.length_ofText] at fits
    exact ⟨fits, by rw [text, same, List.append_assoc, id]⟩

theorem items?_flatMap (exact : Exact Fits write read) {items : List α} (fits : ∀ a ∈ items, Fits a) (rest : Bytes) :
    items? read items.length (items.flatMap write ++ rest) = some (items, rest) := by
  induction items with
  | nil => rfl
  | cons a others ih =>
    obtain ⟨first, later⟩ := List.forall_mem_cons.mp fits
    simp [items?, List.append_assoc, exact.finds first, ih later]

theorem items?_only (exact : Exact Fits write read) {count : Nat} {items : List α}
    (found : items? read count bs = some (items, rest)) :
    items.length = count ∧ (∀ a ∈ items, Fits a) ∧ bs = items.flatMap write ++ rest := by
  induction count generalizing bs items rest with
  | zero =>
    cases found
    simp
  | succ count ih =>
    simp only [items?, Option.bind_eq_bind, Option.pure_def, exact.bind_eq_some, Option.bind_eq_some_iff,
      Prod.exists] at found
    obtain ⟨a, _, first, rfl, others, _, more, ⟨⟩⟩ := found
    obtain ⟨long, later, rfl⟩ := ih more
    exact ⟨congrArg Nat.succ long, List.forall_mem_cons.mpr ⟨first, later⟩,
      by rw [List.flatMap_cons, List.append_assoc]⟩

theorem list?_exact (exact : Exact Fits write read) :
    Exact (fun items => items.length < UInt64.size ∧ ∀ a ∈ items, Fits a) (list write) (list? read) where
  finds {items} fits rest := by
    simp [list?, list, (word?_exact 8).finds fits.1, items?_flatMap exact fits.2]
  only found := by
    simp only [list?, Option.bind_eq_bind, (word?_exact 8).bind_eq_some] at found
    obtain ⟨count, _, fits, rfl, more⟩ := found
    obtain ⟨rfl, each, rfl⟩ := items?_only exact more
    exact ⟨⟨fits, each⟩, by rw [list, List.append_assoc]⟩

end Packed

-- No text and no list is longer than eight bytes can say, as none is that has an address.
structure Row.Storable (r : Row) : Prop where
  name : r.username.utf8ByteSize < UInt64.size
  votes : r.votes.length < UInt64.size

structure Storable (s : Snapshot) : Prop where
  rows : s.rows.length < UInt64.size
  each : ∀ r ∈ s.rows, r.Storable

namespace Packed

theorem row?_exact : Exact Row.Storable row row? where
  finds {r} storable rest := by
    simp [row?, row, account?_exact.finds, text?_exact.finds storable.name, hash?_exact.finds,
      (word?_exact 8).finds r.blockCount.toNat_lt, amount?_exact.finds, bool?_exact.finds,
      (word?_exact 2).finds r.share.points.toNat_lt, (list?_exact account?_exact).finds ⟨storable.votes, fun _ _ => trivial⟩,
      (word?_exact 8).finds r.forged.toNat_lt, (word?_exact 8).finds r.missed.toNat_lt]
  only found := by
    simp only [row?, Option.bind_eq_bind, Option.pure_def, account?_exact.bind_eq_some, text?_exact.bind_eq_some,
      hash?_exact.bind_eq_some, (word?_exact _).bind_eq_some, amount?_exact.bind_eq_some, bool?_exact.bind_eq_some,
      (list?_exact account?_exact).bind_eq_some] at found
    obtain ⟨id, _, _, rfl, username, _, name, rfl, head, _, _, rfl, blocks, _, counted, rfl, balance, _, _, rfl,
      role, _, _, rfl, share, _, small, rfl, votes, _, ⟨few, _⟩, rfl, forged, _, made, rfl, missed, _, passed, rfl,
      ⟨⟩⟩ := found
    refine ⟨⟨name, few⟩, ?_⟩
    simp only [row, List.append_assoc, UInt64.toNat_ofNat_of_lt' counted, UInt16.toNat_ofNat_of_lt' small,
      UInt64.toNat_ofNat_of_lt' made, UInt64.toNat_ofNat_of_lt' passed]

theorem read?_exact : Exact Storable pack read? where
  finds {s} storable rest := by
    simp [read?, pack, hash?_exact.finds, (word?_exact 8).finds s.blockCount.toNat_lt,
      (word?_exact 8).finds s.createdAt.seconds.toNat_lt, (list?_exact row?_exact).finds ⟨storable.rows, storable.each⟩,
      (word?_exact 4).finds s.version.toNat_lt]
  only found := by
    simp only [read?, Option.bind_eq_bind, Option.pure_def, hash?_exact.bind_eq_some, (word?_exact _).bind_eq_some,
      (list?_exact row?_exact).bind_eq_some] at found
    obtain ⟨hash, _, _, rfl, blocks, _, counted, rfl, created, _, dated, rfl, rows, _, ⟨few, each⟩, rfl,
      version, _, small, rfl, ⟨⟩⟩ := found
    refine ⟨⟨few, each⟩, ?_⟩
    simp only [pack, List.append_assoc, UInt64.toNat_ofNat_of_lt' counted, UInt64.toNat_ofNat_of_lt' dated,
      UInt32.toNat_ofNat_of_lt' small]

end Packed

theorem unpack?_pack {s : Snapshot} (storable : s.Storable) (rest : Bytes) : unpack? (pack s ++ rest) = some s := by
  rw [unpack?, Packed.read?_exact.finds storable]
  rfl

theorem unpack?_eq_some {s : Snapshot} {bs : Bytes} : unpack? bs = some s ↔ s.Storable ∧ pack s <+: bs := by
  constructor
  · intro found
    obtain ⟨⟨_, rest⟩, read, rfl⟩ := Option.map_eq_some_iff.mp found
    obtain ⟨storable, rfl⟩ := Packed.read?_exact.only read
    exact ⟨storable, List.prefix_append ..⟩
  · rintro ⟨storable, rest, rfl⟩
    exact unpack?_pack storable rest

theorem eq_of_pack_start {s u : Snapshot} (storable : s.Storable) (other : u.Storable) (front : pack s <+: pack u) :
    u = s := by
  have read := unpack?_pack other []
  rw [List.append_nil, unpack?_eq_some.mpr ⟨storable, front⟩] at read
  exact (Option.some.inj read).symm

-- A packed snapshot is unpacked as it was, with anything behind it, and holds under its
-- hash exactly if it did before; whatever is unpacked starts with its own packed form;
-- and the form of one snapshot is never the form of another, nor the start of it.
theorem storage_exact {s : Snapshot} (storable : s.Storable) :
    (∀ rest, unpack? (pack s ++ rest) = some s) ∧
    (∀ bs r, unpack? bs = some r ↔ r.Storable ∧ pack r <+: bs) ∧
    (∀ rest, (unpack? (pack s ++ rest)).map verify = some s.verify) ∧
    (∀ u : Snapshot, u.Storable → u ≠ s → pack u ≠ pack s ∧ ¬ pack s <+: pack u) := by
  refine ⟨unpack?_pack storable, fun _ _ => unpack?_eq_some, fun rest => ?_, fun u other differs => ⟨fun same => ?_, ?_⟩⟩
  · rw [unpack?_pack storable]
    rfl
  · exact differs (eq_of_pack_start storable other (same ▸ List.prefix_rfl))
  · exact fun front => differs (eq_of_pack_start storable other front)

instance (r : Row) : Decidable r.Storable :=
  decidable_of_iff (r.username.utf8ByteSize < UInt64.size ∧ r.votes.length < UInt64.size)
    ⟨fun both => ⟨both.1, both.2⟩, fun storable => ⟨storable.name, storable.votes⟩⟩

instance (s : Snapshot) : Decidable s.Storable :=
  decidable_of_iff (s.rows.length < UInt64.size ∧ ∀ r ∈ s.rows, r.Storable)
    ⟨fun both => ⟨both.1, both.2⟩, fun storable => ⟨storable.rows, storable.each⟩⟩

theorem enriched_stored : enriched.Storable ∧ taken.Storable ∧ unpack? (pack enriched ++ [7]) = some enriched ∧
    (unpack? (pack enriched ++ [7])).map verify = some false ∧ ¬ pack enriched <+: pack taken := by
  have mine : enriched.Storable := by decide
  have its : taken.Storable := by decide
  have differ : taken ≠ enriched := by decide +kernel
  obtain ⟨found, _, verified, apart⟩ := storage_exact mine
  exact ⟨mine, its, found [7], (verified [7]).trans (by decide +kernel), (apart taken its differ).2⟩

end Snapshot
end BlockLattice
