import Mathlib.Data.List.Induction
import Mathlib.Data.List.Nodup
import BlockLattice.Proofs.ChainStructure
import BlockLattice.Proofs.Conservation
import BlockLattice.Proofs.Digests

namespace BlockLattice

-- Blocks that say different things have different hashes, and no block has the
-- hash that stands for none.
structure Clear (bs : List Block) : Prop where
  named : ∀ b ∈ bs, b.hash ≠ .zero
  apart : ∀ a ∈ bs, ∀ b ∈ bs, a.hash = b.hash → a.digest = b.digest

instance (bs : List Block) : Decidable (Clear bs) :=
  decidable_of_iff ((∀ b ∈ bs, b.hash ≠ .zero) ∧ ∀ a ∈ bs, ∀ b ∈ bs, a.hash = b.hash → a.digest = b.digest)
    ⟨fun both => ⟨both.1, both.2⟩, fun clear => ⟨clear.named, clear.apart⟩⟩

theorem Clear.mono {xs ys : List Block} (clear : Clear ys) (among : xs ⊆ ys) : Clear xs where
  named b member := clear.named b (among member)
  apart a first b second := clear.apart a (among first) b (among second)

theorem Clear.content_eq {bs : List Block} (clear : Clear bs) {a b : Block} (first : a ∈ bs) (second : b ∈ bs)
    (same : a.hash = b.hash) : a.content = b.content :=
  Content.eq_of_digest (clear.apart a first b second same)

namespace Chain

variable {c d : Chain}

theorem head_of_blank (whole : c.intact = true) (blank : c.blocks = []) : c.head = .zero := by
  simpa [intact, blank] using whole

theorem intact_snoc {xs : List Block} {b : Block} (ends : c.blocks = xs ++ [b]) (whole : c.intact = true) :
    b.hash = c.head ∧ ({ c with head := b.previous, blocks := xs } : Chain).intact = true := by
  unfold intact at whole ⊢
  rw [ends] at whole
  cases xs with
  | nil =>
    simp only [List.nil_append, Bool.and_eq_true, beq_iff_eq] at whole
    obtain ⟨opens, reached⟩ := whole
    refine ⟨Option.some.inj reached, ?_⟩
    unfold Block.isOpening at opens
    simp only [beq_iff_eq, Block.previous]
    cases content : b.content with
    | opening account balance time => rfl
    | _ => rw [content] at opens; cases opens
  | cons first rest =>
    simp only [List.cons_append, Bool.and_eq_true, beq_iff_eq] at whole ⊢
    obtain ⟨opens, walked⟩ := whole
    obtain ⟨before, _, last⟩ := walk_snoc_eq_some.mp walked
    exact ⟨last, opens, before⟩

-- By induction from the end: blocks of one hash say the same, and then name the
-- same hash before them.
theorem contents_eq (left : c.intact = true) (right : d.intact = true) (same : c.head = d.head)
    (clear : Clear (c.blocks ++ d.blocks)) : c.blocks.map Block.content = d.blocks.map Block.content := by
  obtain ⟨i, g, xs⟩ := c
  obtain ⟨j, h, ys⟩ := d
  dsimp only at same clear ⊢
  subst same
  induction xs using List.reverseRecOn generalizing g ys with
  | nil =>
    have blank := head_of_blank left rfl
    rcases List.eq_nil_or_concat ys with rfl | ⟨before, b, rfl⟩
    · rfl
    · have final := (intact_snoc List.concat_eq_append right).1
      exact absurd (final.trans blank) (clear.named b (by simp))
  | append_singleton earlier a ih =>
    obtain ⟨last, shorter⟩ := intact_snoc rfl left
    rcases List.eq_nil_or_concat ys with rfl | ⟨before, b, rfl⟩
    · have blank := head_of_blank right rfl
      exact absurd (last.trans blank) (clear.named a (by simp))
    · rw [List.concat_eq_append] at right clear ⊢
      obtain ⟨final, fewer⟩ := intact_snoc rfl right
      have content := clear.content_eq (by simp) (by simp) (last.trans final.symm)
      have previous : b.previous = a.previous := by rw [Block.previous, Block.previous, content]
      dsimp only at shorter fewer
      rw [previous] at fewer
      have among := (List.sublist_append_left earlier [a]).append (List.sublist_append_left before [b])
      have rest := ih a.previous shorter before (clear.mono among.subset) fewer
      simp only [List.map_append, List.map_cons, List.map_nil, content, rest]

theorem intact_prefix {xs ys : List Block} {x : Block} (ends : c.blocks = xs ++ [x] ++ ys) (whole : c.intact = true) :
    ({ c with head := x.hash, blocks := xs ++ [x] } : Chain).intact = true := by
  induction ys using List.reverseRecOn generalizing c with
  | nil =>
    rw [List.append_nil] at ends
    rw [(intact_snoc ends whole).1, ← ends]
    exact whole
  | append_singleton before y ih =>
    rw [← List.append_assoc] at ends
    exact ih (c := { c with head := y.previous, blocks := xs ++ [x] ++ before }) rfl (intact_snoc ends whole).2

theorem nodup_contents (whole : c.intact = true) (clear : Clear c.blocks) : (c.blocks.map Block.content).Nodup := by
  obtain ⟨id, head, bs⟩ := c
  dsimp only at clear ⊢
  induction bs using List.reverseRecOn generalizing head with
  | nil => exact List.nodup_nil
  | append_singleton before b ih =>
    obtain ⟨last, shorter⟩ := intact_snoc rfl whole
    have earlier := ih b.previous shorter (clear.mono (List.subset_append_left before [b]))
    rw [List.map_append, List.map_singleton, ← List.concat_eq_append, List.nodup_concat]
    refine ⟨fun member => ?_, earlier⟩
    obtain ⟨x, inside, tells⟩ := List.mem_map.mp member
    obtain ⟨xs, ys, rfl⟩ := List.append_of_mem inside
    have parts : xs ++ x :: ys = xs ++ [x] ++ ys := by simp
    have started := intact_prefix parts shorter
    have named : x.hash = head := by rw [Block.hash, tells]; exact last
    have upper : xs ++ [x] ⊆ xs ++ x :: ys ++ [b] := List.IsPrefix.subset ⟨ys ++ [b], by simp⟩
    have all := contents_eq started whole named (clear.mono (List.append_subset.mpr ⟨upper, List.Subset.refl _⟩))
    have count := congrArg List.length all
    simp only [List.length_map, List.length_append, List.length_cons, List.length_nil] at count
    omega

inductive Altered (xs : List Block) : List Block → Prop where
  | replaced {k : Nat} {a b : Block} : xs[k]? = some a → b.content ≠ a.content → Altered xs (xs.set k b)
  | inserted {ys : List Block} : xs.Sublist ys → ys ≠ xs → Altered xs ys
  | dropped {ys : List Block} : ys.Sublist xs → ys ≠ xs → Altered xs ys
  | reordered {ys : List Block} : ys.Perm xs → ys ≠ xs → Altered xs ys

theorem Altered.contents_ne {xs ys : List Block} (altered : Altered xs ys) (distinct : (xs.map Block.content).Nodup) :
    xs.map Block.content ≠ ys.map Block.content := by
  intro same
  have count : xs.length = ys.length := by simpa using congrArg List.length same
  cases altered with
  | @replaced k a b found other =>
    have there := congrArg (fun contents => contents[k]?) same
    have bound := (List.getElem?_eq_some_iff.mp found).1
    simp only [List.getElem?_map, found, List.getElem?_set_self bound, Option.map_some, Option.some.injEq] at there
    exact other there.symm
  | inserted grown differ => exact differ (grown.eq_of_length count).symm
  | dropped shrunk differ => exact differ (shrunk.eq_of_length count.symm)
  | reordered shuffled differ =>
    -- Where each content comes once, the contents in order are the blocks in order.
    refine differ (List.ext_getElem count.symm fun k left right => ?_)
    have there := congrArg (fun contents => contents[k]?) same
    simp only [List.getElem?_map, List.getElem?_eq_getElem left, List.getElem?_eq_getElem right, Option.map_some,
      Option.some.injEq] at there
    exact List.inj_on_of_nodup_map distinct (shuffled.mem_iff.mp (List.getElem_mem left)) (List.getElem_mem right)
      there.symm

-- Whatever chain has the head of an intact one and is intact itself has as many
-- blocks and says the same at every height: what may differ are the signatures.
-- So an intact chain does not stay intact under its head when a block is replaced
-- by one that says something else, or blocks are put in, left out or moved.
theorem head_commits (whole : c.intact = true) :
    (∀ d : Chain, d.intact = true → d.head = c.head → Clear (c.blocks ++ d.blocks) →
      d.length = c.length ∧
      ∀ k a b, c.get? k = some a → d.get? k = some b → b.kind = a.kind ∧ b.content = a.content) ∧
    (∀ bs, Clear (c.blocks ++ bs) → Altered c.blocks bs → ({ c with blocks := bs } : Chain).intact = false) := by
  constructor
  · intro d right same clear
    have contents := contents_eq whole right same.symm clear
    refine ⟨by simpa [length] using (congrArg List.length contents).symm, fun k a b left other => ?_⟩
    have there := congrArg (fun contents => contents[k]?) contents
    rw [get?] at left other
    simp only [List.getElem?_map, left, other, Option.map_some, Option.some.injEq] at there
    exact ⟨by rw [Block.kind, Block.kind, there], there.symm⟩
  · intro bs clear altered
    rw [Bool.eq_false_iff]
    intro right
    have distinct := nodup_contents whole (clear.mono (List.subset_append_left _ _))
    exact altered.contents_ne distinct (contents_eq whole right rfl clear)

def spent : Chain := ⟨Ledger.payer.id, Ledger.paid.hash, [Ledger.funds Ledger.payer (.clamp 10000000), Ledger.paid]⟩

def endorsed : Chain := { spent with
  blocks := [Ledger.funds Ledger.payer (.clamp 10000000), { Ledger.paid with owner := some ⟨1⟩ }] }

set_option maxRecDepth 100000 in
theorem spent_seen : spent.intact = true ∧ endorsed.intact = true ∧ Clear (spent.blocks ++ endorsed.blocks) := by
  decide +kernel

theorem spent_commits : spent.intact = true ∧ endorsed.intact = true ∧ endorsed ≠ spent ∧
    endorsed.length = spent.length ∧
    (∀ k a b, spent.get? k = some a → endorsed.get? k = some b → b.kind = a.kind ∧ b.content = a.content) ∧
    ({ spent with blocks := [Ledger.paid] } : Chain).intact = false := by
  obtain ⟨whole, signed, clear⟩ := spent_seen
  obtain ⟨length, contents⟩ := (head_commits whole).1 endorsed signed rfl clear
  refine ⟨whole, signed, by simp [endorsed, spent, Ledger.paid, Block.unsigned], length, contents, ?_⟩
  have among : spent.blocks ++ [Ledger.paid] ⊆ spent.blocks ++ endorsed.blocks := by
    refine List.append_subset.mpr ⟨List.subset_append_left _ _, ?_⟩
    simp [spent]
  exact (head_commits whole).2 [Ledger.paid] (clear.mono among) (.dropped (List.sublist_cons_self ..) (by simp [spent]))

end Chain
end BlockLattice
