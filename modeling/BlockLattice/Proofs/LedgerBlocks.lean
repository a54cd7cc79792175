import Mathlib.Algebra.GroupWithZero.Nat
import Mathlib.Data.List.Induction
import BlockLattice.Proofs.LedgerViews

namespace BlockLattice

-- When each block turns the balance before it into its own by what it gains and
-- what it is charged, then so does the whole chain.
theorem Chain.telescope {gain charge : Block → Nat} {blocks : List Block}
    (first : ∀ b, blocks[0]? = some b → b.balance.raw + charge b = gain b)
    (next : ∀ (k : Nat) a b, blocks[k]? = some a → blocks[k + 1]? = some b →
      b.balance.raw + charge b = a.balance.raw + gain b) :
    (blocks.getLast?.map fun b => b.balance.raw).getD 0 + (blocks.map charge).sum = (blocks.map gain).sum := by
  induction blocks using List.reverseRecOn with
  | nil => rfl
  | append_singleton before b ih =>
    have shorter : ∀ (k : Nat) a, before[k]? = some a → (before ++ [b])[k]? = some a := by
      intro k a found
      rw [List.getElem?_append_left (List.getElem?_eq_some_iff.mp found).1]
      exact found
    have prior := ih (fun a found => first a (shorter 0 a found))
      fun k a x left right => next k a x (shorter k a left) (shorter (k + 1) x right)
    have last : b.balance.raw + charge b = (before.getLast?.map fun a => a.balance.raw).getD 0 + gain b := by
      cases under : before.getLast? with
      | none =>
        rw [List.getLast?_eq_none_iff.mp under] at first
        simpa using first b rfl
      | some a =>
        rw [List.getLast?_eq_getElem?] at under
        have bound := (List.getElem?_eq_some_iff.mp under).1
        have top : before.length - 1 + 1 = before.length := by omega
        exact next (before.length - 1) a b (shorter _ a under) (by rw [top]; simp)
    simp only [List.map_append, List.sum_append, List.map_cons, List.map_nil, List.sum_cons, List.sum_nil,
      List.getLast?_concat, Option.map_some, Option.getD_some]
    omega

namespace Ledger

def blocks (l : Ledger) : List Block := l.chains.toList.flatMap fun (_, c) => c.blocks

variable {l : Ledger}

theorem mem_blocks {b : Block} : b ∈ l.blocks ↔ ∃ id k, l.blockAt? id k = some b := by
  simp only [blocks, List.mem_flatMap, Prod.exists, Std.ExtTreeMap.mem_toList_iff_getElem?_eq_some]
  constructor
  · rintro ⟨id, c, held, member⟩
    obtain ⟨k, stored⟩ := List.mem_iff_getElem?.mp member
    exact ⟨id, k, blockAt?_eq_some.mpr ⟨c, held, stored⟩⟩
  · rintro ⟨id, k, found⟩
    obtain ⟨c, held, stored⟩ := blockAt?_eq_some.mp found
    exact ⟨id, c, held, List.mem_of_getElem? stored⟩

theorem pairwise_blocks {R : Block → Block → Prop}
    (apart : ∀ {i j k m a b}, l.blockAt? i k = some a → l.blockAt? j m = some b → ¬(i = j ∧ k = m) → R a b) :
    l.blocks.Pairwise R := by
  rw [blocks, List.pairwise_flatMap]
  constructor
  · rintro ⟨id, c⟩ held
    rw [Std.ExtTreeMap.mem_toList_iff_getElem?_eq_some] at held
    rw [List.pairwise_iff_getElem]
    intro k m left right before
    have lower : l.blockAt? id k = some c.blocks[k] :=
      blockAt?_eq_some.mpr ⟨c, held, List.getElem?_eq_getElem left⟩
    have upper : l.blockAt? id m = some c.blocks[m] :=
      blockAt?_eq_some.mpr ⟨c, held, List.getElem?_eq_getElem right⟩
    exact apart lower upper (by omega)
  · apply Std.ExtTreeMap.distinct_keys_toList.imp_of_mem
    rintro ⟨i, c⟩ ⟨j, d⟩ held other differ a inside b beside
    rw [Std.ExtTreeMap.mem_toList_iff_getElem?_eq_some] at held other
    obtain ⟨k, stored⟩ := List.mem_iff_getElem?.mp inside
    obtain ⟨m, kept⟩ := List.mem_iff_getElem?.mp beside
    apply apart (blockAt?_eq_some.mpr ⟨c, held, stored⟩) (blockAt?_eq_some.mpr ⟨d, other, kept⟩)
    rintro ⟨rfl, _⟩
    exact differ Std.ReflCmp.compare_self

theorem Sound.nodup_hashes (sound : l.Sound) : (l.blocks.map Block.hash).Nodup := by
  rw [List.Nodup, List.pairwise_map]
  apply pairwise_blocks
  intro i j k m a b left right other same
  exact other (sound.unique left right same)

theorem Sound.nodup_sources (sound : l.Sound) : (l.blocks.filterMap Block.source?).Nodup := by
  rw [List.Nodup, List.pairwise_filterMap]
  apply pairwise_blocks
  rintro i j k m a b left right other s names _ again rfl
  exact other (sound.received_once left right names again)

theorem sum_blocks (f : Block → Nat) :
    (l.blocks.map f).sum = (l.chains.toList.map fun (_, c) => (c.blocks.map f).sum).sum := by
  rw [blocks]
  induction l.chains.toList with
  | nil => rfl
  | cons entry rest ih => simp [ih]

end Ledger
end BlockLattice
