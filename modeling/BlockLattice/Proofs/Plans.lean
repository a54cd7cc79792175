import Mathlib.Algebra.GroupWithZero.Nat
import BlockLattice.Payout
import BlockLattice.Proofs.Portions

namespace BlockLattice

theorem Amount.isZero_iff_raw {a : Amount} : a.isZero = true ↔ a.raw = 0 := by simp [isZero]

namespace Payout

def due (dues : List Due) : Nat := (dues.map fun d => d.amount.raw).sum

theorem due_append (xs ys : List Due) : due (xs ++ ys) = due xs + due ys := by
  simp [due]

theorem eachPart_exact (reward : Amount) {share : Share} (within : share.points.toNat ≤ Share.whole) (holders : Nat) :
    ∃ each, eachPart reward share holders = .ok each ∧
      each.raw = reward.raw * share.points.toNat / Share.whole / holders := by
  obtain ⟨passed, passing, raw⟩ := reward.percentOf_exact within
  unfold eachPart
  rw [passing]
  simp only [bind, Except.bind, Amount.split]
  by_cases nobody : holders = 0
  · rw [if_pos nobody, nobody, Nat.div_zero]
    exact ⟨.zero, rfl, rfl⟩
  · rw [if_neg nobody, ← raw]
    exact ⟨_, rfl, rfl⟩

theorem parts_le (reward : Nat) {share : Share} (within : share.points.toNat ≤ Share.whole) (holders : Nat) :
    holders * (reward * share.points.toNat / Share.whole / holders) ≤ reward :=
  Nat.le_trans (Nat.mul_div_le _ _) (Share.portion_le reward within)

theorem due_holderDues (each : Amount) (holders : List AccountId) :
    due (holderDues each holders) = holders.length * each.raw := by
  unfold holderDues
  split
  · rename_i zero
    rw [Amount.isZero_iff_raw.mp zero]
    rfl
  · induction holders with
    | nil => simp [due]
    | cons h rest ih =>
      rw [List.map_cons, List.length_cons, Nat.succ_mul, ← ih]
      simp [due, Nat.add_comm]

theorem raw_kept (reward : Amount) (dues : List Due) : (kept reward dues).raw = reward.raw - due dues := by
  unfold kept
  induction dues generalizing reward with
  | nil => simp [due]
  | cons d rest ih =>
    rw [List.foldl_cons, ih, Amount.raw_saturatingSub]
    simp [due, Nat.sub_sub]

theorem plan_ok {reward : Amount} {share : Share} {forger : AccountId} {holders : List AccountId} {dues : List Due}
    (done : plan reward share forger holders = .ok dues) :
    ∃ each, eachPart reward share holders.length = .ok each ∧
      dues = holderDues each holders ++
        if (kept reward (holderDues each holders)).isZero then []
        else [⟨forger, kept reward (holderDues each holders)⟩] := by
  unfold plan at done
  cases parting : eachPart reward share holders.length with
  | error e => rw [parting] at done; cases done
  | ok each =>
    rw [parting] at done
    exact ⟨each, rfl, (Except.ok.inj done).symm⟩

theorem due_plan {reward : Amount} {share : Share} {forger : AccountId} {holders : List AccountId} {dues : List Due}
    (within : share.points.toNat ≤ Share.whole) (done : plan reward share forger holders = .ok dues) :
    due dues = reward.raw := by
  obtain ⟨each, parting, rfl⟩ := plan_ok done
  obtain ⟨_, again, raw⟩ := eachPart_exact reward within holders.length
  rw [parting] at again
  cases again
  have bound : due (holderDues each holders) ≤ reward.raw := by
    rw [due_holderDues, raw]
    exact parts_le reward.raw within holders.length
  have rest := raw_kept reward (holderDues each holders)
  rw [due_append]
  split
  · rename_i zero
    have nothing := Amount.isZero_iff_raw.mp zero
    simp only [due, List.map_nil, List.sum_nil] at bound rest ⊢
    omega
  · simp only [due, List.map_cons, List.map_nil, List.sum_cons, List.sum_nil] at bound rest ⊢
    omega

theorem plan_pays {reward : Amount} {share : Share} {forger : AccountId} {holders : List AccountId} {dues : List Due}
    (done : plan reward share forger holders = .ok dues) : ∀ d ∈ dues, 0 < d.amount.raw := by
  obtain ⟨each, _, rfl⟩ := plan_ok done
  have positive : ∀ {a : Amount}, ¬a.isZero = true → 0 < a.raw := by
    intro a some
    rw [Amount.isZero_iff_raw] at some
    exact Nat.pos_of_ne_zero some
  intro d listed
  rcases List.mem_append.mp listed with holder | forger
  · unfold holderDues at holder
    split at holder
    · cases holder
    · rename_i each
      obtain ⟨h, _, rfl⟩ := List.mem_map.mp holder
      exact positive each
  · split at forger
    · cases forger
    · rename_i rest
      rw [List.mem_singleton.mp forger]
      exact positive rest

theorem plan_of_share (reward : Amount) {share : Share} (within : share.points.toNat ≤ Share.whole) (forger : AccountId)
    (holders : List AccountId) : ∃ dues, plan reward share forger holders = .ok dues := by
  obtain ⟨each, parting, _⟩ := eachPart_exact reward within holders.length
  unfold plan
  rw [parting]
  exact ⟨_, rfl⟩

def Due.entry (d : Due) : AccountId × Nat := (d.account, d.amount.raw)

theorem entries_holderDues (each : Amount) (holders : List AccountId) :
    (holderDues each holders).map Due.entry = (if each.raw = 0 then [] else holders).map fun h => (h, each.raw) := by
  unfold holderDues
  by_cases nothing : each.raw = 0
  · rw [if_pos (Amount.isZero_iff_raw.mpr nothing), if_pos nothing]
    rfl
  · rw [if_neg (fun zero => nothing (Amount.isZero_iff_raw.mp zero)), if_neg nothing, List.map_map]
    rfl

-- A share of at most the whole can always be planned. Each holder is listed in its
-- turn with the same part, unless that is nothing; the forger comes last with what
-- is left, unless that is nothing; nobody is listed for nothing, and the parts are
-- the reward.
theorem plan_conserves (reward : Amount) {share : Share} (within : share.points.toNat ≤ Share.whole)
    (forger : AccountId) (holders : List AccountId) :
    let each := reward.raw * share.points.toNat / Share.whole / holders.length
    let paid := if each = 0 then [] else holders
    let rest := reward.raw - paid.length * each
    paid.length * each ≤ reward.raw ∧
    ∃ dues, plan reward share forger holders = .ok dues ∧
      dues.map Due.entry = paid.map (fun h => (h, each)) ++ (if rest = 0 then [] else [(forger, rest)]) ∧
      (∀ d ∈ dues, 0 < d.amount.raw) ∧ due dues = reward.raw := by
  intro each paid rest
  obtain ⟨dues, planned⟩ := plan_of_share reward within forger holders
  obtain ⟨part, parting, listed⟩ := plan_ok planned
  obtain ⟨_, again, raw⟩ := eachPart_exact reward within holders.length
  rw [parting] at again
  cases again
  have same : paid.length * each = holders.length * each := by
    by_cases nothing : each = 0
    · rw [nothing, Nat.mul_zero, Nat.mul_zero]
    · rw [show paid = holders from if_neg nothing]
  have left : (kept reward (holderDues part holders)).raw = rest := by
    rw [raw_kept, due_holderDues, raw, ← same]
  refine ⟨?_, dues, planned, ?_, plan_pays planned, due_plan within planned⟩
  · rw [same]
    exact parts_le reward.raw within holders.length
  · rw [listed, List.map_append, entries_holderDues, raw]
    congr 1
    by_cases spent : rest = 0
    · rw [if_pos (Amount.isZero_iff_raw.mpr (left.trans spent)), if_pos spent]
      rfl
    · rw [if_neg (fun zero => spent (left.symm.trans (Amount.isZero_iff_raw.mp zero))), if_neg spent, ← left]
      rfl

theorem plan_thirds : (Share.mk 4000).points.toNat ≤ Share.whole ∧
    ∃ dues, plan (.clamp 100000000) ⟨4000⟩ ⟨9⟩ [⟨1⟩, ⟨9⟩, ⟨3⟩] = .ok dues ∧
      dues.map Due.entry = [(⟨1⟩, 13333333), (⟨9⟩, 13333333), (⟨3⟩, 13333333), (⟨9⟩, 60000001)] := by
  have within : (Share.mk 4000).points.toNat ≤ Share.whole := by decide
  obtain ⟨_, dues, planned, entries, _⟩ := plan_conserves (.clamp 100000000) within ⟨9⟩ [⟨1⟩, ⟨9⟩, ⟨3⟩]
  refine ⟨within, dues, planned, ?_⟩
  rw [entries]
  rfl

end Payout
end BlockLattice
