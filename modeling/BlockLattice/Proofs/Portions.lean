import BlockLattice.Share

namespace BlockLattice

namespace Share

theorem portion_le (n : Nat) {s : Share} (within : s.points.toNat ≤ whole) : n * s.points.toNat / whole ≤ n := by
  apply Nat.div_le_of_le_mul
  rw [Nat.mul_comm whole]
  exact Nat.mul_le_mul_left _ within

theorem portion_mono {n m : Nat} {s t : Share} (amounts : n ≤ m) (shares : s.points ≤ t.points) :
    n * s.points.toNat / whole ≤ m * t.points.toNat / whole :=
  Nat.div_le_div_right (Nat.mul_le_mul amounts (UInt16.le_iff_toNat_le.mp shares))

theorem portion_split (n : Nat) (s : Share) :
    n / whole * s.points.toNat + n % whole * s.points.toNat / whole = n * s.points.toNat / whole :=
  calc n / whole * s.points.toNat + n % whole * s.points.toNat / whole
    _ = (whole * (n / whole * s.points.toNat) + n % whole * s.points.toNat) / whole :=
        (Nat.mul_add_div (by decide) _ _).symm
    _ = (whole * (n / whole) + n % whole) * s.points.toNat / whole := by rw [Nat.add_mul, Nat.mul_assoc]
    _ = n * s.points.toNat / whole := by rw [Nat.div_add_mod]

theorem rest_lt (n : Nat) {s : Share} (within : s.points.toNat ≤ whole) :
    n % whole * s.points.toNat < whole * whole := by
  have rest : n % whole < whole := Nat.mod_lt n (by decide)
  calc n % whole * s.points.toNat
    _ ≤ n % whole * whole := Nat.mul_le_mul_left _ within
    _ < whole * whole := Nat.mul_lt_mul_of_pos_right rest (by decide)

end Share

namespace Amount

theorem exact_eq {cause : Overflow} {n : Nat} {a : Amount} (same : a.raw = n) : exact cause n = .ok a := by
  rw [exact, ofRaw?_eq_some.mpr same]

theorem portion_lt (a : Amount) {s : Share} (within : s.points.toNat ≤ Share.whole) :
    a.raw * s.points.toNat / Share.whole < size :=
  Nat.lt_of_le_of_lt (Share.portion_le a.raw within) a.raw_lt

theorem wholes_lt (a : Amount) {s : Share} (within : s.points.toNat ≤ Share.whole) :
    a.raw / Share.whole * s.points.toNat < size := by
  apply Nat.lt_of_le_of_lt _ (a.portion_lt within)
  rw [← Share.portion_split]
  exact Nat.le_add_right _ _

theorem percentOf_exact (a : Amount) {s : Share} (within : s.points.toNat ≤ Share.whole) :
    ∃ part, a.percentOf s = .ok part ∧ part.raw = a.raw * s.points.toNat / Share.whole := by
  have multiplied : exact .multiply (a.raw / Share.whole * s.points.toNat) = .ok ⟨_, a.wholes_lt within⟩ := exact_eq rfl
  refine ⟨⟨_, a.portion_lt within⟩, ?_, rfl⟩
  rw [percentOf, multiplied]
  exact exact_eq (Share.portion_split a.raw s).symm

-- For a share of at most the whole, both products and their sum are in range, and
-- the part is the product over all integers, divided and rounded down. It is no more
-- than the amount, and a larger amount or share gives no smaller part.
theorem percentOf_floor (a : Amount) {s : Share} (within : s.points.toNat ≤ Share.whole) :
    a.raw / Share.whole * s.points.toNat < size ∧ a.raw % Share.whole * s.points.toNat < size ∧
    a.raw / Share.whole * s.points.toNat + a.raw % Share.whole * s.points.toNat / Share.whole < size ∧
    ∃ part, a.percentOf s = .ok part ∧ part.raw = a.raw * s.points.toNat / Share.whole ∧ part.raw ≤ a.raw ∧
      ∀ (b : Amount) (t : Share), a.raw ≤ b.raw → s.points ≤ t.points → t.points.toNat ≤ Share.whole →
        ∃ larger, b.percentOf t = .ok larger ∧ part.raw ≤ larger.raw := by
  obtain ⟨part, done, floor⟩ := a.percentOf_exact within
  refine ⟨a.wholes_lt within, ?_, ?_, part, done, floor, ?_, ?_⟩
  · exact Nat.lt_trans (Share.rest_lt a.raw within) (by decide)
  · rw [Share.portion_split]
    exact a.portion_lt within
  · rw [floor]
    exact Share.portion_le a.raw within
  · intro b t amounts shares bounded
    obtain ⟨larger, followed, above⟩ := b.percentOf_exact bounded
    refine ⟨larger, followed, ?_⟩
    rw [floor, above]
    exact Share.portion_mono amounts shares

theorem percentOf_largest : (Share.mk 9999).points.toNat ≤ Share.whole ∧
    ∃ part larger, largest.percentOf ⟨9999⟩ = .ok part ∧ part.raw = (size - 1) * 9999 / 10000 ∧
      largest.percentOf .full = .ok larger ∧ part.raw ≤ larger.raw := by
  have within : (Share.mk 9999).points.toNat ≤ Share.whole := by decide
  obtain ⟨_, _, _, part, done, floor, _, monotone⟩ := largest.percentOf_floor within
  obtain ⟨larger, followed, above⟩ := monotone largest .full (Nat.le_refl _) (by decide) (by decide)
  exact ⟨within, part, larger, done, floor, followed, above⟩

example : largest.percentOf ⟨10001⟩ = .error .multiply := rfl

end Amount
end BlockLattice
