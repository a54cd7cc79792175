namespace BlockLattice.Digits

def chars (n : Nat) : List Char := Nat.toDigits 10 n

def value (digits : List Char) : Nat := Nat.ofDigitChars 10 digits 0

def allDigits (cs : List Char) : Bool := cs.all Char.isDigit

def padded (width n : Nat) : List Char :=
  List.replicate (width - (chars n).length) '0' ++ chars n

@[simp] theorem value_chars (n : Nat) : value (chars n) = n :=
  Nat.ofDigitChars_ten_toDigits

theorem allDigits_chars (n : Nat) : allDigits (chars n) = true := by
  rw [allDigits, List.all_eq_true]
  exact fun _ member => Nat.isDigit_of_mem_toDigits (by decide) (by decide) member

theorem chars_ne_nil (n : Nat) : chars n ≠ [] := Nat.toDigits_ne_nil

theorem value_padded (width n : Nat) : value (padded width n) = n := by
  unfold value padded
  rw [Nat.ofDigitChars_append, Nat.ofDigitChars_replicate_zero, Nat.mul_zero]
  exact value_chars n

theorem allDigits_iff {cs : List Char} : allDigits cs = true ↔ ∀ c ∈ cs, c.isDigit = true := List.all_eq_true

theorem head?_chars {n : Nat} (positive : 0 < n) : (chars n).head? ≠ some '0' := by
  induction n using Nat.strongRecOn with
  | ind n ih =>
    unfold chars at ih ⊢
    rw [Nat.toDigits_eq_if (by decide)]
    split
    · simp [Nat.ne_of_gt positive]
    · have shorter := ih (n / 10) (by omega) (by omega)
      obtain ⟨first, later, same⟩ := List.exists_cons_of_ne_nil (Nat.toDigits_ne_nil (n := n / 10) (b := 10))
      rw [same] at shorter ⊢
      exact shorter

theorem allDigits_padded (width n : Nat) : allDigits (padded width n) = true := by
  have digits := allDigits_chars n
  simp only [allDigits, padded, List.all_append, List.all_replicate, Bool.and_eq_true] at digits ⊢
  exact ⟨by simp, digits⟩

end BlockLattice.Digits
