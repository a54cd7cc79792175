import BlockLattice.Node.Bootstrap
import BlockLattice.Proofs.LedgerCalls

namespace BlockLattice

def Steady (c : Char) : Prop := CaseTable.lower c = c ∧ c ≠ 'Σ' ∧ c ≠ 'İ' ∧ Blank.isBlank c = false

instance (c : Char) : Decidable (Steady c) := inferInstanceAs (Decidable (_ ∧ _))

theorem Lowercase.lowerChars_steady {cs : List Char} (steady : ∀ c ∈ cs, Steady c) (before : List Char) :
    lowerChars before cs = cs := by
  induction cs generalizing before with
  | nil => rfl
  | cons c rest ih =>
    obtain ⟨same, noSigma, noDotted, _⟩ := steady c (List.mem_cons_self ..)
    have later := ih (fun d listed => steady d (List.mem_cons_of_mem _ listed)) (c :: before)
    simp [lowerChars, noSigma, noDotted, same, later]

theorem Blank.dropWhile_steady {cs : List Char} (steady : ∀ c ∈ cs, Steady c) : cs.dropWhile isBlank = cs := by
  cases cs with
  | nil => rfl
  | cons c rest =>
    obtain ⟨_, _, _, inked⟩ := steady c (List.mem_cons_self ..)
    simp [inked]

theorem Blank.trimChars_steady {cs : List Char} (steady : ∀ c ∈ cs, Steady c) : trimChars cs = cs := by
  have backwards : ∀ c ∈ cs.reverse, Steady c := fun c listed => steady c (List.mem_reverse.mp listed)
  rw [trimChars, dropWhile_steady steady, dropWhile_steady backwards, List.reverse_reverse]

theorem Lowercase.text_steady {s : String} (steady : ∀ c ∈ s.toList, Steady c) : text s = s := by
  rw [text, lowerChars_steady steady, String.ofList_toList]

theorem Ledger.nameFor_steady {s : String} (steady : ∀ c ∈ s.toList, Steady c) : nameFor s = s := by
  rw [nameFor, Blank.trim, Blank.trimChars_steady steady, String.ofList_toList, Lowercase.text_steady steady]

theorem steady_of_isDigit {c : Char} (digit : c.isDigit = true) : Steady c := by
  obtain ⟨low, high⟩ := Char.isDigit_iff_toNat.mp digit
  have digits : ∀ k : Fin 10, Steady (Char.ofNat ('0'.toNat + k.val)) := by decide +kernel
  have here := digits ⟨c.toNat - '0'.toNat, by change c.toNat ≤ 57 at high; change c.toNat - 48 < 10; omega⟩
  rw [Nat.add_sub_cancel' low, Char.ofNat_toNat] at here
  exact here

namespace Node

def stem : List Char := ['g', 'e', 'n', 'e', 's', 'i', 's', '_']

theorem toList_delegateName (number : Nat) : (delegateName number).toList = stem ++ Digits.chars number := by
  simp [delegateName, stem, Digits.chars]

theorem delegateName_steady (number : Nat) : ∀ c ∈ (delegateName number).toList, Steady c := by
  intro c listed
  rw [toList_delegateName] at listed
  rcases List.mem_append.mp listed with letter | digit
  · have letters : (stem.all fun c => Steady c) = true := by decide +kernel
    exact of_decide_eq_true (List.all_eq_true.mp letters c letter)
  · exact steady_of_isDigit (List.all_eq_true.mp (Digits.allDigits_chars number) c digit)

theorem delegateName_ne_empty (number : Nat) : delegateName number ≠ "" := by
  intro empty
  have chars := toList_delegateName number
  rw [empty] at chars
  cases chars

theorem delegateName_inj {i j : Nat} (same : delegateName i = delegateName j) : i = j := by
  have lists := congrArg String.toList same
  rw [toList_delegateName, toList_delegateName] at lists
  have digits := congrArg Digits.value (List.append_cancel_left lists)
  rwa [Digits.value_chars, Digits.value_chars] at digits

end Node
end BlockLattice
