import Mathlib.Data.List.DropRight
import BlockLattice.Text.Blank
import BlockLattice.Text.Lowercase

namespace BlockLattice

namespace Blank

structure Bare (cs : List Char) : Prop where
  first : ∀ c ∈ cs.head?, isBlank c = false
  last : ∀ c ∈ cs.getLast?, isBlank c = false

variable {cs : List Char}

theorem first_dropWhile (cs : List Char) : ∀ c ∈ (cs.dropWhile isBlank).head?, isBlank c = false := by
  intro c begins
  have stopped := List.head?_dropWhile_not isBlank cs
  rw [Option.mem_def.mp begins] at stopped
  exact stopped

theorem dropWhile_eq_self : cs.dropWhile isBlank = cs ↔ ∀ c ∈ cs.head?, isBlank c = false := by
  constructor
  · intro same
    rw [← same]
    exact first_dropWhile cs
  · intro first
    cases cs with
    | nil => rfl
    | cons c rest => simp [first c rfl]

theorem bare_trimChars (cs : List Char) : Bare (trimChars cs) := by
  constructor
  · intro c begins
    obtain ⟨rest, written⟩ := List.head?_eq_some_iff.mp begins
    obtain ⟨dropped, whole⟩ := List.rdropWhile_prefix isBlank (l := cs.dropWhile isBlank)
    apply first_dropWhile cs c
    have kept : (cs.dropWhile isBlank).rdropWhile isBlank = c :: rest := written
    rw [← whole, kept]
    rfl
  · intro c ends
    rw [trimChars, List.getLast?_reverse] at ends
    exact first_dropWhile _ c ends

theorem trimChars_eq_self : trimChars cs = cs ↔ Bare cs := by
  constructor
  · intro same
    rw [← same]
    exact bare_trimChars cs
  · intro bare
    have back : ∀ c ∈ cs.reverse.head?, isBlank c = false := by
      rw [List.head?_reverse]
      exact bare.last
    rw [trimChars, dropWhile_eq_self.mpr bare.first, dropWhile_eq_self.mpr back, List.reverse_reverse]

theorem toList_trim (s : String) : (trim s).toList = trimChars s.toList := String.toList_ofList

theorem trim_eq_self {s : String} : trim s = s ↔ Bare s.toList := by
  rw [← String.toList_inj, toList_trim, trimChars_eq_self]

theorem trim_trim (s : String) : trim (trim s) = trim s := by
  rw [trim_eq_self, toList_trim]
  exact bare_trimChars s.toList

def codes : List Nat :=
  [9, 10, 11, 12, 13, 0x20, 0x85, 0xa0, 0x1680, 0x2000, 0x2001, 0x2002, 0x2003, 0x2004, 0x2005, 0x2006, 0x2007, 0x2008,
    0x2009, 0x200a, 0x2028, 0x2029, 0x202f, 0x205f, 0x3000]

theorem isBlank_iff {c : Char} : isBlank c = true ↔ c.toNat ∈ codes := by
  simp only [isBlank, codes, Bool.or_eq_true, Bool.and_eq_true, decide_eq_true_eq, beq_iff_eq, List.mem_cons,
    List.not_mem_nil, or_false]
  omega

end Blank

namespace CaseTable

-- No blank is in a run of the table, or where a run is mapped to.
theorem runs_inked : ∀ r ∈ lowerRuns.toList, ∀ b ∈ Blank.codes,
    (b < r.first ∨ r.last < b) ∧ ((b : Int) < r.first + r.shift ∨ (r.last : Int) + r.shift < b) := by decide +kernel

theorem blank_ofNat {n : Nat} (blank : Blank.isBlank (Char.ofNat n) = true) : n ∈ Blank.codes := by
  have code := Blank.isBlank_iff.mp blank
  by_cases valid : n.isValidChar
  · rw [Char.ofNat, dif_pos valid] at code
    exact code
  · -- What is no character is written as the character zero, which is no blank.
    rw [Char.ofNat, dif_neg valid] at code
    simp [Blank.codes] at code

theorem isBlank_lower (c : Char) : Blank.isBlank (lower c) = Blank.isBlank c := by
  unfold lower
  split
  · rename_i r found
    have listed := runs_inked r (Array.mem_toList_iff.mpr (Array.mem_of_find?_eq_some found))
    have covered := Array.find?_some found
    simp only [Run.covers, Bool.and_eq_true, decide_eq_true_eq, beq_iff_eq] at covered
    have source : ¬ Blank.isBlank c = true := by
      intro blank
      have apart := (listed _ (Blank.isBlank_iff.mp blank)).1
      omega
    have target : ¬ Blank.isBlank (Char.ofNat (c.toNat + r.shift).toNat) = true := by
      intro blank
      have code := blank_ofNat blank
      have apart := (listed _ code).2
      have positive : 0 < (c.toNat + r.shift).toNat := by
        have all : ∀ b ∈ Blank.codes, 0 < b := by decide
        exact all _ code
      omega
    rw [eq_false_of_ne_true source, eq_false_of_ne_true target]
  · rfl

end CaseTable

namespace Lowercase

open Blank

theorem lowerChars_cons (before : List Char) (c : Char) (rest : List Char) : ∃ w, w ≠ [] ∧
    (∀ d ∈ w, isBlank d = isBlank c) ∧ lowerChars before (c :: rest) = w ++ lowerChars (c :: before) rest := by
  refine ⟨_, ?_, ?_, rfl⟩
  · split
    · simp
    · split <;> simp
  · intro d written
    split at written
    · rename_i capital
      subst capital
      rw [List.mem_singleton.mp written, sigma]
      split <;> decide
    · split at written
      · rename_i dotted
        subst dotted
        simp only [List.mem_cons, List.not_mem_nil, or_false] at written
        rcases written with rfl | rfl <;> rfl
      · rw [List.mem_singleton.mp written]
        exact CaseTable.isBlank_lower c

theorem lowerChars_concat (before cs : List Char) (c : Char) : ∃ front w, w ≠ [] ∧
    (∀ d ∈ w, isBlank d = isBlank c) ∧ lowerChars before (cs ++ [c]) = front ++ w := by
  induction cs generalizing before with
  | nil =>
    obtain ⟨w, begun, alike, written⟩ := lowerChars_cons before c []
    exact ⟨[], w, begun, alike, by rw [List.nil_append, written]; simp [lowerChars]⟩
  | cons d rest ih =>
    obtain ⟨v, _, _, written⟩ := lowerChars_cons before d (rest ++ [c])
    obtain ⟨front, w, begun, alike, later⟩ := ih (d :: before)
    exact ⟨v ++ front, w, begun, alike, by rw [List.cons_append, written, later, List.append_assoc]⟩

theorem first_lowerChars {before cs : List Char} :
    (∀ c ∈ (lowerChars before cs).head?, isBlank c = false) ↔ ∀ c ∈ cs.head?, isBlank c = false := by
  cases cs with
  | nil => rfl
  | cons c rest =>
    obtain ⟨w, begun, alike, written⟩ := lowerChars_cons before c rest
    obtain ⟨d, more, rfl⟩ := List.exists_cons_of_ne_nil begun
    simp [written, alike d (List.mem_cons_self ..)]

theorem last_lowerChars {before cs : List Char} :
    (∀ c ∈ (lowerChars before cs).getLast?, isBlank c = false) ↔ ∀ c ∈ cs.getLast?, isBlank c = false := by
  rcases List.eq_nil_or_concat cs with rfl | ⟨init, c, rfl⟩
  · rfl
  · rw [List.concat_eq_append]
    obtain ⟨front, w, begun, alike, written⟩ := lowerChars_concat before init c
    have ending := List.getLast?_eq_some_getLast begun
    simp [written, List.getLast?_append, ending, alike _ (List.getLast_mem begun)]

theorem bare_lowerChars {before cs : List Char} : Bare (lowerChars before cs) ↔ Bare cs :=
  ⟨fun bare => ⟨first_lowerChars.mp bare.first, last_lowerChars.mp bare.last⟩,
    fun bare => ⟨first_lowerChars.mpr bare.first, last_lowerChars.mpr bare.last⟩⟩

theorem trim_text {s : String} : trim (text s) = text s ↔ trim s = s := by
  rw [trim_eq_self, trim_eq_self, text, String.toList_ofList, bare_lowerChars]

end Lowercase
end BlockLattice
