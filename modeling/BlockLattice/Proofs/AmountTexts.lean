import Mathlib.Data.List.TakeWhile
import Mathlib.Data.Rat.Cast.Order
import Mathlib.Tactic.FieldSimp
import Mathlib.Tactic.Ring
import BlockLattice.Amount.Text

namespace BlockLattice

namespace Digits

theorem value_append_zeros (digits : List Char) (count : Nat) :
    value (digits ++ List.replicate count '0') = 10 ^ count * value digits := by
  simp [value, Nat.ofDigitChars_append, Nat.ofDigitChars_replicate_zero]

theorem length_padded {width n : Nat} (wide : 0 < width) (fits : n < 10 ^ width) :
    (padded width n).length = width := by
  have short : (chars n).length ≤ width := (Nat.length_toDigits_le_iff (by decide) wide).mpr fits
  simp [padded, short]

end Digits

namespace Amount

-- One or more digits, and behind a point at most six.
inductive Written : List Char → List Char → List Char → Prop where
  | bare {whole : List Char} (given : whole ≠ []) (digits : ∀ c ∈ whole, c.isDigit = true) :
      Written whole whole []
  | pointed {whole fraction : List Char} (given : whole ≠ []) (digits : ∀ c ∈ whole, c.isDigit = true)
      (few : fraction.length ≤ 6) (decimals : ∀ c ∈ fraction, c.isDigit = true) :
      Written (whole ++ '.' :: fraction) whole fraction

def denoted (whole fraction : List Char) : ℚ :=
  Digits.value whole + Digits.value fraction / 10 ^ fraction.length

variable {cs whole fraction : List Char}

theorem pointless (digits : ∀ c ∈ whole, c.isDigit = true) : ∀ c ∈ whole, (c != '.') = true := by
  intro c listed
  have digit := digits c listed
  rw [bne_iff_ne]
  rintro rfl
  cases digit

theorem written_iff : Written cs whole fraction ↔
    cs.takeWhile (· != '.') = whole ∧ (cs.dropWhile (· != '.')).drop 1 = fraction ∧
      whole ≠ [] ∧ (∀ c ∈ whole, c.isDigit = true) ∧ fraction.length ≤ 6 ∧ ∀ c ∈ fraction, c.isDigit = true := by
  constructor
  · intro written
    cases written with
    | bare given digits =>
      have plain := pointless digits
      simpa [List.takeWhile_eq_self_iff.mpr plain, List.dropWhile_eq_nil_iff.mpr plain, given] using digits
    | pointed given digits few decimals =>
      have plain := pointless digits
      rw [List.takeWhile_append_of_pos plain, List.dropWhile_append_of_pos plain]
      simpa [given, few] using ⟨digits, decimals⟩
  · rintro ⟨front, back, given, digits, few, decimals⟩
    have joined : cs.takeWhile (· != '.') ++ cs.dropWhile (· != '.') = cs := List.takeWhile_append_dropWhile
    cases behind : cs.dropWhile (· != '.') with
    | nil =>
      rw [front, behind, List.append_nil] at joined
      rw [behind] at back
      subst joined back
      exact .bare given digits
    | cons c rest =>
      have stop : (c != '.') = false := by
        have first := List.head?_dropWhile_not (· != '.') cs
        rwa [behind] at first
      have point : c = '.' := by simpa using stop
      rw [front, behind, point] at joined
      rw [behind] at back
      subst joined back
      exact .pointed given digits few decimals

theorem Written.few (written : Written cs whole fraction) : fraction.length ≤ 6 := by
  cases written with
  | bare => exact Nat.zero_le _
  | pointed _ _ few => exact few

theorem ofChars?_eq_some {a : Amount} :
    ofChars? cs = some a ↔ ∃ whole fraction, Written cs whole fraction ∧ rawOfParts whole fraction = a.raw := by
  simp only [written_iff, ← Digits.allDigits_iff]
  constructor
  · intro read
    unfold ofChars? at read
    dsimp only at read
    split at read
    · cases read
    · rename_i front
      split at read
      · cases read
      · rename_i back
        simp only [Bool.or_eq_true, List.isEmpty_iff, Bool.not_eq_true', decide_eq_true_eq, not_or, Nat.not_lt,
          Bool.not_eq_false] at front back
        exact ⟨_, _, ⟨rfl, rfl, front.1, front.2, back.1, back.2⟩, (ofRaw?_eq_some.mp read).symm⟩
  · rintro ⟨whole, fraction, ⟨front, back, given, digits, few, decimals⟩, same⟩
    simp only [ofChars?, front, back]
    simp [given, digits, few, decimals, ofRaw?_eq_some, same]

theorem denoted_eq (few : fraction.length ≤ 6) : denoted whole fraction * 10 ^ 6 = rawOfParts whole fraction := by
  obtain ⟨missing, filled⟩ := Nat.exists_eq_add_of_le few
  have zeros : 6 - fraction.length = missing := by omega
  have power : (10 : ℚ) ^ 6 = 10 ^ fraction.length * 10 ^ missing := by rw [filled, pow_add]
  rw [rawOfParts, denoted, zeros, Digits.value_append_zeros, unit]
  push_cast
  rw [add_mul, show (1000000 : ℚ) = 10 ^ 6 by norm_num, power]
  field_simp

theorem parse_eq_ok {s : String} {a : Amount} : parse s = .ok a ↔
    ∃ whole fraction, Written s.toList whole fraction ∧ (a.raw : ℚ) = denoted whole fraction * 10 ^ 6 := by
  have read : parse s = .ok a ↔ ofChars? s.toList = some a := by
    unfold parse
    cases ofChars? s.toList <;> simp
  rw [read, ofChars?_eq_some]
  constructor
  · rintro ⟨whole, fraction, written, same⟩
    exact ⟨whole, fraction, written, by rw [denoted_eq written.few, same]⟩
  · rintro ⟨whole, fraction, written, same⟩
    rw [denoted_eq written.few] at same
    exact ⟨whole, fraction, written, (Nat.cast_inj.mp same).symm⟩

theorem parse_accepts_iff {s : String} : (∃ a, parse s = .ok a) ↔
    ∃ whole fraction, Written s.toList whole fraction ∧ denoted whole fraction * 10 ^ 6 ≤ 2 ^ 128 - 1 := by
  have top : ((size - 1 : ℕ) : ℚ) = 2 ^ 128 - 1 := by norm_num
  rw [← top]
  constructor
  · rintro ⟨a, read⟩
    obtain ⟨whole, fraction, written, same⟩ := parse_eq_ok.mp read
    refine ⟨whole, fraction, written, ?_⟩
    rw [← same]
    exact Nat.cast_le.mpr (Nat.le_sub_one_of_lt a.raw_lt)
  · rintro ⟨whole, fraction, written, fits⟩
    rw [denoted_eq written.few] at fits
    have small : rawOfParts whole fraction < size := Nat.lt_of_le_of_lt (Nat.cast_le.mp fits) (by decide)
    exact ⟨⟨_, small⟩, parse_eq_ok.mpr ⟨whole, fraction, written, (denoted_eq written.few).symm⟩⟩

theorem parse_refuses (s : String) : (∃ a, parse s = .ok a) ∨ parse s = .error ⟨s⟩ := by
  unfold parse
  cases ofChars? s.toList with
  | none => exact .inr rfl
  | some a => exact .inl ⟨a, rfl⟩

theorem length_millionths (a : Amount) : (Digits.padded 6 (a.raw % 10 ^ 6)).length = 6 :=
  Digits.length_padded (by decide) (Nat.mod_lt _ (by decide))

theorem written_text (a : Amount) :
    Written a.text.toList (Digits.chars (a.raw / 10 ^ 6)) (Digits.padded 6 (a.raw % 10 ^ 6)) := by
  rw [text, String.toList_ofList]
  exact .pointed (Digits.chars_ne_nil _) (Digits.allDigits_iff.mp (Digits.allDigits_chars _))
    (length_millionths a).le (Digits.allDigits_iff.mp (Digits.allDigits_padded _ _))

theorem parse_text (a : Amount) : parse a.text = .ok a := by
  refine parse_eq_ok.mpr ⟨_, _, written_text a, ?_⟩
  rw [denoted_eq (length_millionths a).le, rawOfParts, length_millionths]
  simp only [Nat.sub_self, List.replicate_zero, List.append_nil, Digits.value_chars, Digits.value_padded]
  exact congrArg Nat.cast (Nat.div_add_mod' a.raw unit).symm

-- A text is read as an amount exactly if it is a decimal number with at most six
-- digits behind the point, of at most 2^128 - 1 millionths, and then as that many; any
-- other text is given back with the refusal. An amount is written with its whole
-- coins, without a zero in front, and six digits behind the point.
theorem text_exact :
    (∀ s a, parse s = .ok a ↔
      ∃ whole fraction, Written s.toList whole fraction ∧ (a.raw : ℚ) = denoted whole fraction * 10 ^ 6) ∧
    (∀ s, (∃ a, parse s = .ok a) ↔
      ∃ whole fraction, Written s.toList whole fraction ∧ denoted whole fraction * 10 ^ 6 ≤ 2 ^ 128 - 1) ∧
    (∀ s, (∃ a, parse s = .ok a) ∨ parse s = .error ⟨s⟩) ∧
    (∀ a : Amount, ∃ whole fraction, a.text.toList = whole ++ '.' :: fraction ∧
      Written a.text.toList whole fraction ∧ Digits.value whole = a.raw / 10 ^ 6 ∧
      (whole.head? = some '0' → whole = ['0']) ∧ Digits.value fraction = a.raw % 10 ^ 6 ∧ fraction.length = 6) ∧
    ∀ a : Amount, parse a.text = .ok a := by
  refine ⟨fun _ _ => parse_eq_ok, fun _ => parse_accepts_iff, parse_refuses, fun a => ?_, parse_text⟩
  refine ⟨_, _, ?_, written_text a, Digits.value_chars _, fun zero => ?_, Digits.value_padded _ _, length_millionths a⟩
  · rw [text, String.toList_ofList]
    rfl
  · have none : a.raw / 10 ^ 6 = 0 := Nat.eq_zero_of_not_pos fun some => Digits.head?_chars some zero
    rw [none]
    rfl

end Amount
end BlockLattice
