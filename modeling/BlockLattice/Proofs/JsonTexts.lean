import BlockLattice.Json.Reader
import BlockLattice.Json.Writer

namespace BlockLattice.Json

inductive Plain : Json → Prop where
  | null : Plain .null
  | bool (b : Bool) : Plain (.bool b)
  | natural (n : Nat) : Plain (.natural n)
  | string (s : String) : Plain (.string s)
  | array {items : List Json} (each : ∀ v ∈ items, Plain v) : Plain (.array items)
  | record {members : List (String × Json)} (each : ∀ m ∈ members, Plain m.2) : Plain (.record members)

variable {rest : List Char}

section texts

-- A control is written by its code unit, and that is never half of a pair.
theorem joinPieces_unit {n : Nat} (low : n < 32) (pieces : List Piece) :
    joinPieces (.unit n :: pieces) = (joinPieces pieces).map (Char.ofNat n :: ·) := by
  have single : isHigh n = false ∧ isLow n = false := by
    simp [isHigh, isLow]
    omega
  cases pieces with
  | nil => simp [joinPieces, single]
  | cons p more => cases p <;> simp [joinPieces, single]

theorem unit?_unitEscape {n : Nat} (low : n < 32) :
    unit? (Hex.digit (n / 4096 % 16)) (Hex.digit (n / 256 % 16)) (Hex.digit (n / 16 % 16)) (Hex.digit (n % 16)) = some n := by
  have all : ∀ k : Fin 32, unit? (Hex.digit (k.val / 4096 % 16)) (Hex.digit (k.val / 256 % 16))
      (Hex.digit (k.val / 16 % 16)) (Hex.digit (k.val % 16)) = some k.val := by
    decide
  exact all ⟨n, low⟩

theorem escape_cases (c : Char) : (∃ e, simpleEscape? e = some c ∧ escape c = ['\\', e]) ∨
    (c.toNat < 32 ∧ escape c = unitEscape c.toNat) ∨
      (32 ≤ c.toNat ∧ c ≠ '"' ∧ c ≠ '\\' ∧ escape c = [c]) := by
  unfold escape
  split
  · rename_i quote
    exact .inl ⟨'"', congrArg some quote.symm, rfl⟩
  split
  · rename_i slash
    exact .inl ⟨'\\', congrArg some slash.symm, rfl⟩
  split
  · rename_i line
    exact .inl ⟨'n', congrArg some line.symm, rfl⟩
  split
  · rename_i turn
    exact .inl ⟨'r', congrArg some turn.symm, rfl⟩
  split
  · rename_i tab
    exact .inl ⟨'t', congrArg some tab.symm, rfl⟩
  split
  · rename_i back
    exact .inl ⟨'b', congrArg some (Char.toNat_inj.mp back).symm, rfl⟩
  split
  · rename_i feed
    exact .inl ⟨'f', congrArg some (Char.toNat_inj.mp feed).symm, rfl⟩
  split
  · rename_i low
    exact .inr (.inl ⟨low, rfl⟩)
  · rename_i quote slash _ _ _ _ _ high
    exact .inr (.inr ⟨Nat.le_of_not_lt high, quote, slash, rfl⟩)

theorem readPieces_escape (c : Char) {cs tail : List Char} {pieces : List Piece}
    (read : readPieces tail = some (pieces, rest)) (joined : joinPieces pieces = some cs) :
    ∃ more, readPieces (escape c ++ tail) = some (more, rest) ∧ joinPieces more = some (c :: cs) := by
  rcases escape_cases c with ⟨e, named, written⟩ | ⟨low, written⟩ | ⟨high, quote, slash, written⟩
  · refine ⟨.char c :: pieces, ?_, by simp [joinPieces, joined]⟩
    have single : e ≠ 'u' := by
      rintro rfl
      cases named
    simp [written, readPieces, single, named, read]
  · refine ⟨.unit c.toNat :: pieces, by simp [written, unitEscape, readPieces, unit?_unitEscape low, read], ?_⟩
    rw [joinPieces_unit low, joined, Char.ofNat_toNat]
    rfl
  · refine ⟨.char c :: pieces, ?_, by simp [joinPieces, joined]⟩
    simp [written, readPieces, slash, Nat.not_lt.mpr high, read]

theorem readText_chars (s : String) : readText (s.toList.flatMap escape ++ '"' :: rest) = some (.plain s, rest) := by
  have each (cs : List Char) : ∃ pieces, readPieces (cs.flatMap escape ++ '"' :: rest) = some (pieces, rest) ∧
      joinPieces pieces = some cs := by
    induction cs with
    | nil => exact ⟨[], by simp [readPieces], rfl⟩
    | cons c more ih =>
      obtain ⟨pieces, read, joined⟩ := ih
      rw [List.flatMap_cons, List.append_assoc]
      exact readPieces_escape c read joined
  obtain ⟨pieces, read, joined⟩ := each s.toList
  simp [readText, read, joined]

end texts

-- What may stand behind a value: nothing, a comma or the end of a list.
inductive Behind : List Char → Prop where
  | nothing : Behind []
  | comma (rest : List Char) : Behind (',' :: rest)
  | bracket (rest : List Char) : Behind (']' :: rest)
  | brace (rest : List Char) : Behind ('\x7d' :: rest)

section numbers

theorem digit_start (n : Nat) : ∃ d more, Digits.chars n = d :: more ∧ d.isDigit = true := by
  obtain ⟨d, more, digits⟩ := List.exists_cons_of_ne_nil (Digits.chars_ne_nil n)
  exact ⟨d, more, digits, Digits.allDigits_iff.mp (Digits.allDigits_chars n) d (by simp [digits])⟩

theorem readDigits_behind {digits : List Char} (all : ∀ c ∈ digits, c.isDigit = true) (behind : Behind rest) :
    (digits ++ rest).takeWhile Char.isDigit = digits ∧ (digits ++ rest).dropWhile Char.isDigit = rest := by
  rw [List.takeWhile_append_of_pos all, List.dropWhile_append_of_pos all]
  cases behind <;> simp

theorem readWhole_chars (n : Nat) (behind : Behind rest) :
    readWhole (Digits.chars n ++ rest) = some (Digits.chars n, rest) := by
  obtain ⟨front, back⟩ := readDigits_behind (Digits.allDigits_iff.mp (Digits.allDigits_chars n)) behind
  rw [readWhole, front, back]
  split
  · rename_i empty
    exact absurd empty (Digits.chars_ne_nil n)
  · rename_i zero
    rw [zero]
  · rename_i later more digits
    rcases Nat.eq_zero_or_pos n with rfl | positive
    · exact absurd (List.cons.inj digits).2.symm more
    · exact absurd (congrArg List.head? digits) (Digits.head?_chars positive)
  · rfl

theorem readNumber_chars (n : Nat) (behind : Behind rest) :
    readNumber (Digits.chars n ++ rest) = some (.natural n, rest) := by
  have whole := readWhole_chars n behind
  have fraction : readFraction rest = some ([], rest) := by cases behind <;> rfl
  have exponent : readExponent rest = some ([], rest) := by cases behind <;> simp [readExponent]
  obtain ⟨d, more, digits, digit⟩ := digit_start n
  have unsigned : d ≠ '-' := by
    rintro rfl
    cases digit
  have value := Digits.value_chars n
  rw [digits] at whole value ⊢
  rw [List.cons_append] at whole ⊢
  simp [readNumber, unsigned, whole, fraction, exponent, value]

end numbers

section values

theorem skip_cons {c : Char} (ink : isBlank c = false) (cs : List Char) : skip (c :: cs) = c :: cs := by
  simp [skip, ink]

theorem compact_start {v : Json} (plain : v.Plain) :
    ∃ c more, v.compact = c :: more ∧ isBlank c = false ∧ c ≠ ']' := by
  cases plain with
  | null => exact ⟨'n', _, rfl, rfl, by decide⟩
  | bool b => cases b <;> exact ⟨_, _, rfl, rfl, by decide⟩
  | natural n =>
    obtain ⟨d, more, digits, digit⟩ := digit_start n
    have other {c : Char} (letter : c.isDigit = false) : d ≠ c := by
      rintro rfl
      simp [letter] at digit
    have ink : isBlank d = false := by simp [isBlank, other]
    exact ⟨d, more, digits, ink, other rfl⟩
  | string s => exact ⟨'"', _, rfl, rfl, by decide⟩
  | array => exact ⟨'[', _, rfl, rfl, by decide⟩
  | record => exact ⟨'\x7b', _, rfl, rfl, by decide⟩

theorem compactItems_start {v : Json} (plain : v.Plain) (others : List Json) :
    ∃ c more, compactItems (v :: others) = c :: more ∧ isBlank c = false ∧ c ≠ ']' := by
  obtain ⟨c, more, written, ink, inside⟩ := compact_start plain
  cases others with
  | nil => exact ⟨c, more, written, ink, inside⟩
  | cons w later => exact ⟨c, more ++ ',' :: compactItems (w :: later), by simp [compactItems, written], ink, inside⟩

theorem readValue_natural (fuel n : Nat) (behind : Behind rest) :
    readValue (fuel + 1) (Digits.chars n ++ rest) = some (.natural n, rest) := by
  have read := readNumber_chars n behind
  obtain ⟨d, more, digits, digit⟩ := digit_start n
  obtain ⟨c, cs, written, ink, _⟩ := compact_start (.natural n)
  cases (written.symm.trans digits)
  rw [digits] at read ⊢
  rw [readValue, List.cons_append, skip_cons ink]
  split
  case h_7 => exact read
  all_goals
    rename_i started
    cases (List.cons.inj started).1
    cases digit

theorem readValue_array {fuel : Nat} {c : Char} {cs : List Char} {items : List Json} (ink : isBlank c = false)
    (inside : c ≠ ']') (read : readItems fuel (c :: cs) = some (items, rest)) :
    readValue (fuel + 1) ('[' :: c :: cs) = some (.array items, rest) := by
  rw [readValue, skip_cons rfl]
  simp [skip_cons ink, inside, read]

theorem readItems_last {fuel : Nat} {v : Json} {cs : List Char}
    (read : readValue fuel cs = some (v, ']' :: rest)) : readItems (fuel + 1) cs = some ([v], rest) := by
  simp [readItems, read, skip, isBlank]

theorem readItems_next {fuel : Nat} {v : Json} {items : List Json} {cs tail : List Char}
    (read : readValue fuel cs = some (v, ',' :: tail)) (more : readItems fuel tail = some (items, rest)) :
    readItems (fuel + 1) cs = some (v :: items, rest) := by
  simp [readItems, read, skip, isBlank, more]

theorem readValue_object {fuel : Nat} {cs : List Char} {members : List (Text × Json)}
    (read : readMembers fuel ('"' :: cs) = some (members, rest)) :
    readValue (fuel + 1) ('\x7b' :: '"' :: cs) = some (.object members, rest) := by
  simp [readValue, skip, isBlank, read]

theorem readMembers_last {fuel : Nat} {v : Json} {cs : List Char} (k : String)
    (read : readValue fuel cs = some (v, '\x7d' :: rest)) :
    readMembers (fuel + 1) (Text.chars (.plain k) ++ ':' :: cs) = some ([(.plain k, v)], rest) := by
  simp [readMembers, Text.chars, readText_chars, skip, isBlank, read]

theorem readMembers_next {fuel : Nat} {v : Json} {members : List (Text × Json)} {cs tail : List Char} (k : String)
    (read : readValue fuel cs = some (v, ',' :: tail)) (more : readMembers fuel tail = some (members, rest)) :
    readMembers (fuel + 1) (Text.chars (.plain k) ++ ':' :: cs) = some ((.plain k, v) :: members, rest) := by
  simp [readMembers, Text.chars, readText_chars, skip, isBlank, read, more]

def named (members : List (String × Json)) : List (Text × Json) := members.map fun m => (.plain m.1, m.2)

theorem compactMembers_start (m : String × Json) (others : List (String × Json)) :
    ∃ cs, compactMembers (named (m :: others)) = '"' :: cs := by
  cases others with
  | nil => exact ⟨_, rfl⟩
  | cons x later => exact ⟨_, rfl⟩

-- What is found with so much fuel, and with more of a list or a record to come.
structure Reads (fuel : Nat) : Prop where
  value : ∀ {v : Json} {rest : List Char}, v.Plain → Behind rest → v.compact.length ≤ fuel →
    readValue fuel (v.compact ++ rest) = some (v, rest)
  items : ∀ {v : Json} {others : List Json} (rest : List Char), (∀ w ∈ v :: others, Plain w) →
    (compactItems (v :: others)).length < fuel →
      readItems fuel (compactItems (v :: others) ++ ']' :: rest) = some (v :: others, rest)
  members : ∀ {m : String × Json} {others : List (String × Json)} (rest : List Char), (∀ x ∈ m :: others, Plain x.2) →
    (compactMembers (named (m :: others))).length < fuel →
      readMembers fuel (compactMembers (named (m :: others)) ++ '\x7d' :: rest) = some (named (m :: others), rest)

namespace Reads

variable {fuel : Nat}

theorem zero : Reads 0 where
  value {v rest} plain _ fits := by
    obtain ⟨c, more, written, _⟩ := compact_start plain
    simp [written] at fits
  items _ _ fits := nomatch fits
  members _ _ fits := nomatch fits

theorem next_value (reads : Reads fuel) {v : Json} (plain : v.Plain) (behind : Behind rest)
    (fits : v.compact.length ≤ fuel + 1) : readValue (fuel + 1) (v.compact ++ rest) = some (v, rest) := by
  cases plain with
  | null => simp [compact, atom, readValue, skip, isBlank]
  | bool b => cases b <;> simp [compact, atom, readValue, skip, isBlank]
  | natural n => exact readValue_natural fuel n behind
  | string s => simp [compact, atom, string, Text.chars, readValue, skip, isBlank, readText_chars]
  | @array items each =>
    cases items with
    | nil => simp [compact, compactItems, readValue, skip, isBlank]
    | cons v others =>
      have read := reads.items rest each (by simp [compact] at fits; omega)
      obtain ⟨c, more, written, ink, inside⟩ := compactItems_start (each v (by simp)) others
      rw [written, List.cons_append] at read
      simpa [compact, written] using readValue_array ink inside read
  | @record ms each =>
    cases ms with
    | nil => simp [record, compact, compactMembers, readValue, skip, isBlank]
    | cons m others =>
      change (compact (.object (named (m :: others)))).length ≤ _ at fits
      change readValue _ (compact (.object (named (m :: others))) ++ rest) = some (.object (named (m :: others)), rest)
      have read := reads.members rest each (by simp [compact] at fits; omega)
      obtain ⟨cs, started⟩ := compactMembers_start m others
      rw [started, List.cons_append] at read
      simpa [compact, started] using readValue_object read

theorem next_items (reads : Reads fuel) {v : Json} {others : List Json} (rest : List Char)
    (plain : ∀ w ∈ v :: others, Plain w) (fits : (compactItems (v :: others)).length < fuel + 1) :
    readItems (fuel + 1) (compactItems (v :: others) ++ ']' :: rest) = some (v :: others, rest) := by
  obtain ⟨first, later⟩ := List.forall_mem_cons.mp plain
  cases others with
  | nil => exact readItems_last (reads.value first (.bracket rest) (Nat.le_of_lt_succ fits))
  | cons w others =>
    simp only [compactItems, List.length_append, List.length_cons] at fits
    have more := reads.items rest later (by omega)
    have read := reads.value first (.comma (compactItems (w :: others) ++ ']' :: rest)) (by omega)
    simpa [compactItems] using readItems_next read more

theorem next_members (reads : Reads fuel) {m : String × Json} {others : List (String × Json)} (rest : List Char)
    (plain : ∀ x ∈ m :: others, Plain x.2) (fits : (compactMembers (named (m :: others))).length < fuel + 1) :
    readMembers (fuel + 1) (compactMembers (named (m :: others)) ++ '\x7d' :: rest) = some (named (m :: others), rest) := by
  obtain ⟨first, later⟩ := List.forall_mem_cons.mp plain
  cases others with
  | nil =>
    have read := reads.value first (.brace rest) (by simp [compactMembers, named] at fits; omega)
    simpa [compactMembers, named] using readMembers_last m.1 read
  | cons x others =>
    have more := reads.members rest later (by simp [compactMembers, named] at fits ⊢; omega)
    have read := reads.value first (.comma (compactMembers (named (x :: others)) ++ '\x7d' :: rest))
      (by simp [compactMembers, named] at fits; omega)
    simpa [compactMembers, named] using readMembers_next m.1 read more

end Reads

theorem reads_compact (fuel : Nat) : Reads fuel := by
  induction fuel with
  | zero => exact .zero
  | succ fuel ih => exact ⟨ih.next_value, ih.next_items, ih.next_members⟩

end values

theorem ofText?_compactText {v : Json} (plain : v.Plain) : ofText? v.compactText = some v := by
  have read := (reads_compact (2 * v.compact.length + 2)).value plain .nothing (by omega)
  rw [List.append_nil] at read
  simp [ofText?, compactText, ofChars?, read, skip]

end BlockLattice.Json
