namespace BlockLattice

abbrev Bytes := List UInt8

namespace Bytes

def littleEndian : Nat → Nat → Bytes
  | 0, _ => []
  | n + 1, v => UInt8.ofNat v :: littleEndian n (v / 256)

def ofLittleEndian : Bytes → Nat
  | [] => 0
  | b :: rest => b.toNat + 256 * ofLittleEndian rest

def bigEndian (n v : Nat) : Bytes := (littleEndian n v).reverse

def ofBigEndian (bytes : Bytes) : Nat := ofLittleEndian bytes.reverse

def ofText (s : String) : Bytes := s.toByteArray.data.toList

def text? (bytes : Bytes) : Option String := String.fromUTF8? ⟨bytes.toArray⟩

def wordCount : Nat → Nat
  | 0 => 1
  | n + 1 => 256 * wordCount n

@[simp] theorem length_littleEndian (n v : Nat) : (littleEndian n v).length = n := by
  induction n generalizing v with
  | zero => rfl
  | succ n ih => simp [littleEndian, ih]

@[simp] theorem length_bigEndian (n v : Nat) : (bigEndian n v).length = n := by
  simp [bigEndian]

theorem ofLittleEndian_littleEndian (n v : Nat) :
    ofLittleEndian (littleEndian n v) = v % wordCount n := by
  induction n generalizing v with
  | zero => simp [littleEndian, ofLittleEndian, wordCount, Nat.mod_one]
  | succ n ih =>
    have low : (UInt8.ofNat v).toNat = v % 256 := UInt8.toNat_ofNat'
    simp only [littleEndian, ofLittleEndian, ih, low, wordCount, Nat.mod_mul]

theorem ofBigEndian_bigEndian (n v : Nat) : ofBigEndian (bigEndian n v) = v % wordCount n := by
  simp [ofBigEndian, bigEndian, ofLittleEndian_littleEndian]

theorem ofBigEndian_bigEndian_of_lt {n v : Nat} (fits : v < wordCount n) :
    ofBigEndian (bigEndian n v) = v := by
  rw [ofBigEndian_bigEndian, Nat.mod_eq_of_lt fits]

theorem ofLittleEndian_littleEndian_of_lt {n v : Nat} (fits : v < wordCount n) :
    ofLittleEndian (littleEndian n v) = v := by
  rw [ofLittleEndian_littleEndian, Nat.mod_eq_of_lt fits]

theorem text?_ofText (s : String) : text? (ofText s) = some s := by
  have valid : s.toByteArray.IsValidUTF8 := s.isValidUTF8
  simp [text?, ofText, String.fromUTF8?, String.fromUTF8, valid]

theorem ofText_of_text? {bytes : Bytes} {s : String} (read : text? bytes = some s) :
    ofText s = bytes := by
  unfold text? String.fromUTF8? at read
  split at read
  · cases read; simp [ofText, String.fromUTF8]
  · cases read

end Bytes
end BlockLattice
