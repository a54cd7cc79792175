import Std.Data.ExtTreeSet
import BlockLattice.Bytes
import BlockLattice.Bytes.Hex

-- The two 32-byte names of the library: accounts, named by their public key,
-- and blocks, named by what they say. Both are ordered as numbers, which is
-- the order of their bytes from the first one on.
namespace BlockLattice

structure AccountId where
  bits : BitVec 256
deriving DecidableEq, Repr

structure BlockHash where
  bits : BitVec 256
deriving DecidableEq, Repr

namespace AccountId

def ofBytes (bytes : Bytes) : AccountId := ⟨BitVec.ofNat 256 (Bytes.ofBigEndian bytes)⟩
def bytes (a : AccountId) : Bytes := Bytes.bigEndian 32 a.bits.toNat

instance : Ord AccountId := ⟨fun a b => compare a.bits b.bits⟩

instance : Std.TransOrd AccountId where
  eq_swap {a b} := @Std.OrientedCmp.eq_swap (BitVec 256) compare _ a.bits b.bits
  isLE_trans {a b c} := @Std.TransCmp.isLE_trans (BitVec 256) compare _ a.bits b.bits c.bits

instance : Std.LawfulEqOrd AccountId where
  eq_of_compare {a b} same := by
    cases a; cases b
    exact congrArg AccountId.mk (@Std.LawfulEqCmp.eq_of_compare (BitVec 256) compare _ _ _ same)

def text (a : AccountId) : String := "vgl_" ++ Hex.text a.bytes

@[simp] theorem ofBytes_bytes (a : AccountId) : ofBytes a.bytes = a := by
  have fits : a.bits.toNat < Bytes.wordCount 32 := a.bits.isLt
  simp [ofBytes, bytes, Bytes.ofBigEndian_bigEndian_of_lt fits]

@[simp] theorem length_bytes (a : AccountId) : a.bytes.length = 32 := by simp [bytes]

end AccountId

namespace BlockHash

def ofBytes (bytes : Bytes) : BlockHash := ⟨BitVec.ofNat 256 (Bytes.ofBigEndian bytes)⟩
def bytes (h : BlockHash) : Bytes := Bytes.bigEndian 32 h.bits.toNat

-- Stands for "no block": the first block of a chain follows it, and a receive
-- block that names it as source has none.
def zero : BlockHash := ⟨0⟩

instance : Inhabited BlockHash := ⟨zero⟩

instance : Ord BlockHash := ⟨fun a b => compare a.bits b.bits⟩

instance : Std.TransOrd BlockHash where
  eq_swap {a b} := @Std.OrientedCmp.eq_swap (BitVec 256) compare _ a.bits b.bits
  isLE_trans {a b c} := @Std.TransCmp.isLE_trans (BitVec 256) compare _ a.bits b.bits c.bits

instance : Std.LawfulEqOrd BlockHash where
  eq_of_compare {a b} same := by
    cases a; cases b
    exact congrArg BlockHash.mk (@Std.LawfulEqCmp.eq_of_compare (BitVec 256) compare _ _ _ same)

def text (h : BlockHash) : String := Hex.text h.bytes

@[simp] theorem ofBytes_bytes (h : BlockHash) : ofBytes h.bytes = h := by
  have fits : h.bits.toNat < Bytes.wordCount 32 := h.bits.isLt
  simp [ofBytes, bytes, Bytes.ofBigEndian_bigEndian_of_lt fits]

@[simp] theorem length_bytes (h : BlockHash) : h.bytes.length = 32 := by simp [bytes]

end BlockHash
end BlockLattice
