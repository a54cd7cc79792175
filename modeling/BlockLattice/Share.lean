import BlockLattice.Amount
import BlockLattice.Text.Digits

-- The part of its rewards that a delegate passes on to its voters, in
-- hundredths of a per cent. A stored share may lie above the whole; only the
-- two makers below promise one within it.
namespace BlockLattice

structure Share where
  points : UInt16
deriving DecidableEq, Repr

namespace Share

def whole : Nat := 10000

def none : Share := ⟨0⟩
def full : Share := ⟨10000⟩

instance : Inhabited Share := ⟨none⟩

def ofPoints? (points : UInt16) : Option Share :=
  if points.toNat ≤ whole then some ⟨points⟩ else Option.none

def nearest (x : Float) : UInt16 :=
  let low := x.toUInt16
  if 0.5 ≤ x - Float.ofNat low.toNat then low + 1 else low

def ofPercent? (percent : Float) : Option Share :=
  if 0.0 ≤ percent && percent ≤ 100.0 then some ⟨nearest (percent * 100.0)⟩ else Option.none

def percent (s : Share) : Float := Float.ofNat s.points.toNat / 100.0

def text (s : Share) : String :=
  String.ofList (Digits.chars (s.points.toNat / 100) ++ '.' :: Digits.padded 2 (s.points.toNat % 100) ++ ['%'])

end Share

-- The portion of an amount covered by a share, rounded down. The product is
-- taken in two parts, whole shares and the rest, so that it stays in range
-- whenever the share is at most the whole.
def Amount.percentOf (a : Amount) (s : Share) : Except Overflow Amount := do
  let wholes ← Amount.exact .multiply (a.raw / Share.whole * s.points.toNat)
  Amount.exact .add (wholes.raw + a.raw % Share.whole * s.points.toNat / Share.whole)

end BlockLattice
