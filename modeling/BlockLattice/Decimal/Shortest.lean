import BlockLattice.Text.Digits

-- The decimal text of a binary64 number: the fewest digits that read back as
-- the same number, the nearest of those, always positional and without an
-- exponent. Works on the bit pattern with exact natural numbers.
namespace BlockLattice.Decimal

-- `significand * 2 ^ (exponent - 1074)`; `even` says whether the ends of the
-- interval of reals that round to it belong to it.
structure Binary where
  significand : Nat
  shift : Nat
  narrow : Bool

def ofBits (bits : Nat) : Binary :=
  let biased := (bits >>> 52) % 2048
  let fraction := bits % (1 <<< 52)
  if biased = 0 then ⟨fraction, 0, false⟩
  else ⟨fraction + (1 <<< 52), biased - 1, fraction == 0 && biased != 1⟩

-- Four times the number and the ends of its interval, in units of 2^-1076.
def Binary.centre (b : Binary) : Nat := (4 * b.significand) <<< b.shift
def Binary.lower (b : Binary) : Nat :=
  (4 * b.significand - if b.narrow then 1 else 2) <<< b.shift
def Binary.upper (b : Binary) : Nat := (4 * b.significand + 2) <<< b.shift

structure Point where
  digits : Nat
  grid : Nat

def gridTop (grid : Nat) : Nat := if 1100 ≤ grid then (Nat.pow 10 (grid - 1100)) <<< 1076 else 1 <<< 1076
def gridBottom (grid : Nat) : Nat := if 1100 ≤ grid then 1 else Nat.pow 10 (1100 - grid)

def onGrid (b : Binary) (grid : Nat) : Option Point :=
  let step := gridTop grid
  let scale := gridBottom grid
  let low := b.centre * scale / step
  let inside (k : Nat) : Bool :=
    let position := k * step
    if b.significand % 2 = 0 then b.lower * scale ≤ position && position ≤ b.upper * scale
    else b.lower * scale < position && position < b.upper * scale
  let below := low != 0 && inside low
  let above := inside (low + 1)
  let downward := b.centre * scale - low * step
  let upward := (low + 1) * step - b.centre * scale
  if below && (!above || downward < upward) then some ⟨low, grid⟩
  else if above then some ⟨low + 1, grid⟩
  else none

def search (b : Binary) : Nat → Point
  | 0 => ⟨0, 0⟩
  | grid + 1 => (onGrid b grid).getD (search b grid)

def Point.chars (p : Point) : List Char :=
  let digits := Digits.chars p.digits
  if 1100 ≤ p.grid then digits ++ List.replicate (p.grid - 1100) '0'
  else
    let places := 1100 - p.grid
    let whole := digits.length - places
    if digits.length ≤ places then
      '0' :: '.' :: List.replicate (places - digits.length) '0' ++ digits
    else digits.take whole ++ '.' :: digits.drop whole

-- Signs are kept, also that of zero.
def chars (bits : Nat) : List Char :=
  let magnitude := bits % (1 <<< 63)
  let sign : List Char := if (bits >>> 63) % 2 = 1 then ['-'] else []
  if 0x7ff0000000000000 < magnitude then "NaN".toList
  else if magnitude = 0x7ff0000000000000 then sign ++ "inf".toList
  else if magnitude = 0 then sign ++ ['0']
  else sign ++ (search (ofBits magnitude) 1410).chars

def text (x : Float) : String := String.ofList (chars x.toBits.toNat)

end BlockLattice.Decimal
