import BlockLattice.Amount
import BlockLattice.Text.Digits
import BlockLattice.Text.Quoted

namespace BlockLattice.Amount

def chars (a : Amount) : List Char :=
  Digits.chars (a.raw / unit) ++ '.' :: Digits.padded 6 (a.raw % unit)

def text (a : Amount) : String := String.ofList a.chars

def rawOfParts (whole fraction : List Char) : Nat :=
  Digits.value whole * unit + Digits.value (fraction ++ List.replicate (6 - fraction.length) '0')

def ofChars? (cs : List Char) : Option Amount :=
  let whole := cs.takeWhile (· != '.')
  let fraction := (cs.dropWhile (· != '.')).drop 1
  if whole.isEmpty || !Digits.allDigits whole then none
  else if 6 < fraction.length || !Digits.allDigits fraction then none
  else ofRaw? (rawOfParts whole fraction)

structure ParseError where
  given : String
deriving DecidableEq, Repr

def ParseError.message (e : ParseError) : String :=
  "invalid amount: " ++ Quoted.text e.given

def parse (s : String) : Except ParseError Amount :=
  match ofChars? s.toList with
  | some a => .ok a
  | none => .error ⟨s⟩

end BlockLattice.Amount
