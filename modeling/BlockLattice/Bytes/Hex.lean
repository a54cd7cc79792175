import BlockLattice.Bytes

namespace BlockLattice.Hex

def digit (n : Nat) : Char :=
  if n < 10 then Char.ofNat (48 + n) else Char.ofNat (87 + n)

def digitValue? (c : Char) : Option Nat :=
  if '0' ≤ c ∧ c ≤ '9' then some (c.toNat - 48)
  else if 'a' ≤ c ∧ c ≤ 'f' then some (c.toNat - 87)
  else if 'A' ≤ c ∧ c ≤ 'F' then some (c.toNat - 55)
  else none

def chars (bytes : Bytes) : List Char :=
  bytes.flatMap fun b => [digit (b.toNat / 16), digit (b.toNat % 16)]

def text (bytes : Bytes) : String := String.ofList (chars bytes)

-- Reads either case; an odd digit or any other character refuses the text.
def bytesOfChars? : List Char → Option Bytes
  | [] => some []
  | [_] => none
  | hi :: lo :: rest => do
    let high ← digitValue? hi
    let low ← digitValue? lo
    let tail ← bytesOfChars? rest
    return UInt8.ofNat (16 * high + low) :: tail

def bytes? (s : String) : Option Bytes := bytesOfChars? s.toList

end BlockLattice.Hex
