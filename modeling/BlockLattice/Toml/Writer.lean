import BlockLattice.Bytes.Hex
import BlockLattice.Text.Digits

-- Writes TOML strings in the plainest form that holds them: between quotes if
-- nothing has to be escaped, then between apostrophes, then the long forms of
-- the two, and only for other controls with escapes.
namespace BlockLattice.Toml

def longestRun (c : Char) (cs : List Char) : Nat :=
  (cs.foldl (fun (best, run) d => if d = c then (Nat.max best (run + 1), run + 1) else (best, 0)) (0, 0)).1

-- Before a string is written its runs of quotes and of apostrophes are counted,
-- each in eight bits.
def isCountable (cs : List Char) : Bool :=
  longestRun '"' cs < UInt8.size && longestRun '\'' cs < UInt8.size

def needsEscapes (cs : List Char) : Bool :=
  cs.any fun c => (c.toNat < 32 && c != '\t' && c != '\n') || c.toNat == 127

inductive Style where
  | basic
  | literal
  | longBasic
  | longLiteral
deriving DecidableEq, Repr

def style (cs : List Char) : Style :=
  let escapes := needsEscapes cs
  let backslash := cs.contains '\\'
  let newline := cs.contains '\n'
  let quotes := longestRun '"' cs
  let apostrophes := longestRun '\'' cs
  if !escapes && !backslash && quotes = 0 && !newline then .basic
  else if !escapes && apostrophes = 0 && !newline then .literal
  else if !escapes && !backslash && quotes ≤ 2 then .longBasic
  else if !escapes && apostrophes ≤ 2 then .longLiteral
  else if newline then .longBasic
  else .basic

def escaped (long : Bool) (allowed : Nat) : Nat → List Char → List Char
  | _, [] => []
  | quotes, c :: rest =>
    if c = '"' then
      if quotes < allowed then c :: escaped long allowed (quotes + 1) rest
      else '\\' :: '"' :: escaped long allowed 0 rest
    else if c = '\\' then '\\' :: '\\' :: escaped long allowed 0 rest
    else if c = '\t' then '\\' :: 't' :: escaped long allowed 0 rest
    else if c = '\n' then
      if long then c :: escaped long allowed 0 rest else '\\' :: 'n' :: escaped long allowed 0 rest
    else if c = '\r' then '\\' :: 'r' :: escaped long allowed 0 rest
    else if c.toNat = 8 then '\\' :: 'b' :: escaped long allowed 0 rest
    else if c.toNat = 12 then '\\' :: 'f' :: escaped long allowed 0 rest
    else if c.toNat < 32 || c.toNat = 127 then
      ['\\', 'u', '0', '0', (Hex.digit (c.toNat / 16)).toUpper, (Hex.digit (c.toNat % 16)).toUpper]
        ++ escaped long allowed 0 rest
    else c :: escaped long allowed 0 rest

def stringChars (cs : List Char) : List Char :=
  let lead : List Char := if cs.contains '\n' then ['\n'] else []
  match style cs with
  | .basic => '"' :: escaped false 0 0 cs ++ ['"']
  | .literal => '\'' :: cs ++ ['\'']
  | .longBasic => "\"\"\"".toList ++ lead ++ escaped true 2 0 cs ++ "\"\"\"".toList
  | .longLiteral => "'''".toList ++ lead ++ cs ++ "'''".toList

def natural? (n : Nat) : Option (List Char) :=
  if n ≤ 9223372036854775807 then some (Digits.chars n) else none

end BlockLattice.Toml
