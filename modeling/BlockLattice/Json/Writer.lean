import BlockLattice.Bytes.Hex
import BlockLattice.Json.Value
import BlockLattice.Text.Digits

namespace BlockLattice.Json

def unitEscape (n : Nat) : List Char :=
  ['\\', 'u', Hex.digit (n / 4096 % 16), Hex.digit (n / 256 % 16), Hex.digit (n / 16 % 16), Hex.digit (n % 16)]

def escape (c : Char) : List Char :=
  if c = '"' then ['\\', '"']
  else if c = '\\' then ['\\', '\\']
  else if c = '\n' then ['\\', 'n']
  else if c = '\r' then ['\\', 'r']
  else if c = '\t' then ['\\', 't']
  else if c.toNat = 8 then ['\\', 'b']
  else if c.toNat = 12 then ['\\', 'f']
  else if c.toNat < 32 then unitEscape c.toNat
  else [c]

def Piece.chars : Piece → List Char
  | char c => escape c
  | unit n => unitEscape n

def Text.chars : Text → List Char
  | plain s => '"' :: s.toList.flatMap escape ++ ['"']
  | unpaired pieces => '"' :: pieces.flatMap Piece.chars ++ ['"']

def atom : Json → List Char
  | null => "null".toList
  | bool true => "true".toList
  | bool false => "false".toList
  | natural n => Digits.chars n
  | number spelling => spelling
  | text t => t.chars
  | array _ => []
  | object _ => []

mutual

def compact : Json → List Char
  | array items => '[' :: compactItems items ++ [']']
  | object members => '\x7b' :: compactMembers members ++ ['\x7d']
  | null => atom null
  | bool b => atom (bool b)
  | natural n => atom (natural n)
  | number spelling => atom (number spelling)
  | text t => atom (text t)

def compactItems : List Json → List Char
  | [] => []
  | [v] => compact v
  | v :: rest => compact v ++ ',' :: compactItems rest

def compactMembers : List (Text × Json) → List Char
  | [] => []
  | [(k, v)] => k.chars ++ ':' :: compact v
  | (k, v) :: rest => k.chars ++ ':' :: compact v ++ ',' :: compactMembers rest

end

def newline (depth : Nat) : List Char := '\n' :: List.replicate (2 * depth) ' '

mutual

def prettyAt (depth : Nat) : Json → List Char
  | array [] => "[]".toList
  | array items => '[' :: prettyItems (depth + 1) items ++ newline depth ++ [']']
  | object [] => ['\x7b', '\x7d']
  | object members => '\x7b' :: prettyMembers (depth + 1) members ++ newline depth ++ ['\x7d']
  | null => atom null
  | bool b => atom (bool b)
  | natural n => atom (natural n)
  | number spelling => atom (number spelling)
  | text t => atom (text t)

def prettyItems (depth : Nat) : List Json → List Char
  | [] => []
  | [v] => newline depth ++ prettyAt depth v
  | v :: rest => newline depth ++ prettyAt depth v ++ ',' :: prettyItems depth rest

def prettyMembers (depth : Nat) : List (Text × Json) → List Char
  | [] => []
  | [(k, v)] => newline depth ++ k.chars ++ ':' :: ' ' :: prettyAt depth v
  | (k, v) :: rest =>
    newline depth ++ k.chars ++ ':' :: ' ' :: prettyAt depth v ++ ',' :: prettyMembers depth rest

end

def compactText (v : Json) : String := String.ofList v.compact
def prettyText (v : Json) : String := String.ofList (prettyAt 0 v)

end BlockLattice.Json
