import BlockLattice.Bytes

-- JSON values. Whole numbers without a sign keep their value; every other
-- number keeps its spelling. A string may hold half of a surrogate pair, which
-- no Unicode text can: such a string is only ever skipped.
namespace BlockLattice

namespace Json

inductive Piece where
  | char (c : Char)
  | unit (n : Nat)
deriving DecidableEq, Repr

inductive Text where
  | plain (s : String)
  | unpaired (pieces : List Piece)
deriving DecidableEq, Repr

end Json

inductive Json where
  | null
  | bool (b : Bool)
  | natural (n : Nat)
  | number (spelling : List Char)
  | text (t : Json.Text)
  | array (items : List Json)
  | object (members : List (Json.Text × Json))

namespace Json

def string (s : String) : Json := .text (.plain s)

def record (members : List (String × Json)) : Json :=
  .object (members.map fun m => (.plain m.1, m.2))

def bytes (bs : Bytes) : Json := .array (bs.map fun b => .natural b.toNat)

def tagged (tag : String) (content : Json) : Json := record [(tag, content)]

def option (write : α → Json) : Option α → Json
  | none => .null
  | some a => write a

end Json
end BlockLattice
