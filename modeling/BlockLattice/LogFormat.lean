import BlockLattice.Text.Blank
import BlockLattice.Text.Lowercase
import BlockLattice.Text.Quoted

namespace BlockLattice

inductive LogFormat where
  | human
  | json
deriving DecidableEq, Repr

namespace LogFormat

def text : LogFormat → String
  | human => "human"
  | json => "json"

-- The name that was looked up, already trimmed and in lower case.
structure UnknownName where
  name : String
deriving DecidableEq, Repr

def UnknownName.message (e : UnknownName) : String := "unknown log format: " ++ Quoted.text e.name

def parse (s : String) : Except UnknownName LogFormat :=
  let name := Lowercase.asciiText (Blank.trim s)
  if name = "human" ∨ name = "text" then .ok human
  else if name = "json" then .ok json
  else .error ⟨name⟩

end LogFormat
end BlockLattice
