import BlockLattice.Text.CaseTable

-- Full lower-casing of texts. Besides the simple mapping there are two rules:
-- the dotted capital I becomes two characters, and a capital sigma that ends a
-- word takes its final form.
namespace BlockLattice.Lowercase

def meetsCased (cs : List Char) : Bool :=
  match cs.dropWhile CaseTable.isIgnorable with
  | c :: _ => CaseTable.isCased c
  | [] => false

-- `before` holds the characters already passed, the nearest first.
def sigma (before after : List Char) : Char :=
  if meetsCased before && !meetsCased after then 'ς' else 'σ'

def lowerChars (before : List Char) : List Char → List Char
  | [] => []
  | c :: rest =>
    let written :=
      if c = 'Σ' then [sigma before rest]
      else if c = 'İ' then ['i', '\u0307']
      else [CaseTable.lower c]
    written ++ lowerChars (c :: before) rest

def text (s : String) : String := String.ofList (lowerChars [] s.toList)

def asciiText (s : String) : String := String.ofList (s.toList.map Char.toLower)

end BlockLattice.Lowercase
