import BlockLattice.Bytes.Hex
import BlockLattice.Text.Digits
import BlockLattice.Toml.Value

namespace BlockLattice.Toml

abbrev Reader (α : Type) := List Char → Option (α × List Char)

def isBlank (c : Char) : Bool := c == ' ' || c == '\t'

def skipBlanks (cs : List Char) : List Char := cs.dropWhile isBlank

def isPlain (c : Char) : Bool := c == '\t' || (32 ≤ c.toNat && c.toNat != 127)

def lineEnd? : List Char → Option (List Char)
  | '\n' :: rest => some rest
  | '\r' :: '\n' :: rest => some rest
  | _ => none

def finishLine (cs : List Char) : Option (List Char) :=
  let cs := skipBlanks cs
  let cs := match cs with
    | '#' :: rest => rest.dropWhile isPlain
    | cs => cs
  match cs with
  | [] => some []
  | cs => lineEnd? cs

def skipLines : Nat → List Char → List Char
  | 0, cs => cs
  | fuel + 1, cs =>
    match skipBlanks cs with
    | '#' :: rest =>
      match lineEnd? (rest.dropWhile isPlain) with
      | some rest => skipLines fuel rest
      | none => '#' :: rest
    | cs =>
      match lineEnd? cs with
      | some rest => skipLines fuel rest
      | none => cs

def scalar? (n : Nat) : Option Char :=
  if h : n.isValidChar then some (Char.ofNatAux n h) else none

def hexValue? (digits : List Char) : Option Nat :=
  digits.foldlM (fun n c => (Hex.digitValue? c).map (16 * n + ·)) 0

def simpleEscape? : Char → Option Char
  | 'b' => some '\x08'
  | 'f' => some '\x0c'
  | 'n' => some '\n'
  | 'r' => some '\r'
  | 't' => some '\t'
  | '"' => some '"'
  | '\\' => some '\\'
  | _ => none

def readEscape : Reader Char
  | 'u' :: a :: b :: c :: d :: rest => do
    return (← scalar? (← hexValue? [a, b, c, d]), rest)
  | 'U' :: a :: b :: c :: d :: e :: f :: g :: h :: rest => do
    return (← scalar? (← hexValue? [a, b, c, d, e, f, g, h]), rest)
  | c :: rest => (simpleEscape? c).map fun c => (c, rest)
  | [] => none

def readBasic : Nat → Reader (List Char)
  | 0, _ => none
  | _ + 1, [] => none
  | _ + 1, '"' :: rest => some ([], rest)
  | fuel + 1, '\\' :: rest => do
    let (c, rest) ← readEscape rest
    let (cs, rest) ← readBasic fuel rest
    return (c :: cs, rest)
  | fuel + 1, c :: rest =>
    if isPlain c then (readBasic fuel rest).map fun (cs, rest) => (c :: cs, rest) else none

def skipEmptyLines : Nat → List Char → List Char
  | 0, cs => cs
  | fuel + 1, cs =>
    match lineEnd? (skipBlanks cs) with
    | some rest => skipEmptyLines fuel rest
    | none => skipBlanks cs

def skipContinuation (cs : List Char) : Option (List Char) :=
  (lineEnd? (skipBlanks cs)).map fun rest => skipEmptyLines rest.length rest

-- Up to three closing quotes; one or two quotes before them belong to the text.
def readLongBasic : Nat → Reader (List Char)
  | 0, _ => none
  | _ + 1, [] => none
  | _ + 1, '"' :: '"' :: '"' :: '"' :: '"' :: rest => some (['"', '"'], rest)
  | _ + 1, '"' :: '"' :: '"' :: '"' :: rest => some (['"'], rest)
  | _ + 1, '"' :: '"' :: '"' :: rest => some ([], rest)
  | fuel + 1, '\\' :: rest =>
    match skipContinuation rest with
    | some rest => readLongBasic fuel rest
    | none => do
      let (c, rest) ← readEscape rest
      let (cs, rest) ← readLongBasic fuel rest
      return (c :: cs, rest)
  | fuel + 1, c :: rest =>
    match lineEnd? (c :: rest) with
    | some rest => (readLongBasic fuel rest).map fun (cs, rest) => ('\n' :: cs, rest)
    | none =>
      if isPlain c then (readLongBasic fuel rest).map fun (cs, rest) => (c :: cs, rest) else none

def readLiteral (cs : List Char) : Option (List Char × List Char) :=
  let isBody (c : Char) : Bool := isPlain c && c != '\''
  match cs.dropWhile isBody with
  | '\'' :: rest => some (cs.takeWhile isBody, rest)
  | _ => none

def readLongLiteral : Nat → Reader (List Char)
  | 0, _ => none
  | _ + 1, [] => none
  | _ + 1, '\'' :: '\'' :: '\'' :: '\'' :: '\'' :: rest => some (['\'', '\''], rest)
  | _ + 1, '\'' :: '\'' :: '\'' :: '\'' :: rest => some (['\''], rest)
  | _ + 1, '\'' :: '\'' :: '\'' :: rest => some ([], rest)
  | fuel + 1, c :: rest =>
    match lineEnd? (c :: rest) with
    | some rest => (readLongLiteral fuel rest).map fun (cs, rest) => ('\n' :: cs, rest)
    | none =>
      if isPlain c then (readLongLiteral fuel rest).map fun (cs, rest) => (c :: cs, rest) else none

-- A line end right after three opening quotes is not part of the text.
def afterOpening (cs : List Char) : List Char := (lineEnd? cs).getD cs

def readString : Reader (List Char)
  | '"' :: '"' :: '"' :: rest => readLongBasic (rest.length + 1) (afterOpening rest)
  | '"' :: rest => readBasic (rest.length + 1) rest
  | '\'' :: '\'' :: '\'' :: rest => readLongLiteral (rest.length + 1) (afterOpening rest)
  | '\'' :: rest => readLiteral rest
  | _ => none

def isBare (c : Char) : Bool := c.isAlphanum || c == '_' || c == '-'

def readSimpleKey : Reader String
  | '"' :: rest => (readBasic (rest.length + 1) rest).map fun (cs, rest) => (String.ofList cs, rest)
  | '\'' :: rest => (readLiteral rest).map fun (cs, rest) => (String.ofList cs, rest)
  | cs =>
    let name := cs.takeWhile isBare
    if name.isEmpty then none else some (String.ofList name, cs.dropWhile isBare)

def readKeys : Nat → Reader (List String)
  | 0, _ => none
  | fuel + 1, cs => do
    let (key, rest) ← readSimpleKey (skipBlanks cs)
    match skipBlanks rest with
    | '.' :: rest => (readKeys fuel rest).map fun (keys, rest) => (key :: keys, rest)
    | rest => some ([key], rest)

def depthLimit : Nat := 80

def readPath (cs : List Char) : Option (List String × List Char) := do
  let (keys, rest) ← readKeys (cs.length + 1) cs
  if keys.length < depthLimit then some (keys, rest) else none

def readGrouped (isDigit : Char → Bool) : Reader (List Char)
  | [] => none
  | [c] => if isDigit c then some ([c], []) else none
  | c :: next :: rest =>
    if !isDigit c then none
    else if next = '_' then (readGrouped isDigit rest).map fun (cs, rest) => (c :: cs, rest)
    else if isDigit next then
      (readGrouped isDigit (next :: rest)).map fun (cs, rest) => (c :: cs, rest)
    else some ([c], next :: rest)

def readDigits : Reader (List Char) := readGrouped Char.isDigit

def readDecimal : Reader (List Char)
  | '0' :: rest => some (['0'], rest)
  | cs => readDigits cs

def isHexDigit (c : Char) : Bool := (Hex.digitValue? c).isSome
def isOctalDigit (c : Char) : Bool := '0' ≤ c && c ≤ '7'
def isBinaryDigit (c : Char) : Bool := c == '0' || c == '1'

def baseValue (base : Nat) (digits : List Char) : Nat :=
  digits.foldl (fun n c => base * n + (Hex.digitValue? c).getD 0) 0

def integer? (n : Int) : Option Toml :=
  if -9223372036854775808 ≤ n ∧ n ≤ 9223372036854775807 then some (.integer n) else none

def readBase (base : Nat) (isDigit : Char → Bool) (cs : List Char) : Option (Toml × List Char) := do
  let (digits, rest) ← readGrouped isDigit cs
  return (← integer? (baseValue base digits), rest)

def readFraction : Reader (List Char)
  | '.' :: rest => readDigits rest
  | _ => none

def readExponent : Reader Int
  | mark :: rest =>
    if mark = 'e' ∨ mark = 'E' then
      match rest with
      | '-' :: rest => (readDigits rest).map fun (digits, rest) => (-(Digits.value digits : Int), rest)
      | '+' :: rest => (readDigits rest).map fun (digits, rest) => ((Digits.value digits : Int), rest)
      | rest => (readDigits rest).map fun (digits, rest) => ((Digits.value digits : Int), rest)
    else none
  | [] => none

def tooLarge (digits : Nat) (exponent : Int) : Bool :=
  let places : Int := (Digits.chars digits).length + exponent
  if digits = 0 || places < 308 then false
  else if 310 < places then true
  else ((1 <<< 1024) - (1 <<< 970)) * Nat.pow 10 (-exponent).toNat ≤ digits * Nat.pow 10 exponent.toNat

def readSign : List Char → Option Char × List Char
  | '+' :: rest => (some '+', rest)
  | '-' :: rest => (some '-', rest)
  | cs => (none, cs)

-- Decimal integers and floats, and the named floats. Of the floats only a
-- positive one beyond the range is refused.
def readDecimalNumber (cs : List Char) : Option (Toml × List Char) :=
  let (sign, body) := readSign cs
  match body with
  | 'i' :: 'n' :: 'f' :: rest => some (.float, rest)
  | 'n' :: 'a' :: 'n' :: rest => some (.float, rest)
  | body => do
    let (whole, rest) ← readDecimal body
    let fraction? : Option (List Char × List Char) ← match rest with
      | '.' :: _ => (readFraction rest).map some
      | _ => some none
    let (fraction, rest) := fraction?.getD ([], rest)
    let exponent? : Option (Int × List Char) := readExponent rest
    match fraction?, exponent? with
    | none, none =>
      let n : Int := Digits.value whole
      return (← integer? (if sign = some '-' then -n else n), rest)
    | _, exponent? =>
      let (exponent, rest) := exponent?.getD (0, rest)
      if sign ≠ some '-' && tooLarge (Digits.value (whole ++ fraction)) (exponent - fraction.length) then none
      else return (.float, rest)

def readNumber : Reader Toml
  | '0' :: 'x' :: rest => readBase 16 isHexDigit rest
  | '0' :: 'o' :: rest => readBase 8 isOctalDigit rest
  | '0' :: 'b' :: rest => readBase 2 isBinaryDigit rest
  | cs => readDecimalNumber cs

def readFixed (n low high : Nat) (cs : List Char) : Option (Nat × List Char) :=
  let digits := cs.take n
  if digits.length = n && Digits.allDigits digits && low ≤ Digits.value digits && Digits.value digits ≤ high then
    some (Digits.value digits, cs.drop n)
  else none

def expect (c : Char) : List Char → Option (List Char)
  | d :: rest => if d = c then some rest else none
  | [] => none

def daysInMonth (year month : Nat) : Nat :=
  if month = 2 then
    if year % 4 = 0 && (year % 100 != 0 || year % 400 = 0) then 29 else 28
  else if month = 4 || month = 6 || month = 9 || month = 11 then 30
  else 31

def readDate (cs : List Char) : Option (List Char) := do
  let (year, cs) ← readFixed 4 0 9999 cs
  let (month, cs) ← readFixed 2 1 12 (← expect '-' cs)
  let (_, cs) ← readFixed 2 1 (daysInMonth year month) (← expect '-' cs)
  return cs

def readTime (cs : List Char) : Option (List Char) := do
  let (_, cs) ← readFixed 2 0 23 cs
  let (_, cs) ← readFixed 2 0 59 (← expect ':' cs)
  let (_, cs) ← readFixed 2 0 60 (← expect ':' cs)
  match cs with
  | '.' :: rest =>
    if (rest.takeWhile Char.isDigit).isEmpty then return cs else return rest.dropWhile Char.isDigit
  | cs => return cs

def readOffset (cs : List Char) : Option (List Char) :=
  match cs with
  | 'Z' :: rest => some rest
  | 'z' :: rest => some rest
  | sign :: rest => do
    if sign = '+' ∨ sign = '-' then
      let (_, rest) ← readFixed 2 0 23 rest
      let (_, rest) ← readFixed 2 0 59 (← expect ':' rest)
      return rest
    else none
  | [] => none

def readMoment (cs : List Char) : Option (List Char) :=
  match readDate cs with
  | none => readTime cs
  | some rest =>
    match rest with
    | c :: after =>
      if c = 'T' ∨ c = 't' ∨ c = ' ' then
        match readTime after with
        | some after => some ((readOffset after).getD after)
        | none => some rest
      else some rest
    | [] => some rest

def readNumberOrMoment (cs : List Char) : Option (Toml × List Char) :=
  match readMoment cs with
  | some rest => some (.moment, rest)
  | none => readNumber cs

mutual

-- `fuel` bounds the values still to be entered, `room` the levels of nesting.
def readValue : Nat → Nat → Reader Toml
  | 0, _, _ => none
  | fuel + 1, room, cs =>
    match cs with
    | '"' :: _ => (readString cs).map fun (s, rest) => (.text (String.ofList s), rest)
    | '\'' :: _ => (readString cs).map fun (s, rest) => (.text (String.ofList s), rest)
    | '[' :: rest =>
      match room with
      | 0 => none
      | room + 1 => (readItems fuel room rest).map fun (items, rest) => (.array items, rest)
    | '\x7b' :: rest =>
      match room with
      | 0 => none
      | room + 1 =>
        match skipBlanks rest with
        | '\x7d' :: rest => some (.table .braces [], rest)
        | rest => (readEntries fuel room [] rest).map fun (entries, rest) => (.table .braces entries, rest)
    | 't' :: 'r' :: 'u' :: 'e' :: rest => some (.bool true, rest)
    | 'f' :: 'a' :: 'l' :: 's' :: 'e' :: rest => some (.bool false, rest)
    | cs => readNumberOrMoment cs

def readItems : Nat → Nat → Reader (List Toml)
  | 0, _, _ => none
  | fuel + 1, room, cs =>
    match skipLines fuel cs with
    | ']' :: rest => some ([], rest)
    | cs =>
      match readValue fuel room cs with
      | none => none
      | some (item, rest) =>
        match skipLines fuel rest with
        | ']' :: rest => some ([item], rest)
        | ',' :: rest => (readItems fuel room rest).map fun (items, rest) => (item :: items, rest)
        | _ => none

def readEntries : Nat → Nat → Entries → Reader Entries
  | 0, _, _, _ => none
  | fuel + 1, room, entries, cs =>
    match readPath cs with
    | some (path, '=' :: rest) =>
      match readValue fuel room (skipBlanks rest) with
      | none => none
      | some (value, rest) =>
        match assign value path entries with
        | none => none
        | some entries =>
          match skipBlanks rest with
          | '\x7d' :: rest => some (entries, rest)
          | ',' :: rest => readEntries fuel room entries rest
          | _ => none
    | _ => none

end

def readStatement (cs : List Char) : Option (Statement × List Char) :=
  match cs with
  | '[' :: '[' :: rest =>
    match readPath rest with
    | some (path, ']' :: ']' :: rest) => some (.element path, rest)
    | _ => none
  | '[' :: rest =>
    match readPath rest with
    | some (path, ']' :: rest) => some (.header path, rest)
    | _ => none
  | cs =>
    match readPath cs with
    | some (path, '=' :: rest) =>
      (readValue (2 * rest.length + 2) (depthLimit - 1) (skipBlanks rest)).map fun (value, rest) =>
        (.assign path value, rest)
    | _ => none

def readStatements : Nat → List Char → Option (List Statement)
  | 0, _ => none
  | fuel + 1, cs =>
    match skipBlanks cs with
    | [] => some []
    | '#' :: rest =>
      match finishLine ('#' :: rest) with
      | some rest => readStatements fuel rest
      | none => none
    | cs =>
      match lineEnd? cs with
      | some rest => readStatements fuel rest
      | none =>
        match readStatement cs with
        | none => none
        | some (statement, rest) =>
          match finishLine rest with
          | some rest => (readStatements fuel rest).map (statement :: ·)
          | none => none

def skipMark : List Char → List Char
  | '\ufeff' :: rest => rest
  | cs => cs

def ofText? (s : String) : Option Entries := do
  let cs := skipMark s.toList
  ofStatements? (← readStatements (cs.length + 1) cs)

end BlockLattice.Toml
