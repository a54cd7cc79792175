import BlockLattice.Amount.Text
import BlockLattice.Config
import BlockLattice.Toml.Reader
import BlockLattice.Toml.Writer

-- Configuration documents. Every setting has a default and unknown settings
-- are skipped. The parameters are a table, or an array of them in order.
namespace BlockLattice.Config

def string? : Toml → Option String
  | .text s => some s
  | _ => none

def natBelow? (bound : Nat) : Toml → Option Nat
  | .integer n => if 0 ≤ n ∧ n < bound then some n.toNat else none
  | _ => none

def word32? (v : Toml) : Option UInt32 := (natBelow? UInt32.size v).map UInt32.ofNat
def word64? (v : Toml) : Option UInt64 := (natBelow? UInt64.size v).map UInt64.ofNat

def amount? : Toml → Option Amount
  | .text s => Amount.ofChars? s.toList
  | _ => none

def setting (read : Toml → Option α) (fallback : α) : Option Toml → Option α
  | some v => read v
  | none => some fallback

def paramNames : List String :=
  ["version", "transaction_fee", "voting_fee", "delegate_fee", "forge_reward", "genesis_balance",
    "max_delegates_per_account", "max_delegates_per_block", "max_forgers"]

def paramsOf? (find : Nat → Option Toml) : Option Params := do
  let d := Params.standard
  return {
    version := ← setting word32? d.version (find 0)
    transactionFee := ← setting amount? d.transactionFee (find 1)
    votingFee := ← setting amount? d.votingFee (find 2)
    delegateFee := ← setting amount? d.delegateFee (find 3)
    forgeReward := ← setting amount? d.forgeReward (find 4)
    genesisBalance := ← setting amount? d.genesisBalance (find 5)
    maxDelegatesPerAccount := ← setting word64? d.maxDelegatesPerAccount (find 6)
    maxDelegatesPerBlock := ← setting word64? d.maxDelegatesPerBlock (find 7)
    maxForgers := ← setting word64? d.maxForgers (find 8) }

-- A date is read as a table with no setting of this library in it; an array of
-- tables never starts with a version.
def params? : Toml → Option Params
  | .table _ entries => paramsOf? fun i => (paramNames[i]?).bind (Toml.Entries.find? entries)
  | .array items => paramsOf? fun i => items[i]?
  | .moment => some .standard
  | _ => none

def ofEntries? (entries : Toml.Entries) : Option Config := do
  let d := standard
  return {
    logFormat := ← setting string? d.logFormat (entries.find? "log_format")
    logLevel := ← setting string? d.logLevel (entries.find? "log_level")
    genesisUsername := ← setting string? d.genesisUsername (entries.find? "genesis_username")
    genesisDelegates := ← setting word64? d.genesisDelegates (entries.find? "genesis_delegates")
    queueCapacity := ← setting word64? d.queueCapacity (entries.find? "queue_capacity")
    params := ← setting params? d.params (entries.find? "params") }

def parse (s : String) : Except Error Config :=
  match (Toml.ofText? s).bind ofEntries? with
  | none => .error .malformed
  | some c =>
    match c.validate with
    | .ok _ => .ok c
    | .error e => .error e

def parseFile (contents : Option Bytes) : Except Error Config :=
  match contents.bind Bytes.text? with
  | some s => parse s
  | none => .error .malformed

def line (name : String) (value : List Char) : List Char :=
  name.toList ++ " = ".toList ++ value ++ ['\n']

def amountLine (name : String) (a : Amount) : List Char :=
  line name ('"' :: a.chars ++ ['"'])

def textLine (name s : String) : List Char := line name (Toml.stringChars s.toList)

def numberLine? (name : String) (n : UInt64) : Option (List Char) :=
  (Toml.natural? n.toNat).map (line name)

def chars? (c : Config) : Option (List Char) := do
  let p := c.params
  let genesisDelegates ← numberLine? "genesis_delegates" c.genesisDelegates
  let queueCapacity ← numberLine? "queue_capacity" c.queueCapacity
  let perAccount ← numberLine? "max_delegates_per_account" p.maxDelegatesPerAccount
  let perBlock ← numberLine? "max_delegates_per_block" p.maxDelegatesPerBlock
  let forgers ← numberLine? "max_forgers" p.maxForgers
  return textLine "log_format" c.logFormat ++ textLine "log_level" c.logLevel
    ++ textLine "genesis_username" c.genesisUsername ++ genesisDelegates ++ queueCapacity
    ++ "\n[params]\n".toList ++ line "version" (Digits.chars p.version.toNat)
    ++ amountLine "transaction_fee" p.transactionFee ++ amountLine "voting_fee" p.votingFee
    ++ amountLine "delegate_fee" p.delegateFee ++ amountLine "forge_reward" p.forgeReward
    ++ amountLine "genesis_balance" p.genesisBalance ++ perAccount ++ perBlock ++ forgers

def texts (c : Config) : List String := [c.logFormat, c.logLevel, c.genesisUsername]

def document (c : Config) : Except Error String :=
  match c.chars? with
  | some cs =>
    if c.texts.all fun s => Toml.isCountable s.toList then .ok (String.ofList cs)
    else .error (.overflow .add)
  | none => .error .unwritable

end BlockLattice.Config
