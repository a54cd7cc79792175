import BlockLattice.Amount.Text
import BlockLattice.Config
import BlockLattice.Json.Types

-- The JSON forms of the parameters and of configurations. Amounts among the
-- parameters are decimal texts; every field has a default.
namespace BlockLattice

def Amount.ofJsonText? (v : Json) : Option Amount := (Json.string? v).bind fun s => Amount.ofChars? s.toList

def Params.toJson (p : Params) : Json :=
  .record [("version", .natural p.version.toNat), ("transaction_fee", .string p.transactionFee.text),
    ("voting_fee", .string p.votingFee.text), ("delegate_fee", .string p.delegateFee.text),
    ("forge_reward", .string p.forgeReward.text), ("genesis_balance", .string p.genesisBalance.text),
    ("max_delegates_per_account", .natural p.maxDelegatesPerAccount.toNat),
    ("max_delegates_per_block", .natural p.maxDelegatesPerBlock.toNat),
    ("max_forgers", .natural p.maxForgers.toNat)]

def Params.ofJson? (v : Json) : Option Params :=
  let d := Params.standard
  match Json.slots? ["version", "transaction_fee", "voting_fee", "delegate_fee", "forge_reward",
      "genesis_balance", "max_delegates_per_account", "max_delegates_per_block", "max_forgers"] v with
  | some [version, transactionFee, votingFee, delegateFee, forgeReward, genesisBalance, perAccount, perBlock,
      forgers] => do
    return ⟨← version.withDefault d.version Json.word32?,
      ← transactionFee.withDefault d.transactionFee Amount.ofJsonText?,
      ← votingFee.withDefault d.votingFee Amount.ofJsonText?,
      ← delegateFee.withDefault d.delegateFee Amount.ofJsonText?,
      ← forgeReward.withDefault d.forgeReward Amount.ofJsonText?,
      ← genesisBalance.withDefault d.genesisBalance Amount.ofJsonText?,
      ← perAccount.withDefault d.maxDelegatesPerAccount Json.word64?,
      ← perBlock.withDefault d.maxDelegatesPerBlock Json.word64?,
      ← forgers.withDefault d.maxForgers Json.word64?⟩
  | _ => none

def Config.toJson (c : Config) : Json :=
  .record [("log_format", .string c.logFormat), ("log_level", .string c.logLevel),
    ("genesis_username", .string c.genesisUsername), ("genesis_delegates", .natural c.genesisDelegates.toNat),
    ("queue_capacity", .natural c.queueCapacity.toNat), ("params", c.params.toJson)]

def Config.ofJson? (v : Json) : Option Config :=
  let d := Config.standard
  match Json.slots? ["log_format", "log_level", "genesis_username", "genesis_delegates", "queue_capacity",
      "params"] v with
  | some [logFormat, logLevel, genesisUsername, genesisDelegates, queueCapacity, params] => do
    return ⟨← logFormat.withDefault d.logFormat Json.string?, ← logLevel.withDefault d.logLevel Json.string?,
      ← genesisUsername.withDefault d.genesisUsername Json.string?,
      ← genesisDelegates.withDefault d.genesisDelegates Json.word64?,
      ← queueCapacity.withDefault d.queueCapacity Json.word64?,
      ← params.withDefault d.params Params.ofJson?⟩
  | _ => none

end BlockLattice
