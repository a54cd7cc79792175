import BlockLattice.LogFormat
import BlockLattice.Params

namespace BlockLattice

structure Config where
  logFormat : String
  logLevel : String
  genesisUsername : String
  genesisDelegates : UInt64
  queueCapacity : UInt64
  params : Params
deriving DecidableEq, Repr

namespace Config

def standard : Config where
  logFormat := "human"
  logLevel := "info"
  genesisUsername := "genesis"
  genesisDelegates := 101
  queueCapacity := 100
  params := .standard

inductive Error where
  | malformed
  -- A number does not fit the integers of the document format.
  | unwritable
  | overflow (cause : Overflow)
  | logFormat (e : LogFormat.UnknownName)
  | zero (setting : String)
deriving DecidableEq, Repr

def Error.message : Error → String
  | malformed => "toml"
  | unwritable => "toml"
  | overflow cause => cause.message
  | logFormat e => "config error: " ++ e.message
  | zero setting => "config error: " ++ setting ++ " must be at least 1"

def Error.code : Error → String
  | overflow cause => cause.code
  | _ => "Config"

def format (c : Config) : Except Error LogFormat :=
  match LogFormat.parse c.logFormat with
  | .ok f => .ok f
  | .error e => .error (.logFormat e)

-- The first rule that is broken is the one reported.
def validate (c : Config) : Except Error Unit := do
  let _ ← c.format
  if c.params.maxForgers = 0 then throw (.zero "max_forgers")
  if c.params.maxDelegatesPerBlock = 0 then throw (.zero "max_delegates_per_block")
  if c.queueCapacity = 0 then throw (.zero "queue_capacity")

end Config
end BlockLattice
