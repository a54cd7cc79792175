namespace BlockLattice

structure Timestamp where
  seconds : UInt64
deriving DecidableEq, Repr

namespace Timestamp

def epoch : Timestamp := ⟨0⟩

instance : Inhabited Timestamp := ⟨epoch⟩

def advance (t : Timestamp) (seconds : UInt64) : Timestamp := ⟨t.seconds + seconds⟩

def text (t : Timestamp) : String := toString t.seconds.toNat ++ "s"

end Timestamp

-- What each reading of a clock tells, and how many were made. Nothing is known of
-- two readings: time may stand still between them, jump, or be set back.
structure Clock where
  times : Nat → Timestamp
  readings : Nat

namespace Clock

def still (t : Timestamp) : Clock := ⟨fun _ => t, 0⟩

def now (c : Clock) : Timestamp := c.times c.readings

def next (c : Clock) : Clock := { c with readings := c.readings + 1 }

end Clock
end BlockLattice
