-- Amounts of value. The raw unit is a millionth of a coin and an amount is
-- below 2^128, which is part of the type: no operation can leave the range
-- without saying so.
namespace BlockLattice

inductive Overflow where
  | add
  | subtract
  | multiply
deriving DecidableEq, Repr

def Overflow.message : Overflow → String
  | .add => "attempt to add with overflow"
  | .subtract => "attempt to subtract with overflow"
  | .multiply => "attempt to multiply with overflow"

-- Numbers that leave their range end the work: there is one name for all ways.
def Overflow.code (_ : Overflow) : String := "panic"

abbrev Amount.size : Nat := 340282366920938463463374607431768211456

structure Amount where
  raw : Nat
  raw_lt : raw < Amount.size
deriving DecidableEq, Repr

namespace Amount

@[ext] theorem ext {a b : Amount} (same : a.raw = b.raw) : a = b := by
  cases a; cases b; cases same; rfl

def ofRaw? (n : Nat) : Option Amount :=
  if h : n < size then some ⟨n, h⟩ else none

def largest : Amount := ⟨size - 1, by decide⟩

def clamp (n : Nat) : Amount := (ofRaw? n).getD largest

def zero : Amount := ⟨0, by decide⟩

instance : Inhabited Amount := ⟨zero⟩

def unit : Nat := 1000000

def isZero (a : Amount) : Bool := a.raw == 0

def checkedAdd (a b : Amount) : Option Amount := ofRaw? (a.raw + b.raw)

def checkedSub (a b : Amount) : Option Amount :=
  if b.raw ≤ a.raw then ofRaw? (a.raw - b.raw) else none

def saturatingAdd (a b : Amount) : Amount := clamp (a.raw + b.raw)

def saturatingSub (a b : Amount) : Amount := ⟨a.raw - b.raw, Nat.lt_of_le_of_lt (Nat.sub_le _ _) a.raw_lt⟩

def saturatingMul (a : Amount) (count : Nat) : Amount := clamp (a.raw * count)

def exact (cause : Overflow) (n : Nat) : Except Overflow Amount :=
  match ofRaw? n with
  | some a => .ok a
  | none => .error cause

def add (a b : Amount) : Except Overflow Amount := exact .add (a.raw + b.raw)

def sub (a b : Amount) : Except Overflow Amount :=
  match a.checkedSub b with
  | some d => .ok d
  | none => .error .subtract

def ofUnits (units : Nat) : Except Overflow Amount := exact .multiply (units * unit)

-- An even cut into `parts` and what is left over; nothing to cut for no parts.
def split (a : Amount) (parts : Nat) : Option (Amount × Amount) :=
  if parts = 0 then none
  else some (⟨a.raw / parts, Nat.lt_of_le_of_lt (Nat.div_le_self _ _) a.raw_lt⟩,
    ⟨a.raw % parts, Nat.lt_of_le_of_lt (Nat.mod_le _ _) a.raw_lt⟩)

theorem ofRaw?_eq_some {n : Nat} {a : Amount} : ofRaw? n = some a ↔ a.raw = n := by
  unfold ofRaw?
  split
  · constructor
    · intro h; cases h; rfl
    · intro h; subst h; rfl
  · rename_i h
    constructor
    · intro e; cases e
    · intro e; exact absurd (e ▸ a.raw_lt) h

theorem ofRaw?_eq_none {n : Nat} : ofRaw? n = none ↔ size ≤ n := by
  unfold ofRaw?
  split <;> rename_i h
  · exact ⟨fun e => (nomatch e), fun large => absurd h (Nat.not_lt.mpr large)⟩
  · exact ⟨fun _ => Nat.not_lt.mp h, fun _ => rfl⟩

@[simp] theorem raw_zero : zero.raw = 0 := rfl

theorem raw_clamp (n : Nat) : (clamp n).raw = min n (size - 1) := by
  unfold clamp ofRaw?
  split
  · rename_i h; simp only [Option.getD_some]; omega
  · rename_i h; simp only [Option.getD_none, largest]; omega

theorem checkedAdd_eq_some {a b c : Amount} :
    a.checkedAdd b = some c ↔ c.raw = a.raw + b.raw := ofRaw?_eq_some

theorem checkedSub_eq_some {a b c : Amount} :
    a.checkedSub b = some c ↔ c.raw + b.raw = a.raw := by
  unfold checkedSub
  split
  · rw [ofRaw?_eq_some]; omega
  · simp only [reduceCtorEq, false_iff]; omega

@[simp] theorem raw_saturatingSub (a b : Amount) : (a.saturatingSub b).raw = a.raw - b.raw := rfl

@[simp] theorem raw_saturatingAdd (a b : Amount) :
    (a.saturatingAdd b).raw = min (a.raw + b.raw) (size - 1) := raw_clamp _

end Amount
end BlockLattice
