import BlockLattice.Json.Value

-- How typed values are read out of JSON. A record is an object, its members in
-- any order and unknown names skipped, or an array of its fields in order. A
-- name that is known must not be given twice.
namespace BlockLattice.Json

inductive Slot where
  | given (v : Json)
  | absent
  -- An array that ends before that field.
  | beyond

def Text.plain? : Text → Option String
  | plain s => some s
  | unpaired _ => none

def memberSlot? (members : List (Text × Json)) (name : String) : Option Slot :=
  match members.filter fun m => m.1 == .plain name with
  | [] => some .absent
  | [m] => some (.given m.2)
  | _ => none

def itemSlots : List String → List Json → List Slot
  | [], _ => []
  | _ :: names, [] => .beyond :: itemSlots names []
  | _ :: names, v :: rest => .given v :: itemSlots names rest

def slots? (names : List String) : Json → Option (List Slot)
  | object members =>
    if members.all fun m => m.1.plain?.isSome then names.mapM (memberSlot? members) else none
  | array items => if items.length ≤ names.length then some (itemSlots names items) else none
  | _ => none

def Slot.required (read : Json → Option α) : Slot → Option α
  | given v => read v
  | absent => none
  | beyond => none

def Slot.optional (read : Json → Option α) : Slot → Option (Option α)
  | given null => some none
  | given v => (read v).map some
  | absent => some none
  | beyond => none

def Slot.withDefault (fallback : α) (read : Json → Option α) : Slot → Option α
  | given v => read v
  | absent => some fallback
  | beyond => some fallback

def variant? : Json → Option (String × Option Json)
  | text (.plain tag) => some (tag, none)
  | object [(.plain tag, content)] => some (tag, some content)
  | _ => none

-- A tag that carries nothing stands alone or before a null.
def isEmptyContent : Option Json → Bool
  | none => true
  | some null => true
  | _ => false

def natBelow? (bound : Nat) : Json → Option Nat
  | natural n => if n < bound then some n else none
  | _ => none

def bool? : Json → Option Bool
  | bool b => some b
  | _ => none

def string? : Json → Option String
  | text (.plain s) => some s
  | _ => none

def list? (read : Json → Option α) : Json → Option (List α)
  | array items => items.mapM read
  | _ => none

def byte? (v : Json) : Option UInt8 := (natBelow? 256 v).map UInt8.ofNat

def bytes? (n : Nat) (v : Json) : Option Bytes :=
  match list? byte? v with
  | some bs => if bs.length = n then some bs else none
  | none => none

def word16? (v : Json) : Option UInt16 := (natBelow? UInt16.size v).map UInt16.ofNat
def word32? (v : Json) : Option UInt32 := (natBelow? UInt32.size v).map UInt32.ofNat
def word64? (v : Json) : Option UInt64 := (natBelow? UInt64.size v).map UInt64.ofNat

end BlockLattice.Json
