import BlockLattice.Bytes

-- The twisted Edwards curve -x^2 + y^2 = 1 + d x^2 y^2 over the field of
-- 2^255 - 19 elements. Field elements are natural numbers below the modulus;
-- points are kept in extended coordinates, so that no step divides.
namespace BlockLattice.Ed25519

def modulus : Nat := (1 <<< 255) - 19

def order : Nat := (1 <<< 252) + 27742317777372353535851937790883648493

namespace Residue

def add (a b : Nat) : Nat := (a + b) % modulus
def sub (a b : Nat) : Nat := (a + (modulus - b)) % modulus
def mul (a b : Nat) : Nat := a * b % modulus

def squared : Nat → Nat → Nat
  | 0, a => a
  | n + 1, a => squared n (mul a a)

-- Appends `n` bits to an exponent: from the powers by `u` and by `v`, where `v`
-- has at most `n` bits, the power by `u` shifted over `v`.
def join (u n v : Nat) : Nat := mul (squared n u) v

def powOnes (a : Nat) : Nat :=
  let ones2 := join a 1 a
  let ones4 := join ones2 2 ones2
  let ones5 := join ones4 1 a
  let ones10 := join ones5 5 ones5
  let ones20 := join ones10 10 ones10
  let ones40 := join ones20 20 ones20
  let ones50 := join ones40 10 ones10
  let ones100 := join ones50 50 ones50
  let ones200 := join ones100 100 ones100
  join ones200 50 ones50

-- The power by 2^255 - 21, which ends in the bits of eleven.
def inverse (a : Nat) : Nat :=
  join (powOnes a) 5 (mul (mul (squared 3 a) (squared 1 a)) a)

-- The power by 2^252 - 3, from which square roots are made.
def powRoot (a : Nat) : Nat := join (powOnes a) 2 a

def rootOfMinusOne : Nat :=
  19681161376707505956807079304988542015446066515923890162744021073123829784752

def sqrtRatio? (u v : Nat) : Option Nat :=
  let v3 := mul (mul v v) v
  let v7 := mul (mul v3 v3) v
  let r := mul (mul u v3) (powRoot (mul u v7))
  let check := mul v (mul r r)
  let root? : Option Nat :=
    if check = u then some r
    else if check = sub 0 u then some (mul r rootOfMinusOne)
    else none
  root?.map fun root => if root % 2 = 1 then sub 0 root else root

end Residue

open Residue

def d : Nat := 37095705934669439343138083508754565189542113879843219016388785533085940283555

structure Point where
  (x y z t : Nat)

namespace Point

def identity : Point := ⟨0, 1, 1, 0⟩

def base : Point where
  x := 15112221349535400772501151409588531511454012693041857206046113283949847762202
  y := 46316835694926478169428394003475163141307993866256225615783033603165251855960
  z := 1
  t := 46827403850823179245072216630277197565144205554125654976674165829533817101731

-- Inside a point operation sums are not reduced, because the products that they
-- enter are. What is taken away must not exceed the modulus.
def plus (a b : Nat) : Nat := a + b
def minus (a b : Nat) : Nat := a + (modulus - b)

def add (p q : Point) : Point :=
  let a := mul (minus p.y p.x) (minus q.y q.x)
  let b := mul (plus p.y p.x) (plus q.y q.x)
  let c := mul (mul p.t (plus q.t q.t)) d
  let s := mul p.z (plus q.z q.z)
  let e := minus b a
  let f := minus s c
  let g := plus s c
  let h := plus b a
  ⟨mul e f, mul g h, mul f g, mul e h⟩

def double (p : Point) : Point :=
  let a := mul p.x p.x
  let b := mul p.y p.y
  let zz := mul p.z p.z
  let h := plus a b
  let s := plus p.x p.y
  let e := minus h (mul s s)
  let g := minus a b
  let f := plus (plus zz zz) g
  ⟨mul e f, mul g h, mul f g, mul e h⟩

def negate (p : Point) : Point := ⟨modulus - p.x, p.y, p.z, modulus - p.t⟩

def run (p : Point) : Nat → Point → List Point
  | 0, q => [q]
  | n + 1, q => q :: run p n (q.add p)

def multiples (p : Point) : Array Point := (run p 15 identity).toArray

def times16 (p : Point) : Point := p.double.double.double.double

-- Scalars are taken four bits at a time. Here from the highest digit on, with
-- the multiples of the point at hand.
def scaleDigits (table : Array Point) (scalar : Nat) : Nat → Point → Point
  | 0, sum => sum
  | digits + 1, sum =>
    scaleDigits table scalar digits
      (sum.times16.add (table.getD ((scalar >>> (4 * digits)) % 16) identity))

def scale (p : Point) (scalar : Nat) : Point := scaleDigits p.multiples scalar 64 identity

def digitTable : Nat → Point → List (Array Point)
  | 0, _ => []
  | n + 1, p => p.multiples :: digitTable n p.times16

def baseTable : List (Array Point) := digitTable 64 base

def sumDigits : List (Array Point) → Nat → Point → Point
  | [], _, sum => sum
  | row :: rest, scalar, sum => sumDigits rest (scalar / 16) (sum.add (row.getD (scalar % 16) identity))

def scaleBase (scalar : Nat) : Point := sumDigits baseTable scalar identity

def encode (p : Point) : Bytes :=
  let zi := inverse p.z
  let x := mul p.x zi
  let y := mul p.y zi
  Bytes.littleEndian 32 (y + ((x % 2) <<< 255))

-- Any y coordinate of a point is taken, also one that is not reduced; the sign
-- bit of a zero x is ignored.
def decode? (bytes : Bytes) : Option Point :=
  let word := Bytes.ofLittleEndian bytes
  let y := word % (1 <<< 255) % modulus
  let yy := mul y y
  (sqrtRatio? (Residue.sub yy 1) (Residue.add (mul d yy) 1)).map fun root =>
    let x := if (word >>> 255) % 2 = 1 then Residue.sub 0 root else root
    ⟨x, y, 1, mul x y⟩

end Point
end BlockLattice.Ed25519
