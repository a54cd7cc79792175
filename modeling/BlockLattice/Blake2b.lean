import BlockLattice.Bytes

namespace BlockLattice.Blake2b

structure State where
  (h0 h1 h2 h3 h4 h5 h6 h7 : UInt64)

structure Work where
  (v0 v1 v2 v3 v4 v5 v6 v7 v8 v9 v10 v11 v12 v13 v14 v15 : UInt64)

def iv : State where
  h0 := 0x6a09e667f3bcc908
  h1 := 0xbb67ae8584caa73b
  h2 := 0x3c6ef372fe94f82b
  h3 := 0xa54ff53a5f1d36f1
  h4 := 0x510e527fade682d1
  h5 := 0x9b05688c2b3e6c1f
  h6 := 0x1f83d9abfb41bd6b
  h7 := 0x5be0cd19137e2179

-- No key, sequential mode, digest of 32 bytes.
def start : State := { iv with h0 := iv.h0 ^^^ 0x01010020 }

@[inline] def rotate (x : UInt64) (n : UInt64) : UInt64 := (x >>> n) ||| (x <<< (64 - n))

structure Quarter where
  (a b c d : UInt64)

@[inline] def mix (q : Quarter) (x y : UInt64) : Quarter :=
  let a := q.a + q.b + x
  let d := rotate (q.d ^^^ a) 32
  let c := q.c + d
  let b := rotate (q.b ^^^ c) 24
  let a := a + b + y
  let d := rotate (d ^^^ a) 16
  let c := c + d
  let b := rotate (b ^^^ c) 63
  ⟨a, b, c, d⟩

-- One round: the four columns, then the four diagonals. `m` gives the message
-- word at each place of the round's order.
def round (m : Nat → UInt64) (v : Work) : Work :=
  let c0 := mix ⟨v.v0, v.v4, v.v8, v.v12⟩ (m 0) (m 1)
  let c1 := mix ⟨v.v1, v.v5, v.v9, v.v13⟩ (m 2) (m 3)
  let c2 := mix ⟨v.v2, v.v6, v.v10, v.v14⟩ (m 4) (m 5)
  let c3 := mix ⟨v.v3, v.v7, v.v11, v.v15⟩ (m 6) (m 7)
  let d0 := mix ⟨c0.a, c1.b, c2.c, c3.d⟩ (m 8) (m 9)
  let d1 := mix ⟨c1.a, c2.b, c3.c, c0.d⟩ (m 10) (m 11)
  let d2 := mix ⟨c2.a, c3.b, c0.c, c1.d⟩ (m 12) (m 13)
  let d3 := mix ⟨c3.a, c0.b, c1.c, c2.d⟩ (m 14) (m 15)
  ⟨d0.a, d1.a, d2.a, d3.a, d3.b, d0.b, d1.b, d2.b, d2.c, d3.c, d0.c, d1.c, d1.d, d2.d, d3.d, d0.d⟩

-- The order in which each round takes the message words; the last two rounds
-- repeat the first two.
def schedule : List (Array Nat) := [
  #[0, 1, 2, 3, 4, 5, 6, 7, 8, 9, 10, 11, 12, 13, 14, 15],
  #[14, 10, 4, 8, 9, 15, 13, 6, 1, 12, 0, 2, 11, 7, 5, 3],
  #[11, 8, 12, 0, 5, 2, 15, 13, 10, 14, 3, 6, 7, 1, 9, 4],
  #[7, 9, 3, 1, 13, 12, 11, 14, 2, 6, 5, 10, 4, 0, 15, 8],
  #[9, 0, 5, 7, 2, 4, 10, 15, 14, 1, 11, 12, 6, 8, 3, 13],
  #[2, 12, 6, 10, 0, 11, 8, 3, 4, 13, 7, 5, 15, 14, 1, 9],
  #[12, 5, 1, 15, 14, 13, 4, 10, 0, 7, 6, 3, 9, 2, 8, 11],
  #[13, 11, 7, 14, 12, 1, 3, 9, 5, 0, 15, 4, 8, 6, 2, 10],
  #[6, 15, 14, 9, 11, 3, 0, 8, 12, 2, 13, 7, 1, 4, 10, 5],
  #[10, 2, 8, 4, 7, 6, 1, 5, 15, 11, 9, 14, 3, 12, 13, 0],
  #[0, 1, 2, 3, 4, 5, 6, 7, 8, 9, 10, 11, 12, 13, 14, 15],
  #[14, 10, 4, 8, 9, 15, 13, 6, 1, 12, 0, 2, 11, 7, 5, 3]]

def rounds (message : Array UInt64) (v : Work) : Work :=
  schedule.foldl (fun v order => round (fun i => message.getD (order.getD i 0) 0) v) v

-- `count` is the number of message bytes taken in so far, this block included.
def compress (h : State) (message : Array UInt64) (count : Nat) (final : Bool) : State :=
  let v := rounds message ⟨h.h0, h.h1, h.h2, h.h3, h.h4, h.h5, h.h6, h.h7,
    iv.h0, iv.h1, iv.h2, iv.h3, iv.h4 ^^^ UInt64.ofNat count, iv.h5,
    if final then ~~~ iv.h6 else iv.h6, iv.h7⟩
  ⟨h.h0 ^^^ v.v0 ^^^ v.v8, h.h1 ^^^ v.v1 ^^^ v.v9, h.h2 ^^^ v.v2 ^^^ v.v10, h.h3 ^^^ v.v3 ^^^ v.v11,
    h.h4 ^^^ v.v4 ^^^ v.v12, h.h5 ^^^ v.v5 ^^^ v.v13, h.h6 ^^^ v.v6 ^^^ v.v14, h.h7 ^^^ v.v7 ^^^ v.v15⟩

def words (block : Bytes) : Array UInt64 :=
  ((List.range 16).map fun i => UInt64.ofNat (Bytes.ofLittleEndian ((block.drop (8 * i)).take 8))).toArray

-- `fuel` bounds the number of blocks that follow the first.
def absorb : Nat → State → Nat → Bytes → State
  | 0, h, count, rest => compress h (words rest) (count + rest.length) true
  | fuel + 1, h, count, rest =>
    if rest.length ≤ 128 then compress h (words rest) (count + rest.length) true
    else absorb fuel (compress h (words (rest.take 128)) (count + 128) false) (count + 128) (rest.drop 128)

def State.digest (h : State) : Bytes :=
  [h.h0, h.h1, h.h2, h.h3].flatMap fun w => Bytes.littleEndian 8 w.toNat

def digest (message : Bytes) : Bytes :=
  (absorb (message.length / 128) start 0 message).digest

end BlockLattice.Blake2b
