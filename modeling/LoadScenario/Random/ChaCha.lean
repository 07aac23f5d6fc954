/-!
# The ChaCha generator

A seeded generator of 32-bit words: the ChaCha block function with 12 rounds
over a 256-bit key, a 64-bit block counter and a zero stream id. Blocks are
made four at a time into a buffer of 64 words, read in order; a 64-bit word is
two consecutive words, low half first, and one that would straddle a refill
takes the last word of the old buffer and the first of the new one.

A 64-bit seed is spread into the key by a PCG32 sequence, one 32-bit output per
key word.
-/

namespace LoadScenario.Random

/-- Rotates a word left. -/
def rotl (x : UInt32) (n : UInt32) : UInt32 := (x <<< n) ||| (x >>> (32 - n))

/-- The quarter round on four words of the state. -/
def quarter (s : Array UInt32) (a b c d : Nat) : Array UInt32 :=
  let get (i : Nat) : UInt32 := s.getD i 0
  let va := get a + get b
  let vd := rotl (get d ^^^ va) 16
  let vc := get c + vd
  let vb := rotl (get b ^^^ vc) 12
  let va := va + vb
  let vd := rotl (vd ^^^ va) 8
  let vc := vc + vd
  let vb := rotl (vb ^^^ vc) 7
  ((s.set! a va).set! b vb |>.set! c vc).set! d vd

/-- A column round then a diagonal round. -/
def doubleRound (s : Array UInt32) : Array UInt32 :=
  let s := quarter s 0 4 8 12
  let s := quarter s 1 5 9 13
  let s := quarter s 2 6 10 14
  let s := quarter s 3 7 11 15
  let s := quarter s 0 5 10 15
  let s := quarter s 1 6 11 12
  let s := quarter s 2 7 8 13
  quarter s 3 4 9 14

/-- The four words of "expand 32-byte k". -/
def sigma : List UInt32 := [0x61707865, 0x3320646e, 0x79622d32, 0x6b206574]

/-- One block of 16 words for a key and a block counter, with stream id zero. -/
def block (key : Array UInt32) (counter : Nat) : Array UInt32 :=
  let init : Array UInt32 :=
    (sigma ++ key.toList ++
      [UInt32.ofNat (counter % Nat.pow 2 32), UInt32.ofNat ((counter / Nat.pow 2 32) % Nat.pow 2 32), 0, 0]).toArray
  let mixed := (List.range 6).foldl (fun s _ => doubleRound s) init
  (Array.range 16).map fun i => mixed.getD i 0 + init.getD i 0

/-- The generator: key, counter of the next block, buffered words and the index of the next word. -/
structure ChaCha where
  key : Array UInt32
  counter : Nat
  buffer : Array UInt32
  index : Nat
  deriving Inhabited

namespace ChaCha

/-- Words per buffer: four blocks. -/
def bufferWords : Nat := 64

/-- A generator from a key; the buffer starts empty (used up). -/
def ofKey (key : Array UInt32) : ChaCha := ⟨key, 0, #[], bufferWords⟩

/-- The next four blocks into the buffer. -/
def refill (g : ChaCha) : ChaCha :=
  let words := (List.range 4).foldl (fun acc i => acc ++ block g.key (g.counter + i)) #[]
  { g with counter := (g.counter + 4) % Nat.pow 2 64, buffer := words, index := 0 }

/-- The next 32-bit word. -/
def nextU32 (g : ChaCha) : UInt32 × ChaCha :=
  let g := if g.index < bufferWords then g else g.refill
  (g.buffer.getD g.index 0, { g with index := g.index + 1 })

/-- The next 64-bit word, low half first. -/
def nextU64 (g : ChaCha) : UInt64 × ChaCha :=
  let join (lo hi : UInt32) : UInt64 := (hi.toUInt64 <<< 32) ||| lo.toUInt64
  if g.index + 1 < bufferWords then
    (join (g.buffer.getD g.index 0) (g.buffer.getD (g.index + 1) 0), { g with index := g.index + 2 })
  else if bufferWords ≤ g.index then
    let g := g.refill
    (join (g.buffer.getD 0 0) (g.buffer.getD 1 0), { g with index := 2 })
  else
    let lo := g.buffer.getD (bufferWords - 1) 0
    let g := g.refill
    (join lo (g.buffer.getD 0 0), { g with index := 1 })

/-- One PCG32 step: the advanced state and its 32-bit output. -/
def pcgStep (state : UInt64) : UInt64 × UInt32 :=
  let state := state * 6364136223846793005 + 11634580027462260723
  let xorshifted : UInt32 := (((state >>> 18) ^^^ state) >>> 27).toUInt32
  let rot : UInt32 := (state >>> 59).toUInt32
  (state, (xorshifted >>> rot) ||| (xorshifted <<< ((32 - rot) % 32)))

/-- The generator seeded from a 64-bit number. -/
def ofSeed (seed : UInt64) : ChaCha :=
  let (_, key) := (List.range 8).foldl (fun (st, ks) _ =>
    let (st', w) := pcgStep st
    (st', ks.push w)) (seed, (#[] : Array UInt32))
  ofKey key

end ChaCha

end LoadScenario.Random
