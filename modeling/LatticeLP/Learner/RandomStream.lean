import LatticeLP.Scalar

/-!
# Random words

Runs draw their random numbers from the generator xoshiro256++, whose state of four
words is filled from a seed by the generator SplitMix64. Equal seeds give equal streams
on every machine.

Three kinds of numbers are drawn: a word, a probability – the upper fifty-three bits of
a word, as a fraction – and an index below a bound. An index comes from the upper half
of a word by multiplication; where the discarded part leaves the result in doubt, a
second half-word settles it.
-/

namespace LatticeLP

/-- The state of the generator. -/
structure RandomStream where
  /-- The first word. -/
  s0 : UInt64
  /-- The second word. -/
  s1 : UInt64
  /-- The third word. -/
  s2 : UInt64
  /-- The fourth word. -/
  s3 : UInt64
  deriving Repr, DecidableEq

namespace RandomStream

/-- The distance between successive states of the seeding generator. -/
def seedIncrement : UInt64 := 0x9e3779b97f4a7c15

/-- The word that the seeding generator gives in a state. -/
def scramble (z : UInt64) : UInt64 :=
  let z := (z ^^^ (z >>> 30)) * 0xbf58476d1ce4e5b9
  let z := (z ^^^ (z >>> 27)) * 0x94d049bb133111eb
  z ^^^ (z >>> 31)

/-- **The generator with a given seed.** -/
def ofSeed (seed : UInt64) : RandomStream where
  s0 := scramble (seed + seedIncrement)
  s1 := scramble (seed + 2 * seedIncrement)
  s2 := scramble (seed + 3 * seedIncrement)
  s3 := scramble (seed + 4 * seedIncrement)

/-- A word with its bits moved `k` places up and around. -/
@[inline] def rotate (x k : UInt64) : UInt64 :=
  (x <<< k) ||| (x >>> (64 - k))

/-- **The next word.** -/
def next (r : RandomStream) : UInt64 × RandomStream :=
  let s2 := r.s2 ^^^ r.s0
  let s3 := r.s3 ^^^ r.s1
  (rotate (r.s0 + r.s3) 23 + r.s0,
    { s0 := r.s0 ^^^ s3
      s1 := r.s1 ^^^ s2
      s2 := s2 ^^^ (r.s1 <<< 17)
      s3 := rotate s3 45 })

/-- The upper half of the next word. -/
def half (r : RandomStream) : UInt64 × RandomStream :=
  let (word, r) := r.next
  (word >>> 32, r)

/-- **The next index below a bound**, which must be positive and fit half a word. -/
def below (bound : Nat) (r : RandomStream) : Nat × RandomStream :=
  let n := bound.toUInt64
  let (h, r) := r.half
  let product := h * n
  let index := product >>> 32
  let rest := product &&& 0xffffffff
  if rest > 0x100000000 - n then
    let (h, r) := r.half
    let carry := (rest + ((h * n) >>> 32)) >>> 32
    ((index + carry).toNat, r)
  else (index.toNat, r)

/-- The number of different probabilities, `2 ^ 53`. -/
def resolution : Nat := 0x20000000000000

/-- **The next probability**, at least zero and below one. -/
@[specialize] def probability {K : Type} [Scalar K] (r : RandomStream) :
    K × RandomStream :=
  let (word, r) := r.next
  (((word >>> 11).toNat : K) / (resolution : K), r)

end RandomStream

end LatticeLP
