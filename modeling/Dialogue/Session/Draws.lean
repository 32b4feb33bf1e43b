/-!
Random choices. Words are drawn from a stream that a seed determines, the ChaCha stream of eight
rounds, and a choice among `n` uses the high half of a word times `n`; words that would make one
choice more likely than another are passed over.
-/
namespace Dialogue

/-- A place in the stream of a key of eight words. -/
structure Draws where
  key : Vector UInt32 8
  position : Nat := 0
deriving DecidableEq, Repr

namespace Draws

def rotateLeft (x n : UInt32) : UInt32 :=
  (x <<< n) ||| (x >>> (32 - n))

def quarterRound (v : Vector UInt32 16) (a b c d : Fin 16) : Vector UInt32 16 :=
  let v := v.set a (v[a] + v[b])
  let v := v.set d (rotateLeft (v[d] ^^^ v[a]) 16)
  let v := v.set c (v[c] + v[d])
  let v := v.set b (rotateLeft (v[b] ^^^ v[c]) 12)
  let v := v.set a (v[a] + v[b])
  let v := v.set d (rotateLeft (v[d] ^^^ v[a]) 8)
  let v := v.set c (v[c] + v[d])
  v.set b (rotateLeft (v[b] ^^^ v[c]) 7)

/-- A round on the columns and one on the diagonals. -/
def doubleRound (v : Vector UInt32 16) : Vector UInt32 16 :=
  let v := quarterRound v 0 4 8 12
  let v := quarterRound v 1 5 9 13
  let v := quarterRound v 2 6 10 14
  let v := quarterRound v 3 7 11 15
  let v := quarterRound v 0 5 10 15
  let v := quarterRound v 1 6 11 12
  let v := quarterRound v 2 7 8 13
  quarterRound v 3 4 9 14

/-- The constants, the key, the block counter in two words, and two words of zero. -/
def initialBlock (key : Vector UInt32 8) (block : UInt64) : Vector UInt32 16 :=
  let constants : Vector UInt32 4 := #v[0x61707865, 0x3320646e, 0x79622d32, 0x6b206574]
  constants ++ key ++ #v[block.toUInt32, (block >>> 32).toUInt32, 0, 0]

/-- The sixteen words of a block. -/
def block (key : Vector UInt32 8) (n : UInt64) : Vector UInt32 16 :=
  let start := initialBlock key n
  let mixed := doubleRound (doubleRound (doubleRound (doubleRound start)))
  mixed.zipWith (· + ·) start

/-- The word at the current place. -/
def word (d : Draws) : UInt32 :=
  (block d.key (d.position / 16).toUInt64)[d.position % 16]

def next (d : Draws) : Draws :=
  { d with position := d.position + 1 }

/-- Words of a key grow out of a seed by multiplication, each permuted before it is used. -/
def expand : Nat → UInt64 → List UInt32
  | 0, _ => []
  | n + 1, s =>
    let s := s * 6364136223846793005 + 11634580027462260723
    let x := (((s >>> 18) ^^^ s) >>> 27).toUInt32
    let r := (s >>> 59).toUInt32
    ((x >>> r) ||| (x <<< ((32 - r) &&& 31))) :: expand n s

theorem length_expand (n : Nat) (s : UInt64) : (expand n s).length = n := by
  induction n generalizing s with
  | zero => rfl
  | succ n ih => simp [expand, ih]

def ofSeed (seed : UInt64) : Draws :=
  { key := ⟨(expand 8 seed).toArray, by simp [length_expand]⟩ }

/-- The greatest multiple of `n` by a power of two below `2 ^ 32`. -/
def zone (n : Nat) : Nat :=
  n <<< (31 - n.log2)

/-- Whether a word may decide a choice among `n`. -/
def decides (n v : Nat) : Bool :=
  v * n % UInt32.size < zone n

/-- The first of at most `tries` words that may decide a choice among `n`, as an index below `n`. -/
def firstBelow (n : Nat) : Nat → Draws → Nat × Draws
  | 0, d => (0, d)
  | tries + 1, d =>
    let v := d.word.toNat
    if decides n v then (v * n / UInt32.size, d.next) else firstBelow n tries d.next

/-- The stream repeats after so many words, so that none is left to find then. -/
def period : Nat := 16 * UInt64.size

/-- A choice among `n` things, and the stream after it. -/
def below (n : Nat) (d : Draws) : Nat × Draws :=
  firstBelow n period d

end Draws

end Dialogue
