import ProseScript.Chance

/-!
The stream of a numeric seed: the seed grows into a key of eight words, and the key into blocks of
sixteen words by twelve rounds of the ChaCha permutation.
-/

namespace ProseScript.Chance

/-- The sixteen words of a block. -/
abbrev Block := Vector UInt32 16

def rotateLeft (x : UInt32) (n : UInt32) : UInt32 := x <<< n ||| x >>> (32 - n)

def quarterRound (a b c d : Fin 16) (v : Block) : Block :=
  let v := v.set a (v[a] + v[b])
  let v := v.set d (rotateLeft (v[d] ^^^ v[a]) 16)
  let v := v.set c (v[c] + v[d])
  let v := v.set b (rotateLeft (v[b] ^^^ v[c]) 12)
  let v := v.set a (v[a] + v[b])
  let v := v.set d (rotateLeft (v[d] ^^^ v[a]) 8)
  let v := v.set c (v[c] + v[d])
  v.set b (rotateLeft (v[b] ^^^ v[c]) 7)

/-- One round over the columns and one over the diagonals. -/
def doubleRound (v : Block) : Block :=
  let v := quarterRound 0 4 8 12 v
  let v := quarterRound 1 5 9 13 v
  let v := quarterRound 2 6 10 14 v
  let v := quarterRound 3 7 11 15 v
  let v := quarterRound 0 5 10 15 v
  let v := quarterRound 1 6 11 12 v
  let v := quarterRound 2 7 8 13 v
  quarterRound 3 4 9 14 v

/-- The block before its rounds: four constants, the key, the block's number and two zeros. -/
def initialBlock (key : Vector UInt32 8) (number : Nat) : Block :=
  #v[0x61707865, 0x3320646e, 0x79622d32, 0x6b206574,
    key[0], key[1], key[2], key[3], key[4], key[5], key[6], key[7],
    number.toUInt32, (number / UInt32.size).toUInt32, 0, 0]

def block (key : Vector UInt32 8) (number : Nat) : Block :=
  let start := initialBlock key number
  let mixed := (List.range 6).foldl (fun v _ => doubleRound v) start
  mixed.zipWith (· + ·) start

/-- The step of the linear congruential sequence that spreads a seed. -/
def spread (state : UInt64) : UInt64 := state * 6364136223846793005 + 11634580027462260723

/-- The key word read off a state of the sequence. -/
def keyWord (state : UInt64) : UInt32 :=
  let x := (((state >>> 18) ^^^ state) >>> 27).toUInt32
  let turn := (state >>> 59).toUInt32
  x >>> turn ||| x <<< (32 - turn)

/-- The key of a seed: one word for each of the next eight states. -/
def key (seed : UInt64) : Vector UInt32 8 :=
  let s₀ := spread seed
  let s₁ := spread s₀
  let s₂ := spread s₁
  let s₃ := spread s₂
  let s₄ := spread s₃
  let s₅ := spread s₄
  let s₆ := spread s₅
  let s₇ := spread s₆
  #v[keyWord s₀, keyWord s₁, keyWord s₂, keyWord s₃, keyWord s₄, keyWord s₅, keyWord s₆, keyWord s₇]

/-- The unused stream of a seed. -/
def seeded (seed : UInt64) : Chance :=
  let k := key seed
  ⟨fun n => (block k (n / 16)).get ⟨n % 16, Nat.mod_lt n (by decide)⟩, 0⟩

end ProseScript.Chance
