/-
This file makes a source of random words from a seed.
The seed is stretched to a key of eight words, and the words are the ChaCha stream of that key
with twelve rounds, a zero nonce and a block counter that starts at zero.
-/

import Gamebook.Random.Source

namespace Gamebook.ChaCha

def rotateLeft (value amount : UInt32) : UInt32 :=
  (value <<< amount) ||| (value >>> (32 - amount))

abbrev State : Type := Vector UInt32 16

/-- This mixes four of the sixteen words. -/
def quarterRound (state : State) (a b c d : Fin 16) : State :=
  let state := state.set a (state[a] + state[b])
  let state := state.set d (rotateLeft (state[d] ^^^ state[a]) 16)
  let state := state.set c (state[c] + state[d])
  let state := state.set b (rotateLeft (state[b] ^^^ state[c]) 12)
  let state := state.set a (state[a] + state[b])
  let state := state.set d (rotateLeft (state[d] ^^^ state[a]) 8)
  let state := state.set c (state[c] + state[d])
  state.set b (rotateLeft (state[b] ^^^ state[c]) 7)

/-- This mixes the four columns and then the four diagonals. -/
def doubleRound (state : State) : State :=
  let state := quarterRound state 0 4 8 12
  let state := quarterRound state 1 5 9 13
  let state := quarterRound state 2 6 10 14
  let state := quarterRound state 3 7 11 15
  let state := quarterRound state 0 5 10 15
  let state := quarterRound state 1 6 11 12
  let state := quarterRound state 2 7 8 13
  quarterRound state 3 4 9 14

def initial (key : Vector UInt32 8) (counter : Nat) : State :=
  #v[0x61707865, 0x3320646e, 0x79622d32, 0x6b206574,
     key[0], key[1], key[2], key[3], key[4], key[5], key[6], key[7],
     UInt32.ofNat counter, UInt32.ofNat (counter / 4294967296), 0, 0]

/-- Twelve rounds are six double rounds. -/
def block (key : Vector UInt32 8) (counter : Nat) : State :=
  let start := initial key counter
  let mixed := (List.range 6).foldl (fun state _ => doubleRound state) start
  start.zipWith (· + ·) mixed

def word (key : Vector UInt32 8) (position : Nat) : UInt32 :=
  (block key (position / 16)).get ⟨position % 16, Nat.mod_lt position (by decide)⟩

end Gamebook.ChaCha

namespace Gamebook.Seed

/-- The seed is stretched by a linear congruential generator. -/
def step (state : UInt64) : UInt64 :=
  state * 6364136223846793005 + 11634580027462260723

/-- The output of a state is a rotation of its mixed upper bits. -/
def output (state : UInt64) : UInt32 :=
  let mixed := (((state >>> 18) ^^^ state) >>> 27).toUInt32
  let amount := (state >>> 59).toUInt32
  (mixed >>> amount) ||| (mixed <<< ((32 - amount) % 32))

def keyWords : Nat → UInt64 → List UInt32
  | 0, _ => []
  | count + 1, state => output (step state) :: keyWords count (step state)

def key (seed : UInt64) : Vector UInt32 8 :=
  let words := keyWords 8 seed
  Vector.ofFn fun position => (words[position.val]?).getD 0

end Gamebook.Seed

namespace Gamebook

def RandomSource.ofSeed (seed : UInt64) : RandomSource where
  word := ChaCha.word (Seed.key seed)

end Gamebook
