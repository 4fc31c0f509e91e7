/-
This file holds the sources of random words.
A source is a stream of words and the number of words that were drawn from it.
-/

namespace Gamebook

structure RandomSource where
  word : Nat → UInt32
  drawn : Nat := 0

namespace RandomSource

/-- The words are followed by zeros without end. -/
def ofWords (words : List UInt32) : RandomSource where
  word position := (words[position]?).getD 0

def next (source : RandomSource) : UInt32 × RandomSource :=
  (source.word source.drawn, { source with drawn := source.drawn + 1 })

end RandomSource

end Gamebook
