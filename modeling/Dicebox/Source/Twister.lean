import Dicebox.Source.Draw

/-!
# The twister — a seeded generator of draws

The generator MT19937: a state of 624 words of 32 bits, which is replaced as a whole when all of its
words have been handed out. Positions in the state are taken modulo 624, so they are a `Fin 624` and
wrap around by themselves.

A seed is an integer of any size. Its sign is dropped, and its 32-bit words, least significant
first, are the key that the state is stirred with.
-/

set_option autoImplicit false

namespace Dicebox

/-- The state of the generator: its words, and the position of the next one to be handed out. -/
structure Twister where
  words : Vector UInt32 624
  next : Nat

namespace Twister

-- Powers of numbers are core's own, whatever else is imported.
attribute [local instance (high)] instPowNat

abbrev Words := Vector UInt32 624

/-! ## Seeding -/

/-- The words of a number, least significant first; zero has one word. -/
def keyWords (n : Nat) : List UInt32 :=
  if n < UInt32.size then [UInt32.ofNat n] else UInt32.ofNat n :: keyWords (n / UInt32.size)
termination_by n
decreasing_by simp only [UInt32.size] at *; omega

/-- The state before a key is stirred in: each word is computed from the one before. -/
def initialWords : Words :=
  (List.finRange 624).foldl
    (fun (words : Words) (i : Fin 624) =>
      if i = 0 then words.set 0 19650218
      else
        let last := words[i - 1]
        words.set i ((1812433253 : UInt32) * (last ^^^ (last >>> 30)) + UInt32.ofNat i.val))
    (Vector.replicate 624 0)

/-- The position after `i` when stirring. Position zero is skipped: it takes over the last word. -/
def stirNext (words : Words) (i : Fin 624) : Words × Fin 624 :=
  if i = 623 then (words.set 0 words[(623 : Fin 624)], 1) else (words, i + 1)

/-- The word at `i`, combined with the one before it. -/
def stirWord (words : Words) (i : Fin 624) (factor : UInt32) : UInt32 :=
  let last := words[i - 1]
  words[i] ^^^ ((last ^^^ (last >>> 30)) * factor)

/-- Stirs the key in: `rounds` words, with the words of the key in rotation. -/
def stirKey (key : List UInt32) : Nat → List (UInt32 × Nat) → Words × Fin 624 → Words × Fin 624
  | 0, _, state => state
  | rounds + 1, [], state =>
    match key.zipIdx with
    | [] => state
    | (k, j) :: rest =>
      let (words, i) := state
      let words := words.set i (stirWord words i 1664525 + k + UInt32.ofNat j)
      stirKey key rounds rest (stirNext words i)
  | rounds + 1, (k, j) :: rest, (words, i) =>
    let words := words.set i (stirWord words i 1664525 + k + UInt32.ofNat j)
    stirKey key rounds rest (stirNext words i)

/-- Stirs the state once more, without the key. -/
def stirAgain : Nat → Words × Fin 624 → Words × Fin 624
  | 0, state => state
  | rounds + 1, (words, i) =>
    let words := words.set i (stirWord words i 1566083941 - UInt32.ofNat i.val)
    stirAgain rounds (stirNext words i)

/-- The generator of a seed. -/
def seeded (seed : Int) : Twister :=
  let key := keyWords seed.natAbs
  let stirred := stirKey key (max 624 key.length) key.zipIdx (initialWords, 1)
  let (words, _) := stirAgain 623 stirred
  { words := words.set 0 0x80000000, next := 624 }

/-! ## Drawing -/

/-- Replaces all words, in order: each is computed from itself, its successor and the word 397
places on, the first of which are already new. -/
def twist (words : Words) : Words :=
  (List.finRange 624).foldl
    (fun (words : Words) (i : Fin 624) =>
      let mixed := (words[i] &&& 0x80000000) ||| (words[i + 1] &&& 0x7fffffff)
      let turned := (mixed >>> 1) ^^^ (if mixed &&& 1 = 0 then 0 else 0x9908b0df)
      words.set i (words[i + 397] ^^^ turned))
    words

/-- Spreads the bits of a word before it is handed out. -/
def temper (y : UInt32) : UInt32 :=
  let y := y ^^^ (y >>> 11)
  let y := y ^^^ ((y <<< 7) &&& 0x9d2c5680)
  let y := y ^^^ ((y <<< 15) &&& 0xefc60000)
  y ^^^ (y >>> 18)

/-- Hands out one word. -/
def word (t : Twister) : UInt32 × Twister :=
  if h : t.next < 624 then (temper t.words[t.next], { t with next := t.next + 1 })
  else
    let words := twist t.words
    (temper words[0], { words, next := 1 })

theorem toNat_shiftRight_lt (w : UInt32) (n : Nat) (hn : n < 32) :
    (w >>> UInt32.ofNat n).toNat < 2 ^ (32 - n) := by
  have hw := w.toNat_lt
  have hmod : n % 2 ^ 32 % 32 = n := by omega
  rw [UInt32.toNat_shiftRight, UInt32.toNat_ofNat', hmod, Nat.shiftRight_eq_div_pow]
  apply Nat.div_lt_of_lt_mul
  rw [← Nat.pow_add]
  have : n + (32 - n) = 32 := by omega
  rw [this]
  exact hw

/-- Makes a draw of two words: the high 27 bits of the first, the high 26 of the second. -/
def draw (t : Twister) : Draw × Twister :=
  let (first, t) := t.word
  let (second, t) := t.word
  (Draw.ofHalves (first >>> UInt32.ofNat 5).toNat (second >>> UInt32.ofNat 6).toNat, t)

/-- A generator's draws are fair. -/
theorem isFair_draw (t : Twister) : t.draw.1.IsFair :=
  Draw.isFair_ofHalves (toNat_shiftRight_lt _ 5 (by decide)) (toNat_shiftRight_lt _ 6 (by decide))

end Twister

end Dicebox
