import Mathlib.Data.Finset.Card
import Mathlib.Order.Interval.Finset.Nat
import Dicebox.Proofs.Throw.Rounding

/-!
# How evenly the faces are spread

There are `2 ^ 53` draws, and a die with `n` sides should show each face on `2 ^ 53 / n` of them. It
cannot, as a rule, because that is no whole number; and the rounding of the product moves the edge
between one face and the next by an amount that depends on where the edge is. The bias stays small
nevertheless,

> **every face comes up on a number of draws that is less than two away from its share**
> (`faces_nearly_uniform`),

and it is not necessary to know how far an edge is moved. All that counts is that the product is
below `j` wherever `k · n ≤ j · (2 ^ 53 - 1)`, which is the statement that keeps a die to its faces
(`nearest_lt_of_le`), and that it is not below `j` wherever `k · n ≥ j · 2 ^ 53`, because `j` is a
double. So the draws with a product below `j` are `j · 2 ^ 53 / n` up to less than one
(`card_drawsBelow`), and a face has those below its upper edge without those below its lower one.

Here a number of sides is its own double, so at most `2 ^ 53`. That a higher draw does not show a
lower face is true of all that have one (`product_mono`).
-/

set_option autoImplicit false

namespace Dicebox

open Number

/-- What a die shows on the draw `k / 2 ^ 53`, rolled as the program does it, from a source that has
this draw and nothing else. -/
def shownOn (sides k : Nat) : Option Int :=
  (rollDatum (.int sides) (.scripted [.ok (.fraction k)])).1.toOption

/-- The draws on which a die shows a face. -/
def drawsShowing (sides : Nat) (f : Int) : Finset Nat :=
  (Finset.range (2 ^ 53)).filter fun k => shownOn sides k = some f

/-- The draws whose product with a number of sides is below a bound. -/
def drawsBelow (sides bound : Nat) : Finset Nat :=
  (Finset.range (2 ^ 53)).filter fun k => (productDouble sides k).toRat < bound

variable {sides k k' j : Nat}

theorem shownOn_eq (hs : 0 < sides) (hx : (Double.ofInt? sides).isSome) (hk : k < 2 ^ 53) :
    shownOn sides k = some (⌊(productDouble sides k).toRat⌋ + 1) := by
  rw [shownOn, rollDatum_natCast hs]
  simp only [rollDie, Source.draw?, Except.bind, (face_fraction_eq hs hx hk).1, Except.toOption]

/-! ## A higher draw

Only here it is of use that rounding keeps the order. For the counts it would be enough to know
where each edge is, and there the products on the two sides are compared with the edge alone. -/

theorem product_mono (hs : 0 < sides) (h : k ≤ k') :
    (productDouble sides k).toRat ≤ (productDouble sides k').toRat := by
  rcases Nat.eq_or_lt_of_le h with rfl | hlt
  · exact le_refl _
  · rw [toRat_productDouble, toRat_productDouble]
    refine nearest_le_nearest (product_den_ne_zero sides k) (product_den_ne_zero sides k') ?_
    rw [product_ratio, product_ratio]
    have hpos : 0 < (sidesDouble sides).toRat :=
      lt_of_lt_of_le one_pos (one_le_toRat_sidesDouble hs)
    have hdraws : (k : ℚ) / 2 ^ 53 < k' / 2 ^ 53 :=
      div_lt_div_of_pos_right (by exact_mod_cast hlt) (by positivity)
    exact mul_lt_mul_of_pos_right hdraws hpos

/-! ## The edges of a face

An edge is the draw from which on the product is at least some integer. It need not be where the
exact product is, for a product a little below an integer may be rounded up to it, but it is within
one draw of that. -/

theorem exists_magnitude_eq {n : Nat} (hn : n ≤ 2 ^ 53) :
    ∃ m e, m < 2 ^ precision ∧ minExponent ≤ e ∧ magnitude m e = n := by
  rcases Nat.lt_or_eq_of_le hn with hlt | rfl
  · exact ⟨n, 0, hlt, by decide, magnitude_natCast n⟩
  · exact ⟨2 ^ 52, 1, by decide, by decide, by rw [magnitude]; norm_num⟩

theorem toRat_sidesDouble_of_le (hmax : sides ≤ 2 ^ 53) : (sidesDouble sides).toRat = sides := by
  obtain ⟨m, e, hm, he, hmagnitude⟩ := exists_magnitude_eq hmax
  have hratio : (sides : ℚ) / ((1 : Nat) : ℚ) = magnitude m e := by
    rw [hmagnitude, Nat.cast_one, div_one]
  rw [toRat_sidesDouble, ← hmagnitude]
  exact le_antisymm (nearest_le_magnitude one_ne_zero hm he hratio.le)
    (magnitude_le_nearest one_ne_zero hm he hratio.ge)

theorem le_product (hmax : sides ≤ 2 ^ 53) (hj : j ≤ 2 ^ 53) (h : j * 2 ^ 53 ≤ k * sides) :
    (j : ℚ) ≤ (productDouble sides k).toRat := by
  obtain ⟨m, e, hm, he, hmagnitude⟩ := exists_magnitude_eq hj
  rw [toRat_productDouble, ← hmagnitude]
  refine magnitude_le_nearest (product_den_ne_zero sides k) hm he ?_
  rw [product_ratio, toRat_sidesDouble_of_le hmax, hmagnitude, div_mul_eq_mul_div,
    le_div_iff₀ (by positivity)]
  exact_mod_cast h

theorem product_lt (hmax : sides ≤ 2 ^ 53) (hj : 1 ≤ j) (h : k * sides ≤ j * (2 ^ 53 - 1)) :
    (productDouble sides k).toRat < j := by
  rw [toRat_productDouble]
  refine nearest_lt_of_le (product_den_ne_zero sides k) (by exact_mod_cast hj) ?_
  have hscaled : (k : ℚ) * sides ≤ j * (2 ^ 53 - 1) := by
    have hcast : ((2 ^ 53 - 1 : Nat) : ℚ) = 2 ^ 53 - 1 := by norm_num
    rw [← hcast]
    exact_mod_cast h
  have hshare : (k : ℚ) / 2 ^ 53 * sides ≤ j * (2 ^ 53 - 1) / 2 ^ 53 := by
    rw [div_mul_eq_mul_div]
    exact div_le_div_of_nonneg_right hscaled (by positivity)
  rw [product_ratio, toRat_sidesDouble_of_le hmax]
  refine le_trans hshare (le_of_eq ?_)
  rw [zpow_neg]
  norm_num
  ring

/-! ## Counting

Draws are counted by comparing sets with ranges: all numbers up to some bound are among the draws
below an edge, and all of these are below another bound. Nothing has to be computed for it. -/

/-- The draws below the edge of a face are its share of all draws, up to less than one.

It is said with the number of sides as a factor, in order to stay within the integers: a share is
`j * 2 ^ 53 / sides`, and the count misses it by less than one. -/
theorem card_drawsBelow (hmax : sides ≤ 2 ^ 53) (hj : 1 ≤ j) (hjs : j ≤ sides) :
    j * (2 ^ 53 - 1) < (drawsBelow sides j).card * sides ∧
    (drawsBelow sides j).card * sides < j * 2 ^ 53 + sides := by
  have hs : 0 < sides := Nat.lt_of_lt_of_le hj hjs
  constructor
  · have hsub : Finset.range (j * (2 ^ 53 - 1) / sides + 1) ⊆ drawsBelow sides j := by
      intro k hk
      have hk : k ≤ j * (2 ^ 53 - 1) / sides := Nat.lt_succ_iff.mp (Finset.mem_range.mp hk)
      have hall : j * (2 ^ 53 - 1) / sides ≤ 2 ^ 53 - 1 :=
        Nat.div_le_of_le_mul (Nat.mul_le_mul_right _ hjs)
      refine Finset.mem_filter.mpr ⟨Finset.mem_range.mpr (by omega), ?_⟩
      exact product_lt hmax hj ((Nat.le_div_iff_mul_le hs).mp hk)
    have hcard := Finset.card_le_card hsub
    rw [Finset.card_range] at hcard
    exact (Nat.div_lt_iff_lt_mul hs).mp hcard
  · have hsub : drawsBelow sides j ⊆ Finset.range ((j * 2 ^ 53 - 1) / sides + 1) := by
      intro k hk
      obtain ⟨-, hbelow⟩ := Finset.mem_filter.mp hk
      have hedge : k * sides < j * 2 ^ 53 := by
        by_contra hge
        exact absurd hbelow (not_lt.mpr (le_product hmax (Nat.le_trans hjs hmax) (not_lt.mp hge)))
      refine Finset.mem_range.mpr (Nat.lt_succ_of_le ?_)
      exact (Nat.le_div_iff_mul_le hs).mpr (Nat.le_sub_one_of_lt hedge)
    have hcard := Finset.card_le_card hsub
    rw [Finset.card_range] at hcard
    have hmul := Nat.mul_le_mul_right sides hcard
    have hdiv := Nat.div_mul_le_self (j * 2 ^ 53 - 1) sides
    rw [Nat.add_mul, Nat.one_mul] at hmul
    omega

theorem drawsBelow_zero (hs : 0 < sides) (hx : (Double.ofInt? sides).isSome) :
    drawsBelow sides 0 = ∅ := by
  refine Finset.filter_false_of_mem fun k hk => ?_
  rw [Nat.cast_zero, not_lt]
  exact (face_fraction_eq hs hx (Finset.mem_range.mp hk)).2.1

theorem drawsShowing_succ (hs : 0 < sides) (hx : (Double.ofInt? sides).isSome) (j : Nat) :
    drawsShowing sides ((j : Int) + 1) = drawsBelow sides (j + 1) \ drawsBelow sides j := by
  ext k
  simp only [drawsShowing, drawsBelow, Finset.mem_sdiff, Finset.mem_filter]
  constructor
  · rintro ⟨hk, hshown⟩
    rw [shownOn_eq hs hx (Finset.mem_range.mp hk), Option.some.injEq, add_left_inj,
      Int.floor_eq_iff] at hshown
    obtain ⟨hlow, hhigh⟩ := hshown
    push_cast at hlow hhigh ⊢
    exact ⟨⟨hk, hhigh⟩, fun hbelow => absurd hbelow.2 (not_lt.mpr hlow)⟩
  · rintro ⟨⟨hk, hhigh⟩, hlow⟩
    refine ⟨hk, ?_⟩
    rw [shownOn_eq hs hx (Finset.mem_range.mp hk), Option.some.injEq, add_left_inj,
      Int.floor_eq_iff]
    push_cast at hhigh ⊢
    exact ⟨not_lt.mp fun hbelow => hlow ⟨hk, hbelow⟩, hhigh⟩

theorem card_drawsShowing_succ (hs : 0 < sides) (hx : (Double.ofInt? sides).isSome) (j : Nat) :
    (drawsShowing sides ((j : Int) + 1)).card + (drawsBelow sides j).card =
      (drawsBelow sides (j + 1)).card := by
  rw [drawsShowing_succ hs hx]
  refine Finset.card_sdiff_add_card_eq_card fun k hk => ?_
  obtain ⟨hmem, hbelow⟩ := Finset.mem_filter.mp hk
  refine Finset.mem_filter.mpr ⟨hmem, lt_trans hbelow ?_⟩
  exact_mod_cast Nat.lt_succ_self j

theorem card_drawsShowing (hx : (Double.ofInt? sides).isSome) (hmax : sides ≤ 2 ^ 53) {f : Int}
    (hlow : 1 ≤ f) (hhigh : f ≤ sides) :
    |((drawsShowing sides f).card : Int) * sides - 2 ^ 53| < 2 * (sides : Int) := by
  obtain ⟨j, rfl⟩ : ∃ j : Nat, f = j + 1 := ⟨(f - 1).toNat, by omega⟩
  have hj : j + 1 ≤ sides := by omega
  have hs : 0 < sides := by omega
  have hcount := card_drawsShowing_succ hs hx j
  obtain ⟨hup, hup'⟩ := card_drawsBelow hmax (Nat.le_add_left 1 j) hj
  -- Below the lowest face there is nothing, and below the others nearly their share.
  have hdown : j * (2 ^ 53 - 1) ≤ (drawsBelow sides j).card * sides ∧
      (drawsBelow sides j).card * sides ≤ j * 2 ^ 53 + sides := by
    rcases Nat.eq_zero_or_pos j with rfl | hpos
    · rw [drawsBelow_zero hs hx, Finset.card_empty]
      omega
    · obtain ⟨hdown, hdown'⟩ := card_drawsBelow hmax hpos (Nat.le_of_succ_le hj)
      exact ⟨hdown.le, hdown'.le⟩
  have hshares : (drawsShowing sides ((j : Int) + 1)).card * sides +
      (drawsBelow sides j).card * sides = (drawsBelow sides (j + 1)).card * sides := by
    rw [← Nat.add_mul, hcount]
  rw [abs_lt]
  zify at hshares hup' hdown
  constructor
  · omega
  · omega

/-- A die shows each of its faces on its share of the draws, up to less than two. So if there are at
least twice as many draws as sides, every face can come up. And on a higher draw a die never shows a
lower face, whatever its number of sides. -/
theorem faces_nearly_uniform {sides : Nat} (hs : 1 ≤ sides) :
    (sides ≤ 2 ^ 53 → ∀ f : Int, 1 ≤ f → f ≤ sides →
      |((drawsShowing sides f).card : Int) * sides - 2 ^ 53| < 2 * (sides : Int)) ∧
    (sides ≤ 2 ^ 52 → ∀ f : Int, 1 ≤ f → f ≤ sides → (drawsShowing sides f).Nonempty) ∧
    (sides < 2 ^ 1024 - 2 ^ 970 → ∀ k k' : Nat, k ≤ k' → k' < 2 ^ 53 →
      ∃ f f' : Int, shownOn sides k = some f ∧ shownOn sides k' = some f' ∧ f ≤ f') := by
  have hshare : sides ≤ 2 ^ 53 → ∀ f : Int, 1 ≤ f → f ≤ sides →
      |((drawsShowing sides f).card : Int) * sides - 2 ^ 53| < 2 * (sides : Int) := by
    intro hmax f hlow hhigh
    have hfinite : sides < 2 ^ 1024 - 2 ^ 970 := Nat.lt_of_le_of_lt hmax (by decide +kernel)
    exact card_drawsShowing (Double.isSome_ofInt?_iff.mpr hfinite) hmax hlow hhigh
  refine ⟨hshare, fun hmax f hlow hhigh => ?_, fun hfinite k k' hle hk => ?_⟩
  · have hcard := (abs_lt.mp (hshare (by omega) f hlow hhigh)).1
    rw [← Finset.card_pos]
    by_contra hnone
    rw [Nat.eq_zero_of_not_pos hnone] at hcard
    omega
  · have hx : (Double.ofInt? sides).isSome := Double.isSome_ofInt?_iff.mpr hfinite
    refine ⟨_, _, shownOn_eq hs hx (Nat.lt_of_le_of_lt hle hk), shownOn_eq hs hx hk, ?_⟩
    exact Int.add_le_add_right (Int.floor_le_floor (product_mono hs hle)) 1

/-- Three does not divide the number of draws, and still no face is missing. -/
theorem faces_nearly_uniform_three :
    1 ≤ 3 ∧ 3 ≤ 2 ^ 52 ∧ 3 < 2 ^ 1024 - 2 ^ 970 ∧
    |((drawsShowing 3 2).card : Int) * 3 - 2 ^ 53| < 6 ∧ (drawsShowing 3 3).Nonempty ∧
    ∃ f f' : Int, shownOn 3 7 = some f ∧ shownOn 3 (2 ^ 53 - 1) = some f' ∧ f ≤ f' := by
  have hs : 1 ≤ 3 := by decide
  have hhalf : 3 ≤ 2 ^ 52 := by decide
  have hfinite : 3 < 2 ^ 1024 - 2 ^ 970 := by decide +kernel
  obtain ⟨hshare, hall, hmono⟩ := faces_nearly_uniform hs
  exact ⟨hs, hhalf, hfinite, hshare (by decide) 2 (by decide) (by decide),
    hall hhalf 3 (by decide) (by decide),
    hmono hfinite 7 (2 ^ 53 - 1) (by decide) (by decide)⟩

end Dicebox
