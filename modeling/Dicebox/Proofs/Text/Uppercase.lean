import Dicebox.Text.Uppercase

/-!
# Upper case stays upper case

Log levels are put in upper case more than once on their way from a setting to a threshold. Once is
enough:

> **what is in upper case has itself for its upper case** (`upper_upper`).

Unicode does not promise this in so many words, so it is read off the tables: none of the letters
that move stands where another one moves to. Of the runs only the ends are looked at
(`CaseRun.isClearOf`), and of two runs in which every second letter moves, which ones these are.
-/

set_option autoImplicit false

namespace Dicebox.Text

namespace CaseRun

/-- The code points from where the first letter moves to where the last one does. With a step of
two, only every second one of them is reached. -/
def low (r : CaseRun) : Nat := (r.first + r.shift).toNat

def high (r : CaseRun) : Nat := (r.last + r.shift).toNat

/-- Whether a run has no letter among the code points from one to another, by steps. -/
def isClearOf (r : CaseRun) (low high step : Nat) : Bool :=
  Nat.blt high r.first || Nat.blt r.last low ||
    (Nat.beq r.step 2 && (Nat.beq step 2 || Nat.beq low high) && Nat.beq ((r.first + low) % 2) 1)

theorem contains_of_isClearOf {r : CaseRun} {low high step n : Nat}
    (h : r.isClearOf low high step = true) (hlow : low ≤ n) (hhigh : n ≤ high)
    (hstep : (n - low) % step = 0) : r.contains n = false := by
  rw [Bool.eq_false_iff]
  intro hcontains
  simp only [contains, Bool.and_eq_true, decide_eq_true_eq, beq_iff_eq] at hcontains
  obtain ⟨⟨hfirst, hlast⟩, hmod⟩ := hcontains
  simp only [isClearOf, Bool.or_eq_true, Bool.and_eq_true, Nat.blt_eq, Nat.beq_eq] at h
  rcases h with (h | h) | ⟨⟨htwo, h⟩, hodd⟩
  · omega
  · omega
  · -- Both take every second code point, and not the same ones.
    rw [htwo] at hmod
    rcases h with h | h
    · rw [h] at hstep
      omega
    · omega

theorem moved_of_contains {r : CaseRun} {n : Nat} (h : r.contains n = true)
    (hshift : 0 ≤ r.first + r.shift) :
    r.low ≤ (n + r.shift).toNat ∧ (n + r.shift).toNat ≤ r.high ∧
      ((n + r.shift).toNat - r.low) % r.step = 0 := by
  simp only [contains, Bool.and_eq_true, decide_eq_true_eq, beq_iff_eq] at h
  obtain ⟨⟨hfirst, hlast⟩, hmod⟩ := h
  have hdistance : (n + r.shift).toNat - r.low = n - r.first := by
    rw [low]
    omega
  refine ⟨?_, ?_, by rw [hdistance, hmod]⟩
  · rw [low]
    omega
  · rw [high]
    omega

end CaseRun

/-! ## The tables

Each of these facts is about pairs of runs, or pairs of a run and an expansion, and is settled by
evaluation. Looking at the ends of runs only keeps this short: there are some two hundred runs, and
more than a thousand letters in them. -/

theorem upperRuns_valid : ∀ r ∈ upperRuns, (decide (0 ≤ r.first + r.shift) &&
    (Nat.blt r.high 0xD800 || Nat.blt 0xDFFF r.low && Nat.blt r.high 0x110000)) = true :=
  List.all_eq_true.mp (by decide +kernel)

theorem upperRuns_clear : ∀ r ∈ upperRuns, (let low := r.low; let high := r.high
    upperRuns.all fun r' => r'.isClearOf low high r.step) = true :=
  List.all_eq_true.mp (by decide +kernel)

theorem upperRuns_clear_of_expansions : ∀ r ∈ upperRuns, (let low := r.low; let high := r.high
    upperExpansions.all fun e => Nat.blt e.1 low || Nat.blt high e.1) = true :=
  List.all_eq_true.mp (by decide +kernel)

theorem upperExpansions_valid :
    ∀ e ∈ upperExpansions, (e.2.all fun n => Nat.blt n 0xD800) = true :=
  List.all_eq_true.mp (by decide +kernel)

theorem upperExpansions_clear_of_runs : ∀ e ∈ upperExpansions, (e.2.all fun n =>
    upperRuns.all fun r => r.isClearOf n n 1) = true :=
  List.all_eq_true.mp (by decide +kernel)

theorem upperExpansions_clear : ∀ e ∈ upperExpansions, (e.2.all fun n =>
    upperExpansions.all fun e' => !Nat.beq e'.1 n) = true :=
  List.all_eq_true.mp (by decide +kernel)

/-! ## Characters and texts -/

theorem upperChar_of_clear {c : Char} (hruns : ∀ r ∈ upperRuns, r.contains c.toNat = false)
    (hexpansions : ∀ e ∈ upperExpansions, e.1 ≠ c.toNat) : upperChar c = [c] := by
  have hlookup : upperExpansions.lookup c.toNat = none :=
    List.lookup_eq_none_iff.mpr fun e he => by simpa using (hexpansions e he).symm
  have hfind : upperRuns.find? (·.contains c.toNat) = none :=
    List.find?_eq_none.mpr fun r hr => by simp [hruns r hr]
  rw [upperChar, hlookup]
  simp only [CaseRun.map, hfind]

theorem toNat_ofNat {n : Nat} (h : n.isValidChar) : (Char.ofNat n).toNat = n := by
  rw [Char.ofNat, dif_pos h]
  rfl

theorem upperChar_ofNat {n : Nat} (hvalid : n.isValidChar)
    (hruns : ∀ r ∈ upperRuns, r.contains n = false) (hexpansions : ∀ e ∈ upperExpansions, e.1 ≠ n) :
    upperChar (Char.ofNat n) = [Char.ofNat n] := by
  refine upperChar_of_clear ?_ ?_
  · rwa [toNat_ofNat hvalid]
  · rwa [toNat_ofNat hvalid]

theorem upperChar_moved {r : CaseRun} (hr : r ∈ upperRuns) {n : Nat} (h : r.contains n = true) :
    upperChar (Char.ofNat (n + r.shift).toNat) = [Char.ofNat (n + r.shift).toNat] := by
  have hvalid := upperRuns_valid r hr
  simp only [Bool.and_eq_true, Bool.or_eq_true, decide_eq_true_eq, Nat.blt_eq] at hvalid
  obtain ⟨hshift, hrange⟩ := hvalid
  obtain ⟨hlow, hhigh, hstep⟩ := CaseRun.moved_of_contains h hshift
  generalize (n + r.shift).toNat = moved at hlow hhigh hstep
  refine upperChar_ofNat ?_ (fun r' hr' => ?_) fun e he => ?_
  · rcases hrange with hrange | ⟨hbelow, habove⟩
    · exact .inl (by omega)
    · exact .inr ⟨by omega, by omega⟩
  · exact CaseRun.contains_of_isClearOf
      (List.all_eq_true.mp (upperRuns_clear r hr) r' hr') hlow hhigh hstep
  · have hclear := List.all_eq_true.mp (upperRuns_clear_of_expansions r hr) e he
    simp only [Bool.or_eq_true, Nat.blt_eq] at hclear
    omega

theorem upperChar_expanded {e : Nat × List Nat} (he : e ∈ upperExpansions) {n : Nat}
    (hn : n ∈ e.2) : upperChar (Char.ofNat n) = [Char.ofNat n] := by
  have hvalid := List.all_eq_true.mp (upperExpansions_valid e he) n hn
  rw [Nat.blt_eq] at hvalid
  refine upperChar_ofNat (.inl hvalid) (fun r hr => ?_) fun e' he' => ?_
  · have hclear := List.all_eq_true.mp (upperExpansions_clear_of_runs e he) n hn
    exact CaseRun.contains_of_isClearOf (List.all_eq_true.mp hclear r hr) (Nat.le_refl n)
      (Nat.le_refl n) (Nat.mod_one _)
  · have hclear := List.all_eq_true.mp (upperExpansions_clear e he) n hn
    have hne := List.all_eq_true.mp hclear e' he'
    intro hsame
    rw [hsame, Nat.beq_refl] at hne
    cases hne

/-- A character that an upper case consists of is its own upper case, whichever way it came there:
by itself, as one of several, or as what a letter has moved to. -/
theorem upperChar_of_mem {c d : Char} (h : d ∈ upperChar c) : upperChar d = [d] := by
  rw [upperChar] at h
  cases hlookup : upperExpansions.lookup c.toNat with
  | some codes =>
    rw [hlookup] at h
    obtain ⟨n, hn, rfl⟩ := List.mem_map.mp h
    obtain ⟨before, after, htable, -⟩ := List.lookup_eq_some_iff.mp hlookup
    have he : (c.toNat, codes) ∈ upperExpansions := by
      rw [htable]
      exact List.mem_append_right _ List.mem_cons_self
    exact upperChar_expanded he hn
  | none =>
    rw [hlookup] at h
    obtain rfl := List.mem_singleton.mp h
    rw [CaseRun.map]
    cases hfind : upperRuns.find? (·.contains c.toNat) with
    | some r =>
      have hcontains := List.find?_some hfind
      exact upperChar_moved (List.mem_of_find?_eq_some hfind) hcontains
    | none =>
      -- No table mentions the character.
      rw [upperChar, hlookup]
      simp only [CaseRun.map, hfind]

/-- What is in upper case has itself for its upper case. Upper case is taken character by character,
with no regard to neighbours, so this is a matter of single characters. -/
theorem upper_upper (s : String) : upper (upper s) = upper s := by
  have hfixed : ∀ cs : List Char, (∀ c ∈ cs, upperChar c = [c]) → cs.flatMap upperChar = cs := by
    intro cs h
    induction cs with
    | nil => rfl
    | cons c rest ih =>
      rw [List.flatMap_cons, h c List.mem_cons_self,
        ih fun d hd => h d (List.mem_cons_of_mem c hd)]
      rfl
  have hupper : ∀ d ∈ (upper s).toList, upperChar d = [d] := by
    intro d hd
    rw [upper, String.toList_ofList] at hd
    obtain ⟨c, -, hc⟩ := List.mem_flatMap.mp hd
    exact upperChar_of_mem hc
  rw [upper, hfixed _ hupper, String.ofList_toList]

end Dicebox.Text
