import Mathlib.Algebra.BigOperators.Group.List.Basic
import Dicebox.Proofs.Metrics.Booking
import Dicebox.Proofs.Metrics.History

/-!
# Postings may be exchanged

What the books say does not depend on the order in which the same postings were made: between two
resets,

> **books with the same postings read alike, in whatever order these came**
> (`readsAlike_of_perm`).

Books that read alike differ in the order of their accounts at most (`ReadsAlike`). When they are
listed in one map (`Metrics.flatten`) even that is lost, except that of two accounts of one name the
later counts. With several histograms it can matter which came first; with only one it cannot
(`ReadsAlike.find?_flatten`).

Not everything in a history is known as an event, and the other way round, so events are translated:
`Event.posting?` is what an event posts, and books that are kept of events are books of these
postings (`Metrics.book_eq_postAll`).
-/

set_option autoImplicit false

namespace Dicebox

-- The sum of a list starts from core's own zero, whatever else is imported.
attribute [local instance (high)] Zero.ofOfNat0

/-! ## Books that read alike

Exchanging two neighbours would do for any permutation, but there is a shorter way. The books say
what was posted as counts and sums over the postings (`Tells`), and these are the same for all
orders of them. -/

/-- Histograms with the same buckets, sum and count. -/
structure Histogram.ReadsAlike (h h' : Histogram) : Prop where
  bucket (label : String) : h.buckets.find? label = h'.buckets.find? label
  sum : h.sum = h'.sum
  count : h.count = h'.count

/-- Books with the same counters and histograms. -/
structure Metrics.ReadsAlike (m m' : Metrics) : Prop where
  counter (name : Name) : m.counters.find? name = m'.counters.find? name
  opened (name : Name) :
    (m.histograms.find? name).isSome = (m'.histograms.find? name).isSome
  histogram (name : Name) : (m.histogram name).ReadsAlike (m'.histogram name)

theorem Holds.readsAlike_of_perm {entries entries' : List (Int × String)} {h h' : Histogram}
    (hh : Holds entries h) (hh' : Holds entries' h') (hperm : entries.Perm entries') :
    h.ReadsAlike h' where
  bucket label := by
    rw [hh.bucket, hh'.bucket, enteredUnder, enteredUnder, hperm.countP_eq]
  sum := by
    rw [hh.sum, hh'.sum]
    exact (hperm.map Prod.fst).sum_eq
  count := by rw [hh.count, hh'.count, hperm.length_eq]

theorem Tells.readsAlike_of_perm {history history' : List Posting} {m m' : Metrics}
    (h : Tells history m) (h' : Tells history' m') (hperm : history.Perm history') :
    m.ReadsAlike m' where
  counter name := by
    have hincrements : (increments name history).Perm (increments name history') :=
      hperm.filterMap _
    have hnil : increments name history = [] ↔ increments name history' = [] :=
      ⟨fun hnil => (hnil ▸ hincrements).nil_eq.symm, fun hnil => (hnil ▸ hincrements).eq_nil⟩
    have hsum : (increments name history).sum = (increments name history').sum :=
      hincrements.sum_eq
    rw [h.counter, h'.counter, hsum]
    exact ite_congr (propext hnil) (fun _ => rfl) fun _ => rfl
  opened name := by rw [h.opened, h'.opened, hperm.any_eq]
  histogram name := (h.histogram name).readsAlike_of_perm (h'.histogram name) (hperm.filterMap _)

theorem sinceReset_eq_self {history : List Posting} (h : ∀ p ∈ history, p.isReset = false) :
    sinceReset history = history :=
  List.rtakeWhile_eq_self_iff.mpr fun p hp => by rw [h p hp]; rfl

theorem readsAlike_of_perm {history history' : List Posting} (hperm : history.Perm history')
    (h : ∀ p ∈ history, p.isReset = false) :
    (Metrics.empty.postAll history).ReadsAlike (Metrics.empty.postAll history') := by
  have hkept := tells_postAll history
  have hkept' := tells_postAll history'
  rw [sinceReset_eq_self h] at hkept
  rw [sinceReset_eq_self fun p hp => h p (hperm.mem_iff.mpr hp)] at hkept'
  exact hkept.readsAlike_of_perm hkept' hperm

/-! ## All accounts in one map

The map is looked up from its end, account by account. Within one histogram the accounts of its
buckets have different names, so their order is of no account; between histograms they may have the
same. -/

namespace OrderedMap

variable {α β γ δ : Type} [BEq α] [EquivBEq α] [BEq γ] [EquivBEq γ]

theorem lookup_renamed (m : OrderedMap α β) {rename : α → γ} (value : β → δ)
    (hrename : ∀ a b, (rename a == rename b) = (a == b)) {key : γ} {a : α}
    (hkey : (key == rename a) = true) :
    (m.entries.map fun e => (rename e.1, value e.2)).reverse.lookup key =
      (m.find? a).map value := by
  have hsame : (fun e : α × β => key == rename e.1) = fun e => a == e.1 :=
    funext fun e => by rw [BEq.congr_left hkey, hrename]
  have hlookup : m.entries.reverse.lookup a =
      (m.entries.reverse.find? fun e => a == e.1).map Prod.snd := by
    rw [← lookup_map Prod.fst Prod.snd, List.map_id']
  have hmap := lookup_map (fun e : α × β => rename e.1) (fun e => value e.2) m.entries.reverse key
  rw [← find?_ofList_entries, find?_ofList, hlookup, Option.map_map, ← List.map_reverse, hmap,
    hsame]
  rfl

omit [EquivBEq α] [EquivBEq γ] in
theorem lookup_renamed_eq_none (m : OrderedMap α β) {rename : α → γ} (value : β → δ) {key : γ}
    (hkey : ∀ a, (key == rename a) = false) :
    (m.entries.map fun e => (rename e.1, value e.2)).reverse.lookup key = none := by
  refine List.lookup_eq_none_iff.mpr fun e he => ?_
  obtain ⟨entry, -, rfl⟩ := List.mem_map.mp (List.mem_reverse.mp he)
  rw [bne, hkey]
  rfl

end OrderedMap

/-- What is listed of histograms that read alike, under one name. -/
theorem Histogram.ReadsAlike.lookup_accounts {h h' : Histogram} (hh : h.ReadsAlike h')
    (name key : Name) :
    (((Metrics.histogramEntries name h).map fun e => (Name.text e.1, e.2)).reverse.lookup key) =
      ((Metrics.histogramEntries name h').map fun e =>
        (Name.text e.1, e.2)).reverse.lookup key := by
  -- The count and the sum come last, and so they are found before a bucket of such a label.
  let account (label : String) : Name := .text ("histo." ++ name.display ++ "." ++ label)
  let listed (g : Histogram) : List (Name × Int) :=
    g.buckets.entries.map fun e => (account e.1, (e.2 : Int))
  have hsplit : ∀ g : Histogram,
      ((Metrics.histogramEntries name g).map fun e => (Name.text e.1, e.2)).reverse =
        (account "count", (g.count : Int)) :: (account "sum", g.sum) :: (listed g).reverse := by
    intro g
    rw [Metrics.histogramEntries, List.map_append, List.map_map, List.reverse_append]
    rfl
  have haccount : ∀ a b, (account a == account b) = (a == b) := by
    intro a b
    rw [Name.text_beq, Bool.eq_iff_iff, beq_iff_eq, beq_iff_eq, String.append_right_inj]
  have hlisted : (listed h).reverse.lookup key = (listed h').reverse.lookup key := by
    by_cases hkey : ∃ label, (key == account label) = true
    · obtain ⟨label, hlabel⟩ := hkey
      have hread := fun g : Histogram =>
        g.buckets.lookup_renamed (fun n : Nat => (n : Int)) haccount hlabel
      exact (hread h).trans ((congrArg _ (hh.bucket label)).trans (hread h').symm)
    · have hnone : ∀ label, (key == account label) = false := fun label =>
        Bool.eq_false_iff.mpr fun hlabel => hkey ⟨label, hlabel⟩
      have hread := fun g : Histogram =>
        g.buckets.lookup_renamed_eq_none (fun n : Nat => (n : Int)) hnone
      exact (hread h).trans (hread h').symm
  rw [hsplit, hsplit, List.lookup_cons, List.lookup_cons, List.lookup_cons, List.lookup_cons,
    hh.count, hh.sum, hlisted]

namespace Metrics

theorem entries_of_only {m : Metrics} {name : String}
    (h : ∀ other, (m.histograms.find? other).isSome → (other == .text name) = true) :
    m.histograms.entries =
      ((m.histograms.find? (.text name)).map fun h => (Name.text name, h)).toList := by
  have hkeys : ∀ e ∈ m.histograms.entries, e.1 = .text name := by
    intro e he
    have hfound : (m.histograms.find? e.1).isSome := by
      rw [Option.isSome_iff_ne_none]
      intro hnone
      have hne := List.lookup_eq_none_iff.mp hnone e he
      have hself : (e.1 == e.1) = true := BEq.rfl
      rw [bne, hself] at hne
      cases hne
    exact Name.eq_text_of_beq (h e.1 hfound)
  have hdistinct := m.histograms.distinct
  rw [OrderedMap.find?]
  cases hentries : m.histograms.entries with
  | nil => rfl
  | cons e rest =>
    obtain ⟨key, h⟩ := e
    rw [hentries] at hkeys hdistinct
    obtain rfl : key = .text name := hkeys _ List.mem_cons_self
    -- A second entry would have the same name as the first.
    cases rest with
    | nil =>
      have hself : (Name.text name == .text name) = true := BEq.rfl
      rw [List.lookup_cons, hself]
      rfl
    | cons e' rest =>
      have hne := (List.pairwise_cons.mp hdistinct).1 e' List.mem_cons_self
      rw [hkeys e' (List.mem_cons_of_mem _ List.mem_cons_self)] at hne
      exact absurd hne (Bool.eq_false_iff.not.mpr (not_not.mpr BEq.rfl))

/-- All accounts of books that read alike are alike, if there is but one histogram. The counters in
front of it are not compared as lists: they are looked up, and that they may be in another order
makes no difference to it. -/
theorem ReadsAlike.find?_flatten {m m' : Metrics} (hm : m.ReadsAlike m') (name : String)
    (h : ∀ other, (m.histograms.find? other).isSome → (other == .text name) = true)
    (key : Name) : m.flatten.find? key = m'.flatten.find? key := by
  have h' : ∀ other, (m'.histograms.find? other).isSome → (other == .text name) = true :=
    fun other hother => h other (by rwa [hm.opened])
  have hopened := hm.opened (.text name)
  have hread := hm.histogram (.text name)
  rw [flatten, flatten, OrderedMap.find?_insertAll, OrderedMap.find?_insertAll, hm.counter,
    entries_of_only h, entries_of_only h']
  rw [Metrics.histogram, Metrics.histogram, OrderedMap.findD, OrderedMap.findD] at hread
  cases hfound : m.histograms.find? (.text name) with
  | none =>
    rw [hfound] at hopened
    rw [Option.isNone_iff_eq_none.mp (Option.isSome_eq_false_iff.mp hopened.symm)]
  | some g =>
    rw [hfound] at hopened hread
    obtain ⟨g', hfound'⟩ := Option.isSome_iff_exists.mp hopened.symm
    rw [hfound'] at hread ⊢
    simp only [Option.map_some, Option.toList_some, List.flatMap_cons, List.flatMap_nil,
      List.append_nil]
    have halike : g.ReadsAlike g' := hread
    rw [halike.lookup_accounts]

end Metrics

/-! ## Events as postings

A posting can fail and an event cannot, and a value that is observed need not be a number. The
translation is for the events that the throws and the commands make: they count by one and observe
integers. -/

/-- What an event posts to the books. -/
def Event.posting? : Event → Option Posting
  | .counted counter => some (.add counter (.int 1))
  | .observed histogram (.int value) => some (.observe histogram value none)
  | .observed .. | .shown _ | .logged _ | .sent _ => none

/-- An event that is a posting if it is entered at all. What is observed is an integer. -/
def Event.IsPostable (e : Event) : Prop := e.isBooked = true → e.posting?.isSome = true

/-- All that some events post. -/
def postings (events : List Event) : List Posting := events.filterMap Event.posting?

theorem postings_flatMap {α : Type} (f : α → List Event) (l : List α) :
    postings (l.flatMap f) = l.flatMap fun a => postings (f a) := List.filterMap_flatMap

theorem isReset_of_mem_postings {events : List Event} {p : Posting} (h : p ∈ postings events) :
    p.isReset = false := by
  obtain ⟨e, -, hposting⟩ := List.mem_filterMap.mp h
  cases e with
  | counted counter => rw [← Option.some.inj hposting]; rfl
  | observed histogram value =>
    cases value with
    | int n => rw [← Option.some.inj hposting]; rfl
    | _ => cases hposting
  | _ => cases hposting

theorem Metrics.enter_eq_post (m : Metrics) {e : Event} (h : e.IsPostable) :
    m.enter e = (e.posting?.elim m fun p => (p.post m).2) := by
  cases e with
  | counted counter =>
    show m.add counter 1 = ((Posting.add counter (.int 1)).post m).2
    rw [Posting.post_add]
    rfl
  | observed histogram value =>
    cases value with
    | int n => rfl
    | _ => cases h rfl
  | _ => rfl

/-- Keeping the books of events is posting what they post. -/
theorem Metrics.book_eq_postAll (m : Metrics) {events : List Event}
    (h : ∀ e ∈ events, e.IsPostable) : m.book events = m.postAll (postings events) := by
  induction events generalizing m with
  | nil => rfl
  | cons e rest ih =>
    have hrest := fun m => ih m fun other hother => h other (List.mem_cons_of_mem _ hother)
    show (m.enter e).book rest = _
    rw [hrest, m.enter_eq_post (h e List.mem_cons_self)]
    unfold postings
    rw [List.filterMap_cons]
    cases e.posting? with
    | none => rfl
    | some p => rfl

end Dicebox
