/-!
# Ordered maps — first come, last word

Counters, histograms, commands and names are kept in maps that remember the order in which their
keys first came. Writing a key again replaces its value where it stands. So a map answers two
questions: what a key means (`find?`), decided by the last write, and in which order the keys are
listed (`keys`), decided by the first. No key is listed twice.

Keys are the same as far as `==` can tell, which may be less than equality: of two keys that are the
same the one that came first is listed. All that is asked of `==` is that it is an equivalence.
-/

set_option autoImplicit false

namespace Dicebox

/-- A map from keys to values, in the order in which the keys were first written. -/
structure OrderedMap (α β : Type) [BEq α] where
  entries : List (α × β)
  distinct : entries.Pairwise fun a b => (a.1 == b.1) = false

namespace OrderedMap

variable {α β : Type} [BEq α]

/-- The entries after a key is written. -/
def insertEntry (key : α) (value : β) : List (α × β) → List (α × β)
  | [] => [(key, value)]
  | (k, v) :: rest => if k == key then (k, value) :: rest else (k, v) :: insertEntry key value rest

theorem keys_insertEntry (key : α) (value : β) (entries : List (α × β)) :
    (insertEntry key value entries).map Prod.fst =
      if entries.any (·.1 == key) then entries.map Prod.fst
      else entries.map Prod.fst ++ [key] := by
  induction entries with
  | nil => simp [insertEntry]
  | cons e rest ih =>
    obtain ⟨k, v⟩ := e
    by_cases h : (k == key) = true
    · simp [insertEntry, h]
    · simp only [insertEntry, h, Bool.false_eq_true, ↓reduceIte, List.map_cons, ih, List.any_cons,
        Bool.false_or]
      split <;> simp

theorem distinct_insertEntry (key : α) (value : β) {entries : List (α × β)}
    (h : entries.Pairwise fun a b => (a.1 == b.1) = false) :
    (insertEntry key value entries).Pairwise fun a b => (a.1 == b.1) = false := by
  have hk : ((insertEntry key value entries).map Prod.fst).Pairwise
      fun a b => (a == b) = false := by
    rw [keys_insertEntry]
    split
    · exact List.pairwise_map.2 h
    · next hn =>
      rw [List.pairwise_append]
      refine ⟨List.pairwise_map.2 h, List.pairwise_singleton .., fun a ha b hb => ?_⟩
      obtain ⟨e, he, rfl⟩ := List.mem_map.1 ha
      rw [List.mem_singleton.1 hb]
      exact Bool.eq_false_iff.2 fun hab => hn (List.any_eq_true.2 ⟨e, he, hab⟩)
  exact List.pairwise_map.1 hk

/-- The map without keys. -/
def empty : OrderedMap α β := ⟨[], .nil⟩

instance : Inhabited (OrderedMap α β) := ⟨empty⟩

/-- Writes a key. -/
def insert (m : OrderedMap α β) (key : α) (value : β) : OrderedMap α β :=
  ⟨insertEntry key value m.entries, distinct_insertEntry key value m.distinct⟩

/-- The value of a key. -/
def find? (m : OrderedMap α β) (key : α) : Option β := m.entries.lookup key

/-- The value of a key, or another value if it was never written. -/
def findD (m : OrderedMap α β) (key : α) (default : β) : β := (m.find? key).getD default

/-- The keys in the order in which they were first written. -/
def keys (m : OrderedMap α β) : List α := m.entries.map Prod.fst

/-- Whether a key has been written. -/
def contains (m : OrderedMap α β) (key : α) : Bool := m.entries.any (·.1 == key)

/-- Writes the entries of a list, one after another. -/
def insertAll (m : OrderedMap α β) (entries : List (α × β)) : OrderedMap α β :=
  entries.foldl (fun m e => m.insert e.1 e.2) m

/-- The map that a list of entries makes, a later entry for a key replacing an earlier one. -/
def ofList (entries : List (α × β)) : OrderedMap α β := empty.insertAll entries

/-! ## Laws -/

theorem find?_empty (key : α) : (empty : OrderedMap α β).find? key = none := rfl

theorem find?_insert_self [EquivBEq α] (m : OrderedMap α β) (key : α) (value : β) :
    (m.insert key value).find? key = some value := by
  simp only [find?, insert]
  induction m.entries with
  | nil => simp [insertEntry]
  | cons e rest ih =>
    obtain ⟨k, v⟩ := e
    by_cases h : (k == key) = true
    · have h' : (key == k) = true := BEq.symm h
      simp only [insertEntry, h, ↓reduceIte, List.lookup_cons, h']
    · have h' : (key == k) = false := Bool.eq_false_iff.2 fun hs => h (BEq.symm hs)
      simp only [insertEntry, h, Bool.false_eq_true, ↓reduceIte, List.lookup_cons, h', ih]

theorem find?_insert_of_ne [EquivBEq α] (m : OrderedMap α β) {key other : α} (value : β)
    (h : (other == key) = false) : (m.insert key value).find? other = m.find? other := by
  simp only [find?, insert]
  induction m.entries with
  | nil => simp only [insertEntry, List.lookup_cons, h]
  | cons e rest ih =>
    obtain ⟨k, v⟩ := e
    by_cases hk : (k == key) = true
    · have hb : (other == k) = false :=
        Bool.eq_false_iff.2 fun hs => Bool.eq_false_iff.1 h (BEq.trans hs hk)
      simp only [insertEntry, hk, ↓reduceIte, List.lookup_cons, hb]
    · simp only [insertEntry, hk, Bool.false_eq_true, ↓reduceIte, List.lookup_cons, ih]

/-- Keys that are the same mean the same. -/
theorem find?_congr [EquivBEq α] (m : OrderedMap α β) {key other : α} (h : (key == other) = true) :
    m.find? key = m.find? other := by
  simp only [find?]
  induction m.entries with
  | nil => rfl
  | cons e rest ih =>
    obtain ⟨k, v⟩ := e
    have hk : (key == k) = (other == k) := BEq.congr_left h
    simp only [List.lookup_cons, hk, ih]

theorem find?_insert [EquivBEq α] (m : OrderedMap α β) (key other : α) (value : β) :
    (m.insert key value).find? other = if other == key then some value else m.find? other := by
  by_cases h : (other == key) = true
  · rw [if_pos h, find?_congr _ h, find?_insert_self]
  · rw [if_neg h, find?_insert_of_ne m value (Bool.eq_false_iff.2 h)]

/-- Of what is written for a key, the last counts. -/
theorem find?_insertAll [EquivBEq α] (m : OrderedMap α β) (entries : List (α × β)) (key : α) :
    (m.insertAll entries).find? key = (entries.reverse.lookup key).or (m.find? key) := by
  simp only [insertAll]
  induction entries generalizing m with
  | nil => rfl
  | cons e rest ih =>
    rw [List.foldl_cons, ih, find?_insert, List.reverse_cons, List.lookup_append, Option.or_assoc,
      List.lookup_cons, List.lookup_nil]
    cases key == e.1 <;> rfl

theorem find?_ofList [EquivBEq α] (entries : List (α × β)) (key : α) :
    (ofList entries).find? key = entries.reverse.lookup key := by
  rw [ofList, find?_insertAll, find?_empty, Option.or_none]

/-- Entries made of the elements of a list. -/
theorem lookup_map {γ : Type} (key : γ → α) (value : γ → β) (l : List γ) (k : α) :
    (l.map fun c => (key c, value c)).lookup k = (l.find? fun c => k == key c).map value := by
  induction l with
  | nil => rfl
  | cons c rest ih =>
    rw [List.map_cons, List.lookup_cons, List.find?_cons, ih]
    cases k == key c <;> rfl

/-- Of elements with one key, the last counts. -/
theorem find?_ofList_map [EquivBEq α] {γ : Type} (key : γ → α) (value : γ → β) (l : List γ)
    (k : α) : (ofList (l.map fun c => (key c, value c))).find? k =
      (l.reverse.find? fun c => k == key c).map value := by
  rw [find?_ofList, ← List.map_reverse, lookup_map]

/-- A map is the same map when it is written down again. -/
theorem find?_ofList_entries [EquivBEq α] (m : OrderedMap α β) (key : α) :
    (ofList m.entries).find? key = m.find? key := by
  rw [find?_ofList, find?]
  obtain ⟨entries, hdistinct⟩ := m
  dsimp only
  induction entries with
  | nil => rfl
  | cons e rest ih =>
    obtain ⟨hne, hrest⟩ := List.pairwise_cons.1 hdistinct
    rw [List.reverse_cons, List.lookup_append, ih hrest, List.lookup_cons, List.lookup_cons,
      List.lookup_nil]
    cases hkey : key == e.1 with
    | false => exact Option.or_none
    | true =>
      -- Nothing else in the map has this key.
      have hnone : rest.lookup key = none :=
        List.lookup_eq_none_iff.2 fun other hother => by
          rw [bne, BEq.congr_left hkey, hne other hother]
          rfl
      rw [hnone]
      rfl

theorem keys_insert (m : OrderedMap α β) (key : α) (value : β) :
    (m.insert key value).keys = if m.contains key then m.keys else m.keys ++ [key] :=
  keys_insertEntry key value m.entries

theorem keys_distinct (m : OrderedMap α β) : m.keys.Pairwise fun a b => (a == b) = false :=
  List.pairwise_map.2 m.distinct

/-- An entry says what its key means. -/
theorem find?_of_mem [EquivBEq α] {m : OrderedMap α β} {e : α × β} (he : e ∈ m.entries) :
    m.find? e.1 = some e.2 := by
  obtain ⟨entries, hdistinct⟩ := m
  dsimp only at he
  simp only [find?]
  induction entries with
  | nil => cases he
  | cons first rest ih =>
    obtain ⟨hne, hrest⟩ := List.pairwise_cons.1 hdistinct
    rcases List.mem_cons.1 he with rfl | hmem
    · have hself : (e.1 == e.1) = true := BEq.rfl
      rw [List.lookup_cons, hself]
    · have hother : (e.1 == first.1) = false :=
        Bool.eq_false_iff.2 fun hs => Bool.eq_false_iff.1 (hne e hmem) (BEq.symm hs)
      rw [List.lookup_cons, hother]
      exact ih hrest hmem

theorem find?_eq_some_iff [EquivBEq α] {m : OrderedMap α β} {key : α} {value : β} :
    m.find? key = some value ↔ ∃ e ∈ m.entries, (key == e.1) = true ∧ e.2 = value := by
  constructor
  · rw [find?]
    generalize m.entries = entries
    intro h
    induction entries with
    | nil => cases h
    | cons e rest ih =>
      rw [List.lookup_cons] at h
      cases hkey : key == e.1 with
      | true =>
        rw [hkey] at h
        exact ⟨e, List.mem_cons_self, hkey, Option.some.inj h⟩
      | false =>
        rw [hkey] at h
        obtain ⟨e', he', hfound⟩ := ih h
        exact ⟨e', List.mem_cons_of_mem e he', hfound⟩
  · rintro ⟨e, he, hkey, rfl⟩
    rw [find?_congr m hkey]
    exact find?_of_mem he

/-- The values stand in the order of their keys. -/
theorem map_find?_keys [EquivBEq α] (m : OrderedMap α β) :
    m.keys.map m.find? = (m.entries.map Prod.snd).map some := by
  rw [keys, List.map_map, List.map_map]
  exact List.map_congr_left fun e he => find?_of_mem he

/-- The entries of all keys but one, after a key is written. If it is that one, they are as before. -/
theorem filter_insert [EquivBEq α] (m : OrderedMap α β) (key other : α) (value : β) :
    (m.insert key value).entries.filter (fun e => !(e.1 == other)) =
      if key == other then m.entries.filter fun e => !(e.1 == other)
      else insertEntry key value (m.entries.filter fun e => !(e.1 == other)) := by
  simp only [insert]
  induction m.entries with
  | nil => cases ho : key == other <;> simp [insertEntry, ho]
  | cons e rest ih =>
    obtain ⟨k, v⟩ := e
    cases hk : k == key with
    | true =>
      have hko : (k == other) = (key == other) := BEq.congr_left hk
      cases ho : key == other <;> simp [insertEntry, hk, hko, ho]
    | false =>
      simp only [insertEntry, hk, Bool.false_eq_true, ↓reduceIte, List.filter_cons, ih]
      cases k == other <;> cases key == other <;> simp [insertEntry, hk]

/-- A key that is new comes last. -/
theorem insertEntry_of_new {key : α} {entries : List (α × β)}
    (h : ∀ e ∈ entries, (e.1 == key) = false) (value : β) :
    insertEntry key value entries = entries ++ [(key, value)] := by
  induction entries with
  | nil => rfl
  | cons e rest ih =>
    have hne := h e List.mem_cons_self
    rw [insertEntry, hne, ih fun e' he' => h e' (List.mem_cons_of_mem e he')]
    rfl

/-- Entries with keys that are all new are written one after another, and overwrite nothing. -/
theorem entries_insertAll (m : OrderedMap α β) {entries : List (α × β)}
    (h : (m.entries ++ entries).Pairwise fun a b => (a.1 == b.1) = false) :
    (m.insertAll entries).entries = m.entries ++ entries := by
  induction entries generalizing m with
  | nil => exact (List.append_nil m.entries).symm
  | cons e rest ih =>
    have hnew : ∀ e' ∈ m.entries, (e'.1 == e.1) = false := fun e' he' =>
      (List.pairwise_append.1 h).2.2 e' he' e List.mem_cons_self
    have hinsert : (m.insert e.1 e.2).entries = m.entries ++ [e] := insertEntry_of_new hnew e.2
    have hsplit : m.entries ++ e :: rest = (m.entries ++ [e]) ++ rest := by simp
    rw [hsplit, ← hinsert] at h ⊢
    exact ih (m.insert e.1 e.2) h

/-- Where `==` is equality, no key is listed twice. -/
theorem nodup_keys [LawfulBEq α] (m : OrderedMap α β) : m.keys.Nodup :=
  m.keys_distinct.imp fun h => ne_of_beq_false h

end OrderedMap

end Dicebox
