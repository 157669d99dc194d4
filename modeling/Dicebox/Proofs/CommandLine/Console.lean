import Dicebox.CommandLine.Console

/-!
# Plain messages are printed as they are

The console takes two characters out of messages, and others only for their sake: the escape that
starts a control sequence, and the carriage return before a line feed. So

> **messages without these two are printed line by line, unchanged** (`print_eq_join`).
-/

set_option autoImplicit false

namespace Dicebox.Console

/-- A text in which the console changes nothing. -/
def IsPlain (text : String) : Prop := '\x1b' ∉ text.toList ∧ '\r' ∉ text.toList

instance (text : String) : Decidable (IsPlain text) := inferInstanceAs (Decidable (_ ∧ _))

theorem afterSequence?_eq_none {c : Char} (hc : c ≠ '\x1b') (rest : List Char) :
    afterSequence? c rest = none := by
  unfold afterSequence?
  split
  · exact absurd rfl hc
  · rfl

theorem dropSequences_of_not_mem {cs : List Char} (h : '\x1b' ∉ cs) : dropSequences cs = cs := by
  -- What has been kept so far stands in front of what is left.
  suffices hall : ∀ kept, dropSequencesAfter kept cs = kept.reverse ++ cs from hall []
  induction cs with
  | nil =>
    intro kept
    rw [dropSequencesAfter, List.append_nil]
  | cons c rest ih =>
    intro kept
    obtain ⟨hc, hrest⟩ := not_or.1 (mt List.mem_cons.2 h)
    have hnone := afterSequence?_eq_none (Ne.symm hc) rest
    rw [dropSequencesAfter]
    split
    · next after hafter =>
      rw [hnone] at hafter
      cases hafter
    · rw [ih hrest, List.reverse_cons, List.append_assoc, List.singleton_append]

/-- A character is kept after any other than a carriage return. -/
theorem keepPlain_of_not_mem {kept : List Char} (h : '\r' ∉ kept) (c : Char) :
    keepPlain kept c = c :: kept := by
  unfold keepPlain
  split
  · exact absurd List.mem_cons_self h
  · rfl

theorem plainLineEnds_of_not_mem {cs : List Char} (h : '\r' ∉ cs) : plainLineEnds cs = cs := by
  -- What has been kept is turned around, and a line feed takes away the return on top of it.
  have hall : ∀ kept, '\r' ∉ kept → cs.foldl keepPlain kept = cs.reverse ++ kept := by
    induction cs with
    | nil => exact fun kept _ => rfl
    | cons c rest ih =>
      intro kept hkept
      obtain ⟨hc, hrest⟩ := not_or.1 (mt List.mem_cons.2 h)
      have hcons : '\r' ∉ c :: kept := mt List.mem_cons.1 (not_or.2 ⟨hc, hkept⟩)
      rw [List.foldl_cons, keepPlain_of_not_mem hkept, ih hrest _ hcons, List.reverse_cons,
        List.append_assoc, List.singleton_append]
  rw [plainLineEnds, hall [] List.not_mem_nil, List.append_nil, List.reverse_reverse]

theorem isPlain_line {m : Message} (h : IsPlain m.content) : IsPlain (line m) := by
  obtain ⟨hescape, hreturn⟩ := h
  rw [line, IsPlain, String.toList_append, String.toList_append]
  cases m.ephemeral <;> simp [hescape, hreturn]

/-- Plain messages are printed line by line. The console prints all of them as one text, and the
first thing to be known of that text is that it has none of the characters that its lines do not
have. -/
theorem print_eq_join {messages : List Message} (h : ∀ m ∈ messages, IsPlain m.content) :
    print messages = String.join (messages.map line) := by
  have hnot : ∀ c, (∀ m ∈ messages, c ∉ (line m).toList) →
      c ∉ (String.join (messages.map line)).toList := by
    intro c hc hmem
    rw [String.toList_join, List.mem_flatMap] at hmem
    obtain ⟨text, htext, hcs⟩ := hmem
    obtain ⟨m, hm, rfl⟩ := List.mem_map.1 htext
    exact hc m hm hcs
  rw [print, dropSequences_of_not_mem (hnot _ fun m hm => (isPlain_line (h m hm)).1),
    plainLineEnds_of_not_mem (hnot _ fun m hm => (isPlain_line (h m hm)).2), String.ofList_toList]

end Dicebox.Console
