import Dicebox.Source.Twister

/-!
# Sources of chance

Dice are rolled with the draws of a source. A source is a seeded generator, which never runs dry, or
a script, a list of draws to be used up in order. Of what is written in a script some may be no draw
at all, which is found out when its turn comes. Sources are values: taking a draw gives the draw and
the source that remains, so a throw can be followed draw by draw, and two sources never share
anything.
-/

set_option autoImplicit false

namespace Dicebox

/-- A source of draws. -/
inductive Source
  | scripted (draws : List (Except Fault Draw))
  | twister (state : Twister)

namespace Source

/-- The generator of a seed. -/
def seeded (seed : Int) : Source := .twister (Twister.seeded seed)

/-- Takes a draw, or finds out why it is none; `none` if nothing is left. -/
def draw? : Source → Option (Except Fault Draw × Source)
  | .scripted [] => none
  | .scripted (d :: rest) => some (d, .scripted rest)
  | .twister state =>
    let (d, state) := state.draw
    some (.ok d, .twister state)

/-- A fair source hands out fair draws only: every generator does, and a script that holds no
others. -/
def IsFair : Source → Prop
  | .scripted draws => ∀ d ∈ draws, ∃ draw : Draw, d = .ok draw ∧ draw.IsFair
  | .twister _ => True

theorem isFair_draw? {s rest : Source} {d : Except Fault Draw} (hs : s.IsFair)
    (h : s.draw? = some (d, rest)) : (∃ draw : Draw, d = .ok draw ∧ draw.IsFair) ∧ rest.IsFair := by
  cases s with
  | scripted draws =>
    cases draws with
    | nil => simp [draw?] at h
    | cons e others =>
      simp only [draw?, Option.some.injEq, Prod.mk.injEq] at h
      obtain ⟨rfl, rfl⟩ := h
      exact ⟨hs e (by simp), fun d hd => hs d (by simp [hd])⟩
  | twister state =>
    simp only [draw?, Option.some.injEq, Prod.mk.injEq] at h
    obtain ⟨rfl, rfl⟩ := h
    exact ⟨⟨_, rfl, state.isFair_draw⟩, trivial⟩

/-- The first `n` draws of a source and what remains, if it can supply them. -/
def take? : Nat → Source → Option (List Draw × Source)
  | 0, s => some ([], s)
  | n + 1, s => do
    let (d, s) ← s.draw?
    let d ← d.toOption
    let (ds, s) ← take? n s
    return (d :: ds, s)

end Source

end Dicebox
