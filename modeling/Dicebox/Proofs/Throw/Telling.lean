import Dicebox.Log.Setup
import Dicebox.Proofs.Throw.Oversize

/-!
# What is told of a throw

A throw is told to whoever watches, in steps, and to the log, in records, while its messages become
part of its outcome. Each of the three is made in its own way and at its own time, in the midst of
the rolling. Here they are written down side by side, without a loop and from the faces alone: the
steps are `Throw.story`, the records `Throw.protocol`, and the messages `Throw.transcript`. Running
totals are sums of so many first faces. Then

> **a finished throw shows its story, writes its protocol, and has its transcript for messages.**

That the three agree is a fact about these lists. The steps in the protocol are those of the story,
in their order, and the last of them is the last message (`filterMap_detail?_protocol`,
`getLast?_story`).
-/

set_option autoImplicit false

namespace Dicebox

open Number

-- The sum of a list starts from core's own zero, whatever else is imported.
attribute [local instance (high)] Zero.ofOfNat0

/-! ## The dice by their places

The lines of the dice are made with a running total in hand. By its place a die is told without one,
because the total up to there is the sum of so many faces. -/

theorem dieLines_eq_mapIdx (faces : List Int) :
    dieLines faces = faces.mapIdx fun i face => ⟨i + 1, face, (faces.take (i + 1)).sum⟩ := by
  -- Lines are added at the end, and what stands before it is a sum of the same first faces.
  induction faces using List.reverseRecOn with
  | nil => rfl
  | append_singleton faces face ih =>
    have hbefore : (faces.mapIdx fun i f => (⟨i + 1, f, (faces.take (i + 1)).sum⟩ : DieLine)) =
        faces.mapIdx fun i f => ⟨i + 1, f, ((faces ++ [face]).take (i + 1)).sum⟩ := by
      rw [List.mapIdx_eq_mapIdx_iff]
      intro i hi
      rw [List.take_append_of_le_length (Nat.succ_le_of_lt hi)]
    have hall : (faces ++ [face]).take (faces.length + 1) = faces ++ [face] :=
      List.take_of_length_le (by simp)
    rw [dieLines_concat, ih, List.mapIdx_concat, hbefore, hall, List.sum_append,
      List.sum_singleton]

theorem mapIdx_eq_map_dieLines {β : Type} (tell : DieLine → β) (faces : List Int) :
    (faces.mapIdx fun i face => tell ⟨i + 1, face, (faces.take (i + 1)).sum⟩) =
      (dieLines faces).map tell := by
  rw [dieLines_eq_mapIdx, List.mapIdx_eq_zipIdx_map, List.mapIdx_eq_zipIdx_map, List.map_map]
  rfl

/-! ## The story and the protocol

Both are made of the throw and its faces, and of nothing else. The watcher is told of the text
before it is read, so the story has one line more at its beginning; the log is told of the reading
and of every die besides. -/

namespace Throw

/-- How the steps of a throw begin, before its first die. -/
def announcement (t : Throw) : String :=
  "Going to throw " ++ toString t.dieCount ++ " dice with " ++ toString t.sides ++ " sides each" ++
    match t.modifier with
    | .none => ""
    | .plus v => " and then doing +" ++ toString v
    | .minus v => " and then doing -" ++ toString v

/-- The step of the die at a place among some faces. -/
def dieStep (faces : List Int) (i : Nat) (face : Int) : String :=
  "Die " ++ toString (i + 1) ++ " gave " ++ toString face ++
    ", total is now " ++ toString (faces.take (i + 1)).sum

/-- The step of the modifier, if there is one. -/
def modifierSteps (t : Throw) (faces : List Int) : List String :=
  match t.modifier with
  | .none => []
  | .plus v => ["Added " ++ toString v ++ ", total is now " ++ toString (t.totalOf faces)]
  | .minus v => ["Subtracted " ++ toString v ++ ", total is now " ++ toString (t.totalOf faces)]

/-- How the steps of a throw end. -/
def conclusion (t : Throw) (faces : List Int) : String :=
  "Final result for throw " ++ t.label ++ ": " ++ toString (t.totalOf faces)

/-- All steps of a throw with the given faces. -/
def story (t : Throw) (faces : List Int) : List String :=
  ["Throwing dice from string " ++ t.label, t.announcement] ++
    faces.mapIdx (dieStep faces) ++ t.modifierSteps faces ++ [t.conclusion faces]

/-- The record of a step, with what else it says. The step itself is its detail, word for word. -/
def stepRecord (t : Throw) (line : String) (values : List (String × Datum)) : Log.Record :=
  ⟨.debug, "rules.dice.evaluate.step",
    [("notation", .text t.label), ("detail", .text line)] ++ values⟩

/-- The records of the die at a place: that it was rolled, and its step. -/
def dieRecords (t : Throw) (faces : List Int) (i : Nat) (face : Int) : List Log.Record :=
  [⟨.debug, "rules.dice.roll", [("sides", .int t.sides), ("result", .int face)]⟩,
    t.stepRecord (dieStep faces i face) [("die", .int (i + 1 : Nat)), ("result", .int face)]]

/-- All records of a throw with the given faces. Every one of them is at `DEBUG`, so a log at any
higher threshold keeps none. -/
def protocol (t : Throw) (faces : List Int) : List Log.Record :=
  [⟨.debug, "rules.dice.evaluate.start", [("notation", .text t.label)]⟩,
    ⟨.debug, "rules.notation.parsed", [("notation", .text t.label), ("die_count", .int t.dieCount),
      ("sides", .int t.sides), ("modifier", .int t.modifier.amount)]⟩,
    t.stepRecord t.announcement []] ++
    (faces.mapIdx (t.dieRecords faces)).flatten ++
    (t.modifierSteps faces).map (t.stepRecord · []) ++
    [t.stepRecord (t.conclusion faces) [("total", .int (t.totalOf faces))],
      ⟨.debug, "rules.dice.evaluate.result", [("notation", .text t.label),
        ("total", .int (t.totalOf faces)), ("rolls", .list (faces.map .int))]⟩]

/-! ## How they agree

The three lists are compared without a throw. Whether a throw has these lists is another question,
and is answered afterwards. -/

/-- The step that a record tells of, if it is the record of a step. -/
def detail? (r : Log.Record) : Option Datum :=
  if r.event = "rules.dice.evaluate.step" then r.fields.lookup "detail" else none

@[simp] theorem detail?_stepRecord (t : Throw) (line : String) (values : List (String × Datum)) :
    detail? (t.stepRecord line values) = some (.text line) := rfl

/-- The steps of the story, but for the first, which comes before the throw is read. -/
theorem filterMap_detail?_protocol (t : Throw) (faces : List Int) :
    (t.protocol faces).filterMap detail? = (t.story faces).tail.map .text := by
  have hdice : (faces.mapIdx (t.dieRecords faces)).flatten.filterMap detail? =
      (faces.mapIdx (dieStep faces)).map .text := by
    rw [List.mapIdx_eq_zipIdx_map, List.mapIdx_eq_zipIdx_map, ← List.flatMap_def,
      List.filterMap_flatMap, List.map_map, List.map_eq_flatMap]
    rfl
  have hmodifier : ((t.modifierSteps faces).map (t.stepRecord · [])).filterMap detail? =
      (t.modifierSteps faces).map .text := by
    rw [List.filterMap_map, ← List.filterMap_eq_map]
    rfl
  have hopening : [⟨.debug, "rules.dice.evaluate.start", [("notation", .text t.label)]⟩,
      ⟨.debug, "rules.notation.parsed", [("notation", .text t.label),
        ("die_count", .int t.dieCount), ("sides", .int t.sides),
        ("modifier", .int t.modifier.amount)]⟩,
      t.stepRecord t.announcement []].filterMap detail? = [.text t.announcement] := rfl
  have hclosing : [t.stepRecord (t.conclusion faces) [("total", .int (t.totalOf faces))],
      ⟨.debug, "rules.dice.evaluate.result", [("notation", .text t.label),
        ("total", .int (t.totalOf faces)), ("rolls", .list (faces.map .int))]⟩].filterMap detail? =
      [.text (t.conclusion faces)] := rfl
  have htail : (t.story faces).tail = [t.announcement] ++ faces.mapIdx (dieStep faces) ++
      t.modifierSteps faces ++ [t.conclusion faces] := rfl
  rw [protocol, List.filterMap_append, List.filterMap_append, List.filterMap_append, hopening,
    hdice, hmodifier, hclosing, htail, List.map_append, List.map_append, List.map_append]
  rfl

theorem length_story (t : Throw) (faces : List Int) :
    (t.story faces).length = faces.length + 3 + if t.modifier.isPresent then 1 else 0 := by
  cases hm : t.modifier <;> simp [story, modifierSteps, hm, Modifier.isPresent]

theorem getLast?_story (t : Throw) (faces : List Int) :
    (t.story faces).getLast? = some (t.conclusion faces) := List.getLast?_concat ..

theorem getLast?_transcript (t : Throw) (faces : List Int) :
    (transcript t.modifier.sign t.modifier.value t.label faces (t.totalOf faces)).getLast? =
      some (t.conclusion faces) := List.getLast?_concat ..

end Throw

/-! ## What is read off the events

Events come in groups: an announcement, then one group for each die, and a conclusion. What steps
and records there are in them is said of each group, both for those who watch and for others. -/

section

variable (t : Throw) (watched : Bool)

theorem filterMap_line?_stepEvents (line : String) (values : List (String × Datum)) :
    (stepEvents (.text t.label) watched line values).filterMap Event.line? =
      if watched then [line] else [] := by
  cases watched <;> rfl

theorem filterMap_record?_stepEvents (line : String) (values : List (String × Datum)) :
    (stepEvents (.text t.label) watched line values).filterMap Event.record? =
      [t.stepRecord line values] := by
  cases watched <;> rfl

namespace Throw

theorem filterMap_line?_diceEvents (faces : List Int) :
    (t.diceEvents watched faces).filterMap Event.line? =
      if watched then faces.mapIdx (dieStep faces) else [] := by
  have hstory : faces.mapIdx (dieStep faces) = (dieLines faces).map DieLine.step :=
    mapIdx_eq_map_dieLines DieLine.step faces
  have hline : ∀ l : DieLine, (dieEvents (.text t.label) (.int t.sides) watched l).filterMap
      Event.line? = if watched then [l.step] else [] :=
    fun l => filterMap_line?_stepEvents t watched l.step
      [("die", .int l.number), ("result", .int l.face)]
  rw [diceEvents, List.filterMap_flatMap, hstory]
  simp only [hline]
  cases watched with
  | true => exact List.map_eq_flatMap.symm
  | false => exact List.flatMap_eq_nil_iff.mpr fun _ _ => rfl

theorem filterMap_record?_diceEvents (faces : List Int) :
    (t.diceEvents watched faces).filterMap Event.record? =
      (faces.mapIdx (t.dieRecords faces)).flatten := by
  have hprotocol : faces.mapIdx (t.dieRecords faces) = (dieLines faces).map fun l =>
      (dieEvents (.text t.label) (.int t.sides) watched l).filterMap Event.record? := by
    rw [← mapIdx_eq_map_dieLines]
    cases watched <;> rfl
  rw [diceEvents, List.filterMap_flatMap, hprotocol, ← List.flatMap_def]

theorem steps_sign (faces : List Int) :
    t.modifier.sign.steps (toString t.modifier.value) (toString (t.totalOf faces)) =
      t.modifierSteps faces := by
  unfold modifierSteps
  cases t.modifier <;> rfl

theorem filterMap_line?_finalEvents (faces : List Int) :
    (t.finalEvents watched (t.totalOf faces) (toString (t.totalOf faces))).filterMap Event.line? =
      if watched then t.modifierSteps faces ++ [t.conclusion faces] else [] := by
  rw [finalEvents, closingEvents, List.filterMap_append, List.filterMap_append,
    List.filterMap_flatMap, steps_sign, filterMap_line?_stepEvents]
  simp only [filterMap_line?_stepEvents]
  cases watched with
  | true =>
    simp only [if_pos, ← List.map_eq_flatMap, List.map_id']
    exact List.append_nil _
  | false =>
    have hsilent : (t.modifierSteps faces).flatMap (fun _ => ([] : List String)) = [] :=
      List.flatMap_eq_nil_iff.mpr fun _ _ => rfl
    simp only [Bool.false_eq_true, ↓reduceIte, hsilent]
    rfl

theorem filterMap_record?_finalEvents (faces : List Int) :
    (t.finalEvents watched (t.totalOf faces) (toString (t.totalOf faces))).filterMap
      Event.record? = (t.modifierSteps faces).map (t.stepRecord · []) ++
        [t.stepRecord (t.conclusion faces) [("total", .int (t.totalOf faces))]] := by
  rw [finalEvents, closingEvents, List.filterMap_append, List.filterMap_append,
    List.filterMap_flatMap, steps_sign, filterMap_record?_stepEvents]
  simp only [filterMap_record?_stepEvents, ← List.map_eq_flatMap]
  exact List.append_nil _

theorem announcement?_eq {line : String} (h : t.announcement? = some line) :
    line = t.announcement := by
  unfold announcement? at h
  obtain ⟨value, hvalue, h⟩ := Option.bind_eq_some_iff.mp h
  obtain ⟨dice, hdice, h⟩ := Option.bind_eq_some_iff.mp h
  obtain ⟨sides, hsides, h⟩ := Option.bind_eq_some_iff.mp h
  cases h
  rw [Text.eq_of_write? hvalue, Text.eq_of_write? hdice, Text.eq_of_write? hsides]
  unfold announcement announce
  cases t.modifier <;> rfl

theorem events_of_finished {s : Source} {o : Outcome}
    (h : (t.evaluate watched s).1.result = .ok o) :
    o = t.outcomeOf o.faces ∧ (t.evaluate watched s).1.events =
      stepEvents (.text t.label) watched t.announcement [] ++ (t.diceEvents watched o.faces ++
        t.finalEvents watched (t.totalOf o.faces) (toString (t.totalOf o.faces))) := by
  unfold evaluate at h ⊢
  cases hannounce : t.announcement? with
  | none =>
    rw [hannounce] at h
    cases h
  | some line =>
    obtain rfl := t.announcement?_eq hannounce
    simp only [hannounce, tell_eq] at h ⊢
    cases hstopped : (rollDice t.sides t.dieCount s).stopped with
    | some fault =>
      rw [hstopped] at h
      cases h
    | none =>
      simp only [hstopped] at h ⊢
      unfold finish at h ⊢
      cases hwritten : Text.write? (t.totalOf (rollDice t.sides t.dieCount s).faces) with
      | none =>
        simp only [hwritten] at h
        cases h
      | some written =>
        simp only [hwritten] at h ⊢
        cases h
        rw [Text.eq_of_write? hwritten]
        exact ⟨rfl, rfl⟩

/-- What has been read goes by the text that it was read from, and that it was read is the only
record of it. -/
theorem events_of_parse {text : String} {limits : Limits}
    (h : (parse (.text text) limits).result = .ok t) :
    (parse (.text text) limits).events = [.logged (parsedRecord t)] ∧ t.label = text := by
  unfold parse at h ⊢
  dsimp only at h ⊢
  cases hblocks : Blocks.read? (Text.dropBlanks text.toList) with
  | none =>
    rw [hblocks] at h
    cases h
  | some b =>
    simp only [hblocks] at h ⊢
    rcases ofBlocks_cases b limits text with
      ⟨_, _, _, _, -, hfault, -⟩ | ⟨n, s, sign, v, -, -, -, hmade⟩
    · rw [hfault] at h
      cases h
    · rw [hmade] at h ⊢
      cases hmake : make n s sign v text with
      | error e =>
        rw [hmake] at h
        cases h
      | ok t' =>
        rw [hmake] at h
        cases h
        obtain ⟨-, -, hlabel, -⟩ := eq_of_make hmake
        exact ⟨rfl, hlabel⟩

theorem reaches_debug (faces : List Int) :
    ∀ r ∈ t.protocol faces, r.reaches .debug = true := by
  have hstep : ∀ line values, (t.stepRecord line values).reaches .debug = true := fun _ _ => rfl
  have hdie : ∀ r ∈ (faces.mapIdx (t.dieRecords faces)).flatten, r.reaches .debug = true := by
    intro r hr
    obtain ⟨l, hl, hr⟩ := List.mem_flatten.mp hr
    obtain ⟨i, hi, rfl⟩ := List.mem_mapIdx.mp hl
    simp only [dieRecords, List.mem_cons, List.not_mem_nil, or_false] at hr
    rcases hr with rfl | rfl
    · rfl
    · exact hstep _ _
  intro r hr
  simp only [protocol, List.mem_append, List.mem_cons, List.not_mem_nil, or_false,
    List.mem_map] at hr
  rcases hr with (((rfl | rfl | rfl) | hr) | ⟨line, -, rfl⟩) | rfl | rfl
  · rfl
  · rfl
  · exact hstep _ _
  · exact hdie r hr
  · exact hstep _ _
  · exact hstep _ _
  · rfl

end Throw

end

/-! ## Throws from a text

The events of reading and of the account are put around those of the throw. None of the former is
shown, and the label of the throw is the text, so that both speak of the same thing. -/

section

variable {text : String} {limits : Limits} {t : Throw} (watched : Bool) {s : Source}

/-- A throw that has been read ends with an outcome, if its source has the draws and no number is
too large for it. -/
theorem exists_outcome (hread : (Throw.parse (.text text) limits).result = .ok t)
    (hsides : (Double.ofInt? t.sides).isSome)
    (hwritten : (Text.write? ((t.dieCount * t.sides + t.modifier.value : Nat) : Int)).isSome)
    {draws : List Draw} {rest : Source} (hdraws : s.take? t.dieCount = some (draws, rest))
    (hunit : ∀ d ∈ draws, d.InUnit) :
    ∃ o, (evaluateText watched (.text text) limits s).1.result = .ok o ∧
      ShowsOn t.sides draws o.faces := by
  obtain ⟨faces, hfaces, hrange⟩ := exists_faces t.sides_pos hsides hunit
  have hroll : rollDice t.sides t.dieCount s = ⟨faces, none, rest⟩ :=
    rollDice_of_take? hdraws hfaces
  have hlength : faces.length = t.dieCount := by
    rw [← hfaces.length_eq, Source.length_of_take? hdraws]
  have hprintable : t.IsPrintable faces := fun k hk =>
    Text.isSome_write?_of_le (by
      rw [Int.natAbs_natCast]
      exact Throw.natAbs_le_of_mem_printed (Nat.le_of_eq hlength) hrange k hk) hwritten
  rw [result_of_parse watched s hread]
  rcases t.evaluate_cases watched s with ⟨fault, -, -, hfault⟩ | ⟨-, hok, -⟩
  · rw [hroll] at hfault
    rcases hfault with ⟨hlong, -⟩ | hstopped
    · exact absurd hprintable hlong
    · cases hstopped
  · rw [hroll] at hok
    exact ⟨t.outcomeOf faces, hok, hfaces⟩

theorem events_of_evaluateText (hread : (Throw.parse (.text text) limits).result = .ok t)
    {o : Outcome} (h : (evaluateText watched (.text text) limits s).1.result = .ok o) :
    o = t.outcomeOf o.faces ∧ (evaluateText watched (.text text) limits s).1.events =
      openingEvents watched (.text t.label) ++ ([.logged (Throw.parsedRecord t)] ++
        (stepEvents (.text t.label) watched t.announcement [] ++ (t.diceEvents watched o.faces ++
          t.finalEvents watched (t.totalOf o.faces) (toString (t.totalOf o.faces))))) ++
        successEvents (.text t.label) o := by
  obtain ⟨hparsed, hlabel⟩ := t.events_of_parse hread
  rw [result_of_parse watched s hread] at h
  obtain ⟨ho, hevents⟩ := t.events_of_finished watched h
  refine ⟨ho, ?_⟩
  rw [evaluateText_of_parse watched s hread]
  dsimp only
  rw [hparsed, hevents, h, hlabel]
  rfl

/-- A finished throw shows its story and writes its protocol. -/
theorem told_of_evaluateText (hread : (Throw.parse (.text text) limits).result = .ok t)
    {o : Outcome} (h : (evaluateText watched (.text text) limits s).1.result = .ok o) :
    (evaluateText watched (.text text) limits s).1.steps =
      (if watched then t.story o.faces else []) ∧
    (evaluateText watched (.text text) limits s).1.records = t.protocol o.faces := by
  obtain ⟨hout, hevents⟩ := events_of_evaluateText watched hread h
  -- The outcome is that of its faces, so these can take its place.
  obtain ⟨faces, rfl⟩ : ∃ faces, o = t.outcomeOf faces := ⟨o.faces, hout⟩
  constructor
  · rw [Run.steps, hevents]
    simp only [List.filterMap_append, Throw.filterMap_line?_diceEvents,
      Throw.filterMap_line?_finalEvents, filterMap_line?_stepEvents]
    cases watched with
    | true =>
      simp only [if_pos, Throw.story, List.append_assoc]
      rfl
    | false => rfl
  · rw [Run.records, hevents]
    simp only [List.filterMap_append, Throw.filterMap_record?_diceEvents,
      Throw.filterMap_record?_finalEvents, filterMap_record?_stepEvents]
    have hopening : (openingEvents watched (.text t.label)).filterMap Event.record? =
        [⟨.debug, "rules.dice.evaluate.start", [("notation", .text t.label)]⟩] := by
      cases watched <;> rfl
    rw [hopening]
    simp only [Throw.protocol, List.append_assoc]
    rfl

/-- **A finished throw tells the same in its steps, its records and its messages.** Its steps are
its story, if anybody watches, and its records its protocol, whether or not anybody does; a log at
the lowest of all thresholds keeps every one of these. Its messages are its transcript. As to these
three lists, the steps in the protocol are those of the story after its first, and the last of them
is the last message. A throw that has been read is finished whenever its source has the draws for
it, unless it is too large. -/
theorem evaluateText_tells (hread : (Throw.parse (.text text) limits).result = .ok t) :
    let thrown := (evaluateText watched (.text text) limits s).1
    (∀ o, thrown.result = .ok o →
      o.thrown = t ∧ o.faces.length = t.dieCount ∧ o.total = o.faces.sum + t.modifier.amount ∧
      thrown.steps = (if watched then t.story o.faces else []) ∧
      thrown.records = t.protocol o.faces ∧
      (∀ setup : Log.Setup, setup.root = .debug → setup.fileThreshold? = some .debug →
        setup.written thrown.records = some (t.protocol o.faces)) ∧
      o.messages = Throw.transcript t.modifier.sign t.modifier.value text o.faces o.total ∧
      (t.story o.faces).getLast? = o.messages.getLast?) ∧
    (∀ faces,
      (t.story faces).length = faces.length + 3 + (if t.modifier.isPresent then 1 else 0) ∧
      (t.protocol faces).filterMap Throw.detail? = (t.story faces).tail.map .text) ∧
    ((Double.ofInt? t.sides).isSome →
      (Text.write? ((t.dieCount * t.sides + t.modifier.value : Nat) : Int)).isSome →
      ∀ draws rest, s.take? t.dieCount = some (draws, rest) → (∀ d ∈ draws, d.InUnit) →
        ∃ o, thrown.result = .ok o ∧ ShowsOn t.sides draws o.faces) := by
  intro thrown
  refine ⟨fun o ho => ?_, fun faces => ⟨t.length_story faces, t.filterMap_detail?_protocol faces⟩,
    fun hsides hwritten draws rest => exists_outcome watched hread hsides hwritten⟩
  obtain ⟨hout, -⟩ := events_of_evaluateText watched hread ho
  obtain ⟨hsteps, hrecords⟩ := told_of_evaluateText watched hread ho
  obtain ⟨-, hlabel⟩ := t.events_of_parse hread
  have hlength : o.faces.length = t.dieCount := by
    obtain ⟨-, hfaces, hstopped⟩ := parse_of_evaluateText watched s ho
    rw [hout] at hfaces hstopped
    rw [hout, hfaces]
    exact length_rollDice hstopped
  have hmessages : o.messages =
      Throw.transcript t.modifier.sign t.modifier.value text o.faces o.total := by
    rw [hout, ← hlabel]
    exact t.messages_eq_transcript o.faces (t.totalOf o.faces)
  refine ⟨by rw [hout]; rfl, hlength, by rw [hout]; rfl, hsteps, hrecords,
    fun setup hroot hfile => ?_, hmessages, ?_⟩
  · have hkept : (t.protocol o.faces).filter
        (fun r => r.reaches setup.root && r.reaches .debug) = t.protocol o.faces := by
      rw [List.filter_eq_self]
      intro r hr
      rw [hroot, t.reaches_debug o.faces r hr]
      rfl
    rw [Log.Setup.written, hrecords, hfile]
    exact congrArg some hkept
  · have htotal : o.total = t.totalOf o.faces := by rw [hout]; rfl
    rw [t.getLast?_story, hmessages, ← hlabel, htotal, t.getLast?_transcript]

/-- Two dice and a modifier that is there and zero: a watcher sees six steps. -/
theorem evaluateText_tells_two_dice :
    let s : Source := .scripted [.ok (.fraction 0), .ok (.fraction (2 ^ 52))]
    let thrown := (evaluateText true (.text "2d6-0") {} s).1
    ∃ o, thrown.result = .ok o ∧ o.faces = [1, 4] ∧
      thrown.steps = ["Throwing dice from string 2d6-0",
        "Going to throw 2 dice with 6 sides each and then doing -0",
        "Die 1 gave 1, total is now 1", "Die 2 gave 4, total is now 5",
        "Subtracted 0, total is now 5", "Final result for throw 2d6-0: 5"] ∧
      thrown.records.map Log.Record.event = ["rules.dice.evaluate.start", "rules.notation.parsed",
        "rules.dice.evaluate.step", "rules.dice.roll", "rules.dice.evaluate.step",
        "rules.dice.roll", "rules.dice.evaluate.step", "rules.dice.evaluate.step",
        "rules.dice.evaluate.step", "rules.dice.evaluate.result"] := by
  intro s thrown
  let t : Throw := ⟨2, 6, .minus 0, "2d6-0", by decide, by decide⟩
  have hread : (Throw.parse (.text "2d6-0") {}).result = .ok t :=
    eq_ok_of_toOption (by decide +kernel)
  obtain ⟨htold, -, hends⟩ := evaluateText_tells true (s := s) hread
  have hsides : (Double.ofInt? t.sides).isSome := by decide
  have hwritten : (Text.write? ((t.dieCount * t.sides + t.modifier.value : Nat) : Int)).isSome := by
    have hshort : Text.IsShort 12 := by decide
    exact Option.isSome_iff_exists.mpr ⟨_, hshort.write?_eq⟩
  have hdraws : s.take? 2 = some ([.fraction 0, .fraction (2 ^ 52)], .scripted []) := rfl
  have hunit : ∀ d ∈ [Draw.fraction 0, .fraction (2 ^ 52)], d.InUnit := by
    have hall : ∀ k ∈ [0, 2 ^ 52], k < Draw.denominator := by decide
    exact fun d hd => Source.inUnit_fractions hall d (List.mem_map_of_mem hd)
  obtain ⟨o, ho, hfaces⟩ := hends hsides hwritten _ _ hdraws hunit
  have heq : o.faces = [1, 4] := hfaces.eq_of_toOption (by decide +kernel)
  obtain ⟨-, -, -, hsteps, hrecords, -⟩ := htold o ho
  refine ⟨o, ho, heq, ?_, ?_⟩
  · rw [hsteps, heq, if_pos rfl]
    decide +kernel
  · rw [hrecords, heq]
    rfl

end

end Dicebox
