import Dicebox.Session.Perform

/-!
# Sessions as lists of operations

Requests can be nested: a session may be a step of another one, and the records of any request may
be kept. All the same, what is done in the end is one operation after another, and the replies to
them are found in the reply to the whole, in the same order:

> **a request does its operations one by one** (`perform_eq_operations`).

This holds of requests in which every step is a request (`Request.isWhole`). A step that is none
takes the replies to its neighbours with it.
-/

set_option autoImplicit false

namespace Dicebox.Session

/-! ## One operation after another

The state is folded over the operations, and the replies come out along the way. Both are said of a
list of operations, so that two lists can be joined. -/

namespace State

/-- The state after an operation. -/
def after (s : State) (operation : Operation) : State := (performOperation s operation).state

/-- The state after operations. -/
def afterAll (s : State) (operations : List Operation) : State := operations.foldl after s

theorem afterAll_append (s : State) (a b : List Operation) :
    s.afterAll (a ++ b) = (s.afterAll a).afterAll b := List.foldl_append

end State

/-- The replies to operations, each given in the state that those before it have left. -/
def repliesTo : List Operation → State → List Reply
  | [], _ => []
  | operation :: rest, s =>
    (performOperation s operation).reply :: repliesTo rest (s.after operation)

theorem repliesTo_append (a b : List Operation) (s : State) :
    repliesTo (a ++ b) s = repliesTo a s ++ repliesTo b (s.afterAll a) := by
  induction a generalizing s with
  | nil => rfl
  | cons operation rest ih =>
    show _ :: repliesTo (rest ++ b) (s.after operation) = _
    rw [ih]
    rfl

/-! ## The parts of a request and of a reply

Requests and replies are trees, and each of these definitions goes through one of them from left to
right. A request that keeps records leaves no trace of it here: the records are in the reply, but
they are no reply to an operation. -/

mutual

/-- The operations of a request. One that keeps records, but cannot set up a log for them, comes to
a refusal. -/
def Request.operations : Request → List Operation
  | .single operation => [operation]
  | .session steps => operationsOf steps
  | .logged level file enabled action =>
    match (fileLog level file enabled).setUp, action.fault? with
    | .error fault, _ | .ok _, some fault => [.refused fault]
    | .ok _, none => action.operations
  | .broken fault => [.refused fault]

/-- The operations of requests. -/
def operationsOf : List Request → List Operation
  | [] => []
  | request :: rest => request.operations ++ operationsOf rest

end

mutual

/-- Whether all steps of all sessions in a request are requests. -/
def Request.isWhole : Request → Bool
  | .single _ | .broken _ => true
  | .session steps => areWhole steps
  | .logged _ _ _ action => action.isWhole

/-- Whether requests are whole, and none of them is broken. -/
def areWhole : List Request → Bool
  | [] => true
  | request :: rest => request.fault?.isNone && request.isWhole && areWhole rest

end

mutual

/-- The replies to operations that a reply is made of, from left to right. -/
def Reply.leaves : Reply → List Reply
  | .single answer steps sent counters => [.single answer steps sent counters]
  | .session results => leavesOf results
  | .logged result _ => result.leaves

/-- The replies to operations that some replies are made of. -/
def leavesOf : List Reply → List Reply
  | [] => []
  | reply :: rest => reply.leaves ++ leavesOf rest

end

/-! ## Replies to operations -/

/-- A reply that is not made of others. -/
def Reply.IsSingle (reply : Reply) : Prop := reply.leaves = [reply]

theorem isSingle_replyOutcome (how : Circumstances) (run : Run Draft.Thrown) (s : State) :
    (replyOutcome how run s).reply.IsSingle := rfl

theorem isSingle_throwOn (how : Circumstances) (throw : Source → Run Draft.Thrown × Source)
    (without : Fault → Run Draft.Thrown) (s : State) :
    (throwOn how throw without s).reply.IsSingle := by
  unfold throwOn
  cases runOn how throw without s with
  | error fault => rfl
  | ok done => rfl

theorem exists_throwDraft_eq (how : Circumstances) (d : Draft) :
    ∃ throw without, throwDraft how d = throwOn how throw without := by
  unfold throwDraft
  cases d.throw? with
  | none => exact ⟨_, _, rfl⟩
  | some t => exact ⟨_, _, rfl⟩

theorem throwText_cases (given : Option Datum) (limits : Datum) (how : Circumstances) :
    (∃ fault, throwText given limits how = replyOutcome how (.fail fault)) ∨
      ∃ throw without, throwText given limits how = throwOn how throw without := by
  unfold throwText
  cases given with
  | none => exact .inl ⟨_, rfl⟩
  | some given =>
    cases Limits.ofDatum limits with
    | error fault => exact .inl ⟨_, rfl⟩
    | ok limits => exact .inr ⟨_, _, rfl⟩

theorem isSingle_performOperation (s : State) (operation : Operation) :
    (performOperation s operation).reply.IsSingle := by
  cases operation with
  | evaluate figures how =>
    rw [performOperation]
    cases figures.toDraft with
    | error fault => rfl
    | ok d =>
      obtain ⟨throw, without, hthrow⟩ := exists_throwDraft_eq how d
      show (throwDraft how d s).reply.IsSingle
      rw [hthrow]
      exact isSingle_throwOn ..
  | throwText given limits how =>
    rw [performOperation]
    obtain ⟨fault, hthrow⟩ | ⟨throw, without, hthrow⟩ := throwText_cases given limits how
    · rw [hthrow]
      exact isSingle_replyOutcome ..
    · rw [hthrow]
      exact isSingle_throwOn ..
  | report given limits how =>
    rw [performOperation, reportOnText]
    split <;> rfl
  | roll sides source entropy =>
    rw [performOperation, rollOn]
    split
    · rfl
    · split <;> rfl
  | newSource name source entropy =>
    rw [performOperation]
    split <;> rfl
  | increment counter value =>
    rw [performOperation, performIncrement]
    split <;> rfl
  | observe histogram value bounds =>
    rw [performOperation, performObserve]
    split <;> rfl
  | command name inv =>
    rw [performOperation, performCommand]
    split <;> rfl
  | commandLine arguments place entropy =>
    rw [performOperation, performCommandLine]
    split <;> rfl
  | _ => rfl

/-! ## Requests -/

mutual

/-- A request does its operations one by one.

By the structure of the request, together with lists of requests. Sessions in sessions make no
difference, because the state is handed on through all of them. -/
theorem perform_eq_operations : ∀ (request : Request) (s : State), request.isWhole = true →
    (perform request s).reply.leaves = repliesTo request.operations s ∧
      (perform request s).state = s.afterAll request.operations
  | .single operation, s, _ => by
    rw [perform, Request.operations]
    exact ⟨isSingle_performOperation s operation, rfl⟩
  | .session steps, s, h => by
    obtain ⟨replies, hreplies, hleaves, hstate⟩ := performAll_eq_operations steps s h
    rw [perform, Request.operations]
    dsimp only
    rw [hreplies]
    exact ⟨hleaves, hstate⟩
  | .logged level file enabled action, s, h => by
    -- The log is set up first. Where that fails, or what is asked for is none, nothing is done.
    rw [perform, Request.operations]
    dsimp only
    cases (fileLog level file enabled).setUp with
    | error fault => exact ⟨rfl, rfl⟩
    | ok setup =>
      cases action.fault? with
      | some fault => exact ⟨rfl, rfl⟩
      | none => exact perform_eq_operations action s h
  | .broken fault, s, _ => by
    rw [perform, Request.operations]
    exact ⟨rfl, rfl⟩

theorem performAll_eq_operations : ∀ (steps : List Request) (s : State), areWhole steps = true →
    ∃ replies, (performAll steps s).1 = .ok replies ∧
      leavesOf replies = repliesTo (operationsOf steps) s ∧
      (performAll steps s).2.state = s.afterAll (operationsOf steps)
  | [], s, _ => ⟨[], by rw [performAll], rfl, by rw [performAll]; rfl⟩
  | request :: rest, s, h => by
    rw [areWhole, Bool.and_eq_true, Bool.and_eq_true, Option.isNone_iff_eq_none] at h
    obtain ⟨⟨hfault, hwhole⟩, hrest⟩ := h
    obtain ⟨hleaves, hstate⟩ := perform_eq_operations request s hwhole
    obtain ⟨replies, hreplies, hleavesRest, hstateRest⟩ :=
      performAll_eq_operations rest (perform request s).state hrest
    rw [performAll, hfault, operationsOf]
    refine ⟨(perform request s).reply :: replies, ?_, ?_, ?_⟩
    · dsimp only
      rw [hreplies]
      rfl
    · rw [leavesOf, hleaves, hleavesRest, repliesTo_append, hstate]
    · show (performAll rest (perform request s).state).2.state = _
      rw [hstateRest, hstate, State.afterAll_append]

end

end Dicebox.Session
