import AmqpBus.Interaction
import Mathlib.Data.List.Forall2
import Mathlib.Tactic.Common

/-!
# Courses of a program

A course of a program is the list of its questions, each with a reply, that lead from the
beginning of the program to its end.  The relation `Course` lets every reply be anything
of its type, so what holds of all courses of a program holds whatever its surroundings
do.  A run is the course in which the replies come from a state.
-/

namespace AmqpBus.Interaction

variable {Q : Type} {A : Q → Type} {α β : Type}

/-- A question with a reply to it. -/
structure Turn (Q : Type) (A : Q → Type) where
  question : Q
  reply : A question

/-- The turns are those of a program, in order, when it ends with a value. -/
inductive Course : Interaction Q A α → List (Turn Q A) → α → Prop
  | done {value : α} : Course (.done value) [] value
  | ask {question : Q} {reply : A question} {next : A question → Interaction Q A α}
      {turns : List (Turn Q A)} {value : α} :
      Course (next reply) turns value →
      Course (.ask question next) (⟨question, reply⟩ :: turns) value

/-! ### Courses of composed programs -/

@[simp]
theorem course_pure_iff {value result : α} {turns : List (Turn Q A)} :
  Course (pure value) turns result ↔ turns = [] ∧ result = value
  := by
  constructor
  · rintro ⟨⟩
    simp
  · rintro ⟨rfl, rfl⟩
    apply Course.done

theorem course_ask_iff {question : Q} {next : A question → Interaction Q A α}
    {turns : List (Turn Q A)} {value : α} :
  Course (.ask question next) turns value
    ↔ ∃ reply rest, turns = ⟨question, reply⟩ :: rest ∧ Course (next reply) rest value
  := by
  constructor
  · intro h
    cases h with
    | ask hrest => exact ⟨_, _, rfl, hrest⟩
  · rintro ⟨reply, rest, rfl, h⟩
    apply Course.ask h

@[simp]
theorem course_request_iff {question : Q} {turns : List (Turn Q A)} {reply : A question} :
  Course (request question) turns reply ↔ turns = [⟨question, reply⟩]
  := by
  rw [request, course_ask_iff]
  constructor
  · rintro ⟨given, rest, rfl, ⟨⟩⟩
    rfl
  · rintro rfl
    use reply, [], rfl
    apply Course.done

/-- The courses of two programs one after the other are those of the first followed by
those of the second. -/
@[simp]
theorem course_bind_iff {program : Interaction Q A α} {next : α → Interaction Q A β}
    {turns : List (Turn Q A)} {result : β} :
  Course (program >>= next) turns result
    ↔ ∃ first value second, Course program first value ∧ Course (next value) second result
        ∧ turns = first ++ second
  := by
  constructor
  · intro h
    induction program generalizing turns with
    | done value =>
        use [], value, turns, Course.done, h
        rfl
    | ask question more ih =>
        obtain ⟨reply, rest, rfl, hrest⟩ := course_ask_iff.mp h
        obtain ⟨first, value, second, hfirst, hsecond, rfl⟩ := ih reply hrest
        use ⟨question, reply⟩ :: first, value, second, Course.ask hfirst, hsecond
        rfl
  · rintro ⟨first, value, second, hfirst, hsecond, rfl⟩
    induction hfirst with
    | done => apply hsecond
    | ask _ ih => apply Course.ask (ih hsecond)

/-! ### Programs in order -/

section InOrder

variable {ε : Type}

/-- Programs are gone through in order, up to the first that fails: what is asked is what
each of them asks, and the result is that of the last one. -/
inductive UpToFailure : List (Interaction Q A (Except ε Unit)) → List (Turn Q A) →
    Except ε Unit → Prop
  /-- No program fails. -/
  | all {programs : List (Interaction Q A (Except ε Unit))} {segments : List (List (Turn Q A))}
      (h : List.Forall₂ (fun program turns => Course program turns (.ok ())) programs segments) :
    UpToFailure programs segments.flatten (.ok ())
  /-- The programs before one that fails do not fail, and those after it are not begun. -/
  | failed {before rest : List (Interaction Q A (Except ε Unit))}
      {failing : Interaction Q A (Except ε Unit)} {segments : List (List (Turn Q A))}
      {last : List (Turn Q A)} {error : ε}
      (h : List.Forall₂ (fun program turns => Course program turns (.ok ())) before segments)
      (hlast : Course failing last (.error error)) :
    UpToFailure (before ++ failing :: rest) (segments.flatten ++ last) (.error error)

/-- One more program before the others does not fail. -/
theorem UpToFailure.cons {program : Interaction Q A (Except ε Unit)}
    {programs : List (Interaction Q A (Except ε Unit))} {first turns : List (Turn Q A)}
    {result : Except ε Unit} (hfirst : Course program first (.ok ()))
    (h : UpToFailure programs turns result) :
  UpToFailure (program :: programs) (first ++ turns) result
  := by
  cases h with
  | @all _ segments h => apply UpToFailure.all (.cons hfirst h)
  | @failed before _ failing segments last error h hlast =>
      rw [← List.append_assoc, ← List.flatten_cons, ← List.cons_append]
      apply UpToFailure.failed (.cons hfirst h) hlast

/-- By induction on the programs. -/
theorem upToFailure_of_course {programs : List (Interaction Q A (Except ε Unit))}
    {turns : List (Turn Q A)} {result : Except ε Unit}
    (h : Course (inOrder programs) turns result) :
  UpToFailure programs turns result
  := by
  induction programs generalizing turns with
  | nil =>
      obtain ⟨rfl, rfl⟩ := course_pure_iff.mp h
      exact .all .nil
  | cons program programs ih =>
      obtain ⟨first, outcome, second, hfirst, hsecond, rfl⟩ := course_bind_iff.mp h
      cases outcome with
      | error error =>
          obtain ⟨rfl, rfl⟩ := course_pure_iff.mp hsecond
          rw [List.append_nil]
          exact .failed .nil hfirst
      | ok done => apply UpToFailure.cons hfirst (ih hsecond)

theorem course_inOrder_cons {program : Interaction Q A (Except ε Unit)}
    {programs : List (Interaction Q A (Except ε Unit))} {first turns : List (Turn Q A)}
    {result : Except ε Unit} (hfirst : Course program first (.ok ()))
    (h : Course (inOrder programs) turns result) :
  Course (inOrder (program :: programs)) (first ++ turns) result
  := course_bind_iff.mpr ⟨first, .ok (), turns, hfirst, h, rfl⟩

theorem UpToFailure.course {programs : List (Interaction Q A (Except ε Unit))}
    {turns : List (Turn Q A)} {result : Except ε Unit} (h : UpToFailure programs turns result) :
  Course (inOrder programs) turns result
  := by
  cases h with
  | all h =>
      induction h with
      | nil => apply Course.done
      | cons hfirst _ ih => apply course_inOrder_cons hfirst ih
  | @failed before rest failing segments last error h hlast =>
      induction h with
      | nil =>
          apply course_bind_iff.mpr
          exact ⟨last, .error error, [], hlast, .done, (List.append_nil last).symm⟩
      | cons hfirst _ ih =>
          rw [List.flatten_cons, List.append_assoc]
          apply course_inOrder_cons hfirst ih

/-- Where no program fails, all of them are gone through. -/
theorem UpToFailure.exists_segments {programs : List (Interaction Q A (Except ε Unit))}
    {turns : List (Turn Q A)} (h : UpToFailure programs turns (.ok ())) :
  ∃ segments,
    List.Forall₂ (fun program turns => Course program turns (.ok ())) programs segments
      ∧ turns = segments.flatten
  := by
  generalize hok : (Except.ok () : Except ε Unit) = result at h
  cases h with
  | @all _ segments h => use segments, h
  | failed _ _ => contradiction

theorem course_inOrder_iff {programs : List (Interaction Q A (Except ε Unit))}
    {turns : List (Turn Q A)} {result : Except ε Unit} :
  Course (inOrder programs) turns result ↔ UpToFailure programs turns result
  := ⟨upToFailure_of_course, UpToFailure.course⟩

end InOrder

/-! ### Runs -/

/-- The turns of a run. -/
def history {σ : Type} (reply : (question : Q) → σ → A question × σ) :
    Interaction Q A α → σ → List (Turn Q A)
  | .done _, _ => []
  | .ask question next, state =>
    let (answer, state) := reply question state
    ⟨question, answer⟩ :: (next answer).history reply state

theorem history_bind {σ : Type} (reply : (question : Q) → σ → A question × σ)
    (program : Interaction Q A α) (next : α → Interaction Q A β) (state : σ) :
  (program >>= next).history reply state
    = program.history reply state
        ++ (next (program.run reply state).1).history reply (program.run reply state).2
  := by
  induction program generalizing state with
  | done value => rfl
  | ask question more ih =>
      apply congrArg (List.cons _)
      apply ih

/-- A run is a course. -/
theorem course_history {σ : Type} (reply : (question : Q) → σ → A question × σ)
    (program : Interaction Q A α) (state : σ) :
  Course program (program.history reply state) (program.run reply state).1
  := by
  induction program generalizing state with
  | done value => apply Course.done
  | ask question next ih =>
      apply Course.ask
      apply ih

end AmqpBus.Interaction
