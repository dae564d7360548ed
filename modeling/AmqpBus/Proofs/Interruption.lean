import AmqpBus.Proofs.Performance

/-!
# Interrupted courses

What may happen in a course of an operation whose token is cancelled at some moment.  The
moment parts the turns of the course into those that have begun by then and those that come
later.  It may fall between two turns or within one, so also between the turn in which the
token was found not to be cancelled and the turn that was waiting for that.
-/

namespace AmqpBus

open Interaction

variable {D H : Type}

/-! ### Requests and their replies -/

namespace Request

/-- Whether a reply may be given that has nothing to do with the permit: what waits is only
cut short when the token is cancelled. -/
def Allows (cancelled : Bool) : (request : Request D H) → request.Reply → Prop
  | .isCancelled, reply => reply = cancelled
  | .pause _, whole => whole = true ∨ cancelled
  | .publish _, outcome => outcome.isSome ∨ cancelled
  | _, _ => True

/-- Whether a request runs a handler or hands a message to the transport. -/
def Starts : Request D H → Prop
  | .dispatch _ => True
  | .publish _ => True
  | _ => False

/-- Whether a request only writes to the log. -/
def Notes : Request D H → Prop
  | .log _ => True
  | _ => False

/-- Whether a request only writes to the log or lets time pass. -/
def Idles : Request D H → Prop
  | .log _ => True
  | .pause _ => True
  | _ => False

theorem Notes.idles {request : Request D H} (h : request.Notes) :
  request.Idles
  := by
  cases request with
  | log entry => exact h
  | _ => contradiction

theorem Idles.not_starts {request : Request D H} (h : request.Idles) :
  ¬request.Starts
  := by
  cases request with
  | log entry => exact id
  | pause delay => exact id
  | _ => contradiction

theorem Notes.not_starts {request : Request D H} (h : request.Notes) :
  ¬request.Starts
  := h.idles.not_starts

theorem Notes.undisturbed {request : Request D H} (h : request.Notes) (reply : request.Reply) :
  request.Undisturbed reply
  := by
  cases request with
  | log entry => trivial
  | _ => contradiction

end Request

/-! ### The moment of the cancellation -/

/-- The turns of a course that have begun when the token is cancelled, and the later ones.
What is over by then is not disturbed.  The reply to what is under way may be any, as both
what it waits for and the cancellation may have come.  Later the token is cancelled. -/
inductive Interrupted :
    List (Turn (Request D H) Request.Reply) → List (Turn (Request D H) Request.Reply) → Prop
  | between {later : List (Turn (Request D H) Request.Reply)}
      (hlater : ∀ turn ∈ later, turn.question.Allows true turn.reply) : Interrupted [] later
  | during (turn : Turn (Request D H) Request.Reply)
      {later : List (Turn (Request D H) Request.Reply)}
      (hlater : ∀ turn ∈ later, turn.question.Allows true turn.reply) : Interrupted [turn] later
  | finished {turn : Turn (Request D H) Request.Reply}
      {begun later : List (Turn (Request D H) Request.Reply)}
      (hturn : turn.question.Undisturbed turn.reply) (h : Interrupted begun later) :
      Interrupted (turn :: begun) later

/-- What still begins when the token is cancelled right after it was found not to be: what
was waiting for that, with what is noted before. -/
inductive LetThrough (begun : List (Turn (Request D H) Request.Reply)) :
    List (Turn (Request D H) Request.Reply) → Prop
  | nothing : LetThrough begun []
  | checked {before notes notes' : List (Turn (Request D H) Request.Reply)}
      {turn : Turn (Request D H) Request.Reply}
      (hbegun : begun = before ++ ⟨.isCancelled, false⟩ :: notes)
      (hnotes : ∀ note ∈ notes, note.question.Notes)
      (hnotes' : ∀ note ∈ notes', note.question.Notes) (hstarts : turn.question.Starts) :
      LetThrough begun (notes' ++ [turn])

variable {first begun later turns through : List (Turn (Request D H) Request.Reply)}
  {turn : Turn (Request D H) Request.Reply}

namespace Interrupted

theorem allows (h : Interrupted begun later) :
  ∀ turn ∈ later, turn.question.Allows true turn.reply
  := by
  induction h with
  | between hlater => exact hlater
  | during _ hlater => exact hlater
  | finished _ _ ih => exact ih

/-- Turns with others after them that have begun are over. -/
theorem of_append (h : Interrupted (first ++ turn :: begun) later) :
  (∀ prior ∈ first, prior.question.Undisturbed prior.reply) ∧ Interrupted (turn :: begun) later
  := by
  induction first with
  | nil => exact ⟨by simp, h⟩
  | cons prior first ih =>
      rw [List.cons_append] at h
      generalize hrest : first ++ turn :: begun = rest at h
      cases h with
      | during => simp at hrest
      | finished hprior hrest' =>
          subst hrest
          obtain ⟨hfirst, hlast⟩ := ih hrest'
          exact ⟨List.forall_mem_cons.mpr ⟨hprior, hfirst⟩, hlast⟩

end Interrupted

/-- What is let through depends on the end of what has begun. -/
theorem LetThrough.append (h : LetThrough begun through)
    (first : List (Turn (Request D H) Request.Reply)) :
  LetThrough (first ++ begun) through
  := by
  cases h with
  | nothing => exact .nothing
  | @checked before notes _ _ hbegun hnotes hnotes' hstarts =>
      subst hbegun
      rw [← List.append_assoc]
      exact .checked rfl hnotes hnotes' hstarts

/-- Turns that part a list have begun with a first part of it, or part what comes after it. -/
theorem parted_cases {rest : List (Turn (Request D H) Request.Reply)}
    (h : first ++ rest = begun ++ later) :
  (∃ middle, first = begun ++ middle ∧ later = middle ++ rest)
    ∨ ∃ turn more, begun = first ++ turn :: more ∧ rest = turn :: more ++ later
  := by
  obtain ⟨middle, rfl, rfl⟩ | ⟨middle, rfl, rfl⟩ := List.append_eq_append_iff.mp h
  · cases middle with
    | nil =>
        left
        use []
        simp
    | cons turn more =>
        right
        use turn, more
  · left
    use middle

end AmqpBus
