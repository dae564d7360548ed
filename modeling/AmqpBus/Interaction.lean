/-!
# Interactions

A program that asks questions of its surroundings and ends with a value.  What it does
next is a function of the reply, so the program says nothing about how replies come
about: a test may script them, a runtime may wait for them, and other programs may go on
in between.
-/

namespace AmqpBus

/-- A program that asks questions `Q`, of which `q` is replied to with an `A q`, and ends
with an `α`. -/
inductive Interaction (Q : Type) (A : Q → Type) (α : Type) where
  | done (value : α)
  | ask (question : Q) (next : A question → Interaction Q A α)

namespace Interaction

variable {Q : Type} {A : Q → Type} {α β : Type}

/-- Goes on with another program where the first one ends. -/
def bind (program : Interaction Q A α) (next : α → Interaction Q A β) : Interaction Q A β :=
  match program with
  | .done value => next value
  | .ask question more => .ask question fun reply => (more reply).bind next

instance : Monad (Interaction Q A) where
  pure := .done
  bind := bind

/-- The program that asks one question and ends with the reply. -/
def request (question : Q) : Interaction Q A (A question) := .ask question .done

/-- Goes through programs in order, up to the first that fails. -/
def inOrder {ε : Type} :
    List (Interaction Q A (Except ε Unit)) → Interaction Q A (Except ε Unit)
  | [] => return .ok ()
  | program :: programs => do
    match ← program with
    | .error error => return .error error
    | .ok () => inOrder programs

/-- Runs a program with replies that depend on a state. -/
def run {σ : Type} (reply : (question : Q) → σ → A question × σ) :
    Interaction Q A α → σ → α × σ
  | .done value, state => (value, state)
  | .ask question next, state =>
    let (answer, state) := reply question state
    (next answer).run reply state

theorem bind_done (program : Interaction Q A α) :
  program.bind .done = program
  := by
  induction program with
  | done value => rfl
  | ask question next ih => simp [bind, ih]

theorem bind_bind {γ : Type} (program : Interaction Q A α) (next : α → Interaction Q A β)
    (last : β → Interaction Q A γ) :
  (program.bind next).bind last = program.bind fun value => (next value).bind last
  := by
  induction program with
  | done value => rfl
  | ask question next ih => simp [bind, ih]

instance : LawfulMonad (Interaction Q A) :=
  LawfulMonad.mk' _ bind_done (fun _ _ => rfl) bind_bind

/-- Running two programs one after the other is running the second one from where the
first one ends. -/
theorem run_bind {σ : Type} (reply : (question : Q) → σ → A question × σ)
    (program : Interaction Q A α) (next : α → Interaction Q A β) (state : σ) :
  (program.bind next).run reply state
    = (next (program.run reply state).1).run reply (program.run reply state).2
  := by
  induction program generalizing state with
  | done value => rfl
  | ask question more ih => exact ih _ _

end Interaction

end AmqpBus
