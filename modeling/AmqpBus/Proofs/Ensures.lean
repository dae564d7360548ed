import AmqpBus.Proofs.Course

/-!
# What a program ensures

A program ensures something of its questions and of its value if it does so whatever the
replies are, out of those that are allowed.  A course says what happened; what a program
ensures also holds of what it has left to do after some of its questions, so it can be
carried along when other programs go on in between.
-/

namespace AmqpBus.Interaction

variable {Q : Type} {A : Q → Type} {α β : Type} {allows : (question : Q) → A question → Prop}
  {asks : Q → Prop} {ends : α → Prop}

/-- With replies that are allowed, all questions and the value are as described. -/
def Ensures (allows : (question : Q) → A question → Prop) (asks : Q → Prop) (ends : α → Prop) :
    Interaction Q A α → Prop
  | .done value => ends value
  | .ask question next =>
    asks question ∧ ∀ reply, allows question reply → (next reply).Ensures allows asks ends

/-- A program goes on where the first part ends. -/
theorem ensures_bind_iff {program : Interaction Q A α} {next : α → Interaction Q A β}
    {ends : β → Prop} :
  Ensures allows asks ends (program >>= next)
    ↔ program.Ensures allows asks fun value => (next value).Ensures allows asks ends
  := by
  induction program with
  | done value => rfl
  | ask question more ih =>
      apply and_congr_right
      intro _
      apply forall_congr'
      intro reply
      apply imp_congr_right
      intro _
      apply ih

theorem Ensures.mono {program : Interaction Q A α} {weaker : α → Prop}
    (h : program.Ensures allows asks ends) (himp : ∀ value, ends value → weaker value) :
  program.Ensures allows asks weaker
  := by
  induction program with
  | done value => apply himp _ h
  | ask question next ih =>
      obtain ⟨hasks, hnext⟩ := h
      use hasks
      intro reply hreply
      apply ih _ (hnext reply hreply)

/-- What a program ensures holds of its courses in which every reply is allowed. -/
theorem Ensures.of_course {program : Interaction Q A α} (h : program.Ensures allows asks ends)
    {turns : List (Turn Q A)} {value : α} (hcourse : Course program turns value)
    (hallowed : ∀ turn ∈ turns, allows turn.question turn.reply) :
  (∀ turn ∈ turns, asks turn.question) ∧ ends value
  := by
  induction hcourse with
  | done => exact ⟨fun _ hturn => absurd hturn List.not_mem_nil, h⟩
  | ask _ ih =>
      obtain ⟨hasks, hnext⟩ := h
      obtain ⟨hreply, hallowed⟩ := List.forall_mem_cons.mp hallowed
      obtain ⟨hturns, hends⟩ := ih (hnext _ hreply) hallowed
      exact ⟨List.forall_mem_cons.mpr ⟨hasks, hturns⟩, hends⟩

/-! ### What a program asks -/

/-- With replies that are allowed, all questions are as described. -/
def Asks (allows : (question : Q) → A question → Prop) (asks : Q → Prop)
    (program : Interaction Q A α) : Prop :=
  program.Ensures allows asks fun _ => True

namespace Asks

theorem pure (value : α) :
  Asks allows asks (Pure.pure value : Interaction Q A α)
  := trivial

theorem request {question : Q} (h : asks question) :
  Asks allows asks (request question : Interaction Q A (A question))
  := ⟨h, fun _ _ => trivial⟩

theorem bind {program : Interaction Q A α} {next : α → Interaction Q A β}
    (h : program.Asks allows asks) (hnext : ∀ value, (next value).Asks allows asks) :
  (program >>= next).Asks allows asks
  := by
  apply ensures_bind_iff.mpr
  apply Ensures.mono h
  intro value _
  apply hnext

/-- What asks no more than is described asks no more than is described less closely. -/
theorem imp {program : Interaction Q A α} {others : Q → Prop} (h : program.Asks allows asks)
    (himp : ∀ question, asks question → others question) :
  program.Asks allows others
  := by
  induction program with
  | done value => trivial
  | ask question next ih =>
      obtain ⟨hasks, hnext⟩ := h
      use himp _ hasks
      intro reply hreply
      apply ih _ (hnext reply hreply)

theorem of_mem {program : Interaction Q A α} (h : program.Asks allows asks)
    {turns : List (Turn Q A)} {value : α} (hcourse : Course program turns value)
    (hallowed : ∀ turn ∈ turns, allows turn.question turn.reply) {turn : Turn Q A}
    (hmem : turn ∈ turns) :
  asks turn.question
  := (Ensures.of_course h hcourse hallowed).1 turn hmem

end Asks

end AmqpBus.Interaction
