import AmqpBus.Proofs.Interruption
import AmqpBus.Proofs.Retry.Asking
import Mathlib.Logic.Function.Basic
import Mathlib.Logic.Relation

/-!
# Deliveries side by side

The deliveries of one subscription that are handled side by side.  Each goes through its own
operation, one request at a time and in any order with the others; what they share is the
permit of the subscription and its token.  A delivery that was not brought yet is one that
does not go on.

A delivery waits for the permit, is in hand until it has its answer, and gives the permit
back with it.  `Move` lists what it can do when it goes on, for processing that keeps to
terms, one of which is to leave the permit alone.
-/

namespace AmqpBus

open Interaction

variable {D H α : Type}

/-! ### How deliveries go on -/

/-- Whether a request may have a reply, given how many permits are free before and after
it. -/
inductive Request.Serves (cancelled : Bool) :
    (request : Request D H) → request.Reply → ℕ → ℕ → Prop
  | acquire {free : ℕ} : Serves cancelled .acquire true (free + 1) free
  | giveUp {free : ℕ} (h : cancelled) : Serves cancelled .acquire false free free
  | release {free : ℕ} : Serves cancelled .release () free (free + 1)
  | other {request : Request D H} {reply : request.Reply} {free : ℕ}
      (hrequest : ¬request.ConcernsPermit) (hreply : request.Allows cancelled reply) :
      Serves cancelled request reply free free

/-- Deliveries that are handled side by side: what each has left to do, how many permits are
free, and whether the token of the subscription is cancelled. -/
structure Traffic (ι D H : Type) where
  left : ι → Operation D H Answer
  free : ℕ
  cancelled : Bool

namespace Traffic

variable {ι : Type} [DecidableEq ι]

/-- A delivery goes on with a reply to its request. -/
inductive Moves (i : ι) : Traffic ι D H → Traffic ι D H → Prop
  | reply {traffic : Traffic ι D H} {request : Request D H}
      {next : request.Reply → Operation D H Answer} {reply : request.Reply} {free : ℕ}
      (hleft : traffic.left i = .ask request next)
      (hserves : request.Serves traffic.cancelled reply traffic.free free) :
      Moves i traffic ⟨Function.update traffic.left i (next reply), free, traffic.cancelled⟩

/-- One of the deliveries goes on, or the token is cancelled. -/
inductive Step : Traffic ι D H → Traffic ι D H → Prop
  | move {traffic later : Traffic ι D H} (i : ι) (h : Moves i traffic later) : Step traffic later
  | cancel {traffic : Traffic ι D H} : Step traffic { traffic with cancelled := true }

/-- What may become of deliveries. -/
def Leads : Traffic ι D H → Traffic ι D H → Prop := Relation.ReflTransGen Step

/-- The deliveries of a subscription before any of them goes on. -/
def start (processing : Processing D α) (messages : ι → Inbound) : Traffic ι D H where
  left i := processing.handle (messages i)
  free := 1
  cancelled := false

end Traffic

/-! ### Where a delivery stands -/

namespace Operation

/-- A delivery waits for the permit. -/
def Waits (operation : Operation D H Answer) : Prop :=
  ∃ next, operation = .ask .acquire next

/-- A delivery neither waits for the permit any more nor has its answer. -/
def InHand (operation : Operation D H Answer) : Prop :=
  ¬operation.Waits ∧ ∀ answer, operation ≠ .done answer

/-- The handler is run for a delivery. -/
def Dispatches (operation : Operation D H Answer) : Prop :=
  ∃ call next, operation = .ask (.dispatch call) next

/-- Gives the permit back, with an answer. -/
def giveBack (answer : Answer) : Operation D H Answer := do
  release
  return answer

end Operation

/-- Terms that processing keeps to: what it asks for, which is not the permit, and what it
answers, which may be that it was cancelled, with the replies that it counts on. -/
structure Terms (D H : Type) where
  allows : (request : Request D H) → request.Reply → Prop
  asks : Request D H → Prop
  ends : Answer → Prop
  not_concernsPermit : ∀ {request}, asks request → ¬request.ConcernsPermit
  ends_cancelled : ends (.failed .cancelled)

namespace Terms

/-- An operation keeps to terms. -/
def Kept (terms : Terms D H) (operation : Operation D H Answer) : Prop :=
  operation.Ensures terms.allows terms.asks terms.ends

/-- Terms count on all replies that there may be. -/
def Covers (terms : Terms D H) (cancelled : Bool) : Prop :=
  ∀ request reply, Request.Allows cancelled request reply → terms.allows request reply

end Terms

namespace Processing

open Operation

variable (processing : Processing D α) (message : Inbound) (terms : Terms D H)

theorem handle_eq :
  (processing.handle message : Operation D H Answer)
    = .ask .acquire fun (acquired : Bool) =>
        if acquired then processing.process message >>= giveBack else pure (.failed .cancelled)
  := rfl

/-- What a delivery has left to do: all of it, the rest of processing and then to give the
permit back, or nothing. -/
inductive Stage : Operation D H Answer → Prop
  | waiting : Stage (processing.handle message)
  | inHand {rest : Operation D H Answer} (h : terms.Kept rest) : Stage (rest >>= giveBack)
  | answered {answer : Answer} (h : terms.ends answer) : Stage (.done answer)

/-- What a delivery does when it goes on, with the number of permits that are free before and
after it. -/
inductive Move (cancelled : Bool) : Operation D H Answer → ℕ → Operation D H Answer → ℕ → Prop
  | takes {free : ℕ} :
      Move cancelled (processing.handle message) (free + 1)
        (processing.process message >>= giveBack) free
  | withdraws {free : ℕ} (hcancelled : cancelled) :
      Move cancelled (processing.handle message) free (.done (.failed .cancelled)) free
  | works {request : Request D H} {next : request.Reply → Operation D H Answer}
      {reply : request.Reply} {free : ℕ} (hasks : terms.asks request)
      (h : terms.Kept (next reply)) :
      Move cancelled (.ask request fun reply => next reply >>= giveBack) free
        (next reply >>= giveBack) free
  | returns {answer : Answer} {free : ℕ} (h : terms.ends answer) :
      Move cancelled (giveBack answer) free (.done answer) (free + 1)

variable {processing message terms}

theorem Stage.move {cancelled : Bool} (hcovers : terms.Covers cancelled) {request : Request D H}
    {next : request.Reply → Operation D H Answer}
    (h : Stage processing message terms (.ask request next)) {reply : request.Reply}
    {free later : ℕ} (hserves : request.Serves cancelled reply free later) :
  Move processing message terms cancelled (.ask request next) free (next reply) later
  := by
  generalize hleft : Interaction.ask request next = left at h
  cases h with
  | waiting =>
      rw [handle_eq] at hleft
      cases hleft
      cases hserves with
      | acquire => apply Move.takes
      | giveUp hcancelled => apply Move.withdraws hcancelled
      | other hrequest => apply absurd trivial hrequest
  | @inHand rest hrest =>
      -- What is asked next is for processing, unless nothing of it is left.
      cases rest with
      | done answer =>
          cases hleft
          cases hserves with
          | release => apply Move.returns hrest
          | other hrequest => apply absurd trivial hrequest
      | ask question more =>
          cases hleft
          obtain ⟨hasks, hmore⟩ := hrest
          cases hserves with
          | acquire => apply absurd trivial (terms.not_concernsPermit hasks)
          | giveUp hcancelled => apply absurd trivial (terms.not_concernsPermit hasks)
          | release => apply absurd trivial (terms.not_concernsPermit hasks)
          | other hrequest hreply =>
              apply Move.works hasks
              apply hmore _ (hcovers _ _ hreply)
  | answered => contradiction

theorem Move.stage {cancelled : Bool} (hprocess : terms.Kept (processing.process message))
    {before after : Operation D H Answer} {free later : ℕ}
    (h : Move processing message terms cancelled before free after later) :
  Stage processing message terms after
  := by
  cases h with
  | takes => apply Stage.inHand hprocess
  | withdraws => apply Stage.answered terms.ends_cancelled
  | works hasks h => apply Stage.inHand h
  | returns h => apply Stage.answered h

end Processing

namespace Operation

theorem waits_handle (processing : Processing D α) (message : Inbound) :
  (processing.handle message : Operation D H Answer).Waits
  := ⟨_, processing.handle_eq message⟩

theorem Waits.not_inHand {operation : Operation D H Answer} (h : operation.Waits) :
  ¬operation.InHand
  := fun hin => hin.1 h

theorem not_inHand_done (answer : Answer) :
  ¬InHand (.done answer : Operation D H Answer)
  := fun hin => hin.2 answer rfl

theorem not_waits_done (answer : Answer) :
  ¬Waits (.done answer : Operation D H Answer)
  := by
  rintro ⟨next, ⟨⟩⟩

theorem inHand_ask {request : Request D H} (hrequest : request ≠ .acquire)
    (next : request.Reply → Operation D H Answer) :
  InHand (.ask request next)
  := by
  constructor
  · rintro ⟨more, hmore⟩
    cases hmore
    contradiction
  · intro answer hanswer
    contradiction

theorem inHand_giveBack (answer : Answer) :
  (giveBack answer : Operation D H Answer).InHand
  := by
  apply inHand_ask
  rintro ⟨⟩

theorem Dispatches.inHand {operation : Operation D H Answer} (h : operation.Dispatches) :
  operation.InHand
  := by
  obtain ⟨call, next, rfl⟩ := h
  apply inHand_ask
  rintro ⟨⟩

/-- The rest of processing, and then giving the permit back. -/
theorem inHand_bind {terms : Terms D H} {rest : Operation D H Answer} (h : terms.Kept rest) :
  (rest >>= giveBack).InHand
  := by
  cases rest with
  | done answer => apply inHand_giveBack
  | ask request next =>
      apply inHand_ask
      rintro rfl
      apply terms.not_concernsPermit h.1 trivial

end Operation

namespace Processing.Stage

open Operation

variable {processing : Processing D α} {message : Inbound} {terms : Terms D H}
  {operation : Operation D H Answer}

theorem eq_handle (h : Stage processing message terms operation) (hwaits : operation.Waits) :
  operation = processing.handle message
  := by
  cases h with
  | waiting => rfl
  | inHand hrest => apply absurd hwaits (inHand_bind hrest).1
  | answered => apply absurd hwaits (not_waits_done _)

theorem ends_of_done {answer : Answer} (h : Stage processing message terms (.done answer)) :
  terms.ends answer
  := by
  generalize hdone : Interaction.done answer = operation at h
  cases h with
  | waiting => contradiction
  | @inHand rest hrest => cases rest <;> contradiction
  | answered hends =>
      cases hdone
      apply hends

theorem not_dispatches (h : Stage processing message terms operation)
    (hasks : ∀ call, ¬terms.asks (.dispatch call)) :
  ¬operation.Dispatches
  := by
  rintro ⟨call, next, hdispatch⟩
  cases h with
  | waiting => cases hdispatch
  | @inHand rest hrest =>
      cases rest with
      | done answer => cases hdispatch
      | ask request more =>
          cases hdispatch
          apply hasks call hrest.1
  | answered => contradiction

end Processing.Stage

namespace Traffic

open Operation Processing

variable {ι : Type} {processing : Processing D α} {messages : ι → Inbound}
  {traffic later : Traffic ι D H}

/-! ### One delivery goes on -/

section Moves

variable [DecidableEq ι] {i : ι}

theorem Moves.left_of_ne (h : Moves i traffic later) {j : ι} (hne : j ≠ i) :
  later.left j = traffic.left j
  := by
  obtain ⟨hleft, hserves⟩ := h
  apply Function.update_of_ne hne

theorem Moves.cancelled_eq (h : Moves i traffic later) :
  later.cancelled = traffic.cancelled
  := by
  obtain ⟨hleft, hserves⟩ := h
  rfl

theorem exists_moves {request : Request D H} {next : request.Reply → Operation D H Answer}
    {reply : request.Reply} {free : ℕ} (hleft : traffic.left i = .ask request next)
    (hserves : request.Serves traffic.cancelled reply traffic.free free) :
  ∃ later, Moves i traffic later ∧ later.left i = next reply ∧ later.free = free
    ∧ later.cancelled = traffic.cancelled
  := by
  refine ⟨_, Moves.reply hleft hserves, ?_, rfl, rfl⟩
  apply Function.update_self

theorem Moves.move {message : Inbound} {terms : Terms D H}
    (hcovers : terms.Covers traffic.cancelled)
    (hstage : Stage processing message terms (traffic.left i)) (h : Moves i traffic later) :
  Move processing message terms traffic.cancelled (traffic.left i) traffic.free
    (later.left i) later.free
  := by
  obtain ⟨hleft, hserves⟩ := h
  rw [hleft] at hstage
  simp only [hleft, Function.update_self]
  apply hstage.move hcovers hserves

end Moves

end Traffic

end AmqpBus
