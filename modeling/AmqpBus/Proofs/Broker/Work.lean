import AmqpBus.Broker.Work
import AmqpBus.Proofs.Course

/-!
# Deeds of work

What can be noticed of a course of work over a channel: the methods that the broker was
asked to carry out and the messages that the handler was asked about, each with the reply.
-/

namespace AmqpBus.Broker

open Interaction
open Amqp (Method)

/-- What can be noticed of work. -/
inductive Deed where
  | method (method : Method) (success : Bool)
  | handle (message : Inbound) (answer : Except BusError Acknowledgement)

namespace Deed

/-- Whether a deed asks the handler. -/
def asksHandler : Deed → Bool
  | .handle _ _ => true
  | _ => false

/-- Whether a deed asks the broker to settle deliveries. -/
def settles : Deed → Bool
  | .method (.ack _ _) _ => true
  | .method (.nack _ _ _) _ => true
  | _ => false

end Deed

/-- What can be noticed of a question and its reply. -/
def Question.deed? : (question : Question) → question.Reply → Option Deed
  | .method asked, success => some (.method asked success)
  | .handle message, answer => some (.handle message answer)
  | _, _ => none

/-- What can be noticed of turns. -/
def deedsOf (turns : List (Turn Question Question.Reply)) : List Deed :=
  turns.filterMap fun turn => turn.question.deed? turn.reply

/-- The deeds of turns after others come after the deeds of these. -/
@[simp]
theorem deedsOf_append (first second : List (Turn Question Question.Reply)) :
  deedsOf (first ++ second) = deedsOf first ++ deedsOf second
  := List.filterMap_append

/-- Every question to the handler is a deed. -/
theorem handle_mem_deedsOf {turns : List (Turn Question Question.Reply)} {message : Inbound}
    {answer : Except BusError Acknowledgement} (h : ⟨.handle message, answer⟩ ∈ turns) :
  .handle message answer ∈ deedsOf turns
  := List.mem_filterMap.mpr ⟨⟨.handle message, answer⟩, h, rfl⟩

/-- The deeds are those of a course of work that ends with a value. -/
def Does {α : Type} (work : Work α) (deeds : List Deed) (value : α) : Prop :=
  ∃ turns, Course work turns value ∧ deedsOf turns = deeds

/-! ### Deeds of composed work -/

section

variable {α β : Type} {deeds : List Deed}

@[simp]
theorem does_pure_iff {value result : α} :
  Does (pure value) deeds result ↔ deeds = [] ∧ result = value
  := by
  constructor
  · rintro ⟨turns, hcourse, rfl⟩
    obtain ⟨rfl, rfl⟩ := course_pure_iff.mp hcourse
    constructor <;> rfl
  · rintro ⟨rfl, rfl⟩
    exact ⟨[], course_pure_iff.mpr ⟨rfl, rfl⟩, rfl⟩

/-- The deeds of two pieces of work one after the other are those of the first followed by those
of the second. -/
@[simp]
theorem does_bind_iff {work : Work α} {next : α → Work β} {result : β} :
  Does (work >>= next) deeds result
    ↔ ∃ first value second, Does work first value ∧ Does (next value) second result
        ∧ deeds = first ++ second
  := by
  constructor
  · rintro ⟨turns, hcourse, rfl⟩
    obtain ⟨first, value, second, hfirst, hsecond, rfl⟩ := course_bind_iff.mp hcourse
    exact ⟨_, value, _, ⟨first, hfirst, rfl⟩, ⟨second, hsecond, rfl⟩, deedsOf_append _ _⟩
  · rintro ⟨_, value, _, ⟨first, hfirst, rfl⟩, ⟨second, hsecond, rfl⟩, rfl⟩
    refine ⟨first ++ second, ?_, deedsOf_append _ _⟩
    apply course_bind_iff.mpr
    use first, value, second, hfirst, hsecond

@[simp]
theorem does_map_iff {work : Work α} {f : α → β} {result : β} :
  Does (f <$> work) deeds result ↔ ∃ value, Does work deeds value ∧ result = f value
  := by
  rw [← bind_pure_comp, does_bind_iff]
  constructor
  · rintro ⟨first, value, second, hwork, hpure, rfl⟩
    obtain ⟨rfl, rfl⟩ := does_pure_iff.mp hpure
    use value
    rw [List.append_nil]
    use hwork
  · rintro ⟨value, hwork, rfl⟩
    use deeds, value, [], hwork
    simp

/-- A question is a deed if it can be noticed, and none else. -/
theorem does_ask_iff (question : Question) {reply : question.Reply} :
  Does question.ask deeds reply ↔ deeds = (question.deed? reply).toList
  := by
  have hdeeds : deedsOf [⟨question, reply⟩] = (question.deed? reply).toList := by
    rw [deedsOf, List.filterMap_cons]
    cases question.deed? reply <;> rfl
  constructor
  · rintro ⟨turns, hcourse, rfl⟩
    obtain rfl := course_request_iff.mp hcourse
    apply hdeeds
  · rintro rfl
    exact ⟨_, course_request_iff.mpr rfl, hdeeds⟩

@[simp]
theorem does_send_iff {method : Method} {success : Bool} :
  Does (Work.send method) deeds success ↔ deeds = [.method method success]
  := does_ask_iff (.method method)

@[simp]
theorem does_handle_iff {message : Inbound} {answer : Except BusError Acknowledgement} :
  Does (Work.handle message) deeds answer ↔ deeds = [.handle message answer]
  := does_ask_iff (.handle message)

@[simp]
theorem does_pause_iff {delay : Time.Duration} {reply : Unit} :
  Does (Work.pause delay) deeds reply ↔ deeds = []
  := does_ask_iff (.pause delay)

@[simp]
theorem does_newId_iff {id : Uuid} :
  Does Work.newId deeds id ↔ deeds = []
  := does_ask_iff .newId

@[simp]
theorem does_now_iff {moment : Time.Moment} :
  Does Work.now deeds moment ↔ deeds = []
  := does_ask_iff .now

@[simp]
theorem does_debug_iff {text : String} {reply : Unit} :
  Does (Work.debug text) deeds reply ↔ deeds = []
  := does_ask_iff (.log ⟨.debug, text⟩)

@[simp]
theorem does_warn_iff {text : String} {reply : Unit} :
  Does (Work.warn text) deeds reply ↔ deeds = []
  := does_ask_iff (.log ⟨.warning, text⟩)

@[simp]
theorem does_complain_iff {text : String} {reply : Unit} :
  Does (Work.complain text) deeds reply ↔ deeds = []
  := does_ask_iff (.log ⟨.error, text⟩)

/-- A complaint is no deed. -/
theorem does_complaint_iff {text : String} {value result : α} :
  Does (do Work.complain text; return value) deeds result ↔ deeds = [] ∧ result = value
  := by
  simp

end

end AmqpBus.Broker
