import AmqpBus.Proofs.Retry.Courses

/-!
# Processing that is cancelled

What processing does when its token is cancelled at some moment.  Nothing starts after the
moment but what the token was found not to stop right before.  Whether the answer says that
processing was cancelled depends on whether something was left to do, which can be told from
what had begun by then: another attempt, or the publication of a reject event.  Where nothing
was left to do, the answer is as it is without cancellation.

Every course of processing is made of stretches: a check of the token with what it lets
through, the waits between attempts, and notes at the end.  For each of them it is said what
happens when the moment falls into it, and the attempts are put together by induction.
-/

namespace AmqpBus

open Interaction Operation

variable {D H α : Type}

/-! ### Turns after the moment -/

/-- What happens in turns that all come after the moment: nothing starts, and the answer is that
processing was cancelled if something is left to do, and is not affected else. -/
structure Late (left : Prop) (turns : List (Turn (Request D H) Request.Reply))
    (answer : Answer) : Prop where
  starts_nothing : ∀ turn ∈ turns, ¬turn.question.Starts
  cancelled : left → answer = .failed .cancelled
  undisturbed : ¬left → ∀ turn ∈ turns, turn.question.Undisturbed turn.reply

/-- What happens in a course when the token is cancelled after the turns that have begun: some
turns are let through, and what follows them heeds the cancellation.  Whether something is
left to do is told by what has begun and what is let through. -/
structure Heeds (unfinished : List (Turn (Request D H) Request.Reply) → Prop)
    (begun through rest : List (Turn (Request D H) Request.Reply)) (answer : Answer) : Prop where
  letThrough : LetThrough begun through
  starts_nothing : ∀ turn ∈ rest, ¬turn.question.Starts
  cancelled : unfinished (begun ++ through) → answer = .failed .cancelled
  undisturbed : ¬unfinished (begun ++ through) →
    ∀ turn ∈ begun ++ through ++ rest, turn.question.Undisturbed turn.reply

/-- Whenever the token is cancelled in a course, the course heeds it. -/
def HeedsWhenever (unfinished : List (Turn (Request D H) Request.Reply) → Prop)
    (turns : List (Turn (Request D H) Request.Reply)) (answer : Answer) : Prop :=
  ∀ begun later, turns = begun ++ later → Interrupted begun later →
    ∃ through rest, later = through ++ rest ∧ Heeds unfinished begun through rest answer

section

variable {left : Prop} {unfinished : List (Turn (Request D H) Request.Reply) → Prop}
  {first begun later through rest turns notes : List (Turn (Request D H) Request.Reply)}
  {turn : Turn (Request D H) Request.Reply} {answer : Answer}

namespace Late

theorem stopped (hstarts : ∀ turn ∈ turns, ¬turn.question.Starts)
    (hanswer : answer = .failed .cancelled) (hleft : left) :
  Late left turns answer
  := by
  use hstarts, fun _ => hanswer
  intro hnothing
  contradiction

theorem of_notes (hnotes : ∀ turn ∈ turns, turn.question.Notes)
    (hanswer : left → answer = .failed .cancelled) :
  Late left turns answer
  := by
  use fun turn hturn => (hnotes turn hturn).not_starts, hanswer
  intro _ turn hturn
  apply (hnotes turn hturn).undisturbed

/-- The token is found to be cancelled. -/
theorem found (hnotes : ∀ turn ∈ notes, turn.question.Notes) (hleft : left) :
  Late left (⟨.isCancelled, true⟩ :: notes) (.failed .cancelled)
  := by
  refine stopped (List.forall_mem_cons.mpr ⟨id, ?_⟩) rfl hleft
  intro turn hturn
  apply (hnotes turn hturn).not_starts

/-- After the last attempt, when the token is cancelled before. -/
theorem of_closes (h : Closes (.failed .cancelled) left turns answer)
    (hallows : ∀ turn ∈ turns, turn.question.Allows true turn.reply) :
  Late left turns answer
  := by
  cases h with
  | idle hleft hnotes =>
      apply of_notes hnotes
      intro hsome
      contradiction
  | cancelled hleft hafter => exact found hafter hleft
  | published =>
      have hfound : false = true := hallows _ List.mem_cons_self
      contradiction

end Late

namespace Heeds

/-- What has begun is not disturbed where nothing is left to do, and all else comes late. -/
theorem of_late (hthrough : LetThrough begun through)
    (hturns : ¬unfinished (begun ++ through) →
      ∀ turn ∈ begun ++ through, turn.question.Undisturbed turn.reply)
    (h : Late (unfinished (begun ++ through)) rest answer) :
  Heeds unfinished begun through rest answer
  := by
  use hthrough, h.starts_nothing, h.cancelled
  intro hfinished
  exact List.forall_mem_append.mpr ⟨hturns hfinished, h.undisturbed hfinished⟩

/-- Something is left to do, and it is given up. -/
theorem stopped (hstarts : ∀ turn ∈ later, ¬turn.question.Starts)
    (hanswer : answer = .failed .cancelled) (hleft : unfinished begun) :
  Heeds unfinished begun [] later answer
  := by
  rw [← List.append_nil begun] at hleft
  apply of_late .nothing
  · intro hfinished
    contradiction
  · apply Late.stopped hstarts hanswer hleft

/-- Turns that are over before. -/
theorem after (hfirst : ∀ turn ∈ first, turn.question.Undisturbed turn.reply)
    (h : Heeds (fun turns => unfinished (first ++ turns)) begun through rest answer) :
  Heeds unfinished (first ++ begun) through rest answer
  := by
  use h.letThrough.append first, h.starts_nothing
  · rw [List.append_assoc]
    apply h.cancelled
  · rw [List.append_assoc, List.append_assoc]
    intro hfinished
    exact List.forall_mem_append.mpr ⟨hfirst, h.undisturbed hfinished⟩

end Heeds

namespace HeedsWhenever

/-- The token is found not to be cancelled, and something starts.  All that follows comes late
when the moment is before the end of what starts. -/
theorem of_check (hnotes : ∀ turn ∈ notes, turn.question.Notes)
    (hstarts : turn.question.Starts)
    (hturn : ¬unfinished (⟨.isCancelled, false⟩ :: (notes ++ [turn])) →
      turn.question.Undisturbed turn.reply)
    (hlate : (∀ turn ∈ turns, turn.question.Allows true turn.reply) →
      Late (unfinished (⟨.isCancelled, false⟩ :: (notes ++ [turn]))) turns answer)
    (h : HeedsWhenever
      (fun later => unfinished (⟨.isCancelled, false⟩ :: (notes ++ [turn]) ++ later)) turns
      answer) :
  HeedsWhenever unfinished (⟨.isCancelled, false⟩ :: (notes ++ [turn]) ++ turns) answer
  := by
  intro begun later hparted hinterrupted
  have hallows := hinterrupted.allows
  obtain ⟨middle, hbegun, rfl⟩ | ⟨next, more, rfl, rfl⟩ := parted_cases hparted
  swap
  · obtain ⟨hprior, hlast⟩ := hinterrupted.of_append
    obtain ⟨through, rest, rfl, hrest⟩ := h (next :: more) later rfl hlast
    exact ⟨through, rest, rfl, hrest.after hprior⟩
  use middle, turns, rfl
  apply Heeds.of_late
  · cases begun with
    | nil =>
        -- the check is before the moment, as it would be true otherwise
        subst hbegun
        have hfound : false = true := hallows _ List.mem_cons_self
        contradiction
    | cons check begun =>
        obtain ⟨rfl, hrest⟩ := List.cons.inj hbegun
        obtain ⟨notes', rfl, rfl⟩ | ⟨next, more, rfl, hlast⟩ := parted_cases hrest
        · obtain ⟨hnotes, hnotes'⟩ := List.forall_mem_append.mp hnotes
          exact .checked (List.nil_append _).symm hnotes hnotes' hstarts
        · obtain rfl : middle = [] := by
            have hlength := congrArg List.length hlast
            simp at hlength
            exact hlength.2
          exact .nothing
  · rw [← hbegun]
    intro hfinished
    refine List.forall_mem_cons.mpr ⟨rfl, List.forall_mem_append.mpr
      ⟨?_, List.forall_mem_singleton.mpr (hturn hfinished)⟩⟩
    intro note hnote
    apply (hnotes note hnote).undisturbed
  · rw [← hbegun]
    apply hlate
    intro turn hturn
    apply hallows turn (List.mem_append_right _ hturn)

/-- Turns that start nothing come before others in which something is left to do. -/
theorem of_waits (hfirst : ∀ turn ∈ first, ¬turn.question.Starts)
    (hunfinished : ∀ begun middle, first = begun ++ middle → unfinished begun)
    (hlate : (∀ turn ∈ turns, turn.question.Allows true turn.reply) →
      Late True turns answer)
    (h : HeedsWhenever (fun later => unfinished (first ++ later)) turns answer) :
  HeedsWhenever unfinished (first ++ turns) answer
  := by
  intro begun later hparted hinterrupted
  obtain ⟨middle, rfl, rfl⟩ | ⟨next, more, rfl, rfl⟩ := parted_cases hparted
  · obtain ⟨-, hmiddle⟩ := List.forall_mem_append.mp hfirst
    obtain ⟨-, hallows⟩ := List.forall_mem_append.mp hinterrupted.allows
    have hturns := hlate hallows
    use [], middle ++ turns, rfl
    apply Heeds.stopped
    · exact List.forall_mem_append.mpr ⟨hmiddle, hturns.starts_nothing⟩
    · apply hturns.cancelled trivial
    · apply hunfinished begun middle rfl
  · obtain ⟨hprior, hlast⟩ := hinterrupted.of_append
    obtain ⟨through, rest, rfl, hrest⟩ := h (next :: more) later rfl hlast
    exact ⟨through, rest, rfl, hrest.after hprior⟩

/-- Notes at the end change nothing, whatever is left to do. -/
theorem of_notes (left : Prop) (hnotes : ∀ turn ∈ turns, turn.question.Notes)
    (hunfinished : ∀ begun middle, turns = begun ++ middle → (unfinished begun ↔ left))
    (hanswer : left → answer = .failed .cancelled) :
  HeedsWhenever unfinished turns answer
  := by
  rintro begun later rfl -
  use [], later, rfl
  apply Heeds.of_late .nothing
  · intro _ turn hturn
    rw [List.append_nil] at hturn
    apply (hnotes turn (List.mem_append_left _ hturn)).undisturbed
  · rw [List.append_nil, hunfinished begun later rfl]
    apply Late.of_notes _ hanswer
    intro turn hturn
    apply hnotes turn (List.mem_append_right _ hturn)

end HeedsWhenever

end

namespace Processing

variable (processing : Processing D α)

/-! ### What is left to do -/

/-- Whether something is left to do once turns have begun, given how many attempts were made
before and whether something was left to do then.  After a dispatch that depends on its outcome.
A pause is before another attempt, and a publication that is cut short is unfinished.  A check of
the token that lets something through leaves it to that. -/
def Unfinished (message : Inbound) (payload : α) :
    ℕ → Prop → List (Turn (Request D H) Request.Reply) → Prop
  | _, left, [] => left
  | made, _, ⟨.isCancelled, found⟩ :: turns => Unfinished message payload made (found = true) turns
  | made, _, ⟨.dispatch _, outcome⟩ :: turns =>
    Unfinished message payload (made + 1) (processing.NeedsMore message payload (made + 1) outcome)
      turns
  | made, _, ⟨.pause _, _⟩ :: turns => Unfinished message payload made True turns
  | made, _, ⟨.publish _, outcome⟩ :: turns =>
    Unfinished message payload made (outcome = none) turns
  | made, left, _ :: turns => Unfinished message payload made left turns

variable {message : Inbound} {payload : α} {made : ℕ} {left : Prop}
  {turns notes : List (Turn (Request D H) Request.Reply)} {answer : Answer}

theorem unfinished_of_notes (hnotes : ∀ turn ∈ notes, turn.question.Notes) :
  processing.Unfinished message payload made left (notes ++ turns)
    ↔ processing.Unfinished message payload made left turns
  := by
  induction notes with
  | nil => rfl
  | cons note notes ih =>
      obtain ⟨hnote, hnotes⟩ := List.forall_mem_cons.mp hnotes
      rw [← ih hnotes]
      obtain ⟨request, reply⟩ := note
      cases request with
      | log entry => rfl
      | _ => contradiction

theorem unfinished_iff_of_notes (hnotes : ∀ turn ∈ notes, turn.question.Notes) :
  processing.Unfinished message payload made left notes ↔ left
  := by
  have hunfinished : processing.Unfinished message payload made left (notes ++ []) ↔ left :=
    processing.unfinished_of_notes hnotes
  rwa [List.append_nil] at hunfinished

theorem unfinished_of_idles {waits : List (Turn (Request D H) Request.Reply)}
    (hwaits : ∀ turn ∈ waits, turn.question.Idles) :
  processing.Unfinished message payload made True (waits ++ turns)
    ↔ processing.Unfinished message payload made True turns
  := by
  induction waits with
  | nil => rfl
  | cons wait waits ih =>
      obtain ⟨hwait, hwaits⟩ := List.forall_mem_cons.mp hwaits
      rw [← ih hwaits]
      obtain ⟨request, reply⟩ := wait
      cases request with
      | log entry => rfl
      | pause delay => rfl
      | _ => contradiction

/-- Something is left to do as long as one waits for it. -/
theorem unfinished_waits {waits : List (Turn (Request D H) Request.Reply)}
    (hwaits : ∀ turn ∈ waits, turn.question.Idles) :
  processing.Unfinished message payload made True waits
  := by
  rw [← List.append_nil waits, processing.unfinished_of_idles hwaits]
  trivial

/-! ### Stretches of a course -/

/-- The token is found to be cancelled. -/
theorem heedsWhenever_of_cancelled (hleft : left)
    (hnotes : ∀ turn ∈ notes, turn.question.Notes) :
  HeedsWhenever (processing.Unfinished message payload made left) (⟨.isCancelled, true⟩ :: notes)
    (.failed .cancelled)
  := by
  rw [← List.singleton_append]
  apply HeedsWhenever.of_waits
  · exact List.forall_mem_singleton.mpr id
  · intro begun middle hparted
    obtain ⟨rfl, -⟩ | ⟨rfl, -⟩ := List.append_eq_singleton_iff.mp hparted.symm
    · exact hleft
    · rfl
  · intro _
    apply Late.of_notes hnotes
    intro _
    rfl
  · apply HeedsWhenever.of_notes (true = true) hnotes
    · rintro begun middle rfl
      obtain ⟨hbegun, -⟩ := List.forall_mem_append.mp hnotes
      apply processing.unfinished_iff_of_notes hbegun
    · intro _
      rfl

/-- The token is not found to be cancelled, but the attempts cannot be counted any more. -/
theorem heedsWhenever_of_overflow :
  HeedsWhenever (processing.Unfinished message payload made left)
    ([⟨.isCancelled, false⟩] : List (Turn (Request D H) Request.Reply)) (.error .countOverflow)
  := by
  intro begun later hparted hinterrupted
  obtain ⟨rfl, rfl⟩ | ⟨rfl, rfl⟩ := List.append_eq_singleton_iff.mp hparted.symm
  · have hfound : false = true := hinterrupted.allows _ List.mem_cons_self
    contradiction
  · use [], [], rfl
    apply Heeds.of_late .nothing
    · intro _
      exact List.forall_mem_singleton.mpr rfl
    · apply Late.of_notes (by simp)
      intro hfound
      contradiction

/-- A wait is cut. -/
theorem heedsWhenever_of_cut {waits : List (Turn (Request D H) Request.Reply)}
    (hwaits : ∀ turn ∈ waits, turn.question.Idles) :
  HeedsWhenever (processing.Unfinished message payload made True) waits (.failed .cancelled)
  := by
  rintro begun later rfl -
  obtain ⟨hbegun, hlater⟩ := List.forall_mem_append.mp hwaits
  refine ⟨[], later, rfl, .stopped ?_ rfl (processing.unfinished_waits hbegun)⟩
  intro turn hturn
  apply (hlater turn hturn).not_starts

/-- After the last attempt. -/
theorem heedsWhenever_of_closes (h : Closes (.failed .cancelled) left turns answer) :
  HeedsWhenever (processing.Unfinished message payload made left) turns answer
  := by
  cases h with
  | idle hleft hnotes =>
      apply HeedsWhenever.of_notes left hnotes
      · rintro begun middle rfl
        obtain ⟨hbegun, -⟩ := List.forall_mem_append.mp hnotes
        apply processing.unfinished_iff_of_notes hbegun
      · intro hsome
        contradiction
  | cancelled hleft hafter => apply processing.heedsWhenever_of_cancelled hleft hafter
  | @published before after outbound outcome _ hleft hbefore hafter hcut =>
      have hstate (later : List (Turn (Request D H) Request.Reply)) :
          processing.Unfinished message payload made left
              (⟨.isCancelled, false⟩ :: (before ++ [⟨.publish outbound, outcome⟩]) ++ later)
            ↔ processing.Unfinished message payload made (outcome = none) later := by
        rw [List.cons_append, List.append_assoc]
        apply processing.unfinished_of_notes hbefore
      have hstate' : processing.Unfinished message payload made left
            (⟨.isCancelled, false⟩ :: (before ++ [⟨.publish outbound, outcome⟩]))
          ↔ outcome = none := by
        rw [← List.append_nil (_ :: _)]
        apply hstate []
      have hstarts : (Request.publish outbound : Request D H).Starts := trivial
      apply HeedsWhenever.of_check hbefore hstarts
      · rw [hstate']
        apply Option.ne_none_iff_isSome.mp
      · intro _
        rw [hstate']
        apply Late.of_notes hafter hcut
      · apply HeedsWhenever.of_notes (outcome = none) hafter _ hcut
        rintro begun middle rfl
        obtain ⟨hbegun, -⟩ := List.forall_mem_append.mp hafter
        rw [hstate, processing.unfinished_iff_of_notes hbegun]

/-! ### All attempts -/

/-- Once the token is cancelled, no attempt is made. -/
theorem Attempted.late (h : processing.Attempted message payload made turns answer)
    (hallows : ∀ turn ∈ turns, turn.question.Allows true turn.reply) :
  Late True turns answer
  := by
  cases h with
  | cancelled hafter =>
      exact Late.found hafter trivial
  | _ =>
      have hfound : false = true := hallows _ List.mem_cons_self
      contradiction

/-- An attempt, with what follows the outcome. -/
theorem heedsWhenever_of_dispatch {call : D} {outcome : Except HandlerError Unit}
    (hlate : (∀ turn ∈ turns, turn.question.Allows true turn.reply) →
      Late (processing.NeedsMore message payload (made + 1) outcome) turns answer)
    (h : HeedsWhenever (processing.Unfinished message payload (made + 1)
      (processing.NeedsMore message payload (made + 1) outcome)) turns answer) :
  HeedsWhenever (processing.Unfinished message payload made left)
    (⟨.isCancelled, false⟩ :: ⟨.dispatch call, outcome⟩ :: turns) answer
  := by
  have hnotes : ∀ turn ∈ ([] : List (Turn (Request D H) Request.Reply)), turn.question.Notes := by
    simp
  have hstarts : (Request.dispatch call : Request D H).Starts := trivial
  apply HeedsWhenever.of_check hnotes hstarts
  · intro _
    trivial
  · exact hlate
  · exact h

/-- By induction on the attempts. -/
theorem heedsWhenever_of_attempted
    (h : processing.Attempted message payload made turns answer) :
  HeedsWhenever (processing.Unfinished message payload made True) turns answer
  := by
  induction h with
  | cancelled hafter => apply processing.heedsWhenever_of_cancelled trivial hafter
  | overflow => apply processing.heedsWhenever_of_overflow
  | last h =>
      apply processing.heedsWhenever_of_dispatch
      · apply Late.of_closes h
      · apply processing.heedsWhenever_of_closes h
  | again hmore hwaits h ih =>
      have hidles := fun turn hturn => (hwaits turn hturn).1
      apply processing.heedsWhenever_of_dispatch
      · intro hallows
        obtain ⟨-, hallows⟩ := List.forall_mem_append.mp hallows
        have hlate := Attempted.late processing h hallows
        apply Late.stopped _ (hlate.cancelled trivial) hmore
        refine List.forall_mem_append.mpr ⟨?_, hlate.starts_nothing⟩
        intro turn hturn
        apply (hidles turn hturn).not_starts
      · rw [eq_true hmore]
        apply HeedsWhenever.of_waits
        · intro turn hturn
          apply (hidles turn hturn).not_starts
        · rintro begun middle rfl
          apply processing.unfinished_waits (List.forall_mem_append.mp hidles).1
        · apply Attempted.late processing h
        · simp only [processing.unfinished_of_idles hidles]
          exact ih
  | cut hmore hwaits =>
      have hstarts := fun turn hturn => (hwaits turn hturn).not_starts
      apply processing.heedsWhenever_of_dispatch
      · intro _
        exact Late.stopped hstarts rfl hmore
      · rw [eq_true hmore]
        apply processing.heedsWhenever_of_cut hwaits

/-! ### Processing a message -/

/-- Whenever the token is cancelled in a course of processing, no handler is run afterwards and
no message is handed to the transport, but for what the token was found not to stop right
before.  If the payload can be read and something is left to do, processing answers that it
was cancelled; otherwise the course is one of processing without cancellation, with the answer
that this has.  A payload that cannot be read is rejected in any case. -/
theorem answer_heeds_cancellation (processing : Processing D α) (message : Inbound)
    {begun later : List (Turn (Request D H) Request.Reply)} {answer : Answer}
    (hcourse : Course (processing.process message) (begun ++ later) answer)
    (hinterrupted : Interrupted begun later) :
  ∃ through rest, later = through ++ rest ∧ LetThrough begun through
    ∧ (∀ turn ∈ rest, ¬turn.question.Starts)
    ∧ (processing.format.decode? message.payload = none → answer = .ok .reject)
    ∧ ∀ payload, processing.format.decode? message.payload = some payload →
      (processing.Unfinished message payload 0 True (begun ++ through) →
        answer = .failed .cancelled)
      ∧ (¬processing.Unfinished message payload 0 True (begun ++ through) →
        ∀ left, ∃ supply,
          processing.processed H message supply = ⟨actsOf (begun ++ later), answer, left⟩)
  := by
  cases hpayload : processing.format.decode? message.payload with
  | none =>
      rw [processing.process_of_unreadable hpayload] at hcourse
      obtain ⟨hnotes, rfl⟩ := Quiet.noted _ _ _ answer hcourse
      refine ⟨[], later, rfl, .nothing, ?_, fun _ => rfl, fun payload hsome => ?_⟩
      · intro turn hturn
        apply (hnotes turn (List.mem_append_right _ hturn)).not_starts
      · contradiction
  | some payload =>
      have hattempted := processing.attempted_of_process hpayload hcourse
      obtain ⟨through, rest, rfl, h⟩ :=
        processing.heedsWhenever_of_attempted hattempted begun later rfl hinterrupted
      refine ⟨through, rest, rfl, h.letThrough, h.starts_nothing, fun hnone => ?_, ?_⟩
      · contradiction
      · rintro _ ⟨⟩
        use h.cancelled
        intro hfinished left
        apply exists_perform_eq hcourse
        rw [← List.append_assoc]
        apply h.undisturbed hfinished

/-- A tick is cancelled while its handler is run for the first time. -/
theorem answer_heeds_cancellation_of_late_tick :
  let begun : List (Turn (Request (Unit × Context) Empty) Request.Reply) :=
    [⟨.isCancelled, false⟩, ⟨.dispatch ((), (tick 0).context), .error (.failed "late")⟩]
  let later : List (Turn (Request (Unit × Context) Empty) Request.Reply) :=
    [⟨.log ⟨.warning, "error whiling handling msg, retrying"⟩, ()⟩,
      ⟨.pause (.ofSeconds 2), false⟩]
  ∃ answer, Course ((ticking .inProcess none).process (tick 0)) (begun ++ later) answer
    ∧ Interrupted begun later ∧ answer = .failed .cancelled
  := by
  intro begun later
  have hpayload : (ticking .inProcess none).format.decode? (tick 0).payload = some () := rfl
  have hgoes : (ticking .inProcess none).goesOn 1 (.error (.failed "late")) := rfl
  have hsequel : Course ((ticking .inProcess none).sequel (tick 0) 1 (.error (.failed "late")))
      later (.failed .cancelled) := by
    rw [sequel_of_goesOn _ hgoes]
    exact .ask (.ask .done)
  have hcourse : Course ((ticking .inProcess none).process (tick 0)) (begun ++ later)
      (.failed .cancelled) := by
    rw [process_eq_attempt _ hpayload]
    exact .ask (.ask hsequel)
  have hallows : ∀ turn ∈ later, turn.question.Allows true turn.reply :=
    List.forall_mem_cons.mpr ⟨trivial, List.forall_mem_singleton.mpr (.inr rfl)⟩
  have hinterrupted : Interrupted begun later := .finished rfl (.during _ hallows)
  obtain ⟨through, rest, hlater, -, -, -, hread⟩ :=
    answer_heeds_cancellation (ticking .inProcess none) (tick 0) hcourse hinterrupted
  obtain ⟨hcancelled, -⟩ := hread () rfl
  refine ⟨_, hcourse, hinterrupted, hcancelled ?_⟩
  -- the handler has failed within the budget, and what is let through only waits
  have hmore : (ticking .inProcess none).NeedsMore (tick 0) () 1 (.error (.failed "late")) :=
    needsMore_of_goesOn _ hgoes ..
  have hwaits : ∀ turn ∈ later, turn.question.Idles :=
    List.forall_mem_cons.mpr ⟨trivial, List.forall_mem_singleton.mpr trivial⟩
  rw [hlater] at hwaits
  change (ticking .inProcess none).Unfinished (tick 0) () 1 _ through
  rw [eq_true hmore]
  apply unfinished_waits _ (List.forall_mem_append.mp hwaits).1

/-- What the token was found not to stop is not stopped by a cancellation right after.  The
handler is run for a tick, and a reject event for a tick is handed to the transport, whose
result also counts when the token is cancelled while the event is in flight; either tick is
acknowledged. -/
theorem ack_of_cancelled_ticks :
  let processing := ticking .inProcess (some tickMissed)
  let call := ((), (tick 0).context)
  let refused : Except HandlerError Unit := .error (.rejected { message := "late" })
  let checked : List (Turn (Request (Unit × Context) Empty) Request.Reply) :=
    [⟨.isCancelled, false⟩]
  let handled : List (Turn (Request (Unit × Context) Empty) Request.Reply) :=
    [⟨.dispatch call, .ok ()⟩, ⟨.log ⟨.debug, "message successfully processed"⟩, ()⟩]
  let announced : List (Turn (Request (Unit × Context) Empty) Request.Reply) :=
    [⟨.isCancelled, false⟩, ⟨.dispatch call, refused⟩, ⟨.isCancelled, false⟩,
      ⟨.log ⟨.debug, "publishing message"⟩, ()⟩]
  let noted : List (Turn (Request (Unit × Context) Empty) Request.Reply) :=
    [⟨.log ⟨.debug, "compensation event published"⟩, ()⟩]
  (Course (processing.process (tick 0)) (checked ++ handled) (.ok .ack)
      ∧ Interrupted checked handled)
    ∧ ∃ message,
      let publishing : Turn (Request (Unit × Context) Empty) Request.Reply :=
        ⟨.publish message, some (.ok ())⟩
      Course (processing.process (tick 0)) (announced ++ publishing :: noted) (.ok .ack)
        ∧ Interrupted announced (publishing :: noted)
        ∧ Interrupted (announced ++ [publishing]) noted
  := by
  intro processing call refused checked handled announced noted
  have hpayload : processing.format.decode? (tick 0).payload = some () := rfl
  rw [process_eq_attempt _ hpayload]
  constructor
  · use course_history Supply.reply (processing.attempt (H := Empty) (tick 0) () 0) (.ofOutcomes [])
    have hhandled : ∀ turn ∈ handled, turn.question.Allows true turn.reply :=
      List.forall_mem_cons.mpr ⟨trivial, List.forall_mem_singleton.mpr trivial⟩
    exact .finished rfl (.between hhandled)
  · have hcourse :=
      course_history Supply.reply (processing.attempt (H := Empty) (tick 0) () 0)
        (.ofOutcomes [refused])
    have hnoted : ∀ turn ∈ noted, turn.question.Allows true turn.reply :=
      List.forall_mem_singleton.mpr trivial
    have hannounced (begun later : List (Turn (Request (Unit × Context) Empty) Request.Reply))
        (h : Interrupted begun later) : Interrupted (announced ++ begun) later :=
      .finished rfl (.finished trivial (.finished rfl (.finished trivial h)))
    refine ⟨_, hcourse, ?_, hannounced _ _ (.during _ hnoted)⟩
    apply hannounced [] _ (.between _)
    exact List.forall_mem_cons.mpr ⟨.inl rfl, hnoted⟩

end Processing

end AmqpBus
