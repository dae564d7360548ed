import AmqpBus.Proofs.Retry.Outcome
import AmqpBus.Proofs.Retry.Traffic

/-!
# One message at a time

Of the deliveries of one subscription at most one is in hand, because the permit is either
free or with the delivery in hand, and this is kept whichever delivery goes on.  No delivery
keeps the permit for good: one in hand can come to its answer, and has given the permit back
by then.  A delivery whose token is cancelled while it waits may still get the permit, but
its handler is not run.
-/

namespace AmqpBus

open Interaction

variable {D H α : Type}

namespace Traffic

open Operation Processing

variable {ι : Type} {processing : Processing D α} {messages : ι → Inbound}
  {traffic later : Traffic ι D H}

/-! ### The permit is with the delivery in hand -/

/-- The permit is free and no delivery is in hand, or it is with the only one that is. -/
def Exclusive (traffic : Traffic ι D H) : Prop :=
  (traffic.free = 1 ∧ ∀ i, ¬(traffic.left i).InHand)
    ∨ (traffic.free = 0 ∧ ∃ i, ∀ j, (traffic.left j).InHand ↔ j = i)

/-- The terms of processing, whatever the replies are. -/
def permitTerms : Terms D H where
  allows _ _ := True
  asks request := ¬request.ConcernsPermit
  ends _ := True
  not_concernsPermit := id
  ends_cancelled := trivial

theorem kept_permitTerms (processing : Processing D α) (message : Inbound) :
  permitTerms.Kept (processing.process message : Operation D H Answer)
  := processing.leavesPermit_process message

theorem covers_permitTerms (cancelled : Bool) :
  (permitTerms : Terms D H).Covers cancelled
  := fun _ _ _ => trivial

variable (processing messages) in
/-- Every delivery is somewhere in its own operation, and the permit is in its place. -/
structure Orderly (traffic : Traffic ι D H) : Prop where
  stages : ∀ i, Stage processing (messages i) permitTerms (traffic.left i)
  exclusive : traffic.Exclusive

theorem orderly_start :
  Orderly processing messages (start processing messages : Traffic ι D H)
  := by
  constructor
  · intro i
    apply Stage.waiting
  · left
    use rfl
    intro i
    apply Waits.not_inHand (waits_handle ..)

section Orderly

variable [DecidableEq ι] {i : ι}

theorem Orderly.move (h : Orderly processing messages traffic) (hmoves : Moves i traffic later) :
  Move processing (messages i) permitTerms traffic.cancelled (traffic.left i) traffic.free
    (later.left i) later.free
  := hmoves.move (covers_permitTerms _) (h.stages i)

/-- A delivery goes on without coming to hand or leaving it. -/
theorem Exclusive.of_iff (h : traffic.Exclusive) (hmoves : Moves i traffic later)
    (hfree : later.free = traffic.free)
    (hin : (later.left i).InHand ↔ (traffic.left i).InHand) :
  later.Exclusive
  := by
  have hsame (j : ι) : (later.left j).InHand ↔ (traffic.left j).InHand := by
    by_cases hj : j = i
    · rw [hj, hin]
    · rw [hmoves.left_of_ne hj]
  simp only [Exclusive, hfree, hsame]
  apply h

/-- A delivery comes to hand, with the permit. -/
theorem Exclusive.of_takes (h : traffic.Exclusive) (hmoves : Moves i traffic later)
    (hfree : traffic.free = later.free + 1) (hin : (later.left i).InHand) :
  later.Exclusive
  := by
  obtain ⟨hone, hnone⟩ | ⟨hzero, -⟩ := h
  · right
    use by omega, i
    intro j
    by_cases hj : j = i
    · simp [hj, hin]
    · simp [hj, hmoves.left_of_ne hj, hnone]
  · omega

/-- The delivery in hand leaves it, and gives the permit back. -/
theorem Exclusive.of_returns (h : traffic.Exclusive) (hmoves : Moves i traffic later)
    (hfree : later.free = traffic.free + 1) (hin : (traffic.left i).InHand)
    (hout : ¬(later.left i).InHand) :
  later.Exclusive
  := by
  obtain ⟨-, hnone⟩ | ⟨hzero, holder, hholder⟩ := h
  · apply absurd hin (hnone i)
  · obtain rfl : i = holder := (hholder i).mp hin
    left
    use by omega
    intro j
    by_cases hj : j = i
    · rw [hj]
      apply hout
    · rw [hmoves.left_of_ne hj, hholder]
      apply hj

/-- A delivery leaves the hand with its answer, and gives the permit back. -/
theorem Orderly.returns (h : Orderly processing messages traffic) (hmoves : Moves i traffic later)
    (hin : (traffic.left i).InHand) (hout : ¬(later.left i).InHand) :
  (∃ answer, later.left i = .done answer) ∧ later.free = traffic.free + 1
  := by
  have hmove := h.move hmoves
  generalize traffic.left i = before, later.left i = after, traffic.free = free,
    later.free = left at hmove hin hout
  cases hmove with
  | takes => apply absurd hin (Waits.not_inHand (waits_handle ..))
  | withdraws => apply absurd hin (Waits.not_inHand (waits_handle ..))
  | works hasks hrest => apply absurd (inHand_bind hrest) hout
  | returns => exact ⟨⟨_, rfl⟩, rfl⟩

theorem Orderly.exclusive_of_moves (h : Orderly processing messages traffic)
    (hmoves : Moves i traffic later) :
  later.Exclusive
  := by
  have hmove := h.move hmoves
  generalize hbefore : traffic.left i = before, hafter : later.left i = after,
    hfree : traffic.free = free, hleft : later.free = left at hmove
  cases hmove with
  | takes =>
      apply h.exclusive.of_takes hmoves
      · rw [hfree, hleft]
      · rw [hafter]
        apply inHand_bind (kept_permitTerms ..)
  | withdraws =>
      apply h.exclusive.of_iff hmoves (hleft.trans hfree.symm)
      rw [hbefore, hafter]
      apply iff_of_false (not_inHand_done _)
      apply Waits.not_inHand (waits_handle ..)
  | works hasks hrest =>
      apply h.exclusive.of_iff hmoves (hleft.trans hfree.symm)
      rw [hbefore, hafter]
      apply iff_of_true
      · apply inHand_bind hrest
      · apply inHand_ask
        rintro rfl
        apply hasks trivial
  | returns =>
      apply h.exclusive.of_returns hmoves
      · rw [hfree, hleft]
      · rw [hbefore]
        apply inHand_giveBack
      · rw [hafter]
        apply not_inHand_done

theorem Orderly.of_moves (h : Orderly processing messages traffic)
    (hmoves : Moves i traffic later) :
  Orderly processing messages later
  := by
  constructor
  · intro j
    by_cases hj : j = i
    · rw [hj]
      apply (h.move hmoves).stage (kept_permitTerms ..)
    · rw [hmoves.left_of_ne hj]
      apply h.stages
  · apply h.exclusive_of_moves hmoves

/-- When no delivery is in hand, one that waits can take the permit. -/
theorem Orderly.takes (h : Orderly processing messages traffic)
    (hnone : ∀ i, ¬(traffic.left i).InHand) (hwaits : (traffic.left i).Waits) :
  ∃ later, Moves i traffic later ∧ (later.left i).InHand
  := by
  have hfree : traffic.free = 0 + 1 := by
    obtain ⟨hone, -⟩ | ⟨-, holder, hholder⟩ := h.exclusive
    · apply hone
    · apply absurd ((hholder holder).mpr rfl) (hnone holder)
  have hleft := (h.stages i).eq_handle hwaits
  rw [processing.handle_eq] at hleft
  have hserves : Request.Serves (D := D) (H := H) traffic.cancelled .acquire true traffic.free 0 :=
    hfree ▸ .acquire
  obtain ⟨later, hmoves, hprocess, -⟩ := exists_moves hleft hserves
  use later, hmoves
  rw [hprocess]
  apply inHand_bind (kept_permitTerms ..)

theorem Orderly.of_leads (h : Orderly processing messages traffic) (hleads : traffic.Leads later) :
  Orderly processing messages later
  := by
  induction hleads with
  | refl => apply h
  | tail _ hstep ih =>
      cases hstep with
      | move i hmoves => apply ih.of_moves hmoves
      | cancel => exact ⟨ih.stages, ih.exclusive⟩

end Orderly

/-! ### Every delivery in hand comes to its answer -/

/-- Some reply may be given to every request that is not about the permit. -/
theorem exists_allowed (context : Context) (cancelled : Bool) {request : Request D H}
    (hrequest : ¬request.ConcernsPermit) :
  ∃ reply, request.Allows cancelled reply
  := by
  cases request with
  | isCancelled => exact ⟨cancelled, rfl⟩
  | acquire => apply absurd trivial hrequest
  | release => apply absurd trivial hrequest
  | newContext => exact ⟨context, trivial⟩
  | dispatch call => exact ⟨.ok (), trivial⟩
  | pause delay => exact ⟨true, .inl rfl⟩
  | publish message => exact ⟨some (.ok ()), .inl rfl⟩
  | subscribe route handler => exact ⟨.ok (), trivial⟩
  | log entry => exact ⟨(), trivial⟩

section Answer

variable [DecidableEq ι] {i : ι} {terms : Terms D H}

/-- By induction on what is left of processing. -/
theorem exists_answer_of_inHand (hcovers : terms.Covers traffic.cancelled) (context : Context)
    {rest : Operation D H Answer} (hrest : terms.Kept rest)
    (hleft : traffic.left i = rest >>= giveBack) :
  ∃ later answer, Relation.ReflTransGen (Moves i) traffic later ∧ later.left i = .done answer
  := by
  induction rest generalizing traffic with
  | done answer =>
      obtain ⟨later, hmoves, hdone, -⟩ := exists_moves hleft .release
      exact ⟨later, answer, .single hmoves, hdone⟩
  | ask request next ih =>
      obtain ⟨hasks, hnext⟩ := hrest
      have hrequest := terms.not_concernsPermit hasks
      obtain ⟨reply, hreply⟩ := exists_allowed context traffic.cancelled hrequest
      have hrest := hnext reply (hcovers _ _ hreply)
      obtain ⟨between, hmoves, hleft, -, hcancelled⟩ :=
        exists_moves hleft (.other hrequest hreply)
      rw [← hcancelled] at hcovers
      obtain ⟨later, answer, hleads, hdone⟩ := ih reply hcovers hrest hleft
      exact ⟨later, answer, .head hmoves hleads, hdone⟩

/-- A delivery that does not wait for the permit, or need not because the token is
cancelled. -/
theorem exists_answer {message : Inbound} (hcovers : terms.Covers traffic.cancelled)
    (hstage : Stage processing message terms (traffic.left i))
    (hgoes : ¬(traffic.left i).Waits ∨ traffic.cancelled) :
  ∃ later answer, Relation.ReflTransGen (Moves i) traffic later ∧ later.left i = .done answer
  := by
  generalize hleft : traffic.left i = left at hstage hgoes
  cases hstage with
  | waiting =>
      obtain hwaits | hcancelled := hgoes
      · apply absurd (waits_handle ..) hwaits
      · rw [processing.handle_eq] at hleft
        obtain ⟨later, hmoves, hdone, -⟩ := exists_moves hleft (.giveUp hcancelled)
        exact ⟨later, _, .single hmoves, hdone⟩
  | inHand hrest => apply exists_answer_of_inHand hcovers message.context hrest hleft
  | @answered answer => exact ⟨traffic, answer, .refl, hleft⟩

end Answer

/-! ### Deliveries whose token is cancelled while they wait -/

/-- The terms of processing whose token is cancelled before it begins: the handler is not
run, and the answer is that the delivery was cancelled, if its payload can be read. -/
def cancelledTerms (processing : Processing D α) (message : Inbound) : Terms D H where
  allows := Request.Allows true
  asks request := ¬request.ConcernsPermit ∧ ∀ call, request ≠ .dispatch call
  ends answer :=
    (processing.format.decode? message.payload).isSome → answer = .failed .cancelled
  not_concernsPermit h := h.1
  ends_cancelled _ := rfl

theorem kept_cancelledTerms (message : Inbound) :
  (cancelledTerms processing message).Kept (processing.process message : Operation D H Answer)
  := by
  have hlog (entry : LogEntry) :
      (cancelledTerms processing message : Terms D H).asks (.log entry) := by
    use id
    rintro _ ⟨⟩
  cases hpayload : processing.format.decode? message.payload with
  | none =>
      rw [processing.process_of_unreadable hpayload]
      use hlog _
      intro _ _ hreadable
      rw [hpayload] at hreadable
      contradiction
  | some payload =>
      rw [processing.process_eq_attempt hpayload, attempt]
      constructor
      · use id
        rintro _ ⟨⟩
      · rintro _ rfl
        use hlog _
        intro _ _ _
        rfl

/-- Cancelled deliveries stay cancelled, whatever becomes of the others. -/
theorem stage_of_leads [DecidableEq ι] {i : ι} (hcancelled : traffic.cancelled)
    (hstage : Stage processing (messages i) (cancelledTerms processing (messages i))
      (traffic.left i))
    (hleads : traffic.Leads later) :
  later.cancelled
    ∧ Stage processing (messages i) (cancelledTerms processing (messages i)) (later.left i)
  := by
  induction hleads with
  | refl => exact ⟨hcancelled, hstage⟩
  | @tail between _ _ hstep ih =>
      obtain ⟨hcancelled, hstage⟩ := ih
      cases hstep with
      | cancel => exact ⟨rfl, hstage⟩
      | move j hmoves =>
          rw [hmoves.cancelled_eq]
          use hcancelled
          by_cases hj : i = j
          · subst hj
            have hcovers : (cancelledTerms processing (messages i) : Terms D H).Covers
                between.cancelled := by
              rw [hcancelled]
              exact fun _ _ => id
            apply (hmoves.move hcovers hstage).stage (kept_cancelledTerms _)
          · rw [hmoves.left_of_ne hj]
            apply hstage

/-- At most one delivery is in hand, so the handler is never run for two at once.  A delivery
that has been in hand has its answer and has given the permit back, so that whenever no
delivery is in hand one that waits can take the permit; and a delivery in hand can come to
its answer.  When the token is cancelled while a delivery waits, the handler is not run for
it, and it is answered, if its payload can be read with the answer that it was cancelled. -/
theorem one_at_a_time [DecidableEq ι] {processing : Processing D α} {messages : ι → Inbound}
    {traffic : Traffic ι D H} (h : (start processing messages).Leads traffic) :
  (∀ i j, (traffic.left i).InHand → (traffic.left j).InHand → i = j)
    ∧ (∀ i j, (traffic.left i).Dispatches → (traffic.left j).Dispatches → i = j)
    ∧ (∀ i later, Moves i traffic later → (traffic.left i).InHand → ¬(later.left i).InHand →
      (∃ answer, later.left i = .done answer) ∧ later.free = 1)
    ∧ ((∀ i, ¬(traffic.left i).InHand) → ∀ i, (traffic.left i).Waits →
      ∃ later, Moves i traffic later ∧ (later.left i).InHand)
    ∧ (∀ i, (traffic.left i).InHand →
      ∃ later answer, Relation.ReflTransGen (Moves i) traffic later ∧ later.left i = .done answer)
    ∧ ∀ i, traffic.cancelled → (traffic.left i).Waits → ∀ later, traffic.Leads later →
      ¬(later.left i).Dispatches
      ∧ (∀ answer, later.left i = .done answer →
        (processing.format.decode? (messages i).payload).isSome → answer = .failed .cancelled)
      ∧ ∃ last answer, Relation.ReflTransGen (Moves i) later last ∧ last.left i = .done answer
  := by
  have horderly := orderly_start.of_leads h
  have hsingle : ∀ i j, (traffic.left i).InHand → (traffic.left j).InHand → i = j := by
    intro i j hi hj
    obtain ⟨-, hnone⟩ | ⟨-, holder, hholder⟩ := horderly.exclusive
    · apply absurd hi (hnone i)
    · rw [(hholder i).mp hi, (hholder j).mp hj]
  refine ⟨hsingle, ?_, ?_, ?_, ?_, ?_⟩
  · intro i j hi hj
    apply hsingle i j hi.inHand hj.inHand
  · intro i later hmoves hin hout
    obtain ⟨hanswer, hfree⟩ := horderly.returns hmoves hin hout
    use hanswer
    obtain ⟨-, hnone⟩ | ⟨hzero, -⟩ := horderly.exclusive
    · apply absurd hin (hnone i)
    · rw [hfree, hzero]
  · intro hnone i hwaits
    apply horderly.takes hnone hwaits
  · intro i hin
    apply exists_answer (covers_permitTerms _) (horderly.stages i) (.inl hin.1)
  · intro i hcancelled hwaits later hleads
    have hstage : Stage processing (messages i) (cancelledTerms processing (messages i))
        (traffic.left i) := by
      rw [(horderly.stages i).eq_handle hwaits]
      apply Stage.waiting
    obtain ⟨hcancelled, hlater⟩ := stage_of_leads hcancelled hstage hleads
    refine ⟨?_, ?_, ?_⟩
    · apply hlater.not_dispatches
      intro call hasks
      apply hasks.2 call rfl
    · intro answer hdone
      rw [hdone] at hlater
      apply hlater.ends_of_done
    · apply exists_answer (covers_permitTerms _) ((horderly.of_leads hleads).stages i)
        (.inr hcancelled)

/-- Two ticks that are brought at once. -/
def twoTicks : Traffic Bool (Unit × Context) Empty :=
  start (ticking .inProcess none) fun _ => tick 0

/-- Two ticks of which one has the permit. -/
def oneTickInHand : Traffic Bool (Unit × Context) Empty where
  left := Function.update twoTicks.left false
    ((ticking .inProcess none).process (tick 0) >>= giveBack)
  free := 0
  cancelled := false

theorem one_at_a_time_of_two_ticks :
  twoTicks.Leads oneTickInHand ∧ (oneTickInHand.left false).InHand
    ∧ ¬(oneTickInHand.left true).InHand
    ∧ ∃ later answer,
      Relation.ReflTransGen (Moves false) oneTickInHand later ∧ later.left false = .done answer
  := by
  have hleft : twoTicks.left false = _ := handle_eq (ticking .inProcess none) (tick 0)
  have hmoves : Moves false twoTicks oneTickInHand := Moves.reply hleft .acquire
  have hleads : twoTicks.Leads oneTickInHand := .single (.move false hmoves)
  have hin : (oneTickInHand.left false).InHand :=
    inHand_bind (kept_permitTerms ..)
  obtain ⟨hsingle, -, -, -, hanswer, -⟩ := one_at_a_time hleads
  use hleads, hin
  constructor
  · intro hother
    have hsame := hsingle false true hin hother
    contradiction
  · apply hanswer false hin

end Traffic

end AmqpBus
