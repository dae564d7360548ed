import AmqpBus.Broker.Installation
import AmqpBus.Proofs.Broker.Work

/-!
# Demands on the broker

Work may consist of demands: methods that the broker must carry out in a fixed order, each
with the error that its failure is.  They are made one after the other up to the first that
fails.  An installation consists of the demands for its exchanges, for its queues with
their companions, and for its bindings.
-/

namespace AmqpBus

open Amqp (Field Method Scalar Table)

namespace Broker

open Work

/-- A method that the broker must carry out, and the error that its failure is. -/
structure Demand where
  method : Method
  error : BrokerError

/-- The deed in which a demand is met. -/
def Demand.met (demand : Demand) : Deed := .method demand.method true

/-- The deeds and the outcome of making demands in order, up to the first that fails. -/
inductive Made : List Demand → List Deed → Except BrokerError Unit → Prop
  | done : Made [] [] (.ok ())
  | failed (demand : Demand) (demands : List Demand) :
      Made (demand :: demands) [.method demand.method false] (.error demand.error)
  | next (demand : Demand) {demands : List Demand} {deeds : List Deed}
      {outcome : Except BrokerError Unit} (h : Made demands deeds outcome) :
      Made (demand :: demands) (demand.met :: deeds) outcome

namespace Made

variable {first second : List Demand} {deeds later : List Deed}
  {outcome : Except BrokerError Unit} {error : BrokerError}

/-- After demands that were all met, others may be made. -/
theorem append (h : Made first deeds (.ok ())) (hsecond : Made second later outcome) :
  Made (first ++ second) (deeds ++ later) outcome
  := by
  induction first generalizing deeds with
  | nil =>
      cases h
      apply hsecond
  | cons demand first ih =>
      cases h with
      | next _ h => apply Made.next _ (ih h)

/-- After a failure no other demand is made. -/
theorem append_of_error (h : Made first deeds (.error error)) :
  Made (first ++ second) deeds (.error error)
  := by
  induction first generalizing deeds with
  | nil => contradiction
  | cons demand first ih =>
      cases h with
      | failed => apply Made.failed
      | next _ h => apply Made.next _ (ih h)

/-- Without a failure every demand was met. -/
theorem deeds_eq (h : Made first deeds (.ok ())) :
  deeds = first.map Demand.met
  := by
  induction first generalizing deeds with
  | nil =>
      cases h
      rfl
  | cons demand first ih =>
      cases h with
      | next _ h => rw [ih h, List.map_cons]

/-- After a failure not every demand was met. -/
theorem not_prefix_of_error (h : Made first deeds (.error error)) :
  ¬first.map Demand.met <+: deeds
  := by
  induction first generalizing deeds with
  | nil => contradiction
  | cons demand first ih =>
      rw [List.map_cons]
      cases h with
      | failed => simp [List.cons_prefix_cons, Demand.met]
      | next _ h =>
          rw [List.cons_prefix_cons]
          apply mt And.right (ih h)

/-- Later demands are made only when the earlier ones were all met. -/
theorem cases_append (h : Made (first ++ second) deeds outcome) :
  (∃ error, outcome = .error error ∧ Made first deeds (.error error))
    ∨ ∃ later, deeds = first.map Demand.met ++ later ∧ Made second later outcome
  := by
  induction first generalizing deeds with
  | nil =>
      right
      use deeds, rfl
      apply h
  | cons demand first ih =>
      cases h with
      | failed =>
          left
          use demand.error, rfl
          apply Made.failed
      | next _ h =>
          obtain ⟨error, rfl, hfirst⟩ | ⟨later, rfl, hsecond⟩ := ih h
          · left
            use error, rfl
            apply Made.next _ hfirst
          · right
            use later, rfl

/-- A demand is made only when all that come before it were met. -/
theorem cases_cons {demand : Demand} {after : List Demand}
    (h : Made (first ++ demand :: after) deeds outcome) :
  (∃ error, outcome = .error error ∧ Made first deeds (.error error))
    ∨ ∃ success later, deeds = first.map Demand.met ++ .method demand.method success :: later
  := by
  obtain hfirst | ⟨later, rfl, hlater⟩ := h.cases_append
  · left
    apply hfirst
  · right
    cases hlater with
    | failed => use false, []
    | next _ _ => exact ⟨true, _, rfl⟩

end Made

/-! ### Work that consists of demands -/

/-- Whatever the broker replies, work does nothing but make demands. -/
def Makes (work : Work (Except BrokerError Unit)) (demands : List Demand) : Prop :=
  ∀ deeds outcome, Does work deeds outcome → Made demands deeds outcome

namespace Makes

variable {work : Work (Except BrokerError Unit)} {demands later : List Demand}

theorem require (method : Method) (complaint : String) (error : BrokerError) :
  Makes (Work.require method complaint error) [⟨method, error⟩]
  := by
  intro deeds outcome h
  obtain ⟨_, success, rest, hsend, hrest, rfl⟩ := does_bind_iff.mp h
  obtain rfl := does_send_iff.mp hsend
  cases success with
  | true =>
      obtain ⟨rfl, rfl⟩ := does_pure_iff.mp hrest
      apply Made.next _ Made.done
  | false =>
      obtain ⟨rfl, rfl⟩ := does_complaint_iff.mp hrest
      apply Made.failed ⟨method, error⟩

theorem debug_bind (h : Makes work demands) (text : String) :
  Makes (debug text >>= fun _ => work) demands
  := by
  intro deeds outcome hdoes
  obtain ⟨_, _, rest, hdebug, hwork, rfl⟩ := does_bind_iff.mp hdoes
  obtain rfl := does_debug_iff.mp hdebug
  apply h rest outcome hwork

theorem noting (h : Makes work demands) (text : String) :
  Makes (Work.noting work text) demands
  := by
  intro deeds outcome hdoes
  obtain ⟨first, value, rest, hwork, hrest, rfl⟩ := does_bind_iff.mp hdoes
  have hvalue : rest = [] ∧ outcome = value := by
    cases value with
    | error error => apply does_pure_iff.mp hrest
    | ok done =>
        simp only [does_bind_iff, does_debug_iff, does_pure_iff] at hrest
        obtain ⟨_, _, _, rfl, ⟨rfl, rfl⟩, rfl⟩ := hrest
        constructor <;> rfl
  obtain ⟨rfl, rfl⟩ := hvalue
  rw [List.append_nil]
  apply h first outcome hwork

theorem inOrder_nil :
  Makes (Interaction.inOrder []) []
  := by
  intro deeds outcome h
  obtain ⟨rfl, rfl⟩ := does_pure_iff.mp h
  apply Made.done

theorem inOrder_cons (h : Makes work demands) {programs : List (Work (Except BrokerError Unit))}
    (hrest : Makes (Interaction.inOrder programs) later) :
  Makes (Interaction.inOrder (work :: programs)) (demands ++ later)
  := by
  intro deeds outcome hdoes
  obtain ⟨first, value, rest, hwork, hnext, rfl⟩ := does_bind_iff.mp hdoes
  cases value with
  | error error =>
      obtain ⟨rfl, rfl⟩ := does_pure_iff.mp hnext
      rw [List.append_nil]
      apply Made.append_of_error (h first _ hwork)
  | ok done => apply Made.append (h first _ hwork) (hrest rest outcome hnext)

/-- Items that are dealt with in order make the demands of each of them. -/
theorem inOrder_map_append {ι : Type} {program : ι → Work (Except BrokerError Unit)}
    {demandsOf : ι → List Demand} (h : ∀ item, Makes (program item) (demandsOf item))
    {programs : List (Work (Except BrokerError Unit))}
    (hrest : Makes (Interaction.inOrder programs) later) (items : List ι) :
  Makes (Interaction.inOrder (items.map program ++ programs)) (items.flatMap demandsOf ++ later)
  := by
  induction items with
  | nil => apply hrest
  | cons item items ih =>
      rw [List.map_cons, List.cons_append, List.flatMap_cons, List.append_assoc]
      apply inOrder_cons (h item) ih

/-- Items that make one demand each. -/
theorem inOrder_map_append_singles {ι : Type} {program : ι → Work (Except BrokerError Unit)}
    {demandOf : ι → Demand} (h : ∀ item, Makes (program item) [demandOf item])
    {programs : List (Work (Except BrokerError Unit))}
    (hrest : Makes (Interaction.inOrder programs) later) (items : List ι) :
  Makes (Interaction.inOrder (items.map program ++ programs)) (items.map demandOf ++ later)
  := by
  have hitems := inOrder_map_append h hrest items
  rwa [← List.map_eq_flatMap] at hitems

end Makes

end Broker

/-! ### Demands of an installation -/

open Broker

/-- The demand to declare an exchange, as it describes itself and with its own arguments. -/
def Exchange.demand (exchange : Exchange) : Demand where
  method :=
    .declareExchange exchange.name exchange.kind.wireName exchange.passive exchange.durable
      exchange.autoDelete exchange.internal exchange.noWait (exchange.arguments.map Scalar.field)
  error := .declareExchange exchange.name

namespace Queue

variable (queue : Queue)

/-- The demand to declare a queue of a name with the flags of a queue, which is that queue or a
companion of it. -/
def demandFor (name : String) (arguments : Table) : Demand where
  method :=
    .declareQueue name queue.passive queue.durable queue.exclusive queue.autoDelete queue.noWait
      arguments
  error := .declareQueue name

/-- The arguments of a retry queue: its dead letters go back to the queue of a name, and a
message is dead there after a time. -/
def leadBack (name : String) (ttl : Int32) : Table :=
  Dictionary.ofList
    [(deadLetterExchangeArgument, .longString "".toUTF8),
      (deadLetterKeyArgument, .longString name.toUTF8), (ttlArgument, .int32 ttl)]

/-- The arguments that a queue has beside those of its user and instead of them: its dead letters
go to its retry queue, or else to its dead-letter queue, and it has its limits. -/
def ownArguments : List (String × Field) :=
  let target? : Option String :=
    match queue.retry with
    | some (retry, _) => some retry
    | none => queue.deadLetters
  (target?.toList.flatMap fun target =>
      [(deadLetterExchangeArgument, .longString "".toUTF8),
        (deadLetterKeyArgument, .longString target.toUTF8)])
    ++ (queue.ttl.toList.map fun ttl => (ttlArgument, .int32 ttl))
    ++ queue.maxLength.toList.map fun count => (maxLengthArgument, .int32 count)

/-- The demands to declare the companions of a queue. -/
def companions : List Demand :=
  (queue.retry.toList.map fun retry => queue.demandFor retry.1 (leadBack queue.name retry.2))
    ++ queue.deadLetters.toList.map fun name => queue.demandFor name ∅

/-- The demands to declare a queue, which comes after its companions. -/
def demands : List Demand :=
  queue.companions
    ++ [queue.demandFor queue.name
      ((queue.arguments.map Scalar.field).insertMany queue.ownArguments)]

end Queue

/-- The demand to bind a queue to an exchange by a key. -/
def Binding.demand (binding : Binding) : Demand where
  method := .bindQueue binding.queue binding.exchange binding.key false ∅
  error := .bind binding.exchange binding.queue

/-! ### The demands are made -/

/-- Where dead letters go stands over what the user gave. -/
theorem Queue.overlay_deadLetterArguments (given : Table) (target : String) :
  given.overlay (deadLetterArguments target)
    = (given.insert deadLetterExchangeArgument (.longString "".toUTF8)).insert
        deadLetterKeyArgument (.longString target.toUTF8)
  := by
  apply Dictionary.ext
  intro name
  rw [Dictionary.get?_overlay, deadLetterArguments]
  simp only [Dictionary.get?_insert, Dictionary.get?_empty]
  split
  · rfl
  · split
    · rfl
    · rfl

/-- A queue is declared with the arguments of its user, but for its own. -/
theorem Queue.declaredArguments_eq (queue : Queue) :
  queue.declaredArguments
    = (queue.arguments.map Scalar.field).insertMany queue.ownArguments
  := by
  rw [declaredArguments, ownArguments, deadLetterTarget?, Amqp.fieldsOf]
  cases queue.retry <;> cases queue.deadLetters <;> cases queue.ttl <;> cases queue.maxLength
  all_goals simp [withNumber, overlay_deadLetterArguments, Dictionary.insertMany]

namespace Broker

theorem makes_declareExchange (exchange : Exchange) :
  Makes (declareExchange exchange) [exchange.demand]
  := ((Makes.require _ _ _).noting _).debug_bind _

theorem makes_bindQueue (binding : Binding) :
  Makes (bindQueue binding) [binding.demand]
  := (Makes.require _ _ _).debug_bind _

/-- A queue is declared after its companions. -/
theorem makes_declareQueue (queue : Queue) :
  Makes (declareQueue queue) queue.demands
  := by
  have hown := Makes.inOrder_cons (Makes.require queue.declaration "error to declare the queue"
    (.declareQueue queue.name)) Makes.inOrder_nil
  have hdeadLetters := Makes.inOrder_map_append_singles
    (fun name => Makes.require (queue.declarationOf name ∅) "failure to declare dlq"
      (.declareQueue name)) hown queue.deadLetters.toList
  have hretry := Makes.inOrder_map_append_singles
    (fun retry : String × Int32 => Makes.require
      (queue.declarationOf retry.1 (queue.retryArguments retry.2))
      "failure to declare retry queue" (.declareQueue retry.1)) hdeadLetters queue.retry.toList
  rw [declareQueue, Queue.demands, Queue.companions, ← queue.declaredArguments_eq,
    List.append_assoc]
  apply Makes.debug_bind
  dsimp only
  rw [Option.toList_map, Option.toList_map, List.append_assoc]
  apply hretry.noting

namespace Installation

/-- The demands of an installation. -/
def demands (installation : Installation) : List Demand :=
  installation.exchanges.map Exchange.demand ++ installation.queues.flatMap Queue.demands
    ++ installation.bindings.map Binding.demand

/-- An installation consists of demands. -/
theorem makes_install (installation : Installation) :
  Makes installation.install installation.demands
  := by
  have hbindings := Makes.inOrder_map_append_singles makes_bindQueue Makes.inOrder_nil
    installation.bindings
  have hqueues := Makes.inOrder_map_append makes_declareQueue hbindings installation.queues
  have hexchanges := Makes.inOrder_map_append_singles makes_declareExchange hqueues
    installation.exchanges
  rw [List.append_nil, List.append_nil] at hexchanges
  rw [install, demands, List.append_assoc, List.append_assoc]
  apply hexchanges

end Installation

end Broker

end AmqpBus
