import AmqpBus.Broker.Transport
import AmqpBus.Proofs.Broker.Demands
import AmqpBus.Proofs.Broker.Settlement
import AmqpBus.Proofs.Ensures

/-!
# Installing in order

An installation is put together from exchanges, queues and bindings, in any order.  Of the
exchanges and of the queues only the first of each name counts.  It is then demanded from the
broker in one fixed order and up to the first failure: the exchanges, each queue after its
companions, and the bindings.  A subscription demands the installation of its route and then
its registration, and its deliveries are taken only if nothing failed.
-/

namespace AmqpBus.Broker

open Interaction

/-! ### Putting an installation together -/

/-- The items, and one more unless there is one of its name. -/
def withNew {ι : Type} (name : ι → String) (items : List ι) (item : ι) : List ι :=
  if items.any (name · = name item) then items else items ++ [item]

/-- Adding items unless there is one of their name adds the first of each new name. -/
theorem foldl_withNew {ι : Type} (name : ι → String) (items added : List ι) :
  added.foldl (withNew name) items
    = items ++ (added.filter fun item => !items.any (name · = name item)).eraseDupsBy
        (name · == name ·)
  := by
  induction added generalizing items with
  | nil => simp
  | cons item added ih =>
      rw [List.foldl_cons, ih, withNew, List.filter_cons]
      cases hknown : items.any (name · = name item) with
      | true => simp
      | false =>
          -- Those of the name of the item are left out by the filter on one side, and as
          -- later items of a name that has come before on the other.
          have hlater (later : ι) : (!(items ++ [item]).any (name · = name later))
              = ((name later == name item) = false
                && !items.any (name · = name later) : Bool) := by
            by_cases hname : name later = name item
            · simp [hname]
            · simp [hname, Ne.symm hname]
          simp only [hlater, Bool.false_eq_true, if_false, Bool.not_false, if_true,
            List.eraseDupsBy_cons, List.filter_filter, List.append_assoc, List.singleton_append]

theorem foldl_withNew_nil {ι : Type} (name : ι → String) (added : List ι) :
  added.foldl (withNew name) [] = added.eraseDupsBy (name · == name ·)
  := by
  have hall : added.filter (fun item => !([] : List ι).any (name · = name item)) = added :=
    List.filter_eq_self.mpr fun _ _ => rfl
  rw [foldl_withNew, hall, List.nil_append]

/-- A part of an installation. -/
inductive Addition where
  | exchange (exchange : Exchange)
  | queue (queue : Queue)
  | binding (binding : Binding)

namespace Addition

/-- The exchange that is added. -/
def exchange? : Addition → Option Exchange
  | .exchange given => some given
  | _ => none

/-- The queue that is added. -/
def queue? : Addition → Option Queue
  | .queue given => some given
  | _ => none

/-- The binding that is added. -/
def binding? : Addition → Option Binding
  | .binding given => some given
  | _ => none

end Addition

namespace Installation

/-- The installation with one more part. -/
def add (installation : Installation) : Addition → Installation
  | .exchange exchange => installation.withExchange exchange
  | .queue queue => installation.withQueue queue
  | .binding binding => installation.withBinding binding

/-- The installation that is put together from parts. -/
def ofAdditions (additions : List Addition) : Installation := additions.foldl add {}

variable (installation : Installation)

theorem withExchange_eq (exchange : Exchange) :
  installation.withExchange exchange
    = { installation with exchanges := withNew Exchange.name installation.exchanges exchange }
  := by
  rw [withExchange, withNew]
  split <;> rfl

theorem withQueue_eq (queue : Queue) :
  installation.withQueue queue
    = { installation with queues := withNew Queue.name installation.queues queue }
  := by
  rw [withQueue, withNew]
  split <;> rfl

/-- Exchanges, queues and bindings are added independently of each other. -/
theorem foldl_add (additions : List Addition) :
  additions.foldl add installation
    = { exchanges := (additions.filterMap Addition.exchange?).foldl (withNew Exchange.name)
          installation.exchanges
        queues := (additions.filterMap Addition.queue?).foldl (withNew Queue.name)
          installation.queues
        bindings := installation.bindings ++ additions.filterMap Addition.binding? }
  := by
  induction additions generalizing installation with
  | nil => simp
  | cons addition additions ih =>
      rw [List.foldl_cons, ih]
      cases addition with
      | exchange exchange =>
          rw [add, withExchange_eq]
          rfl
      | queue queue =>
          rw [add, withQueue_eq]
          rfl
      | binding binding =>
          rw [add, withBinding, List.append_assoc]
          rfl

/-- What counts of the parts: the first exchange and the first queue of each name, and all
bindings. -/
theorem ofAdditions_eq (additions : List Addition) :
  ofAdditions additions
    = { exchanges := (additions.filterMap Addition.exchange?).eraseDupsBy (·.name == ·.name)
        queues := (additions.filterMap Addition.queue?).eraseDupsBy (·.name == ·.name)
        bindings := additions.filterMap Addition.binding? }
  := by
  rw [ofAdditions, foldl_add, foldl_withNew_nil, foldl_withNew_nil, List.nil_append]

theorem demands_ofRoute (route : Route) :
  (ofRoute route).demands
    = route.exchange.demand :: route.queue.demands ++ [route.binding.demand]
  := by
  simp [demands, ofRoute, withExchange, withQueue, withBinding]

end Installation

/-! ### Work that takes no deliveries -/

/-- The route whose deliveries a question begins to take. -/
def Question.listened? : Question → Option Route
  | .listen route => some route
  | _ => none

/-- The routes whose deliveries began to be taken. -/
def listenedIn (turns : List (Turn Question Question.Reply)) : List Route :=
  turns.filterMap fun turn => turn.question.listened?

theorem listenedIn_append (first second : List (Turn Question Question.Reply)) :
  listenedIn (first ++ second) = listenedIn first ++ listenedIn second
  := List.filterMap_append

/-- Work that never begins to take deliveries. -/
def Work.NeverListens {α : Type} (work : Work α) : Prop :=
  work.Asks (fun _ _ => True) fun question => question.listened? = none

namespace Work.NeverListens

theorem debug (text : String) :
  NeverListens (Work.debug text)
  := Asks.request rfl

theorem complain (text : String) :
  NeverListens (Work.complain text)
  := Asks.request rfl

theorem send (method : Amqp.Method) :
  NeverListens (Work.send method)
  := Asks.request rfl

theorem require (method : Amqp.Method) (complaint : String) (error : BrokerError) :
  NeverListens (Work.require method complaint error)
  := by
  apply Asks.bind (NeverListens.send method)
  intro success
  split
  · apply Asks.pure
  · apply Asks.bind (NeverListens.complain complaint)
    intro _
    apply Asks.pure

theorem noting {work : Work (Except BrokerError Unit)} (h : NeverListens work) (text : String) :
  NeverListens (Work.noting work text)
  := by
  apply Asks.bind h
  intro outcome
  split
  · apply Asks.pure
  · apply Asks.bind (NeverListens.debug text)
    intro _
    apply Asks.pure

theorem inOrder {programs : List (Work (Except BrokerError Unit))}
    (h : ∀ program ∈ programs, NeverListens program) :
  NeverListens (Interaction.inOrder programs)
  := by
  induction programs with
  | nil => apply Asks.pure
  | cons program programs ih =>
      obtain ⟨hprogram, hprograms⟩ := List.forall_mem_cons.mp h
      apply Asks.bind hprogram
      intro outcome
      split
      · apply Asks.pure
      · apply ih hprograms

theorem listenedIn_eq {α : Type} {work : Work α} (h : NeverListens work)
    {turns : List (Turn Question Question.Reply)} {value : α} (hcourse : Course work turns value) :
  listenedIn turns = []
  := by
  apply List.filterMap_eq_nil_iff.mpr
  intro turn hturn
  apply h.of_mem hcourse (fun _ _ => trivial) hturn

end Work.NeverListens

theorem neverListens_declareExchange (exchange : Exchange) :
  (declareExchange exchange).NeverListens
  := by
  apply Asks.bind (Work.NeverListens.debug _)
  intro _
  apply Work.NeverListens.noting (Work.NeverListens.require _ _ _)

theorem neverListens_declareQueue (queue : Queue) :
  (declareQueue queue).NeverListens
  := by
  apply Asks.bind (Work.NeverListens.debug _)
  intro _
  apply Work.NeverListens.noting
  apply Work.NeverListens.inOrder
  cases queue.retry <;> cases queue.deadLetters <;> simp [Work.NeverListens.require]

theorem neverListens_bindQueue (binding : Binding) :
  (bindQueue binding).NeverListens
  := by
  apply Asks.bind (Work.NeverListens.debug _)
  intro _
  apply Work.NeverListens.require

theorem Installation.neverListens_install (installation : Installation) :
  installation.install.NeverListens
  := by
  apply Work.NeverListens.inOrder
  simp only [List.forall_mem_append, List.forall_mem_map]
  exact ⟨⟨fun exchange _ => neverListens_declareExchange exchange,
    fun queue _ => neverListens_declareQueue queue⟩,
    fun binding _ => neverListens_bindQueue binding⟩

namespace Transport

variable {transport next : Transport} {route : Route} {deeds : List Deed}
  {outcome : Except BrokerError Unit}

theorem neverListens_register (route : Route) :
  (register route).NeverListens
  := by
  apply Work.NeverListens.noting
  apply Work.NeverListens.inOrder
  simp [Work.NeverListens.require]

/-! ### Subscribing -/

/-- The demands of a registration for the deliveries of a route: how many are sent ahead, and
that they are sent. -/
def registration (route : Route) : List Demand :=
  [⟨.qos route.consumer.prefetch false, .qos route.queue.name⟩,
    ⟨.consume route.queue.name route.consumer.tag false route.consumer.autoAck false false ∅,
      .consume route.queue.name⟩]

theorem makes_register (route : Route) :
  Makes (register route) (registration route)
  := by
  apply Makes.noting
  apply Makes.inOrder_cons (Makes.require _ _ _)
  apply Makes.inOrder_cons (Makes.require _ _ _) Makes.inOrder_nil

/-- A subscription installs its route.  Once that is done the exchange counts as declared,
whatever becomes of the registration, and deliveries are taken after the registration. -/
inductive Subscribes (transport : Transport) (route : Route) :
    List (Turn Question Question.Reply) → Except BrokerError Unit → Transport → Prop
  | uninstalled {turns : List (Turn Question Question.Reply)} {error : BrokerError}
      (h : Course (Installation.ofRoute route).install turns (.error error)) :
      Subscribes transport route turns (.error error) transport
  | unregistered {first second : List (Turn Question Question.Reply)} {error : BrokerError}
      (hinstall : Course (Installation.ofRoute route).install first (.ok ()))
      (hregister : Course (register route) second (.error error)) :
      Subscribes transport route (first ++ second) (.error error)
        (transport.declaring route.exchange.name)
  | listening {first second : List (Turn Question Question.Reply)}
      (hinstall : Course (Installation.ofRoute route).install first (.ok ()))
      (hregister : Course (register route) second (.ok ())) :
      Subscribes transport route (first ++ (second ++ [⟨.listen route, ()⟩])) (.ok ())
        (transport.declaring route.exchange.name)

theorem subscribes {turns : List (Turn Question Question.Reply)}
    (h : Course (transport.subscribe route) turns (outcome, next)) :
  Subscribes transport route turns outcome next
  := by
  obtain ⟨first, installed, rest, hinstall, hrest, rfl⟩ := course_bind_iff.mp h
  cases installed with
  | error error =>
      obtain ⟨rfl, ⟨⟩⟩ := course_pure_iff.mp hrest
      rw [List.append_nil]
      apply Subscribes.uninstalled hinstall
  | ok done =>
      obtain ⟨second, registered, last, hregister, hlast, rfl⟩ := course_bind_iff.mp hrest
      cases registered with
      | error error =>
          obtain ⟨rfl, ⟨⟩⟩ := course_pure_iff.mp hlast
          rw [List.append_nil]
          apply Subscribes.unregistered hinstall hregister
      | ok done =>
          obtain ⟨_, _, _, hlisten, hpure, rfl⟩ := course_bind_iff.mp hlast
          obtain rfl := course_request_iff.mp hlisten
          obtain ⟨rfl, ⟨⟩⟩ := course_pure_iff.mp hpure
          apply Subscribes.listening hinstall hregister

namespace Subscribes

variable {turns : List (Turn Question Question.Reply)}

/-- A subscription demands the installation of its route and then its registration. -/
theorem made (h : Subscribes transport route turns outcome next) :
  Made ((Installation.ofRoute route).demands ++ registration route) (deedsOf turns) outcome
  := by
  have hmade := (Installation.ofRoute route).makes_install
  cases h with
  | uninstalled h => apply Made.append_of_error (hmade _ _ ⟨_, h, rfl⟩)
  | unregistered hinstall hregister =>
      rw [deedsOf_append]
      apply Made.append (hmade _ _ ⟨_, hinstall, rfl⟩)
      apply makes_register route _ _ ⟨_, hregister, rfl⟩
  | listening hinstall hregister =>
      rw [deedsOf_append, deedsOf_append]
      apply Made.append (hmade _ _ ⟨_, hinstall, rfl⟩)
      rw [show deedsOf [⟨.listen route, ()⟩] = [] from rfl, List.append_nil]
      apply makes_register route _ _ ⟨_, hregister, rfl⟩

/-- Deliveries are taken, once, if and only if the subscription succeeds. -/
theorem listenedIn_eq (h : Subscribes transport route turns outcome next) :
  listenedIn turns = if outcome = .ok () then [route] else []
  := by
  have hinstalls := (Installation.ofRoute route).neverListens_install
  have hregisters := neverListens_register route
  cases h with
  | uninstalled h => simp [hinstalls.listenedIn_eq h]
  | unregistered hinstall hregister =>
      simp [listenedIn_append, hinstalls.listenedIn_eq hinstall,
        hregisters.listenedIn_eq hregister]
  | listening hinstall hregister =>
      rw [listenedIn_append, listenedIn_append, hinstalls.listenedIn_eq hinstall,
        hregisters.listenedIn_eq hregister]
      rfl

end Subscribes

end Transport

/-- What is put together from exchanges, queues and bindings is installed in one order and up to
the first failure, whose error names what failed: the first exchange of each name; the first
queue of each name, after its retry queue and its dead-letter queue; and every binding.  A
subscription does the same with its route and then with its registration, and it takes
deliveries, once, if and only if nothing failed. -/
theorem install_in_order_up_to_failure (additions : List Addition) (transport : Transport)
    (route : Route) :
  (∀ deeds outcome, Does (Installation.ofAdditions additions).install deeds outcome →
      Made
        (((additions.filterMap Addition.exchange?).eraseDupsBy (·.name == ·.name)).map
            Exchange.demand
          ++ ((additions.filterMap Addition.queue?).eraseDupsBy (·.name == ·.name)).flatMap
            Queue.demands
          ++ (additions.filterMap Addition.binding?).map Binding.demand)
        deeds outcome)
    ∧ ∀ turns outcome next, Course (transport.subscribe route) turns (outcome, next) →
      Made
        ((route.exchange.demand :: route.queue.demands ++ [route.binding.demand])
          ++ Transport.registration route)
        (deedsOf turns) outcome
      ∧ listenedIn turns = if outcome = .ok () then [route] else []
  := by
  constructor
  · intro deeds outcome h
    have hmade := Installation.makes_install _ deeds outcome h
    rwa [Installation.ofAdditions_eq] at hmade
  · intro turns outcome next h
    have hsubscribes := Transport.subscribes h
    have hmade := hsubscribes.made
    rw [Installation.demands_ofRoute] at hmade
    exact ⟨hmade, hsubscribes.listenedIn_eq⟩

/-- Replies of a broker that refuses some methods. -/
def refusing (refuses : Amqp.Method → Bool) : (question : Question) → Unit → question.Reply × Unit
  | .method method, _ => (!refuses method, ())
  | question, state => rejecting question state

/-- A queue for ticks that come again. -/
def patientTicks : Queue := (({ name := "ticks" } : Queue).withRetry 2000).withDeadLetters

/-- A queue and an exchange, each of which is added twice, and a binding. -/
def clockAdditions : List Addition :=
  [.queue patientTicks, .exchange { name := "clock" }, .queue { name := "ticks" },
    .exchange { name := "clock", durable := true }, .binding tickRoute.binding]

/-- Whether a method declares the queue of a name. -/
def declaresQueue (name : String) : Amqp.Method → Bool
  | .declareQueue queue _ _ _ _ _ _ => queue = name
  | _ => false

/-- Without its dead-letter queue the queue is not declared, and without the registration no
deliveries are taken. -/
theorem install_in_order_up_to_failure_clock :
  let refused := refusing (declaresQueue "ticks-dlq")
  let work := (Installation.ofAdditions clockAdditions).install
  let subscription := ({} : Transport).subscribe tickRoute
  Made
      ([({ name := "clock" } : Exchange).demand] ++ patientTicks.demands
        ++ [tickRoute.binding.demand])
      (deedsOf (work.history refused ())) (work.run refused ()).1
    ∧ (work.run refused ()).1 = .error (.declareQueue "ticks-dlq")
    ∧ (deedsOf (work.history refused ())).length = 3
    ∧ listenedIn (subscription.history refused ()) = []
  := by
  intro refused work subscription
  obtain ⟨hinstall, hsubscribe⟩ := install_in_order_up_to_failure clockAdditions {} tickRoute
  have hmade := hinstall _ _ ⟨_, course_history refused work (), rfl⟩
  obtain ⟨-, hlistened⟩ := hsubscribe _ _ _ (course_history refused subscription ())
  refine ⟨hmade, rfl, rfl, hlistened⟩

end AmqpBus.Broker
