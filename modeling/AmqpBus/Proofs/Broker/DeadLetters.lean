import AmqpBus.Proofs.Broker.Demands
import AmqpBus.Proofs.Broker.Settlement

/-!
# Where dead letters lead

A queue that is put together from a name and has a retry queue sends its dead letters
there, and the retry queue sends them back when their time there is over.  A queue with
only a queue for dead letters sends them to it, and from there nothing goes anywhere.  No
argument of the user can change this, and all other arguments reach the broker as they were
given.
-/

namespace AmqpBus

open Amqp (Field Scalar Table)
open Broker

/-! ### Queues that are put together -/

namespace Queue

/-- The queues that can be put together from a name, call by call. -/
inductive Built (name : String) : Queue → Prop
  | new : Built name { name }
  | durable {queue : Queue} (h : Built name queue) (durable : Bool) :
      Built name { queue with durable }
  | autoDelete {queue : Queue} (h : Built name queue) (autoDelete : Bool) :
      Built name { queue with autoDelete }
  | exclusive {queue : Queue} (h : Built name queue) :
      Built name { queue with exclusive := true }
  | ttl {queue : Queue} (h : Built name queue) (ttl : Int32) :
      Built name { queue with ttl := some ttl }
  | maxLength {queue : Queue} (h : Built name queue) (count : Int32) :
      Built name { queue with maxLength := some count }
  | arguments {queue : Queue} (h : Built name queue) (arguments : Amqp.Arguments) :
      Built name (queue.withArguments arguments)
  | deadLetters {queue : Queue} (h : Built name queue) : Built name queue.withDeadLetters
  | retry {queue : Queue} (h : Built name queue) (ttl : Int32) : Built name (queue.withRetry ttl)

/-- What calls leave as it is: the name, the flags that no call sets, and that companions
are named after the queue. -/
structure Regular (name : String) (queue : Queue) : Prop where
  name_eq : queue.name = name
  passive_eq : queue.passive = false
  noWait_eq : queue.noWait = false
  retry_eq : ∀ retry ttl, queue.retry = some (retry, ttl) → retry = name ++ "-retry"
  deadLetters_eq : ∀ target, queue.deadLetters = some target → target = name ++ "-dlq"

theorem Built.regular {name : String} {queue : Queue} (h : Built name queue) :
  queue.Regular name
  := by
  induction h with
  | new => exact ⟨rfl, rfl, rfl, fun _ _ h => absurd h nofun, fun _ h => absurd h nofun⟩
  | durable _ _ ih => exact { ih with }
  | autoDelete _ _ ih => exact { ih with }
  | exclusive _ ih => exact { ih with }
  | ttl _ _ ih => exact { ih with }
  | maxLength _ _ ih => exact { ih with }
  | arguments _ _ ih => exact { ih with }
  | deadLetters _ ih =>
      refine { ih with deadLetters_eq := ?_ }
      rintro target ⟨⟩
      rw [ih.name_eq]
  | retry _ _ ih =>
      refine { ih with retry_eq := ?_ }
      rintro retry ttl ⟨⟩
      rw [ih.name_eq]

/-! ### Arguments of queues -/

/-- The arguments of a queue send its dead letters to the queue of a name, by way of the
default exchange. -/
structure LeadsTo (arguments : Table) (target : String) : Prop where
  exchange : arguments.get? deadLetterExchangeArgument = some (.longString "".toUTF8)
  key : arguments.get? deadLetterKeyArgument = some (.longString target.toUTF8)

/-- The keys under which the declaration of a queue holds something other than what the user
gave: those of its limits, and those for dead letters if it has a companion. -/
def Overwrites (queue : Queue) (key : String) : Prop :=
  (key = ttlArgument ∧ queue.ttl.isSome) ∨ (key = maxLengthArgument ∧ queue.maxLength.isSome)
    ∨ ((key = deadLetterExchangeArgument ∨ key = deadLetterKeyArgument)
      ∧ (queue.retry.isSome ∨ queue.deadLetters.isSome))

theorem get?_withNumber {table : Table} {name key : String} {value : Option Int32}
    (h : key = name → value = none) :
  (withNumber table name value).get? key = table.get? key
  := by
  cases value with
  | none => rfl
  | some n =>
      have hne : key ≠ name := fun heq => absurd (h heq) nofun
      rw [withNumber, Option.elim_some, Dictionary.get?_insert, if_neg hne]

theorem get?_withNumber_some (table : Table) (name : String) (n : Int32) :
  (withNumber table name (some n)).get? name = some (.int32 n)
  := by
  rw [withNumber, Option.elim_some, Dictionary.get?_insert, if_pos rfl]

theorem leadsTo_deadLetterArguments (target : String) :
  LeadsTo (deadLetterArguments target) target
  := by
  constructor
  · rw [deadLetterArguments, Dictionary.get?_insert, if_neg (by decide), Dictionary.get?_insert,
      if_pos rfl]
  · rw [deadLetterArguments, Dictionary.get?_insert, if_pos rfl]

theorem get?_deadLetterArguments {key : String} (hexchange : key ≠ deadLetterExchangeArgument)
    (hkey : key ≠ deadLetterKeyArgument) (target : String) :
  (deadLetterArguments target).get? key = none
  := by
  rw [deadLetterArguments, Dictionary.get?_insert, if_neg hkey, Dictionary.get?_insert,
    if_neg hexchange, Dictionary.get?_empty]

/-- What leads somewhere is not led astray by what stands below it. -/
theorem LeadsTo.overlay {arguments : Table} {target : String} (h : LeadsTo arguments target)
    (given : Table) :
  LeadsTo (given.overlay arguments) target
  := by
  constructor
  · rw [Dictionary.get?_overlay, h.exchange, Option.some_or]
  · rw [Dictionary.get?_overlay, h.key, Option.some_or]

theorem LeadsTo.withNumber {arguments : Table} {target : String} (h : LeadsTo arguments target)
    {name : String} (hexchange : deadLetterExchangeArgument ≠ name)
    (hkey : deadLetterKeyArgument ≠ name) (value : Option Int32) :
  LeadsTo (withNumber arguments name value) target
  := by
  constructor
  · rw [get?_withNumber fun heq => absurd heq hexchange, h.exchange]
  · rw [get?_withNumber fun heq => absurd heq hkey, h.key]

variable {queue : Queue}

/-- Whatever the user gave, the dead letters of a queue go where they are to go. -/
theorem leadsTo_declaredArguments {target : String} (h : queue.deadLetterTarget? = some target) :
  LeadsTo queue.declaredArguments target
  := by
  rw [declaredArguments, h]
  apply LeadsTo.withNumber _ (by decide) (by decide)
  apply LeadsTo.withNumber _ (by decide) (by decide)
  apply (leadsTo_deadLetterArguments target).overlay

theorem get?_ttl_declaredArguments {ttl : Int32} (h : queue.ttl = some ttl) :
  queue.declaredArguments.get? ttlArgument = some (.int32 ttl)
  := by
  rw [declaredArguments, get?_withNumber fun heq => absurd heq (by decide), h,
    get?_withNumber_some]

theorem get?_maxLength_declaredArguments {count : Int32} (h : queue.maxLength = some count) :
  queue.declaredArguments.get? maxLengthArgument = some (.int32 count)
  := by
  rw [declaredArguments, h, get?_withNumber_some]

/-- What the user gave under a key that is not needed is declared as it was given. -/
theorem get?_declaredArguments {key : String} (h : ¬queue.Overwrites key) :
  queue.declaredArguments.get? key = (queue.arguments.get? key).map Scalar.field
  := by
  have httl : key = ttlArgument → queue.ttl = none := by
    intro hkey
    apply Option.not_isSome_iff_eq_none.mp
    intro hsome
    apply h (.inl ⟨hkey, hsome⟩)
  have hmaxLength : key = maxLengthArgument → queue.maxLength = none := by
    intro hkey
    apply Option.not_isSome_iff_eq_none.mp
    intro hsome
    apply h (.inr (.inl ⟨hkey, hsome⟩))
  rw [declaredArguments, get?_withNumber hmaxLength, get?_withNumber httl]
  cases htarget : queue.deadLetterTarget? with
  | none => apply Dictionary.get?_map
  | some target =>
      have hcompanion : queue.retry.isSome ∨ queue.deadLetters.isSome := by
        cases hretry : queue.retry with
        | some retry =>
            left
            rfl
        | none =>
            right
            rw [deadLetterTarget?, hretry, Option.map_none, Option.none_or] at htarget
            rw [htarget, Option.isSome_some]
      have hexchange : key ≠ deadLetterExchangeArgument := fun heq =>
        h (.inr (.inr ⟨.inl heq, hcompanion⟩))
      have hkey : key ≠ deadLetterKeyArgument := fun heq =>
        h (.inr (.inr ⟨.inr heq, hcompanion⟩))
      rw [Option.elim_some, Dictionary.get?_overlay, get?_deadLetterArguments hexchange hkey,
        Option.none_or]
      apply Dictionary.get?_map

/-! ### Companions -/

theorem leadBack_eq (name : String) (ttl : Int32) :
  leadBack name ttl = withNumber (deadLetterArguments name) ttlArgument (some ttl)
  := rfl

theorem leadsTo_leadBack (name : String) (ttl : Int32) :
  LeadsTo (leadBack name ttl) name
  := by
  rw [leadBack_eq]
  apply (leadsTo_deadLetterArguments name).withNumber (by decide) (by decide)

theorem get?_ttl_leadBack (name : String) (ttl : Int32) :
  (leadBack name ttl).get? ttlArgument = some (.int32 ttl)
  := by
  rw [leadBack_eq, get?_withNumber_some]

/-- The companions of a queue that is put together from a name. -/
theorem Regular.companions_eq {name : String} (h : queue.Regular name) :
  queue.companions
    = (queue.retry.toList.map fun retry =>
        queue.demandFor (name ++ "-retry") (leadBack name retry.2))
      ++ queue.deadLetters.toList.map fun _ => queue.demandFor (name ++ "-dlq") ∅
  := by
  have hretry : (queue.retry.toList.map fun retry =>
      queue.demandFor retry.1 (leadBack queue.name retry.2))
        = queue.retry.toList.map fun retry =>
          queue.demandFor (name ++ "-retry") (leadBack name retry.2) := by
    apply List.map_congr_left
    intro retry hmem
    rw [h.retry_eq _ _ (Option.mem_toList.mp hmem), h.name_eq]
  have hdeadLetters : (queue.deadLetters.toList.map fun target => queue.demandFor target ∅)
      = queue.deadLetters.toList.map fun _ => queue.demandFor (name ++ "-dlq") ∅ := by
    apply List.map_congr_left
    intro target hmem
    rw [h.deadLetters_eq _ (Option.mem_toList.mp hmem)]
  rw [companions, hretry, hdeadLetters]

theorem Regular.demandFor_eq {name : String} (h : queue.Regular name) (target : String)
    (arguments : Table) :
  queue.demandFor target arguments
    = ⟨.declareQueue target false queue.durable queue.exclusive queue.autoDelete false arguments,
        .declareQueue target⟩
  := by
  rw [demandFor, h.passive_eq, h.noWait_eq]

end Queue

namespace Broker

/-- The demands for a queue stand together among those of an installation. -/
theorem Installation.exists_demands_eq {installation : Installation} {queue : Queue}
    (h : queue ∈ installation.queues) :
  ∃ before after, installation.demands = before ++ queue.demands ++ after
  := by
  obtain ⟨earlier, later, hqueues⟩ := List.append_of_mem h
  use installation.exchanges.map Exchange.demand ++ earlier.flatMap Queue.demands,
    later.flatMap Queue.demands ++ installation.bindings.map Binding.demand
  rw [Installation.demands, hqueues, List.flatMap_append, List.flatMap_cons]
  simp only [List.append_assoc]

/-- The dead letters of a queue lead where they should.  Among the demands of an
installation are those for its queues, the one for a queue right after those for its
companions.  The queue leads to its retry queue, which leads back when its time is over; or
else it leads to the queue for dead letters, which is declared without arguments.  What the
user gave under other keys is declared as it was given, and nothing is added. -/
theorem install_leads_dead_letters {name : String} {queue : Queue}
    (hbuilt : Queue.Built name queue) {installation : Installation}
    (hqueue : queue ∈ installation.queues) {deeds : List Deed}
    {outcome : Except BrokerError Unit} (h : Does installation.install deeds outcome) :
  ∃ (before after : List Demand) (arguments : Table),
    let declaring (target : String) (arguments : Table) : Demand :=
      ⟨.declareQueue target false queue.durable queue.exclusive queue.autoDelete false arguments,
        .declareQueue target⟩
    let companions : List Demand :=
      (queue.retry.toList.map fun retry =>
          declaring (name ++ "-retry") (Queue.leadBack name retry.2))
        ++ queue.deadLetters.toList.map fun _ => declaring (name ++ "-dlq") ∅
    Made (before ++ companions ++ declaring name arguments :: after) deeds outcome
      ∧ ((∃ error, outcome = .error error ∧ Made (before ++ companions) deeds (.error error))
        ∨ ∃ success later, deeds = (before ++ companions).map Demand.met
            ++ .method (declaring name arguments).method success :: later)
      ∧ (∀ retry ttl, queue.retry = some (retry, ttl) →
          Queue.LeadsTo arguments (name ++ "-retry")
            ∧ Queue.LeadsTo (Queue.leadBack name ttl) name
            ∧ (Queue.leadBack name ttl).get? ttlArgument = some (.int32 ttl))
      ∧ (queue.retry = none → queue.deadLetters.isSome →
          Queue.LeadsTo arguments (name ++ "-dlq"))
      ∧ (∀ ttl, queue.ttl = some ttl → arguments.get? ttlArgument = some (.int32 ttl))
      ∧ (∀ count, queue.maxLength = some count →
          arguments.get? maxLengthArgument = some (.int32 count))
      ∧ ∀ key, ¬queue.Overwrites key →
          arguments.get? key = (queue.arguments.get? key).map Scalar.field
  := by
  have hregular := hbuilt.regular
  obtain ⟨before, after, hdemands⟩ := Installation.exists_demands_eq hqueue
  have hmade := Installation.makes_install installation deeds outcome h
  rw [hdemands, Queue.demands, ← queue.declaredArguments_eq, hregular.name_eq,
    hregular.companions_eq, List.append_assoc, List.append_assoc, ← List.append_assoc,
    List.singleton_append] at hmade
  simp only [hregular.demandFor_eq] at hmade
  use before, after, queue.declaredArguments
  intro declaring companions
  refine ⟨hmade, hmade.cases_cons, ?_, ?_, fun ttl => Queue.get?_ttl_declaredArguments,
    fun count => Queue.get?_maxLength_declaredArguments,
    fun key => Queue.get?_declaredArguments⟩
  · intro retry ttl hretry
    refine ⟨?_, Queue.leadsTo_leadBack name ttl, Queue.get?_ttl_leadBack name ttl⟩
    apply Queue.leadsTo_declaredArguments
    rw [Queue.deadLetterTarget?, hretry, hregular.retry_eq retry ttl hretry]
    rfl
  · intro hretry hsome
    obtain ⟨target, htarget⟩ := Option.isSome_iff_exists.mp hsome
    apply Queue.leadsTo_declaredArguments
    rw [Queue.deadLetterTarget?, hretry, htarget, hregular.deadLetters_eq target htarget]
    rfl

/-- A queue for ticks whose user wants its dead letters elsewhere, and at once. -/
def stubbornTicks : Queue :=
  ((({ name := "ticks" } : Queue).withArguments (Dictionary.ofList
    [(deadLetterExchangeArgument, .longString "elsewhere"), (ttlArgument, .int32 1),
      ("x-queue-type", .longString "quorum")])).withRetry 2000).withDeadLetters

/-- The dead letters of the queue go to its retry queue all the same, and back. -/
theorem install_leads_dead_letters_stubbornTicks :
  Queue.Built "ticks" stubbornTicks
    ∧ ∃ (before : List Demand) (arguments : Table) (success : Bool) (later : List Deed),
      deedsOf (({ queues := [stubbornTicks] } : Installation).install.history rejecting ())
        = before.map Demand.met
          ++ [.method (.declareQueue "ticks-retry" false false false false false
                (Queue.leadBack "ticks" 2000)) true,
              .method (.declareQueue "ticks-dlq" false false false false false ∅) true,
              .method (.declareQueue "ticks" false false false false false arguments) success]
          ++ later
      ∧ Queue.LeadsTo arguments "ticks-retry"
      ∧ arguments.get? "x-queue-type" = some (.longString "quorum".toUTF8)
  := by
  have hbuilt : Queue.Built "ticks" stubbornTicks :=
    ((Queue.Built.new.arguments _).retry _).deadLetters
  have hcourse := Interaction.course_history rejecting
    ({ queues := [stubbornTicks] } : Installation).install ()
  obtain ⟨before, after, arguments, -, horder, hretry, -, -, -, hgiven⟩ :=
    install_leads_dead_letters hbuilt (List.mem_singleton_self _) ⟨_, hcourse, rfl⟩
  refine ⟨hbuilt, before, arguments, ?_⟩
  obtain ⟨error, herror, -⟩ | ⟨success, later, hdeeds⟩ := horder
  · contradiction
  · use success, later
    refine ⟨?_, (hretry "ticks-retry" 2000 rfl).1, ?_⟩
    · rw [hdeeds, List.map_append]
      simp [Demand.met, stubbornTicks, Queue.withDeadLetters, Queue.withRetry, Queue.withArguments]
    · apply hgiven "x-queue-type"
      rintro (⟨hkey, -⟩ | ⟨hkey, -⟩ | ⟨hkey | hkey, -⟩)
      all_goals exact absurd hkey (by decide)

end Broker

end AmqpBus
