import AmqpBus.Proofs.Route
import AmqpBus.Proofs.Ticks

/-!
# Queue names

Three sources can name the queue of a type outright: what the call says of the queue, what
it says of the exchange, and the registration.  They have to agree, and nothing else keeps a
type from having a route.  Where they say nothing, the queue is named by a convention or else
after the exchange and the type.  A suffix comes after whatever the name is.
-/

namespace AmqpBus.Naming

variable {naming : Naming} {descriptor : Descriptor} {override : Override} {route : Route}

/-- The sources that can name a queue outright, from the highest rank down. -/
def queueSources (descriptor : Descriptor) (override : Override) : List (Option String) :=
  [override.queue.name, override.exchange.queueName, descriptor.queueName]

theorem queueNames_eq (descriptor : Descriptor) (override : Override) :
  queueNames descriptor override = (queueSources descriptor override).filterMap id
  := rfl

theorem mem_queueNames_iff {name : String} :
  name ∈ queueNames descriptor override ↔ some name ∈ queueSources descriptor override
  := by
  rw [queueNames_eq, List.mem_filterMap]
  constructor
  · rintro ⟨_, hmem, rfl⟩
    apply hmem
  · intro hmem
    exact ⟨some name, hmem, rfl⟩

/-- The name of a queue before the suffix comes after it. -/
inductive QueueBase (naming : Naming) (descriptor : Descriptor) (override : Override) :
    String → Prop
  /-- A source names the queue outright. -/
  | given {name : String} (h : some name ∈ queueSources descriptor override) :
    QueueBase naming descriptor override name
  /-- No source does, and there is a convention for the type. -/
  | convention {name : String} (hgiven : ∀ source ∈ queueSources descriptor override, source = none)
      (h : (naming.options.convention? descriptor.fullName).bind (·.queueName) = some name) :
    QueueBase naming descriptor override name
  /-- Nobody names the queue. -/
  | standard (hgiven : ∀ source ∈ queueSources descriptor override, source = none)
      (h : (naming.options.convention? descriptor.fullName).bind (·.queueName) = none) :
    QueueBase naming descriptor override
      (naming.exchangeName descriptor override ++ "." ++ Text.slug descriptor.name)

theorem queueBase_getD (naming : Naming) (descriptor : Descriptor) (override : Override) :
  naming.QueueBase descriptor override
    (((queueNames descriptor override).head?.or
        ((naming.options.convention? descriptor.fullName).bind (·.queueName))).getD
      (naming.exchangeName descriptor override ++ "." ++ Text.slug descriptor.name))
  := by
  cases hhead : (queueNames descriptor override).head? with
  | some name =>
      apply QueueBase.given
      apply mem_queueNames_iff.mp (List.mem_of_mem_head? hhead)
  | none =>
      have hgiven : ∀ source ∈ queueSources descriptor override, source = none := by
        rw [List.head?_eq_none_iff, queueNames_eq, List.filterMap_eq_nil_iff] at hhead
        apply hhead
      cases hconvention : (naming.options.convention? descriptor.fullName).bind (·.queueName) with
      | some name => exact .convention hgiven hconvention
      | none => exact .standard hgiven hconvention

/-- The queue of a route is named by its sources, and then comes the suffix. -/
theorem exists_queueBase (h : naming.route descriptor override = .ok route) :
  ∃ base, naming.QueueBase descriptor override base
    ∧ (override.queue.suffix = none → route.queue.name = base)
    ∧ ∀ suffix, override.queue.suffix = some suffix → route.queue.name = base ++ "." ++ suffix
  := by
  refine ⟨_, naming.queueBase_getD descriptor override, ?_⟩
  rw [Naming.route, agreed_of_not_disagree (not_disagree_of_route h)] at h
  obtain rfl := Except.ok.inj h
  rw [← name_exchange]
  constructor
  · intro hnone
    dsimp only
    rw [hnone]
  · intro suffix hsuffix
    dsimp only
    rw [hsuffix]

/-- A type has no route exactly if two names of its queue disagree. -/
theorem exists_error_iff_disagree :
  (∃ error, naming.route descriptor override = .error error)
    ↔ ∃ first second, Disagree (queueNames descriptor override) first second
  := by
  constructor
  · rintro ⟨error, herror⟩
    by_contra hagree
    simp only [not_exists] at hagree
    obtain ⟨route, hroute⟩ : ∃ route, naming.route descriptor override = .ok route :=
      exists_route hagree
    rw [hroute] at herror
    contradiction
  · rintro ⟨first, second, hdisagree⟩
    exact ⟨_, route_of_disagree hdisagree⟩

/-- A type has no route exactly if two sources name different queues. -/
theorem exists_error_iff_sources :
  (∃ error, naming.route descriptor override = .error error)
    ↔ ∃ one other, some one ∈ queueSources descriptor override
      ∧ some other ∈ queueSources descriptor override ∧ one ≠ other
  := by
  rw [exists_error_iff_disagree, exists_disagree_iff]
  simp only [mem_queueNames_iff]

/-- The queue of a type is what its sources agree on.  There is no route exactly if two of the
three sources that can name the queue outright are there and differ; the error then tells of
the highest of them and of the first below it that differs.  Otherwise the queue has the name
that the sources give, or else the one of the convention, or else the one after the exchange
and the type, with the suffix after it if there is one.  Nothing but the three sources decides
whether there is a route. -/
theorem queue_named_by_sources (naming : Naming) (descriptor : Descriptor) (override : Override) :
  ((∃ error, naming.route descriptor override = .error error)
      ↔ ∃ one other, some one ∈ queueSources descriptor override
        ∧ some other ∈ queueSources descriptor override ∧ one ≠ other)
    ∧ (∀ error, naming.route descriptor override = .error error →
      ∃ first second, Disagree (queueNames descriptor override) first second
        ∧ error = .conflictingQueues descriptor.fullName first second)
    ∧ (∀ route, naming.route descriptor override = .ok route →
      ∃ base, naming.QueueBase descriptor override base
        ∧ (override.queue.suffix = none → route.queue.name = base)
        ∧ ∀ suffix, override.queue.suffix = some suffix →
          route.queue.name = base ++ "." ++ suffix)
    ∧ ∀ (naming' : Naming) (descriptor' : Descriptor) (override' : Override),
      queueSources descriptor' override' = queueSources descriptor override →
      ((∃ error, naming'.route descriptor' override' = .error error)
        ↔ ∃ error, naming.route descriptor override = .error error)
  := by
  refine ⟨exists_error_iff_sources, ?_, fun _ => exists_queueBase, ?_⟩
  · intro error herror
    obtain ⟨first, second, hdisagree⟩ := exists_error_iff_disagree.mp ⟨error, herror⟩
    use first, second, hdisagree
    rw [route_of_disagree hdisagree] at herror
    apply (Except.error.inj herror).symm
  · intro naming' descriptor' override' hsame
    rw [exists_error_iff_sources, exists_error_iff_sources, hsame]

/-- A tick whose registration names its queue. -/
def queuedTick : Descriptor :=
  { space := "clock", name := "Tick", role := .event, queueName := some "ticks" }

/-- A call that names the same queue for ticks once more and wants a queue of its own beside
it. -/
def ownTicks : Override where
  exchange := { queueName := some "ticks" }
  queue := { suffix := some "own" }

/-- Ticks have their queue where the sources agree.  Where they do not, the first two that
differ are told. -/
theorem queue_named_by_sources_ticks :
  (∃ route, clockNaming.route queuedTick ownTicks = .ok route ∧ route.queue.name = "ticks.own")
    ∧ clockNaming.route queuedTick { ownTicks with queue := { name := some "tocks" } }
      = .error (.conflictingQueues "clock.Tick" "tocks" "ticks")
  := by
  constructor
  · obtain ⟨hfails, -, hnamed, -⟩ := clockNaming.queue_named_by_sources queuedTick ownTicks
    cases hroute : clockNaming.route queuedTick ownTicks with
    | error error =>
        obtain ⟨one, other, hone, hother, hne⟩ := hfails.mp ⟨error, hroute⟩
        simp_all [queueSources, queuedTick, ownTicks]
    | ok route =>
        use route, rfl
        obtain ⟨base, hbase, -, hsuffix⟩ := hnamed route hroute
        rw [hsuffix "own" rfl]
        cases hbase with
        | given hgiven => simp_all [queueSources, queuedTick, ownTicks]
        | convention hnone _ => simp [queueSources, queuedTick, ownTicks] at hnone
        | standard hnone _ => simp [queueSources, queuedTick, ownTicks] at hnone
  · rfl

end AmqpBus.Naming
