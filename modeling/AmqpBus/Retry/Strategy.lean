import AmqpBus.Options.Basic

/-!
# Retry strategies

What is done with a message whose handler broke down: it is tried again at once in the
same process, or it goes back to the broker and comes again later.
-/

namespace AmqpBus

/-- Where the attempts after the first one are made. -/
inductive RetryPlace where
  | inProcess
  | requeue
  deriving DecidableEq

/-- How often and how far apart a failing message is tried again. -/
structure RetryStrategy where
  place : RetryPlace
  retries : UInt32
  interval : Time.Duration
  deriving DecidableEq

/-- The strategy that options ask for. -/
def Options.retryStrategy (options : Options) : RetryStrategy where
  place := if options.requeues then .requeue else .inProcess
  retries := options.retries
  interval := options.retryDelay

end AmqpBus
