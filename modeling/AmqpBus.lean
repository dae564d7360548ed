import AmqpBus.Broker.Connection
import AmqpBus.Broker.Consumption
import AmqpBus.Broker.Transport
import AmqpBus.Json.Real
import AmqpBus.Options.Json
import AmqpBus.Options.Load
import AmqpBus.Proofs.Broker.Carrying
import AmqpBus.Proofs.Broker.DeadLetters
import AmqpBus.Proofs.Broker.Parking
import AmqpBus.Proofs.Naming.ErrorExchange
import AmqpBus.Proofs.Retry.Cancellation
import AmqpBus.Proofs.Retry.Compensation
import AmqpBus.Proofs.Retry.Exclusion
import AmqpBus.Proofs.Retry.Overflow
import AmqpBus.Rehearsal.Thread
import AmqpBus.Subscription.Bulk
import AmqpBus.Proofs.Publishing
import AmqpBus.Proofs.Naming.Meeting
import AmqpBus.Proofs.Naming.Namesakes
import AmqpBus.Proofs.Persistence
import AmqpBus.Proofs.Broker.Declared
import AmqpBus.Proofs.Subscribing
import AmqpBus.Proofs.Broker.Deaths
import AmqpBus.Proofs.Naming.QueueNames
import AmqpBus.Proofs.Naming.Precedence
import AmqpBus.Proofs.Bulk
import AmqpBus.Proofs.Registering
import AmqpBus.Proofs.Text.Joining
import AmqpBus.Proofs.Options.Fields
import AmqpBus.Proofs.Settings.Laying
import AmqpBus.Proofs.Settings.Variables
import AmqpBus.Proofs.Options.Loading
import AmqpBus.Proofs.Naming.Conventions
import AmqpBus.Proofs.Broker.Limits
import AmqpBus.Proofs.Handling
import AmqpBus.Proofs.Options.Alike
import AmqpBus.Proofs.Options.Layers
import AmqpBus.Proofs.Recording
import AmqpBus.Proofs.Options.Defaults
import AmqpBus.Proofs.Options.Address
