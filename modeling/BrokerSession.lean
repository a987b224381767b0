import BrokerSession.Halt
import BrokerSession.Span
import BrokerSession.Binary64.Basic
import BrokerSession.Binary64.Shortest
import BrokerSession.Backoff
import BrokerSession.Partition
import BrokerSession.Offsets
import BrokerSession.Config
import BrokerSession.ClientConfig
import BrokerSession.Fault.Code
import BrokerSession.Fault.Basic
import BrokerSession.Fault.Class
import BrokerSession.Text.Utf8
import BrokerSession.Json.Value
import BrokerSession.Json.Read
import BrokerSession.Json.Write
import BrokerSession.Proc.Basic
import BrokerSession.Proc.Run
import BrokerSession.Broker.Event
import BrokerSession.Broker.Failure
import BrokerSession.Broker.Bus
import BrokerSession.Broker.Scripted
import BrokerSession.Cancel
import BrokerSession.Rebalance
import BrokerSession.World
import BrokerSession.Session.Wait
import BrokerSession.Session.Retry
import BrokerSession.Session.Rebalance
import BrokerSession.Session.Consumer
import BrokerSession.Session.Producer
import BrokerSession.Scenario.Basic
import BrokerSession.Scenario.Retry
import BrokerSession.Scenario.Await
import BrokerSession.Scenario.Rebalance
import BrokerSession.Scenario.Consumer
import BrokerSession.Scenario.Producer
import BrokerSession.Client.Numeral
import BrokerSession.Client.Property
import BrokerSession.Client.Setting
import BrokerSession.Client.Tls
import BrokerSession.Client.Creation
import BrokerSession.Client.Pattern
import BrokerSession.Client.Connection
import BrokerSession.Scenario.Client
import BrokerSession.Proofs.Fault.Wrap
import BrokerSession.Proofs.Offsets.Window
import BrokerSession.Proofs.Proc.Step
import BrokerSession.Proofs.Proc.Keeping
import BrokerSession.Proofs.Proc.Keeps
import BrokerSession.Proofs.Proc.Atomic
import BrokerSession.Proofs.Proc.Traced
import BrokerSession.Proofs.Proc.Until
import BrokerSession.Proofs.Broker.Bus
import BrokerSession.Proofs.Broker.Reads
import BrokerSession.Proofs.Retry.Attempts
import BrokerSession.Proofs.Retry.Run
import BrokerSession.Proofs.Session.Untouched
import BrokerSession.Proofs.Session.Pull
import BrokerSession.Proofs.Session.Consume
import BrokerSession.Proofs.Session.Pending
import BrokerSession.Proofs.Session.Bridge
import BrokerSession.Proofs.Session.Commit
import BrokerSession.Proofs.Session.Rollback
import BrokerSession.Proofs.Session.Origin
import BrokerSession.Proofs.Session.Stuck
import BrokerSession.Proofs.Cancel
import BrokerSession.Proofs.Rebalance.Timers
import BrokerSession.Proofs.Rebalance.Episodes
import BrokerSession.Proofs.Session.Precheck
import BrokerSession.Proofs.Session.Closed
import BrokerSession.Proofs.Backoff.Calls
import BrokerSession.Proofs.Retry.Delays
import BrokerSession.Proofs.Broker.Scan
import BrokerSession.Proofs.Proc.Prompt
import BrokerSession.Proofs.Session.Listen
import BrokerSession.Proofs.Session.Race
import BrokerSession.Proofs.Session.Connect
import BrokerSession.Proofs.Proc.Ends
import BrokerSession.Proofs.Session.Calm
import BrokerSession.Proofs.Session.Produce
import BrokerSession.Proofs.Binary64.Rounding
import BrokerSession.Proofs.Span.Seconds
import BrokerSession.Proofs.Session.Overflow
import BrokerSession.Proofs.Session.Calls
