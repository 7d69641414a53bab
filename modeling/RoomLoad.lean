import RoomLoad.Channel.Socket
import RoomLoad.Channel.Direct
import RoomLoad.Config.Arguments
import RoomLoad.Config.Environment
import RoomLoad.Config.Validity
import RoomLoad.Correlator
import RoomLoad.Decimal.Reading
import RoomLoad.Decimal.Style
import RoomLoad.Generator
import RoomLoad.Main
import RoomLoad.Message.Kind
import RoomLoad.Message.Tag
import RoomLoad.Pool.Calls
import RoomLoad.Probe.Run
import RoomLoad.Program
import RoomLoad.Proofs.Correlation.History
import RoomLoad.Proofs.Correlation.Retries
import RoomLoad.Proofs.Delivery.Disposition
import RoomLoad.Proofs.Handoff.Feed
import RoomLoad.Proofs.Wire.RoundTrip
import RoomLoad.Report.Document
import RoomLoad.Report.Lines
import RoomLoad.Run.MainPhase
import RoomLoad.Warmup.Tasks
import RoomLoad.Worker.Crew
import RoomLoad.Proofs.Handoff.Steps
import RoomLoad.Proofs.Handoff.Stream
import RoomLoad.Proofs.Handoff.Books
import RoomLoad.Proofs.Handoff.Ending
import RoomLoad.Proofs.Handoff.Accounting
import RoomLoad.Proofs.Handoff.Locking
import RoomLoad.Proofs.Handoff.Completion
import RoomLoad.Proofs.Handoff.Liveliness
import RoomLoad.Proofs.Pool.Clients
import RoomLoad.Proofs.Pool.Errands
import RoomLoad.Proofs.Pool.Flights
import RoomLoad.Proofs.Pool.Singleness
import RoomLoad.Proofs.Stats.Arrival
import RoomLoad.Proofs.Shutdown.Promptness
import RoomLoad.Proofs.Handoff.Staff
import RoomLoad.Proofs.Shutdown.Winding
import RoomLoad.Proofs.Shutdown.Stopping
import RoomLoad.Proofs.Loss.Service
import RoomLoad.Proofs.Loss.FirstTries
import RoomLoad.Proofs.Faultless.Traffic
import RoomLoad.Proofs.Faultless.Passage
import RoomLoad.Proofs.Faultless.Channels
import RoomLoad.Proofs.Faultless.Echoes
import RoomLoad.Proofs.Faultless.Return
import RoomLoad.Proofs.Faultless.Rounds
import RoomLoad.Proofs.Faultless.Measuring
import RoomLoad.Proofs.Probe.Echoes
import RoomLoad.Proofs.Probe.Turns
import RoomLoad.Proofs.Probe.Verdict
import RoomLoad.Proofs.Probe.Accuracy
import RoomLoad.Proofs.Probe.Reuse
import RoomLoad.Proofs.Delivery.Dockets
import RoomLoad.Proofs.Drain.Looks
import RoomLoad.Proofs.Drain.Timing
import RoomLoad.Proofs.Drain.Outcome
import RoomLoad.Proofs.Drain.Admission
import RoomLoad.Proofs.Shutdown.Production
import RoomLoad.Proofs.Warmup.Tallies
import RoomLoad.Proofs.Pool.Atomicity
import RoomLoad.Proofs.Wire.Tags
import RoomLoad.Proofs.Wire.Frames
import RoomLoad.Proofs.Stats.Partitions
import RoomLoad.Proofs.Delivery.Backoff
import RoomLoad.Proofs.Config.Acceptance
import RoomLoad.Proofs.Delivery.Reckoning
import RoomLoad.Proofs.Config.Arguments
import RoomLoad.Proofs.Config.Environment
import RoomLoad.Proofs.Stats.Percentiles
import RoomLoad.Proofs.Config.Addresses
import RoomLoad.Proofs.Config.Configured
import RoomLoad.Proofs.Config.Concurrency
import RoomLoad.Proofs.Drain.Deadlines
import RoomLoad.Proofs.Channel.Counters
import RoomLoad.Proofs.Simulation.Systems
