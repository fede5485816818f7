import ShuffleWatch.Json.Contract
import ShuffleWatch.Json.Settings
import ShuffleWatch.Main
import ShuffleWatch.Session.Operation
import ShuffleWatch.Watch.Run
import ShuffleWatch.Proofs.Position.Latest
import ShuffleWatch.Proofs.Session.Facts
import ShuffleWatch.Proofs.Session.Account
import ShuffleWatch.Proofs.Session.Convergence
import ShuffleWatch.Proofs.Session.Requests
import ShuffleWatch.Proofs.Chain.Delivery
import ShuffleWatch.Proofs.Watch.Agreement
import ShuffleWatch.Proofs.Watch.Repetition
import ShuffleWatch.Proofs.Session.Promptness
import ShuffleWatch.Proofs.Chain.Exactness
import ShuffleWatch.Proofs.Contract.Ledger
import ShuffleWatch.Proofs.Contract.Rounds
import ShuffleWatch.Proofs.Chain.Holding
import ShuffleWatch.Proofs.Session.Currency
import ShuffleWatch.Proofs.Watch.Display
import ShuffleWatch.Proofs.Session.Course
import ShuffleWatch.Proofs.Session.Endings
import ShuffleWatch.Proofs.Session.Digest
import ShuffleWatch.Proofs.Session.Repeats
import ShuffleWatch.Proofs.Chain.Waiting
import ShuffleWatch.Proofs.Watch.Settling
import ShuffleWatch.Proofs.Watch.Attendance
import ShuffleWatch.Proofs.Json.Extent
import ShuffleWatch.Proofs.Text.Files
import ShuffleWatch.Proofs.Replay.Rehearsal
import ShuffleWatch.Proofs.Watch.Tracking
import ShuffleWatch.Proofs.Watch.Recovery
import ShuffleWatch.Proofs.Session.Integrity
import ShuffleWatch.Proofs.Session.Standing
import ShuffleWatch.Proofs.Session.Verdicts
import ShuffleWatch.Proofs.Replay.Direct
import ShuffleWatch.Proofs.Session.Placement
import ShuffleWatch.Proofs.Text.Deletion
import ShuffleWatch.Proofs.Replay.Noise
import ShuffleWatch.Proofs.Session.Renewal
import ShuffleWatch.Proofs.Watch.Service
import ShuffleWatch.Proofs.Chain.Freshness
import ShuffleWatch.Proofs.Replay.Fold
import ShuffleWatch.Proofs.Backoff.Delays
import ShuffleWatch.Proofs.Watch.Pace
import ShuffleWatch.Proofs.Text.Spelling
import ShuffleWatch.Proofs.Address.Grammar
import ShuffleWatch.Proofs.Event.Writing
import ShuffleWatch.Proofs.Contract.Encoding
import ShuffleWatch.Proofs.Json.RoundTrip
import ShuffleWatch.Proofs.Json.Structures
import ShuffleWatch.Proofs.Replay.Records
import ShuffleWatch.Proofs.Watch.Rest
import ShuffleWatch.Proofs.Watch.Effort
