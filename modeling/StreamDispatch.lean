import StreamDispatch.Catalog.Codec
import StreamDispatch.Catalog.Course
import StreamDispatch.Catalog.Feed
import StreamDispatch.Catalog.Hall
import StreamDispatch.Catalog.Stream
import StreamDispatch.Catalog.Worker
import StreamDispatch.Cli.Grammar
import StreamDispatch.Cli.Parse
import StreamDispatch.Cli.Run
import StreamDispatch.Config
import StreamDispatch.Decimal.Shortest
import StreamDispatch.Directory.Basic
import StreamDispatch.Directory.Due
import StreamDispatch.Directory.Seed
import StreamDispatch.Directory.Table
import StreamDispatch.Failure
import StreamDispatch.Json.Decode
import StreamDispatch.Json.Parse
import StreamDispatch.Json.Scan
import StreamDispatch.Json.Value
import StreamDispatch.Main
import StreamDispatch.Net.Idna
import StreamDispatch.Net.Idna.Table
import StreamDispatch.Net.SocketAddr
import StreamDispatch.Net.Uri
import StreamDispatch.Net.Url
import StreamDispatch.Node.Basic
import StreamDispatch.Node.Dashboard
import StreamDispatch.Node.Events
import StreamDispatch.Node.Lifecycle
import StreamDispatch.Node.Peers
import StreamDispatch.Node.Schedule
import StreamDispatch.Node.Store
import StreamDispatch.Node.View
import StreamDispatch.Proofs.Balance
import StreamDispatch.Proofs.Batches
import StreamDispatch.Proofs.CallEffects
import StreamDispatch.Proofs.CheckOrder
import StreamDispatch.Proofs.Clock
import StreamDispatch.Proofs.DueListing
import StreamDispatch.Proofs.FailedCalls
import StreamDispatch.Proofs.HallLights
import StreamDispatch.Proofs.LastWrite
import StreamDispatch.Proofs.Ledger
import StreamDispatch.Proofs.LiveEvents
import StreamDispatch.Proofs.LostSilences
import StreamDispatch.Proofs.Process
import StreamDispatch.Proofs.ProgressFrames
import StreamDispatch.Proofs.RepeatedRuns
import StreamDispatch.Proofs.SeedLoading
import StreamDispatch.Proofs.SelfStream
import StreamDispatch.Proofs.Store
import StreamDispatch.Proofs.TaskPool
import StreamDispatch.Proofs.WindowCap
import StreamDispatch.Proofs.WindowOverflow
import StreamDispatch.Schedule.Job
import StreamDispatch.Schedule.LeastLoaded
import StreamDispatch.Text.BidiClass
import StreamDispatch.Text.Blank
import StreamDispatch.Text.NormalForm
import StreamDispatch.Text.Percent
import StreamDispatch.Text.Printing
import StreamDispatch.Text.Punycode
import StreamDispatch.Text.Quoted
import StreamDispatch.Text.Similarity
import StreamDispatch.Time.Civil
import StreamDispatch.Time.Duration
import StreamDispatch.Time.Instant
import StreamDispatch.Time.Rfc3339
