import Transit.Wire.Number
import Transit.Wire.Reader
import Transit.Wire.Encode
import Transit.Ingest.FeedMeta
import Transit.Api.Decode
import Transit.Api.Agree
import Transit.Time.Montreal
import Transit.Ingest.Worker
import Transit.Ingest.Store
import Transit.Ingest.Malformed
import Transit.Ingest.Isolation
import Transit.Api.HotList
import Transit.Ingest.Race
import Transit.Aggregate.Upsert
import Transit.Wire.Progress
import Transit.Api.Termination
import Transit.Api.BadEntity
import Transit.Api.Position
import Transit.Api.Handlers
import Transit.Ingest.Retry
import Transit.Bronze.StaticWorker
import Transit.Bronze.LogJournal
import Transit.Bronze.Download
import Transit.Api.Freshness
import Transit.Bronze.CronStore
import Transit.Static.Pages
import Transit.Api.Historical
import Transit.Static.Shapes
