import Damocles.Batch.Types
import Damocles.Batch.Changes
import Damocles.Batch.Plan
import Damocles.Batch.Sealer
import Damocles.Batch.Polling
import Damocles.Batch.Exec
import Damocles.Batch.Driver
import Damocles.Batch.Progress
import Damocles.Batch.HappyRun
import Damocles.Batch.Turns
import Damocles.Batch.ReSubmit
import Damocles.Batch.Failures
import Damocles.Batch.Liveness
import Damocles.Fetcher.Http
