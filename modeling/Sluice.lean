import Sluice.Scenario.Run
import Sluice.Proofs.Waking.Writers
import Sluice.Proofs.Serving.Hits
import Sluice.Proofs.Writing.Captured
import Sluice.Transport.Tapped
import Sluice.Proofs.Sending.Dialogue
import Sluice.Proofs.Sending.Sections
import Sluice.Proofs.Sending.Layouts
import Sluice.Proofs.Sending.Exits
import Sluice.Proofs.Sending.TracedDispatch
import Sluice.Proofs.Caching.Recency
import Sluice.Proofs.Writing.Strokes
import Sluice.Proofs.Waking.Registrations
import Sluice.Proofs.Waking.Returned
import Sluice.Proofs.Waking.Owners
import Sluice.Proofs.Serving.Alone
import Sluice.Proofs.Sending.Refused
import Sluice.Proofs.Writing.TracedWrite
import Sluice.Proofs.Caching.Stored
import Sluice.Proofs.Writing.Effort
import Sluice.Proofs.Waking.Drains
import Sluice.Proofs.Serving.Failures
import Sluice.Proofs.Waking.Accounts
import Sluice.Proofs.Caching.Swept
import Sluice.Proofs.Pooling.Reuse
import Sluice.Proofs.Writing.RecordedReplay
import Sluice.Proofs.Loopback.History
import Sluice.Proofs.Loopback.Buffers
import Sluice.Proofs.Loopback.Preambles
import Sluice.Proofs.Waking.Timeouts
import Sluice.Proofs.Writing.Counters
