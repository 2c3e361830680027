import Cloister.Directive.Form
import Cloister.Main
import Cloister.Sequencer
import Cloister.Session
import Cloister.Json.Reader
import Cloister.Proofs.Access.Entries
import Cloister.Proofs.Access.Preload
import Cloister.Proofs.Access.Emptied
import Cloister.Proofs.Access.Strict
import Cloister.Proofs.Access.Monotone
import Cloister.Proofs.Access.Denied
import Cloister.Proofs.Access.Readable
import Cloister.Proofs.Access.Unburied
import Cloister.Proofs.Access.Displays
import Cloister.Proofs.Access.Vocabulary
import Cloister.Proofs.Session.Complaints
import Cloister.Proofs.Session.History
import Cloister.Proofs.Sequencer
import Cloister.Proofs.Path.Reduction
import Cloister.Proofs.Access.Devices
import Cloister.Proofs.Access.Placement
import Cloister.Proofs.Policy.Canonical
import Cloister.Proofs.Access.Locality
import Cloister.Proofs.Access.Absolute
import Cloister.Proofs.Settings.Readings
import Cloister.Proofs.Bubblewrap.Gaps
import Cloister.Proofs.Log.Line
