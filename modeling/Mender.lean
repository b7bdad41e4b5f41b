import Mender.Main
import Mender.Proofs.Syntax.Lower
import Mender.Proofs.Hotspot.Conflict
import Mender.Proofs.Hotspot.Capture
import Mender.Proofs.Variant.Identity
import Mender.Proofs.Variant.Nested
import Mender.Proofs.Search.Distinct
import Mender.Proofs.Search.Window
import Mender.Proofs.Variant.Closure
import Mender.Proofs.Command.Exit
import Mender.Proofs.Command.Restore
import Mender.Proofs.Variant.Resolution
import Mender.Proofs.Search.Supply
import Mender.Proofs.Search.Accounts
import Mender.Proofs.Diff.Patch
import Mender.Proofs.Syntax.Fault
import Mender.Proofs.Suite.Discovery
import Mender.Proofs.Diff.Paint
import Mender.Proofs.Report.Inventory
import Mender.Proofs.Command.Settings
import Mender.Proofs.Hotspot.Selector
import Mender.Proofs.Variant.FiniteMap
import Mender.Proofs.Diff.Shown
