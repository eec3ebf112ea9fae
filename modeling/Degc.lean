import Degc.Enforce.Isolation
import Degc.Enforce.Reachable
import Degc.Enforce.SetNames
import Degc.Plan.Dropped
import Degc.Plan.Partition
import Degc.Plan.Resolve
import Degc.Enforce.Lockout
import Degc.Enforce.Compile
import Degc.Enforce.Converge
import Degc.Enforce.Down
import Degc.Enforce.Floor
import Degc.Enforce.Foreign
import Degc.Enforce.Residue
import Degc.Plan.Default
import Degc.Plan.Order
import Degc.Enforce.Templates
import Degc.Enforce.DataPlane
import Degc.Enforce.HalfOpen
import Degc.Plan.Accounted
import Degc.Text.Blocks
import Degc.Enforce.Injective
import Degc.Reconcile
import Degc.Reconcile.Summary
import Degc.Reconcile.Loop
import Degc.Enforce.Masked
import Degc.Api.Knobs
import Degc.Enforce.NextHop
import Degc.Enforce.Intervals
import Degc.Enforce.Display
import Degc.Reconcile.Count
import Degc.Daemon.Heals
import Degc.Daemon.Logged
import Degc.Daemon.Status
import Degc.Daemon.Steady
import Degc.Plan.Frame
import Degc.Daemon.DryRun
import Degc.Enforce.Others
