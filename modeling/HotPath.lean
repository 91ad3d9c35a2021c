import HotPath.Config.Overrides
import HotPath.Config.Text
import HotPath.Lang.Lowering
import HotPath.Native.Sabotage
import HotPath.Proofs.Config.Layers
import HotPath.Proofs.Config.Overrides
import HotPath.Proofs.Config.Settings
import HotPath.Proofs.Config.Text
import HotPath.Proofs.Lang.Arithmetic
import HotPath.Proofs.Lang.Comparison
import HotPath.Proofs.Lang.Footprint
import HotPath.Proofs.Lang.WellFormed
import HotPath.Proofs.Native.Budget
import HotPath.Proofs.Native.RawCall
import HotPath.Proofs.Native.Selection
import HotPath.Proofs.Schedule.Order
import HotPath.Proofs.Schedule.Redraining
import HotPath.Proofs.Text.Blank
import HotPath.Proofs.Tier.Accounting
import HotPath.Proofs.Tier.Binding
import HotPath.Proofs.Tier.Bystanders
import HotPath.Proofs.Tier.Closures
import HotPath.Proofs.Tier.Coherence
import HotPath.Proofs.Tier.CompileOnce
import HotPath.Proofs.Tier.Confinement
import HotPath.Proofs.Tier.Draining
import HotPath.Proofs.Tier.Fitting
import HotPath.Proofs.Tier.Grouping
import HotPath.Proofs.Tier.HandleStates
import HotPath.Proofs.Tier.Independence
import HotPath.Proofs.Tier.Isolation
import HotPath.Proofs.Tier.Pinning
import HotPath.Proofs.Tier.Reduction
import HotPath.Proofs.Tier.Refusals
import HotPath.Proofs.Tier.Safety
import HotPath.Proofs.Tier.Statistics
import HotPath.Proofs.Tier.Threshold
import HotPath.Proofs.Tier.Transparency
import HotPath.Schedule.Script
import HotPath.Session.Memory
import HotPath.Session.Step
import HotPath.Tier.Run
