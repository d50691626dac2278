import BeanRegistry.Config.Settings
import BeanRegistry.Run
import BeanRegistry.Script
import BeanRegistry.Chain.Proxy
import BeanRegistry.Proofs.Run.Discipline
import BeanRegistry.Proofs.Run.Rules
import BeanRegistry.Proofs.Run.Unbounded
import BeanRegistry.Proofs.Run.Kept
import BeanRegistry.Proofs.Run.Watched
import BeanRegistry.Proofs.Run.Persistence
import BeanRegistry.Proofs.Run.Requests
import BeanRegistry.Proofs.Chain.Marked
import BeanRegistry.Proofs.Chain.Nesting
import BeanRegistry.Proofs.Chain.Passes
import BeanRegistry.Proofs.Chain.Rising
import BeanRegistry.Proofs.Chain.Forward
import BeanRegistry.Proofs.Factory.Known
import BeanRegistry.Proofs.Factory.Life
import BeanRegistry.Proofs.Factory.Product
import BeanRegistry.Proofs.Factory.Telling
import BeanRegistry.Proofs.Factory.Underway
import BeanRegistry.Proofs.Factory.Creation
import BeanRegistry.Proofs.Factory.Bookkeeping
import BeanRegistry.Proofs.Factory.Work
import BeanRegistry.Proofs.Factory.Descent
import BeanRegistry.Proofs.Registry.Assembly
import BeanRegistry.Proofs.Registry.References
import BeanRegistry.Proofs.Registry.Standing
import BeanRegistry.Proofs.Registry.Circles
import BeanRegistry.Proofs.Registry.Built
import BeanRegistry.Proofs.Registry.Confined
import BeanRegistry.Proofs.Registry.Ending
import BeanRegistry.Proofs.Registry.Outermost
import BeanRegistry.Proofs.Registry.Aliases
import BeanRegistry.Proofs.Registry.Causes
import BeanRegistry.Proofs.Registry.Families
import BeanRegistry.Proofs.Registry.Serving
import BeanRegistry.Proofs.Registry.Earlier
import BeanRegistry.Proofs.Registry.FirstHome
import BeanRegistry.Proofs.Registry.Synonyms
import BeanRegistry.Proofs.Chain.Entries
import BeanRegistry.Proofs.Registry.Bootstrap
import BeanRegistry.Proofs.Registry.Shares
import BeanRegistry.Proofs.Registry.Owners
import BeanRegistry.Proofs.Chain.Readiness
import BeanRegistry.Proofs.Chain.Typed
import BeanRegistry.Proofs.Chain.BeforeHooks
import BeanRegistry.Proofs.Factory.Bystanders
import BeanRegistry.Proofs.Registry.StartingOver
import BeanRegistry.Proofs.Text.Cutting
import BeanRegistry.Proofs.Text.Names
import BeanRegistry.Proofs.Text.AliasLists
import BeanRegistry.Proofs.Floating.Number
import BeanRegistry.Proofs.Value.Equality
import BeanRegistry.Proofs.Config.Loading
