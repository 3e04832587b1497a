import Templating.Config.Catalogue
import Templating.Loop.Observation
import Templating.Proofs.LockstepCode
import Templating.Render.Batch
import Templating.Session.Pool
import Templating.Proofs.LockstepOperations
import Templating.Proofs.Course
import Templating.Proofs.Keeping
import Templating.Proofs.Frames
import Templating.Proofs.Moment
import Templating.Proofs.Chains
import Templating.Proofs.Quiet
import Templating.Proofs.Inheritance
import Templating.Proofs.Reachable
import Templating.Proofs.Standalone
import Templating.Proofs.EscapedText
import Templating.Proofs.CleanValues
import Templating.Proofs.Escaping
import Templating.Proofs.Growth
import Templating.Proofs.ActiveBlock
import Templating.Proofs.Overrides
import Templating.Proofs.Isolation
import Templating.Proofs.Renumbering
import Templating.Proofs.Echo
import Templating.Proofs.EchoCode
import Templating.Proofs.Uncaught
import Templating.Proofs.Rerendering
import Templating.Proofs.UndefinedOutput
import Templating.Proofs.ModuleExports
import Templating.Proofs.Uncached
import Templating.Proofs.StrictPolicy
import Templating.Proofs.Candidates
import Templating.Proofs.Propagation
import Templating.Proofs.OptionalReferences
import Templating.Proofs.Silence
import Templating.Proofs.Truncation
import Templating.Proofs.LimitedSink
import Templating.Proofs.EscapingScope
import Templating.Proofs.LoopStack
import Templating.Proofs.FailedLookups
import Templating.Proofs.LoopProtocol
import Templating.Proofs.TakingApart
import Templating.Proofs.Destructuring
import Templating.Proofs.FilteredFrames
import Templating.Proofs.Addressing
import Templating.Proofs.SeparateIterations
import Templating.Proofs.EqualValues
import Templating.Proofs.VisibleVariables
import Templating.Proofs.Indexing
import Templating.Proofs.Renderings
import Templating.Proofs.RegistrationOrder
