import CatchAll.Main
import CatchAll.Naming.Members
import CatchAll.Proofs.Command.Agreement
import CatchAll.Proofs.Command.Notices
import CatchAll.Proofs.Config.Resolution
import CatchAll.Proofs.Documentation
import CatchAll.Proofs.LanguageAgreement
import CatchAll.Proofs.ModuleContents
import CatchAll.Proofs.Naming.Collisions
import CatchAll.Proofs.Naming.FixedPoints
import CatchAll.Proofs.Naming.FreshRuns
import CatchAll.Proofs.Naming.Memory
import CatchAll.Proofs.Naming.Passes
import CatchAll.Proofs.Naming.Stability
import CatchAll.Proofs.PrettyPrinting
import CatchAll.Proofs.Registry.History
import CatchAll.Proofs.Registry.Untouched
import CatchAll.Proofs.SharedDefinitions
import CatchAll.Proofs.Target.Assembly
import CatchAll.Proofs.Target.CallOrder
import CatchAll.Proofs.Target.FutureVariant
import CatchAll.Proofs.Target.PlaceholderSearch
import CatchAll.Proofs.Target.PythonDocstring
import CatchAll.Proofs.Target.PythonRoundTrip
import CatchAll.Proofs.Target.PythonTypeNames
import CatchAll.Proofs.Target.RustAnnouncement
import CatchAll.Proofs.Target.RustDocumentation
import CatchAll.Proofs.Target.RustFunctions
import CatchAll.Proofs.Target.RustModuleNames
import CatchAll.Proofs.Target.RustRoundTrip
import CatchAll.Proofs.TypeClashes
import CatchAll.Proofs.ValidationAgreement
import CatchAll.Target.Presets
