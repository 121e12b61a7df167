import Wireform.Main
import Wireform.Session
import Wireform.ArtifactFile
import Wireform.Proofs.Generator.Escaping
import Wireform.Proofs.Generator.Marking
import Wireform.Proofs.Generator.UserText
import Wireform.Proofs.Generator.Wiring
import Wireform.Proofs.Generator.Arguments
import Wireform.Proofs.Generator.Closure
import Wireform.Proofs.Store.History
import Wireform.Proofs.Session.Dispatch
import Wireform.Proofs.Session.Saving
import Wireform.Proofs.Session.Sharing
import Wireform.Proofs.Artifact.PrefixCode
import Wireform.Proofs.Wire.RoundTrip
import Wireform.Proofs.Session.Relay
import Wireform.Proofs.CommandLine.Generation
import Wireform.Proofs.Generator.Dependence
import Wireform.Proofs.Generator.Connections
import Wireform.Proofs.Editor.Conversion
import Wireform.Proofs.Generator.References
import Wireform.Proofs.Generator.Setters
import Wireform.Proofs.Generator.Layout
import Wireform.Proofs.Generator.Features
import Wireform.Proofs.Syntax.Search
import Wireform.Proofs.Generator.Renaming
import Wireform.Proofs.Generator.Growth
import Wireform.Proofs.Mockup.Payload
import Wireform.Proofs.Mockup.ImageSize
import Wireform.Proofs.Compilation.Outcome
import Wireform.Proofs.Compilation.Confinement
import Wireform.Proofs.Generator.Names
import Wireform.Proofs.Editor.Spelling
