import ModuleLoader.Main
import ModuleLoader.Proofs.Compile.Once
import ModuleLoader.Proofs.Evaluation.Once
import ModuleLoader.Proofs.Evaluation.Anchor
import ModuleLoader.Proofs.Evaluation.Endless
import ModuleLoader.Proofs.Search.Entries
import ModuleLoader.Proofs.Search.History
import ModuleLoader.Proofs.Evaluation.Stack
import ModuleLoader.Proofs.Path.Clean
import ModuleLoader.Proofs.Search.Files
import ModuleLoader.Proofs.Evaluation.Walk
import ModuleLoader.Proofs.Compile.Batch
import ModuleLoader.Proofs.Evaluation.Bases
import ModuleLoader.Proofs.Evaluation.Spelling
import ModuleLoader.Proofs.Compile.Failure
import ModuleLoader.Proofs.Search.Stable
import ModuleLoader.Proofs.Search.LocalFiles
import ModuleLoader.Proofs.Search.Served
import ModuleLoader.Proofs.Archive.Directory
import ModuleLoader.Proofs.Evaluation.Form
import ModuleLoader.Proofs.Search.Streams
import ModuleLoader.Proofs.Compile.Bundled
import ModuleLoader.Proofs.Resource.ByUrl
import ModuleLoader.Proofs.Archive.Within
import ModuleLoader.Proofs.Resource.Directory
import ModuleLoader.Proofs.Resource.Exploded
import ModuleLoader.Proofs.Path.Place
import ModuleLoader.Proofs.Reference.Logical
import ModuleLoader.Proofs.Diagnostic
import ModuleLoader.Proofs.Diagnostic.Text
import ModuleLoader.Proofs.Archive.Added
import ModuleLoader.Proofs.Diagnostic.Sentinel
