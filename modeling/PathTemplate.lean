import PathTemplate.Registry
import PathTemplate.Settings.File
import PathTemplate.Toml.Standard
import PathTemplate.Proofs.Mount.Expansion
import PathTemplate.Proofs.Mount.Missing
import PathTemplate.Proofs.Mount.Paths
import PathTemplate.Proofs.Pattern.Diagnosis
import PathTemplate.Proofs.Pattern.Expansion
import PathTemplate.Proofs.Mount.Composition
import PathTemplate.Proofs.Pattern.Normal
import PathTemplate.Proofs.Pattern.Source
import PathTemplate.Proofs.Bindings
import PathTemplate.Proofs.Pattern.Dependence
import PathTemplate.Proofs.Mount.Dependence
import PathTemplate.Proofs.Mount.Supply
import PathTemplate.Proofs.Mount.Change
import PathTemplate.Proofs.Mount.Defaults
import PathTemplate.Proofs.Mount.Ending
import PathTemplate.Proofs.Mount.Concatenation
import PathTemplate.Proofs.Registry.Lineage
import PathTemplate.Proofs.Pattern.Occurrence
import PathTemplate.Proofs.Pattern.Leaves
import PathTemplate.Proofs.Pattern.Monotonicity
import PathTemplate.Proofs.Pattern.Classification
import PathTemplate.Proofs.Path.NormalForm
import PathTemplate.Proofs.Path.Joining
import PathTemplate.Proofs.Pattern.Tokens
import PathTemplate.Proofs.Pattern.Reading
import PathTemplate.Proofs.Compilation
import PathTemplate.Proofs.Registry.Log
import PathTemplate.Proofs.Settings.Text
import PathTemplate.Proofs.Settings.File
