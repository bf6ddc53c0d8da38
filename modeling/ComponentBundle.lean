import ComponentBundle.CommandLine
import ComponentBundle.Main
import ComponentBundle.Proofs.Markup.Discovery
import ComponentBundle.Proofs.Script.Transpiled
import ComponentBundle.Proofs.Walk.Buffer
import ComponentBundle.Proofs.Walk.EntryOptions
import ComponentBundle.Proofs.Walk.EntryScript
import ComponentBundle.Proofs.Walk.Locality
import ComponentBundle.Proofs.Walk.ModuleDirectory
import ComponentBundle.Proofs.Walk.OneScript
import ComponentBundle.Proofs.Walk.Repetition
import ComponentBundle.Proofs.Walk.Sibling
import ComponentBundle.Proofs.Walk.Termination
import ComponentBundle.Proofs.Bundle.Omission
import ComponentBundle.Proofs.Walk.Runtime
import ComponentBundle.Proofs.Walk.Unvisited
import ComponentBundle.Proofs.Markup.Stripped
import ComponentBundle.Proofs.Markup.Hoisted
import ComponentBundle.Proofs.Import.MountLine
import ComponentBundle.Proofs.Markup.Mounted
import ComponentBundle.Proofs.Markup.Cutting
import ComponentBundle.Proofs.Markup.Assembled
import ComponentBundle.Proofs.Markup.Placed
import ComponentBundle.Proofs.Alias.Precedence
import ComponentBundle.Proofs.Resolver.FirstFile
import ComponentBundle.Proofs.Markup.TemplateLine
import ComponentBundle.Proofs.Alias.Longest
import ComponentBundle.Proofs.Import.OneLine
import ComponentBundle.Proofs.Import.Scan
import ComponentBundle.Proofs.Path.Lexical
import ComponentBundle.Proofs.Markup.FirstFailure
import ComponentBundle.Proofs.Markup.Page
import ComponentBundle.Proofs.Markup.Untouched
import ComponentBundle.Proofs.Walk.Frame
import ComponentBundle.Proofs.Resolver.Spelling
import ComponentBundle.Proofs.Text.Order
