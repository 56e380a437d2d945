import AutoItNav.Declaration.Pattern
import AutoItNav.Files.Memory
import AutoItNav.Files.Tree
import AutoItNav.Json.Printer
import AutoItNav.Json.Reader
import AutoItNav.Proofs.Declaration.Block
import AutoItNav.Proofs.Declaration.EveryLine
import AutoItNav.Proofs.Declaration.Written
import AutoItNav.Proofs.Declaration.Meaning
import AutoItNav.Proofs.Definition.Accesses
import AutoItNav.Proofs.Definition.Accounts
import AutoItNav.Proofs.Definition.Answer
import AutoItNav.Proofs.Definition.IncludeLine
import AutoItNav.Proofs.Definition.Landing
import AutoItNav.Proofs.Definition.Occurrence
import AutoItNav.Proofs.Definition.Returns
import AutoItNav.Proofs.Definition.Span
import AutoItNav.Proofs.Document.Edit
import AutoItNav.Proofs.Document.Synchrony
import AutoItNav.Proofs.Files.Chain
import AutoItNav.Proofs.Include.Depth
import AutoItNav.Proofs.Include.Grammar
import AutoItNav.Proofs.Include.Separator
import AutoItNav.Proofs.Project.Roots
import AutoItNav.Proofs.Server.Overlap
import AutoItNav.Proofs.Server.Stateless
import AutoItNav.Proofs.Settings.LastWriter
import AutoItNav.Proofs.Settings.Normal
import AutoItNav.Proofs.Text.Boundary
import AutoItNav.Proofs.Text.Checked
import AutoItNav.Proofs.Text.Column
import AutoItNav.Proofs.Text.Selection
import AutoItNav.Proofs.Text.WordReturns
