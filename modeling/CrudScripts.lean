import CrudScripts.Data.Json.Writer
import CrudScripts.Proofs.Dialect.TypeClasses
import CrudScripts.Proofs.Run.Merging
import CrudScripts.Proofs.Run.Refusals
import CrudScripts.Proofs.Run.ReportedKey
import CrudScripts.Proofs.Run.Resolution
import CrudScripts.Proofs.Schema.Accounting
import CrudScripts.Proofs.Schema.ColumnGrammar
import CrudScripts.Proofs.Schema.Constraints
import CrudScripts.Proofs.Schema.InlineKey
import CrudScripts.Proofs.Schema.Joints
import CrudScripts.Proofs.Schema.KeyLists
import CrudScripts.Proofs.Schema.KeyOrigins
import CrudScripts.Proofs.Schema.LetterCase
import CrudScripts.Proofs.Schema.Reordering
import CrudScripts.Proofs.Schema.RoundTrip
import CrudScripts.Proofs.Script.BodyQuotes
import CrudScripts.Proofs.Script.FreeText
import CrudScripts.Proofs.Script.Headings
import CrudScripts.Proofs.Script.Numbering
import CrudScripts.Proofs.Script.ParameterTypes
import CrudScripts.Proofs.Script.Parameters
import CrudScripts.Proofs.Script.PlainScript
import CrudScripts.Proofs.Script.RoutineNames
import CrudScripts.Proofs.Script.Shadowing
import CrudScripts.Proofs.Service.Statuses
import CrudScripts.Proofs.Settings.Loading
import CrudScripts.Proofs.Text.Counting
import CrudScripts.Proofs.Workbench.Attachment
import CrudScripts.Proofs.Workbench.Handling
import CrudScripts.Proofs.Workbench.Provenance
import CrudScripts.Settings.Bundled
import CrudScripts.Settings.Logging
