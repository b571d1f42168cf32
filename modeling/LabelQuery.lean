import LabelQuery.Filter.Grammar
import LabelQuery.Main
import LabelQuery.Proofs.Filter.Conversion
import LabelQuery.Proofs.Dict
import LabelQuery.Proofs.Filter.Footprint
import LabelQuery.Proofs.Command.Checking
import LabelQuery.Proofs.Filter.InOrder
import LabelQuery.Proofs.Filter.Refilling
import LabelQuery.Proofs.Filter.Capture
import LabelQuery.Proofs.Filter.Juxtaposition
import LabelQuery.Proofs.Command.Selection
import LabelQuery.Proofs.Filter.Conservation
import LabelQuery.Proofs.Filter.Placement
import LabelQuery.Proofs.Json.Reading
import LabelQuery.Proofs.Config.Document
import LabelQuery.Proofs.FileTree
import LabelQuery.Proofs.Config.Edit
import LabelQuery.Proofs.Config.Store
import LabelQuery.Proofs.Command.Session
import LabelQuery.Proofs.Filter.Tiling
import LabelQuery.Proofs.Config.Validity
import LabelQuery.Proofs.Number.Nearest
import LabelQuery.Proofs.Command.Threshold
import LabelQuery.Json.Decoder
import LabelQuery.Proofs.Command.Response
import LabelQuery.Proofs.Filter.Brackets
import LabelQuery.Proofs.Filter.Arrangement
import LabelQuery.Proofs.Filter.Separation
import LabelQuery.Proofs.Filter.Spacing
import LabelQuery.Proofs.Filter.Joining
import LabelQuery.Proofs.Filter.Quoting
import LabelQuery.Proofs.Filter.Printing
import LabelQuery.Proofs.Filter.Roles
import LabelQuery.Proofs.Filter.Faults
import LabelQuery.Proofs.Command.Warnings
import LabelQuery.Proofs.Entity.Document
import LabelQuery.Proofs.Filter.Comparison
import LabelQuery.Proofs.Filter.MatchAll
import LabelQuery.Proofs.Entity.Truth
import LabelQuery.Proofs.Text.Replace
import LabelQuery.Proofs.Report.Template
import LabelQuery.Proofs.Command.Reading
import LabelQuery.Proofs.Command.Labels
import LabelQuery.Proofs.Command.Context
import LabelQuery.Proofs.Result
import LabelQuery.Proofs.Text.Lines
import LabelQuery.Proofs.Command.Caret
import LabelQuery.Proofs.Filter.Waiting
