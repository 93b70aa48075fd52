import Cascade.Image
import Cascade.Main
import Cascade.Proofs.Color.LateResolution
import Cascade.Proofs.Command.CleanFailure
import Cascade.Proofs.Command.PlatformChoice
import Cascade.Proofs.Command.PrintedStyle
import Cascade.Proofs.Command.Verbosity
import Cascade.Proofs.Font.SizeRules
import Cascade.Proofs.Geometry.Shorthand
import Cascade.Proofs.Json.PrintedNumber
import Cascade.Proofs.Resource.Extensions
import Cascade.Proofs.Resource.StoredTexts
import Cascade.Proofs.Sheet.ClassAttribute
import Cascade.Proofs.Sheet.CommentParts
import Cascade.Proofs.Sheet.History
import Cascade.Proofs.Sheet.InlineStyle
import Cascade.Proofs.Sheet.Joining
import Cascade.Proofs.Sheet.Nesting
import Cascade.Proofs.Sheet.Pieces
import Cascade.Proofs.Sheet.Reloading
import Cascade.Proofs.Sheet.Rendering
import Cascade.Proofs.Sheet.UsableNames
import Cascade.Proofs.Style.AsciiCase
import Cascade.Proofs.Style.Reports
import Cascade.Proofs.Number.Order
import Cascade.Proofs.Color.Channels
import Cascade.Proofs.Color.Hexadecimal
import Cascade.Proofs.Color.Grammar
import Cascade.Proofs.Color.HexText
import Cascade.Proofs.Color.OctetComponents
import Cascade.Proofs.Command.FiniteOutput
import Cascade.Proofs.Resource.UnreadableFiles
