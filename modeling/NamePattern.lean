import NamePattern.Json.Parse
import NamePattern.Pattern.Writer
import NamePattern.Server
import NamePattern.Proofs.Pattern.Account
import NamePattern.Proofs.Pattern.OuterComma
import NamePattern.Proofs.Pattern.Position
import NamePattern.Proofs.Pattern.RoundTrip
import NamePattern.Proofs.Numbering.Law
import NamePattern.Proofs.Layers.Reorder
import NamePattern.Proofs.Rendering.LayerPath
import NamePattern.Proofs.Evaluation.Substitution
import NamePattern.Proofs.Pattern.Append
import NamePattern.Proofs.Pattern.Parts
import NamePattern.Proofs.Numbering.Isolation
import NamePattern.Proofs.Regex.Replacement
import NamePattern.Proofs.Regex.FirstMatches
import NamePattern.Proofs.Numbering.Scope
import NamePattern.Proofs.Numbering.Unique
import NamePattern.Proofs.Numbering.Countdown
import NamePattern.Proofs.Tool.Reply
import NamePattern.Proofs.Layers.Cycle
import NamePattern.Proofs.Text.Reading
import NamePattern.Proofs.Numbering.Numeral
import NamePattern.Proofs.Evaluation.Malformed
import NamePattern.Proofs.Rendering.Wrapper
import NamePattern.Proofs.Tags.Order
import NamePattern.Proofs.Tags.Request
import NamePattern.Proofs.Rendering.ImageName
import NamePattern.Proofs.FileName.NewExtension
import NamePattern.Proofs.Number.Fraction
import NamePattern.Proofs.Evaluation.Nesting
import NamePattern.Proofs.Pattern.Runs
import NamePattern.Proofs.Calendar.Format
import NamePattern.Proofs.Rendering.Registration
import NamePattern.Proofs.Rendering.LargeRoom
