import LabelPress.Barcode.Payload
import LabelPress.Calendar.IsoForms
import LabelPress.Label.Bounds
import LabelPress.Main
import LabelPress.Proofs.Stream.EmissionOrder
import LabelPress.Proofs.Stream.SilentEntries
import LabelPress.Proofs.Substitution.Staged
import LabelPress.Variable.Validation
import LabelPress.Proofs.Substitution.UsedNames
import LabelPress.Proofs.Double.Vanishing
import LabelPress.Proofs.Printer.MissingCoordinates
import LabelPress.Proofs.Double.Range
import LabelPress.Proofs.Stream.Answers
import LabelPress.Proofs.Text.Lines
import LabelPress.Proofs.Printer.Shortening
import LabelPress.Proofs.Printer.KeptLines
import LabelPress.Proofs.Stream.Optimized
import LabelPress.Proofs.Substitution.Frame
import LabelPress.Proofs.Label.Document
import LabelPress.Proofs.Substitution.DeclaredNames
import LabelPress.Proofs.Text.Parts
import LabelPress.Proofs.Printer.Terminator
import LabelPress.Proofs.Stream.Framing
import LabelPress.Proofs.Stream.Printable
import LabelPress.Proofs.Label.Loading
import LabelPress.Proofs.Label.Settled
import LabelPress.Proofs.Substitution.BoundOnce
import LabelPress.Proofs.Command.Status
import LabelPress.Proofs.Text.ReadNumbers
import LabelPress.Proofs.Printer.PositionedRecords
import LabelPress.Proofs.Printer.QuotedRecords
import LabelPress.Proofs.Text.Words
import LabelPress.Proofs.Printer.FieldCommands
import LabelPress.Proofs.Stream.BalancedFields
import LabelPress.Proofs.Files.Written
import LabelPress.Proofs.Command.Effects
import LabelPress.Proofs.Placeholder.LineByLine
import LabelPress.Proofs.Printer.Repetition
import LabelPress.Proofs.Printer.OriginPairs
import LabelPress.Proofs.Variable.Directives
import LabelPress.Proofs.Variable.DateRuns
import LabelPress.Proofs.Variable.IntegerFormats
import LabelPress.Proofs.Calendar.GeneralReading
import LabelPress.Proofs.Calendar.Meaning
import LabelPress.Proofs.Calendar.Written
import LabelPress.Proofs.Variable.Currency
import LabelPress.Proofs.Barcode.DigitPayloads
import LabelPress.Proofs.Barcode.Code39
import LabelPress.Proofs.Value.NumberOrder
import LabelPress.Proofs.Variable.Requirements
import LabelPress.Proofs.Substitution.ListedNames
import LabelPress.Proofs.Substitution.Layout
import LabelPress.Proofs.Stream.WholeBlocks
import LabelPress.Proofs.Printer.SettledOptions
import LabelPress.Proofs.Printer.CornerBars
import LabelPress.Proofs.Label.QuarterTurns
import LabelPress.Proofs.Double.NearestIntegers
import LabelPress.Proofs.Label.PropertyKeys
