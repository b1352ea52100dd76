import FormLetter.Configuration.Load
import FormLetter.Json.Print
import FormLetter.Mailing.Json
import FormLetter.Proofs.AddressValues
import FormLetter.Proofs.BatchAnswer
import FormLetter.Proofs.BraceStyles
import FormLetter.Proofs.BuiltinCoverage
import FormLetter.Proofs.CalendarDays
import FormLetter.Proofs.CanonicalLine
import FormLetter.Proofs.Chunks
import FormLetter.Proofs.ConfigurationFiles
import FormLetter.Proofs.ContextDependence
import FormLetter.Proofs.DeliveryAddress
import FormLetter.Proofs.EndpointAgreement
import FormLetter.Proofs.EnvironmentFiles
import FormLetter.Proofs.EventTotals
import FormLetter.Proofs.Grouping
import FormLetter.Proofs.LayeredSettings
import FormLetter.Proofs.LetterCase
import FormLetter.Proofs.LineFeeds
import FormLetter.Proofs.LineRecord
import FormLetter.Proofs.MergedMessages
import FormLetter.Proofs.MetricsBalance
import FormLetter.Proofs.Missing
import FormLetter.Proofs.Numerals
import FormLetter.Proofs.OutputLimit
import FormLetter.Proofs.PredictedSize
import FormLetter.Proofs.PrintedTemplates
import FormLetter.Proofs.RecipientFiles
import FormLetter.Proofs.Respelling
import FormLetter.Proofs.SafeScan
import FormLetter.Proofs.SoundRecords
import FormLetter.Proofs.Substitution
import FormLetter.Proofs.TemplateSeparators
import FormLetter.Proofs.TitleCase
import FormLetter.Proofs.Trimming
import FormLetter.Proofs.UnusableSegments
import FormLetter.Proofs.UsedVariables
import FormLetter.Proofs.WrittenForms
import FormLetter.Service
import FormLetter.Template.Cursor
import FormLetter.Text.Alphanumeric
