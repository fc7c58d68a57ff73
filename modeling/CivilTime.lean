import CivilTime.Addition
import CivilTime.Calendar.DayNumber
import CivilTime.Expiry
import CivilTime.Fields
import CivilTime.Text.Shape.Search
import CivilTime.Years
import CivilTime.Proofs.Zone.Season
import CivilTime.Proofs.Zone.Separated
import CivilTime.Proofs.Zone.Regions
import CivilTime.Proofs.Zone.Listed
import CivilTime.Proofs.Zone.OffsetForms
import CivilTime.Proofs.Zone.Gaps
import CivilTime.Proofs.Zone.InEffect
import CivilTime.Proofs.Addition
import CivilTime.Proofs.Text.Folding
import CivilTime.Proofs.Text.Numerals
import CivilTime.Proofs.Text.Preferred
import CivilTime.Proofs.Text.Unique
import CivilTime.Proofs.Pattern.Written
import CivilTime.Proofs.Pattern.Spelling
import CivilTime.Proofs.Pattern.Separable
import CivilTime.Proofs.Pattern.ReadBack
import CivilTime.Proofs.RoundTrip
import CivilTime.Proofs.Outcome
import CivilTime.Proofs.Pattern.Taken
import CivilTime.Proofs.ReadingZones
import CivilTime.Proofs.Pattern.Pieces
import CivilTime.Proofs.Completed
import CivilTime.Proofs.Pattern.Lenience
import CivilTime.Proofs.Agreement
import CivilTime.Proofs.Refusals
import CivilTime.Proofs.Pattern.LastPieces
import CivilTime.Proofs.Acceptance
import CivilTime.Proofs.Pattern.Spaced
import CivilTime.Proofs.Zone.RegionNames
import CivilTime.Proofs.Zone.ShortNames
import CivilTime.Proofs.ZoneNames
import CivilTime.Proofs.Dependence
import CivilTime.Proofs.Rollover
import CivilTime.Proofs.Zone.LastYear
import CivilTime.Proofs.SumRange
import CivilTime.Proofs.ZoneIds
import CivilTime.Proofs.ZoneLetterCase
import CivilTime.Proofs.SumOrder
import CivilTime.Proofs.SumsInSteps
import CivilTime.Proofs.Text.Carried
import CivilTime.Proofs.Pattern.Alike
import CivilTime.Proofs.LetterCase
import CivilTime.Proofs.TrailingText
import CivilTime.Proofs.Zone.Overlaps
import CivilTime.Proofs.Zone.FirstYear
import CivilTime.Proofs.AddingNothing
import CivilTime.Proofs.Zone.FullMinutes
import CivilTime.Proofs.ZoneNaming
import CivilTime.Proofs.MonthOrder
import CivilTime.Proofs.Pattern.Digits
import CivilTime.Proofs.Representable
import CivilTime.Proofs.Conversion
import CivilTime.Proofs.Saturation
import CivilTime.Proofs.WrittenTimestamps
import CivilTime.Proofs.Pattern.SingleField
