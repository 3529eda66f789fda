import Horoscope.Consultation
import Horoscope.Main
import Horoscope.Proofs.Wording.SentenceWords
import Horoscope.Table.Folders
import Horoscope.Term.Writer
import Horoscope.Proofs.Term.Linked
import Horoscope.Proofs.Matching.Meaning
import Horoscope.Proofs.Matching.Joined
import Horoscope.Proofs.Term.RoundTrip
import Horoscope.Proofs.Bank.Selection
import Horoscope.Proofs.Bank.Rows
import Horoscope.Proofs.Wording.CurrentPeriod
import Horoscope.Proofs.Text.Words
import Horoscope.Proofs.Matching.BrokenClause
import Horoscope.Proofs.Bank.Ranking
import Horoscope.Proofs.CommandLine.Prediction
import Horoscope.Proofs.Wording.Ink
import Horoscope.Proofs.Text.Paragraphs
import Horoscope.Proofs.Wording.RuleText
import Horoscope.Proofs.Wording.AnniversaryRange
import Horoscope.Proofs.Wording.Wrapper
import Horoscope.Proofs.Wording.Expansion
import Horoscope.Proofs.Wording.PlanetMentions
import Horoscope.Proofs.Term.Places
import Horoscope.Proofs.Text.Neutral
import Horoscope.Proofs.Term.Alike
import Horoscope.Bank.NumberSearch
import Horoscope.Proofs.Text.Search
import Horoscope.Proofs.Bank.NumberSearch
import Horoscope.Proofs.Text.Layout
import Horoscope.Proofs.Wording.OperatorSpacing
import Horoscope.Proofs.Matching.Symmetry
import Horoscope.Proofs.Bank.LargerChart
import Horoscope.Proofs.Date.Age
import Horoscope.Proofs.Date.PeriodDays
import Horoscope.Proofs.Chart.Entries
import Horoscope.Proofs.Date.BirthText
import Horoscope.Proofs.Bank.Loading
import Horoscope.Proofs.Wording.NestedClauses
