import Reckoner.Journal
import Reckoner.Lexeme.Reader
import Reckoner.Main
import Reckoner.NestedList
import Reckoner.Proofs.Reading.Places
import Reckoner.Proofs.Reading.Precedence
import Reckoner.Proofs.Reading.RoundTrip
import Reckoner.Meaning
import Reckoner.Proofs.Scanning.Cursor
import Reckoner.Proofs.Reading.InOrder
import Reckoner.Proofs.Reading.Combination
import Reckoner.Proofs.Reading.Counter
import Reckoner.Proofs.Reading.Layout
import Reckoner.Proofs.Session.History
import Reckoner.Proofs.CommandLine.Account
import Reckoner.Proofs.CommandLine.Lines
import Reckoner.Proofs.Reading.Records
import Reckoner.Proofs.CommandLine.Labels
import Reckoner.Proofs.Reading.Ranking
import Reckoner.Proofs.Reading.Findings
import Reckoner.Proofs.Reading.Reprinting
import Reckoner.Proofs.Tree.Likeness
import Reckoner.Proofs.CommandLine.Selection
import Reckoner.Proofs.NestedList.Leaves
