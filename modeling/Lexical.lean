import Lexical.Direct
import Lexical.Grammar
import Lexical.Log.Logger
import Lexical.Main
import Lexical.Proofs.Between
import Lexical.Proofs.LongestRun
import Lexical.Proofs.CharClass
import Lexical.Proofs.Reading
import Lexical.Proofs.Position
import Lexical.Proofs.Session
import Lexical.Proofs.Refinement
import Lexical.Proofs.Front
import Lexical.Proofs.Calls
import Lexical.Proofs.Tokenize
import Lexical.Proofs.Ledger
import Lexical.Proofs.Soundness
import Lexical.Proofs.Excerpt
import Lexical.Proofs.Caret
import Lexical.Proofs.Resumption
import Lexical.Proofs.Appending
import Lexical.Proofs.Streams
import Lexical.Proofs.Progress
import Lexical.Proofs.Rewriting
import Lexical.Proofs.Comments
import Lexical.Proofs.LineEnds
import Lexical.Proofs.LineByLine
import Lexical.Proofs.LastLexeme
import Lexical.Proofs.MaximalMunch
import Lexical.Proofs.Locations
import Lexical.Proofs.OwnLine
import Lexical.Proofs.Renaming
import Lexical.Proofs.FileReport
import Lexical.Proofs.Directives
import Lexical.Proofs.Verbosity
import Lexical.Proofs.Stages
import Lexical.Proofs.CallLog
import Lexical.Proofs.Quotations
import Lexical.Proofs.Displays
