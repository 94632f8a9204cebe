import TextGrammar.Blueprint
import TextGrammar.Cursor.Walk
import TextGrammar.Proofs.Safety
import TextGrammar.Proofs.Guard
import TextGrammar.Proofs.Correspondence
import TextGrammar.Proofs.Watch
import TextGrammar.Proofs.Containment
import TextGrammar.Proofs.Depth
import TextGrammar.Proofs.Nested
import TextGrammar.Proofs.Termination
import TextGrammar.Proofs.Pattern.Preference
import TextGrammar.Proofs.Pattern.Threads
import TextGrammar.Proofs.Shift
import TextGrammar.Proofs.Peg.Derivation
import TextGrammar.Proofs.Peg.Reading
import TextGrammar.Proofs.Quiet
import TextGrammar.Proofs.Peg.Realisation
import TextGrammar.Proofs.Peg.Agreement
import TextGrammar.Proofs.Messages
import TextGrammar.Proofs.Rounds
import TextGrammar.Proofs.Trail
import TextGrammar.Arrays
import TextGrammar.Proofs.Taking
import TextGrammar.Proofs.Log
import TextGrammar.Proofs.Account
import TextGrammar.Proofs.Arrays
import TextGrammar.Proofs.Absorption
import TextGrammar.Proofs.SeparatedList
import TextGrammar.Proofs.Parentheses
import TextGrammar.Proofs.DigitList
import TextGrammar.Proofs.OrderedChoice
import TextGrammar.Proofs.Outcome
import TextGrammar.Proofs.LeftFactoring
import TextGrammar.Proofs.Scanning
import TextGrammar.Proofs.Spans
import TextGrammar.Proofs.Sequencing
import TextGrammar.Proofs.LookAhead
import TextGrammar.Proofs.CharacterClass
import TextGrammar.Proofs.Trimming
import TextGrammar.Proofs.LeafRuns
import TextGrammar.Proofs.Walks
import TextGrammar.Proofs.CharacterSteps
import TextGrammar.Proofs.Coordinates
import TextGrammar.Proofs.Excerpts
import TextGrammar.Proofs.Lines
import TextGrammar.Proofs.Pointer
import TextGrammar.Proofs.Literals
