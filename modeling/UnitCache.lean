import UnitCache.Codec.Diagnostic
import UnitCache.Main
import UnitCache.Scenario.Run
import UnitCache.Proofs.Interleaving
import UnitCache.Proofs.PathMap
import UnitCache.Proofs.Standing
import UnitCache.Proofs.Rules
import UnitCache.Proofs.Effect
import UnitCache.Proofs.Fit
import UnitCache.Proofs.Passage
import UnitCache.Proofs.Pauses
import UnitCache.Proofs.Course
import UnitCache.Proofs.Marks
import UnitCache.Proofs.Calls
import UnitCache.Proofs.Fates
import UnitCache.Proofs.Seekers
import UnitCache.Proofs.Overtaking
import UnitCache.Proofs.Acts
import UnitCache.Proofs.Cells
import UnitCache.Proofs.Queue
import UnitCache.Proofs.WorkItems
import UnitCache.Proofs.Balance
import UnitCache.Proofs.Handles
import UnitCache.Proofs.Answers
import UnitCache.Proofs.Deadlock
import UnitCache.Proofs.MachineThreads
import UnitCache.Proofs.Turns
import UnitCache.Proofs.Steps
import UnitCache.Proofs.Scenarios
import UnitCache.Proofs.Pairs
import UnitCache.Proofs.Slices
import UnitCache.Proofs.CompletionStrings
import UnitCache.Proofs.Offers
import UnitCache.Proofs.Origins
import UnitCache.Proofs.Descriptions
import UnitCache.Proofs.Parts
import UnitCache.Proofs.Mirrors
import UnitCache.Proofs.Reflections
import UnitCache.Proofs.Projections
import UnitCache.Proofs.Sites
import UnitCache.Proofs.Doubles
import UnitCache.Proofs.Events
import UnitCache.Proofs.MatchedMoves
import UnitCache.Proofs.Isolation
import UnitCache.Proofs.Refusals
import UnitCache.Proofs.Reloads
import UnitCache.Proofs.RefreshMarks
import UnitCache.Proofs.Refreshes
import UnitCache.Proofs.Pool
import UnitCache.Proofs.Shutdown
import UnitCache.Proofs.Rounds
import UnitCache.Proofs.Optionals
import UnitCache.Proofs.Lines
import UnitCache.Proofs.Complaints
import UnitCache.Proofs.Cursors
import UnitCache.Proofs.Spots
import UnitCache.Proofs.SyntaxErrors
import UnitCache.Proofs.Candidates
import UnitCache.Proofs.Declarations
import UnitCache.Proofs.Declarators
import UnitCache.Proofs.ByteOrder
import UnitCache.Proofs.Completions
import UnitCache.Proofs.Queries
import UnitCache.Proofs.Warming
import UnitCache.Proofs.Alone
import UnitCache.Proofs.Accounts
import UnitCache.Proofs.Spellings
import UnitCache.Proofs.Records
import UnitCache.Proofs.Flags
import UnitCache.Proofs.Exchanges
import UnitCache.Proofs.Settings
