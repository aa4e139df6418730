import MockSql.Client
import MockSql.Clock
import MockSql.Datum
import MockSql.Main
import MockSql.Proofs.Entries
import MockSql.Proofs.Operations
import MockSql.Proofs.Steps
import MockSql.Proofs.Coherence
import MockSql.Proofs.Printable
import MockSql.Proofs.Writes
import MockSql.Proofs.Trim
import MockSql.Proofs.Wire
import MockSql.Proofs.Scripts
import MockSql.Proofs.Numerals
import MockSql.Proofs.Spelling
import MockSql.Proofs.Insertions
import MockSql.Proofs.Modes
import MockSql.Proofs.Respelling
import MockSql.Proofs.ColumnNames
import MockSql.Proofs.Updates
import MockSql.Proofs.Composition
import MockSql.Proofs.Targets
import MockSql.Proofs.Frames
import MockSql.Proofs.Commutation
import MockSql.Proofs.StoredRows
import MockSql.Proofs.PrintableLiterals
import MockSql.Proofs.Numbering
import MockSql.Proofs.NumberLimit
import MockSql.Proofs.Keywords
import MockSql.Proofs.Dispatch
import MockSql.Proofs.FixedShapes
import MockSql.Proofs.DistinctColumns
import MockSql.Proofs.Ledger
import MockSql.Proofs.Accounting
import MockSql.Proofs.ExactNumbers
import MockSql.Proofs.Selections
import MockSql.Proofs.SortedRows
import MockSql.Proofs.Pages
import MockSql.Proofs.FreshIds
import MockSql.Proofs.NearestDoubles
import MockSql.Proofs.OwnLiterals
import MockSql.Proofs.Mishaps
import MockSql.Proofs.Groups
import MockSql.Proofs.Recognisers
import MockSql.Proofs.ValueLists
import MockSql.Proofs.LastPredicates
import MockSql.Proofs.TrailingText
import MockSql.Proofs.Stops
import MockSql.Proofs.ColumnClauses
import MockSql.Proofs.Bodies
import MockSql.Proofs.ColumnTexts
import MockSql.Proofs.DefinitionTexts
import MockSql.Proofs.TableClauses
import MockSql.Proofs.QuotedTexts
import MockSql.Proofs.QuotedPlaces
import MockSql.Proofs.QuotedDefaults
import MockSql.Proofs.Parentheses
import MockSql.Proofs.NestedCommas
import MockSql.Proofs.ClausePositions
import MockSql.Proofs.Conversations
import MockSql.Proofs.TerminatedStatements
import MockSql.Proofs.PrintedNumbers
import MockSql.Proofs.LooseEquality
import MockSql.Proofs.Deletions
import MockSql.Proofs.FirstMatches
import MockSql.Proofs.ColumnChanges
import MockSql.Proofs.Removals
import MockSql.Proofs.Renamings
import MockSql.Proofs.AlignedGrids
import MockSql.Proofs.ListedIds
import MockSql.Proofs.Browsing
import MockSql.Proofs.Depths
import MockSql.Proofs.OuterCommas
