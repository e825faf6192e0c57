import FilterQuery.Cursor
import FilterQuery.Main
import FilterQuery.Proofs.Runs
import FilterQuery.Proofs.Grammar
import FilterQuery.Proofs.Tokens
import FilterQuery.Proofs.Recognition
import FilterQuery.Proofs.Composition
import FilterQuery.Proofs.DocumentShape
import FilterQuery.Proofs.DecimalDigits
import FilterQuery.Proofs.NearestDouble
import FilterQuery.Proofs.WrittenNumbers
import FilterQuery.Proofs.CalendarDays
import FilterQuery.Proofs.WrittenInstants
import FilterQuery.Proofs.WrittenLiterals
import FilterQuery.Proofs.Writer
import FilterQuery.Proofs.CursorWalk
import FilterQuery.Proofs.ViablePrefix
import FilterQuery.Proofs.Delimiters
import FilterQuery.Proofs.LeafTexts
import FilterQuery.Proofs.PatternTexts
import FilterQuery.Proofs.ShellText
import FilterQuery.Proofs.ShellLayout
import FilterQuery.Proofs.JsonText
import FilterQuery.Proofs.ExtendedJson
import FilterQuery.Proofs.Renderings
import FilterQuery.Proofs.Resumption
import FilterQuery.Proofs.NumericTokens
import FilterQuery.Proofs.Reachability
import FilterQuery.Proofs.WildcardReading
import FilterQuery.Proofs.Wildcards
import FilterQuery.Proofs.WildcardSize
import FilterQuery.Proofs.PatternLiterals
import FilterQuery.Proofs.ValueLiterals
import FilterQuery.Proofs.Decompilation
import FilterQuery.Proofs.RenderedNumbers
import FilterQuery.Proofs.JsonGrammar
import FilterQuery.Proofs.IdentifierSpaces
import FilterQuery.Proofs.Insertions
import FilterQuery.Proofs.IdentifierDigits
import FilterQuery.Proofs.StagedDecoding
import FilterQuery.Proofs.TokenExpressions
import FilterQuery.Proofs.ErrorCauses
import FilterQuery.Proofs.CursorSteps
import FilterQuery.Proofs.ErrorMessages
import FilterQuery.Proofs.CommandLines
