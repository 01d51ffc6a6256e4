import LoxScan.Cli.Directory
import LoxScan.Main
import LoxScan.Segment.Tiling
import LoxScan.Proofs.Extent
import LoxScan.Proofs.Lossless
import LoxScan.Proofs.LongestMatch
import LoxScan.Proofs.ItemLine
import LoxScan.Proofs.FirstError
import LoxScan.Proofs.Malformed
import LoxScan.Proofs.Newline
import LoxScan.Proofs.Extension
import LoxScan.Proofs.Recovery
import LoxScan.Proofs.RoundTrip
import LoxScan.Proofs.LineEnding
import LoxScan.Proofs.ErrorExcerpt
import LoxScan.Proofs.PrintedTokens
import LoxScan.Proofs.ByteLines
import LoxScan.Proofs.Prompt
import LoxScan.Proofs.Session
import LoxScan.Proofs.LineByLine
import LoxScan.Proofs.LexemeSort
import LoxScan.Proofs.Script
import LoxScan.Proofs.Presentation
import LoxScan.Proofs.InertCharacter
import LoxScan.Proofs.CommentAsBlank
import LoxScan.Proofs.ExactValue
import LoxScan.Number.Numeral
import LoxScan.Proofs.RoundingInterval
import LoxScan.Proofs.CorrectRounding
import LoxScan.Proofs.Numeral
import LoxScan.Proofs.NumberLiteral
import LoxScan.Proofs.SignificantDigits
import LoxScan.Proofs.ShortestDecimal
import LoxScan.Proofs.WrittenNumber
import LoxScan.Proofs.DisplayedDouble
import LoxScan.Proofs.PrintedNumber
import LoxScan.Proofs.DiagnosticLayout
import LoxScan.Proofs.ExtraSwitch
import LoxScan.Proofs.Decoration
import LoxScan.Proofs.CursorRun
