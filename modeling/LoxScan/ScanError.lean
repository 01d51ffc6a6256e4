/-! # Scan errors

Three things can be wrong with a text: a character that begins no lexeme, a string that is
not closed, and a block comment that is not closed.  An error carries the line on which
scanning stopped: the line of the character, or the last line of the text. -/

namespace LoxScan

/-- Why a piece of text is no lexeme. -/
inductive ScanError.Cause where
  | unexpectedCharacter (c : Char)
  | unterminatedString
  | unterminatedBlockComment
  deriving DecidableEq, Repr

/-- A place where the text is malformed. -/
structure ScanError where
  /-- The line on which scanning stopped, counted from one. -/
  line : Nat
  cause : ScanError.Cause
  deriving DecidableEq, Repr

namespace ScanError

/-- What is wrong, in words. -/
def Cause.message : Cause → String
  | unexpectedCharacter c => "Unexpected character '" ++ String.singleton c ++ "'"
  | unterminatedString => "Unterminated string"
  | unterminatedBlockComment => "Unterminated block comment"

/-- What is wrong, in words. -/
def message (e : ScanError) : String := e.cause.message

end ScanError
end LoxScan
