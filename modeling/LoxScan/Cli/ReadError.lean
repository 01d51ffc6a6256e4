import LoxScan.Text.Utf8

/-! # Errors of reading

Why a text could not be read: its path leads nowhere, or what is found there is no text. -/

namespace LoxScan

/-- Why a text could not be read. -/
inductive ReadError where
  | notFound
  | notDirectory
  | isDirectory
  | nameTooLong
  /-- The bytes are not well-formed UTF-8. -/
  | notText
  /-- Anything else, in the words of the system. -/
  | other (reason : String)
  deriving DecidableEq, Repr

namespace ReadError

/-- What the system says about an error. -/
def reason : ReadError → String
  | notFound => "No such file or directory (os error 2)"
  | notDirectory => "Not a directory (os error 20)"
  | isDirectory => "Is a directory (os error 21)"
  | nameTooLong => "File name too long (os error 36)"
  | notText => "stream did not contain valid UTF-8"
  | other reason => reason

/-- The text that the bytes encode. -/
def decode (bytes : List UInt8) : Except ReadError String :=
  match Text.ofUtf8? bytes with
  | some text => .ok text
  | none => .error .notText

end ReadError
end LoxScan
