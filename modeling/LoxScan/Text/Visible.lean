/-! # What shows of a text without a terminal

A text for a terminal may hold, beside the characters to be shown, control characters and
control sequences, which begin with an escape character.  Where there is no terminal they
are left out, and `visible` is what remains.

Of the control characters only the four that are white space remain.  Control sequences are
recognized as terminals do it, by a machine with a few states (`ControlState`), so that
also one that was meant for something other than style, or that is never finished, does not
show.  An unfinished sequence takes ordinary text for its own parameters; but white space in
it is shown, and the text after that as well, until the next control character. -/

namespace LoxScan.Text

/-- Tab, line feed, form feed and carriage return: control characters that are shown. -/
def isControlSpace (c : Char) : Bool := c = '\t' || c = '\n' || c = '\x0c' || c = '\r'

/-- What is shown outside of control sequences. -/
def isShown (c : Char) : Bool := (' ' ≤ c && c ≠ '\x7f') || isControlSpace c

/-- How far into a control sequence a text has come. -/
inductive ControlState where
  /-- Outside of control sequences. -/
  | ground
  /-- Behind an escape character. -/
  | escape
  /-- Behind an escape character and characters that modify the next one. -/
  | escapeModified
  /-- In a sequence of parameters, as they are used for styles. -/
  | parameters
  /-- At the beginning of a device control string, before, in and behind its parameters. -/
  | deviceEntry | deviceParameters | deviceModified
  /-- In a string that goes on to its terminator. -/
  | string
  /-- In a string that a bell may end too. -/
  | command
  deriving DecidableEq, Repr

namespace ControlState

/-- The byte that ends a string, wherever it stands. -/
def terminator : UInt8 := 0x9c

/-- The state behind a character that is not shown.  Two characters cancel every sequence,
and an escape character begins a new one. -/
def after (s : ControlState) (c : Char) : ControlState :=
  if c = '\x18' ∨ c = '\x1a' then ground
  else if c = '\x1b' then escape
  else match s with
    | ground => ground
    | escape =>
        if ' ' ≤ c ∧ c ≤ '/' then escapeModified
        else if c = '[' then parameters
        else if c = 'P' then deviceEntry
        else if c = ']' then command
        else if c = 'X' ∨ c = '^' ∨ c = '_' then string
        else if '0' ≤ c ∧ c ≤ '~' then ground
        else escape
    | escapeModified => if '0' ≤ c ∧ c ≤ '~' then ground else escapeModified
    | parameters => if '@' ≤ c ∧ c ≤ '~' then ground else parameters
    | deviceEntry =>
        if ' ' ≤ c ∧ c ≤ '/' then deviceModified
        else if '0' ≤ c ∧ c ≤ '?' then deviceParameters
        else if '@' ≤ c ∧ c ≤ '~' then string
        else deviceEntry
    | deviceParameters =>
        if ' ' ≤ c ∧ c ≤ '/' then deviceModified
        else if '0' ≤ c ∧ c ≤ ';' then deviceParameters
        else if '<' ≤ c ∧ c ≤ '~' then string
        else deviceParameters
    | deviceModified => if '0' ≤ c ∧ c ≤ '~' then string else deviceModified
    | string => if terminator ∈ String.utf8EncodeChar c then ground else string
    | command => if c = '\x07' then ground else command

/-- Whether white space is shown in the middle of a sequence. -/
def showsSpace : ControlState → Bool
  | escape | escapeModified | parameters => true
  | _ => false

end ControlState

/-- What shows of a text, from a state on.  Text is shown outside of control sequences, and
where white space has interrupted one. -/
def visibleFrom (s : ControlState) (shows : Bool) : List Char → List Char
  | [] => []
  | c :: cs =>
      if shows && isShown c then c :: visibleFrom (if c.toNat < 128 then s else .ground) true cs
      else if s.showsSpace && isControlSpace c then c :: visibleFrom s true cs
      else visibleFrom (s.after c) (s.after c = .ground) cs

/-- What shows of a text. -/
def visible (cs : List Char) : List Char := visibleFrom .ground true cs

example : visible "a\x07b\x1b[1mc\x1bcd".toList = "abcd".toList := by decide +kernel
example : visible "\x1b[\n31m\x01m".toList = "\n31m".toList := by decide +kernel
example : visible "\x1b]0;title\x07x".toList = ['x'] := by decide +kernel

end LoxScan.Text
