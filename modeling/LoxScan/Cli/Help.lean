import LoxScan.Cli.Settings
import LoxScan.Text.Visible

/-! # Help and version

The two texts that the program prints about itself.  The help names the variable that
stands in for each switch, together with the value it has at the moment. -/

namespace LoxScan

/-- The version of the scanner. -/
def version : String := "0.1.0"

/-- The line that states the version. -/
def versionText : String := "lox " ++ version ++ "\n"

/-- What the help says about one flag. -/
structure FlagHelp where
  letter? : Option Char
  name : String
  description : String
  /-- What the flag turns on, if it is not a question. -/
  switch? : Option Switch

namespace FlagHelp

/-- The flags in the order in which they are described. -/
def all : List FlagHelp :=
  [⟨some 'v', "verbose", "Enable verbose output", some .verbose⟩,
   ⟨none, "no-color", "Disable color output", some .noColor⟩,
   ⟨none, "all-errors", "Report every scan error instead of stopping at the first",
    some .allErrors⟩,
   ⟨some 'h', "help", "Print help", none⟩,
   ⟨some 'V', "version", "Print version", none⟩]

/-- The width of the column of names: the longest name and two blanks. -/
def nameWidth : Nat := 12

example : ∀ f ∈ all, f.name.length + 2 ≤ nameWidth := by decide +kernel

/-- The letter of the flag, or room for one. -/
def letterColumn (f : FlagHelp) : Styled :=
  match f.letter? with
  | some letter => [.styled .bold ['-', letter], .plain [',', ' ']]
  | none => [.plain (List.replicate 4 ' ')]

/-- Where the descriptions begin. -/
def descriptionColumn : Nat := nameWidth + 8

/-- The text with all lines but the first moved to the column of descriptions. -/
def indented (cs : List Char) : List Char :=
  cs.flatMap fun c => if c = '\n' then '\n' :: List.replicate descriptionColumn ' ' else [c]

/-- The variable that stands in for the flag, with its value. -/
def variableNote (env : Environment) (f : FlagHelp) : String :=
  match f.switch? with
  | some s => " [env: " ++ s.variable ++ "=" ++ (env.value? s.variable).getD "" ++ "]"
  | none => ""

/-- The line that describes a flag. -/
def styled (env : Environment) (f : FlagHelp) : Styled :=
  let gap := List.replicate (nameWidth - f.name.length) ' '
  .plain [' ', ' '] :: f.letterColumn ++
    [.styled .bold ('-' :: '-' :: f.name.toList),
     .plain (gap ++ indented (f.description ++ f.variableNote env).toList ++ ['\n'])]

end FlagHelp

namespace Help

/-- The description of the arguments. -/
def styled (env : Environment) : Styled :=
  [.plain "Scan Lox source and print its tokens\n\n".toList,
   .styled .heading "Usage:".toList, .plain [' '], .styled .bold "lox".toList,
   .plain " [OPTIONS] [SCRIPT]...\n\n".toList,
   .styled .heading "Arguments:".toList,
   .plain "\n  [SCRIPT]...  Script to run; starts an interactive prompt when omitted\n\n".toList,
   .styled .heading "Options:".toList, .plain ['\n']] ++
  FlagHelp.all.flatMap (FlagHelp.styled env)

/-- Help goes to no terminal either, and is coloured only if the environment forces it.
Unlike for diagnostics, every value that is not empty does that, and a wish for no colour
wins. -/
def isColoured (env : Environment) : Bool :=
  (env.value? "CLICOLOR_FORCE").getD "" ≠ "" && (env.value? "NO_COLOR").getD "" = ""

/-- The text of the help.  Without colours it also loses the control characters that the
values of variables bring with them. -/
def text (env : Environment) : String :=
  let coloured := (styled env).render true
  String.ofList (if isColoured env then coloured else Text.visible coloured)

end Help
end LoxScan
