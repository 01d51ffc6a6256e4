/-! # Command-line arguments

The arguments are read from left to right.  Each is a script to scan or turns something on;
a single dash may carry several one-letter flags, and after a lone double dash everything
is a script, whatever it begins with.  Asking for help or for the version takes effect at
once, and so does a mistake: what stands behind it is not looked at. -/

namespace LoxScan

/-- What may be turned on, once each. -/
inductive Switch where
  | verbose | noColor | allErrors
  deriving DecidableEq, Repr

/-- What an argument with dashes can ask for. -/
inductive Flag where
  | switch (s : Switch)
  | help
  | version
  deriving DecidableEq, Repr

namespace Flag

/-- The flag with this name behind two dashes. -/
def ofName? : List Char → Option Flag := fun name =>
  if name = "verbose".toList then some (.switch .verbose)
  else if name = "no-color".toList then some (.switch .noColor)
  else if name = "all-errors".toList then some (.switch .allErrors)
  else if name = "help".toList then some .help
  else if name = "version".toList then some .version
  else none

/-- The flag with this letter behind one dash. -/
def ofLetter? (letter : Char) : Option Flag :=
  if letter = 'v' then some (.switch .verbose)
  else if letter = 'h' then some .help
  else if letter = 'V' then some .version
  else none

end Flag

/-- One thing that an argument says. -/
inductive Argument where
  | flag (f : Flag)
  /-- A flag that does not exist, as it was written. -/
  | unknownFlag (written : String)
  | script (path : String)
  deriving DecidableEq, Repr

/-- What is wrong with the arguments or with the environment. -/
inductive ArgumentError where
  | unknownFlag (written : String)
  | repeatedSwitch (s : Switch)
  | emptyScript
  /-- A variable that stands in for a switch is neither `true` nor `false`. -/
  | badVariable (name value : String)
  deriving DecidableEq, Repr

/-- The switches that were given, and the scripts in order. -/
structure Options where
  switches : List Switch
  scripts : List String
  deriving DecidableEq, Repr

/-- What the arguments ask for. -/
inductive Request where
  | help
  | version
  | scan (options : Options)
  deriving DecidableEq, Repr

namespace Argument

/-- What one word of the command line says.  A dash alone is a script. -/
def ofWord (word : String) : List Argument :=
  match word.toList with
  | '-' :: '-' :: name => [((Flag.ofName? name).map flag).getD (unknownFlag word)]
  | '-' :: letter :: letters =>
      (letter :: letters).map fun l =>
        ((Flag.ofLetter? l).map flag).getD (unknownFlag (String.ofList ['-', l]))
  | _ => [script word]

/-- What the whole command line says. -/
def ofWords : List String → List Argument
  | [] => []
  | word :: words => if word = "--" then words.map script else ofWord word ++ ofWords words

end Argument

namespace Request

/-- What the arguments ask for, beyond the options read so far. -/
def read (options : Options) : List Argument → Except ArgumentError Request
  | [] => .ok (.scan options)
  | .flag .help :: _ => .ok .help
  | .flag .version :: _ => .ok .version
  | .flag (.switch s) :: rest =>
      if s ∈ options.switches then .error (.repeatedSwitch s)
      else read ⟨s :: options.switches, options.scripts⟩ rest
  | .unknownFlag written :: _ => .error (.unknownFlag written)
  | .script path :: rest =>
      if path = "" then .error .emptyScript
      else read ⟨options.switches, options.scripts ++ [path]⟩ rest

/-- What a command line asks for. -/
def ofWords (words : List String) : Except ArgumentError Request :=
  read ⟨[], []⟩ (Argument.ofWords words)

end Request
end LoxScan
