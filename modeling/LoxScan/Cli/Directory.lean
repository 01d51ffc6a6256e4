import LoxScan.Cli.ReadError

/-! # Directories

A script is named by a path and read as bytes.  This module says what a path leads to in a
directory and all that is below it, without links, and which of the things that can be wrong
with it is reported.

A path is followed name by name: from the root if it begins with a slash, and otherwise from
the directory in which the program runs.  The way up from the root leads to the root. -/

namespace LoxScan

/-- What a name in a directory stands for. -/
inductive DirectoryEntry where
  | file (bytes : List UInt8)
  | directory
  deriving DecidableEq, Repr

/-- A root directory: the places below it, as lists of names, with what stands there. -/
structure Directory where
  entries : List (List String × DirectoryEntry)

namespace Directory

/-- What stands at a place.  The root and everything on the way to an entry are directories. -/
def entry? (d : Directory) (place : List String) : Option DirectoryEntry :=
  if place = [] then some .directory
  else match d.entries.lookup place with
    | some e => some e
    | none => if d.entries.any fun e => place.isPrefixOf e.1 then some .directory else none

/-- The most bytes that a name may have. -/
def maxNameSize : Nat := 255

/-- The most bytes that a path may have. -/
def maxPathSize : Nat := 4095

/-- What a path stands for, name by name, from a place on.  Every name but the last must be
that of a directory, and an empty name or a dot means the place itself. -/
def resolve (d : Directory) (place : List String) : List String → Except ReadError DirectoryEntry
  | [] =>
      match d.entry? place with
      | some e => .ok e
      | none => .error .notFound
  | name :: names =>
      match d.entry? place with
      | none => .error .notFound
      | some (.file _) => .error .notDirectory
      | some .directory =>
          if name = "" || name = "." then d.resolve place names
          else if name = ".." then d.resolve place.dropLast names
          else if maxNameSize < name.utf8ByteSize then .error .nameTooLong
          else d.resolve (place ++ [name]) names

/-- The name of something in a directory, which can be looked up there. -/
def IsPlainName (name : String) : Prop :=
  name ≠ "" ∧ name ≠ "." ∧ name ≠ ".." ∧ name.utf8ByteSize ≤ maxNameSize

/-- **The way from the root to a place and on is the way on from that place**, if it leads through
directories.  So a script is found by its path from the root where it is found by its path from
the place at which the program runs. -/
theorem resolve_append (d : Directory) {place names : List String} (more : List String)
    (hplain : ∀ name ∈ names, IsPlainName name)
    (hdirectories : ∀ k < names.length, d.entry? (place ++ names.take k) = some .directory) :
    d.resolve place (names ++ more) = d.resolve (place ++ names) more := by
  -- Each name leads to another place, from which the rest of the way goes on.
  induction names generalizing place with
  | nil => rw [List.nil_append, List.append_nil]
  | cons name names ih =>
      obtain ⟨⟨hne, hdot, hup, hsize⟩, hplain⟩ := List.forall_mem_cons.mp hplain
      have hplace : d.entry? place = some .directory := by
        simpa using hdirectories 0 (Nat.succ_pos _)
      have hnext : d.resolve place (name :: (names ++ more)) =
          d.resolve (place ++ [name]) (names ++ more) := by
        rw [resolve, hplace]
        simp [hne, hdot, hup, Nat.not_lt.mpr hsize]
      rw [List.cons_append, hnext, ih hplain, List.append_assoc, List.singleton_append]
      intro k hk
      simpa using hdirectories (k + 1) (Nat.succ_lt_succ hk)

/-- What a path leads to, for a program that runs at the given place.  No path is empty. -/
def find (d : Directory) (here : List String) (path : String) : Except ReadError DirectoryEntry :=
  if path = "" then .error .notFound
  else if maxPathSize < path.utf8ByteSize then .error .nameTooLong
  else match path.splitOn "/" with
    | "" :: names => d.resolve [] names
    | names => d.resolve here names

/-- The bytes of the file that a path names, for a program that runs at the given place, or at
the root. -/
def read (d : Directory) (here : List String := []) (path : String) :
    Except ReadError (List UInt8) :=
  match d.find here path with
  | .ok (.file bytes) => .ok bytes
  | .ok .directory => .error .isDirectory
  | .error e => .error e

example : resolve ⟨[(["home", "s"], .file [49])]⟩ ["home"] ["..", "..", "home", ".", "s"] =
    .ok (.file [49]) := by rfl
example : resolve ⟨[(["home", "s"], .file [49])]⟩ ["home"] ["s", ".."] =
    .error .notDirectory := by rfl

end Directory
end LoxScan
