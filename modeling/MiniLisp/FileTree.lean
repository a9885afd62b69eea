import MiniLisp.Fault

/-!
# Source files

Paths name source files relative to a working directory. `Path.normal` is the form in which a path
is reported in locations: without empty and `.` components, but with every `..`, because what that
leads to depends on the directories.

A `FileTree` is a working directory given as data. A path leads through it component by component;
each but the last has to be a directory. What lies outside the working directory is unknown: it has
directories, but no files.

`sourceText` turns the bytes of a file into text.
-/

namespace MiniLisp

namespace Path

/-- The components of a path, without empty ones and without `.`. -/
def components (path : String) : List String :=
  (path.splitOn "/").filter fun part => part != "" && part != "."

/-- The slashes that a path starts with, as far as they mean something: none for a relative path,
two if there are exactly two, else one. -/
def root (path : String) : String :=
  match (path.toList.takeWhile (· == '/')).length with
  | 0 => ""
  | 2 => "//"
  | _ => "/"

/-- The path without components that lead nowhere. -/
def normal (path : String) : String :=
  let text := root path ++ "/".intercalate (components path)
  if text == "" then "." else text

end Path

/-- A working directory: the files in it by the components of their paths, the newest first. A path
without contents is a directory, and so is every directory on the way to one of the paths. -/
structure FileTree where
  entries : List (List String × Option (List UInt8))

namespace FileTree

/-! ### Writing -/

/-- Nothing is in the working directory. -/
def empty : FileTree := ⟨[]⟩

/-- Makes the directories on the way along some components from a directory. The result is the
directory that they lead to, too. -/
def enter (tree : FileTree) (here : List String) : List String → FileTree × List String
  | [] => (tree, here)
  | component :: rest =>
    if component == ".." then enter tree here.dropLast rest
    else
      let there := here ++ [component]
      enter ⟨(there, none) :: tree.entries⟩ there rest

/-- Makes a directory, and those on the way to it. -/
def makeDirectory (tree : FileTree) (path : String) : FileTree :=
  (tree.enter [] (Path.components path)).1

/-- Writes a file, and makes the directories on the way to it. -/
def write (tree : FileTree) (path : String) (bytes : List UInt8) : FileTree :=
  let components := Path.components path
  let (tree, here) := tree.enter [] components.dropLast
  ⟨(here ++ components.getLast?.toList, some bytes) :: tree.entries⟩

/-! ### Reading -/

/-- Where a path leads, so far. -/
inductive Place
  | inside (components : List String)
  | outside

/-- There is a directory of the given components. -/
def hasDirectory (tree : FileTree) (components : List String) : Bool :=
  components.isEmpty || tree.entries.any fun (path, contents) =>
    components.isPrefixOf path && (path.length != components.length || contents.isNone)

/-- The contents of the file of the given components. -/
def contents? (tree : FileTree) (components : List String) : Option (List UInt8) :=
  tree.entries.findSome? fun (path, contents) => if path == components then contents else none

/-- Follows one component from a place. -/
def follow (tree : FileTree) (place : Place) (component : String) : Except ReadProblem Place :=
  match place with
  | .outside =>
    if component == ".." then .ok .outside
    else if component.utf8ByteSize > 255 then .error .nameTooLong
    else .error .missing
  | .inside here =>
    if !tree.hasDirectory here then .error .notDirectory
    else if component == ".." then
      if here.isEmpty then .ok .outside else .ok (.inside here.dropLast)
    else
      let there := here ++ [component]
      if component.utf8ByteSize > 255 then .error .nameTooLong
      else if tree.hasDirectory there || (tree.contents? there).isSome then .ok (.inside there)
      else .error .missing

/-- The bytes of the file that a path leads to. -/
def read (tree : FileTree) (path : String) : Except ReadProblem (List UInt8) := do
  if path.utf8ByteSize ≥ 4096 then throw .nameTooLong
  let start := if Path.root path == "" then Place.inside [] else Place.outside
  match ← (Path.components path).foldlM (follow tree) start with
  | .outside => throw .directory
  | .inside components =>
    match tree.contents? components with
    | some bytes => return bytes
    | none => throw .directory

end FileTree

/-- Makes a newline of each carriage return, together with the newline that may follow it. -/
def unifyNewlines : List Char → List Char
  | [] => []
  | '\r' :: '\n' :: cs => '\n' :: unifyNewlines cs
  | '\r' :: cs => '\n' :: unifyNewlines cs
  | c :: cs => c :: unifyNewlines cs

/-- The text of a source file: its bytes read as UTF-8, with unified newlines. -/
def sourceText (bytes : List UInt8) : Except Fault (List Char) :=
  match Text.decodeUtf8 bytes with
  | .ok cs => .ok (unifyNewlines cs)
  | .error e => .error (.undecodable e)

end MiniLisp
