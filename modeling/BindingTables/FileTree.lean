import BindingTables.Text.Split

/-! Trees of directories and files, and the paths that lead through them. -/

namespace BindingTables

open BindingTables.Text

namespace Path

/-- The pieces between slashes, empty ones included. -/
def pieces (path : String) : List String := (split '/' path.toList).map .ofList

def isAbsolute (path : String) : Bool := path.toList.head? = some '/'

/-- The steps that the path takes: pieces that name no place are left out. -/
def steps (path : String) : List String := (pieces path).filter fun s => s ≠ "" ∧ s ≠ "."

/-- Whether the path can only lead to a directory. -/
def wantsDirectory (path : String) : Bool :=
  match (pieces path).getLast? with
  | some last => last = "" || last = "." || last = ".."
  | none => true

/-- `path` as seen from `base`. -/
def join (base path : String) : String :=
  if isAbsolute path then path
  else if base = "" ∨ base.toList.getLast? = some '/' then base ++ path
  else base ++ "/" ++ path

/-- Without pieces at the end that name no place; the list is in reverse, and the first piece of
the path stays. -/
def trimPieces : List String → List String
  | [] => []
  | [first] => [first]
  | piece :: rest => if piece = "" ∨ piece = "." then trimPieces rest else piece :: rest

/-- The path without its last step. -/
def parent? (path : String) : Option String :=
  match trimPieces (pieces path).reverse with
  | [] | [""] => none
  | [_] => some ""
  | _ :: rest =>
    match trimPieces rest with
    | [""] => some "/"
    | kept => some ("/".intercalate kept.reverse)

end Path

/-- The steps from the root of a tree to a file or directory. -/
abbrev Location := List String

structure FileTree where
  files : List (Location × List UInt8)
  /-- All directories but the root. -/
  directories : List Location
  /-- Where relative paths start. -/
  base : Location
  /-- How the root is written in absolute paths. -/
  root : String

namespace FileTree

def isDirectory (t : FileTree) (l : Location) : Bool := l = [] || t.directories.contains l

def file? (t : FileTree) (l : Location) : Option (List UInt8) := t.files.lookup l

def start (t : FileTree) (path : String) : Location := if Path.isAbsolute path then [] else t.base

/-- Follows steps through directories that exist; only the last may lead to nothing. -/
def follow (t : FileTree) (l : Location) : List String → Option Location
  | [] => some l
  | step :: rest =>
    if step = ".." then t.follow l.dropLast rest
    else if rest.isEmpty then some (l ++ [step])
    else if t.isDirectory (l ++ [step]) then t.follow (l ++ [step]) rest
    else none

/-- Where the path leads, if all but its last step exists. -/
def locate (t : FileTree) (path : String) : Option Location :=
  if path = "" then none else t.follow (t.start path) (Path.steps path)

/-- The bytes of the file at the path. -/
def read (t : FileTree) (path : String) : Option (List UInt8) :=
  if Path.wantsDirectory path then none else (t.locate path).bind t.file?

/-- The text of the file at the path, if it is one. -/
def readText (t : FileTree) (path : String) : Option String :=
  (t.read path).bind fun bytes => String.fromUTF8? ⟨bytes.toArray⟩

/-- Whether the path leads to a file or a directory. -/
def holds (t : FileTree) (path : String) : Bool :=
  match t.locate path with
  | none => false
  | some l => t.isDirectory l || !Path.wantsDirectory path && (t.file? l).isSome

/-- Makes the directories that are missing on the way of the steps; a file in the way ends it. -/
def makeDirectories (t : FileTree) (l : Location) : List String → FileTree × Bool
  | [] => (t, true)
  | step :: rest =>
    if step = ".." then t.makeDirectories l.dropLast rest
    else
      let next := l ++ [step]
      if (t.file? next).isSome then (t, false)
      else if t.isDirectory next then t.makeDirectories next rest
      else { t with directories := t.directories ++ [next] }.makeDirectories next rest

def createDirectories (t : FileTree) (path : String) : FileTree × Bool :=
  t.makeDirectories (t.start path) (Path.steps path)

/-- Puts content at a location, in the place of what was there. -/
def put (l : Location) (content : List UInt8) :
    List (Location × List UInt8) → List (Location × List UInt8)
  | [] => [(l, content)]
  | (m, old) :: rest => if m = l then (l, content) :: rest else (m, old) :: put l content rest

/-- Writes a file into a directory that exists. -/
def write? (t : FileTree) (path : String) (content : List UInt8) : Option FileTree :=
  if Path.wantsDirectory path then none
  else
    match t.locate path with
    | none => none
    | some l =>
      if t.isDirectory l then none else some { t with files := put l content t.files }

/-- The path of a location from the root. -/
def absolute (t : FileTree) (l : Location) : String := t.root ++ "/".intercalate l

/-- The absolute path of what stands at the path, or the path itself if nothing does. -/
def canonical (t : FileTree) (path : String) : String :=
  match t.locate path with
  | some l => if t.holds path then t.absolute l else path
  | none => path

/-- Adds a file and the directories that it lies in. -/
def addFile (t : FileTree) (path : String) (content : List UInt8) : FileTree :=
  let t := match Path.parent? path with
    | some parent => (t.createDirectories parent).1
    | none => t
  (t.write? path content).getD t

end FileTree

/-- Whether a file that holds the content already is written again. -/
inductive Overwrite
  | always
  | ifChanged
deriving DecidableEq

inductive WriteOutcome
  | written
  | skipped
deriving DecidableEq

inductive WriteFailure
  | create (parent : String)
  | write (path : String)
deriving DecidableEq

def WriteFailure.message : WriteFailure → String
  | create parent => s!"failed to create '{parent}'"
  | write path => s!"failed to write '{path}'"

namespace FileTree

/-- Writes a file, making its directories first. -/
def store (t : FileTree) (path content : String) : FileTree × Except WriteFailure Unit :=
  let made := match Path.parent? path with
    | none => (t, none)
    | some parent =>
      match t.createDirectories parent with
      | (t, true) => (t, none)
      | (t, false) => (t, some (WriteFailure.create parent))
  match made with
  | (t, some failure) => (t, .error failure)
  | (t, none) =>
    match t.write? path (bytes content) with
    | none => (t, .error (.write path))
    | some t => (t, .ok ())

def storeUnder (t : FileTree) (rule : Overwrite) (path content : String) :
    FileTree × Except WriteFailure WriteOutcome :=
  if rule = .ifChanged ∧ t.readText path = some content then (t, .ok .skipped)
  else
    match t.store path content with
    | (t, .error e) => (t, .error e)
    | (t, .ok ()) => (t, .ok .written)

end FileTree

end BindingTables
