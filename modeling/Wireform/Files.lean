import Wireform.Utf8

/-!
# Files

The file operations that the library uses, as an interface that a program
instantiates, and a model of a file tree that implements it.
-/

namespace Wireform

/-- The reason why a file operation fails. -/
inductive FileError where
  | noSuchFile
  | fileExists
  | notDirectory
  | isDirectory
  | noSpace
  | nameTooLong
  | nulInName
  | notText
  | other (text : String)
deriving DecidableEq, Repr

def FileError.message : FileError → String
  | noSuchFile => "No such file or directory (os error 2)"
  | fileExists => "File exists (os error 17)"
  | notDirectory => "Not a directory (os error 20)"
  | isDirectory => "Is a directory (os error 21)"
  | noSpace => "No space left on device (os error 28)"
  | nameTooLong => "File name too long (os error 36)"
  | nulInName => "file name contained an unexpected NUL byte"
  | notText => "stream did not contain valid UTF-8"
  | other text => text

/-- Access to files in a monad. -/
structure FileAccess (m : Type → Type) where
  read : String → m (Except FileError (List UInt8))
  /-- Make a file with the given bytes, or replace what it holds. -/
  write : String → List UInt8 → m (Except FileError Unit)
  /-- Make a directory and the directories above it, as far as missing. -/
  makeDirectories : String → m (Except FileError Unit)

def FileAccess.readText {m : Type → Type} [Monad m] (files : FileAccess m)
    (path : String) : m (Except FileError String) := do
  match ← files.read path with
  | .error error => pure (.error error)
  | .ok bytes => pure ((Utf8.decode bytes).mapError fun _ => .notText)

def FileAccess.writeText {m : Type → Type} (files : FileAccess m)
    (path text : String) : m (Except FileError Unit) :=
  files.write path (Utf8.encode text)

def joinPath (directory name : String) : String :=
  if directory = "" || directory.toList.getLast? = some '/' then directory ++ name
  else directory ++ "/" ++ name

/-! ## The model -/

/-- A place in the tree: the names on the way from its root. -/
abbrev Place := List String

/-- What is found at a place. -/
inductive Entry where
  | directory
  | file (bytes : List UInt8)
  /-- A device that accepts no bytes. -/
  | full
deriving DecidableEq, Repr

/-- A tree of files and the directory that relative paths start from. -/
structure FileTree where
  entry : Place → Option Entry
  current : Place

namespace FileTree

def set (tree : FileTree) (place : Place) (entry : Entry) : FileTree :=
  { tree with
    entry := fun other => if other = place then some entry else tree.entry other }

def splitSlashes : List Char → List (List Char)
  | [] => [[]]
  | c :: rest =>
    if c = '/' then [] :: splitSlashes rest
    else
      match splitSlashes rest with
      | [] => [[c]]
      | part :: parts => (c :: part) :: parts

/-- The names of a path that lead somewhere. -/
def pathNames (path : String) : List String :=
  ((splitSlashes path.toList).map String.ofList).filter
    fun name => name ≠ "" && name ≠ "."

/-- The longest name of a file, in bytes. -/
def maxName : Nat := 255

def enter (place : Place) (name : String) : Place :=
  if name = ".." then place.dropLast else place ++ [name]

/-- Follow names from a place.  All places before the last are directories. -/
def walk (tree : FileTree) (place : Place) :
    List String → Except FileError Place
  | [] => .ok place
  | name :: rest =>
    match tree.entry place with
    | none => .error .noSuchFile
    | some .directory =>
      if name.utf8ByteSize > maxName then .error .nameTooLong
      else tree.walk (enter place name) rest
    | some _ => .error .notDirectory

/-- Where the names of a path start from. -/
def start (tree : FileTree) (path : String) : Place :=
  if path.toList.head? = some '/' then [] else tree.current

/-- Whether a path may only lead to a directory. -/
def wantsDirectory (path : String) : Bool :=
  path.toList.getLast? = some '/'

/-- The place that a path leads to. -/
def locate (tree : FileTree) (path : String) : Except FileError Place :=
  if path.toList.contains '\x00' then .error .nulInName
  else if path = "" then .error .noSuchFile
  else tree.walk (tree.start path) (pathNames path)

def read (tree : FileTree) (path : String) : Except FileError (List UInt8) := do
  let place ← tree.locate path
  match tree.entry place with
  | none => .error .noSuchFile
  | some .directory => .error .isDirectory
  | some .full => .error .noSpace
  | some (.file bytes) =>
    if wantsDirectory path then .error .notDirectory else pure bytes

/-- Write a file: the outcome and the tree afterwards. -/
def write (tree : FileTree) (path : String) (bytes : List UInt8) :
    Except FileError Unit × FileTree :=
  match tree.locate path with
  | .error error => (.error error, tree)
  | .ok place =>
    match tree.entry place with
    | some .directory => (.error .isDirectory, tree)
    | some .full => (if bytes.isEmpty then .ok () else .error .noSpace, tree)
    | _ =>
      if wantsDirectory path then (.error .isDirectory, tree)
      else (.ok (), tree.set place (.file bytes))

/-- Make the directories along names from a place. -/
def makeAlong (tree : FileTree) (place : Place) :
    List String → Except FileError Unit × FileTree
  | [] => (.ok (), tree)
  | name :: rest =>
    let next := enter place name
    if name.utf8ByteSize > maxName then (.error .nameTooLong, tree)
    else
      match tree.entry next with
      | some .directory => tree.makeAlong next rest
      | none => (tree.set next .directory).makeAlong next rest
      | some _ =>
        (.error (if rest.isEmpty then .fileExists else .notDirectory), tree)

def makeDirectories (tree : FileTree) (path : String) :
    Except FileError Unit × FileTree :=
  if path.toList.contains '\x00' then (.error .nulInName, tree)
  else tree.makeAlong (tree.start path) (pathNames path)

/-- File access in the model. -/
def access : FileAccess (StateM FileTree) where
  read path := fun tree => (tree.read path, tree)
  write path bytes := fun tree => tree.write path bytes
  makeDirectories path := fun tree => tree.makeDirectories path

/-- A tree whose only entries are the current directory, the directories above
it, and a device directory with a full device. -/
def empty (current : Place) : FileTree where
  entry place :=
    if place = ["dev", "full"] then some .full
    else if place = ["dev"] || place.isPrefixOf current then some .directory
    else none
  current := current

end FileTree

end Wireform
