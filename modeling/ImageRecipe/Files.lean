import ImageRecipe.Text.Trim

/-!
Files and directories below a root, and reading and writing a file by its path. A path leads from
name to name, and every name but the last must be a directory; there are no links. What a program
may do at a place is not for the tree to say but for the setting in which the program runs.
-/
namespace ImageRecipe

inductive Refusal where
  | notFound
  | notDirectory
  | isDirectory
  | denied
  | nameTooLong
  | zeroInName
  | notText
  | other (message : String)
deriving DecidableEq, Repr

def Refusal.message : Refusal → String
  | notFound => "No such file or directory (os error 2)"
  | notDirectory => "Not a directory (os error 20)"
  | isDirectory => "Is a directory (os error 21)"
  | denied => "Permission denied (os error 13)"
  | nameTooLong => "File name too long (os error 36)"
  | zeroInName => "file name contained an unexpected NUL byte"
  | notText => "stream did not contain valid UTF-8"
  | other message => message

/-- The names on the way from the root. -/
abbrev Place := List String

namespace Place

def ofPath (path : String) : Place :=
  (Text.pieces '/' path).filter fun name => name ≠ "" && name ≠ "."

def path (place : Place) : String := "/".intercalate place

end Place

def pathIn (dir name : String) : String :=
  if dir = "" || dir.toList.getLast? = some '/' then dir ++ name else dir ++ "/" ++ name

/-- What a program can want to do at a place: look for a name in a directory, read what is there,
write to a file that is there, or make one that is not. -/
inductive Access where
  | search
  | read
  | write
  | create
deriving DecidableEq, Repr

/-- Where a program runs: the directory in which relative paths start, and what is refused to the
program, for whatever reason. -/
structure Setting where
  workDir : Place := []
  refusal? : Access → Place → Option Refusal := fun _ _ => none

namespace Setting

def ask (s : Setting) (access : Access) (place : Place) : Except Refusal Unit :=
  match s.refusal? access place with
  | some refusal => .error refusal
  | none => .ok ()

def start (s : Setting) (path : String) : Place :=
  if path.toList.head? = some '/' then [] else s.workDir

end Setting

/-- Directories, and files with their contents. What lies above one of them is a directory too. -/
structure FileTree where
  dirs : List Place
  files : List (Place × ByteArray)

namespace FileTree

def file? (t : FileTree) (place : Place) : Option ByteArray := t.files.lookup place

def isDir (t : FileTree) (place : Place) : Bool :=
  place.isEmpty || t.dirs.any (place.isPrefixOf ·) ||
    t.files.any fun file => place.isPrefixOf file.1 && place ≠ file.1

def requireDir (t : FileTree) (place : Place) : Except Refusal Unit :=
  if t.isDir place then .ok ()
  else if (t.file? place).isSome then .error .notDirectory
  else .error .notFound

/-- One name further. No name between two slashes is no step, and above the root is the root. -/
def step (t : FileTree) (s : Setting) (place : Place) (name : String) : Except Refusal Place := do
  t.requireDir place
  if name = "" then return place
  s.ask .search place
  if name = "." then return place
  else if name = ".." then return place.dropLast
  else if 255 < name.utf8ByteSize then throw .nameTooLong
  else return place ++ [name]

/-- Where a path leads. Only its last name may be missing. -/
def resolve (t : FileTree) (path : String) (s : Setting := {}) : Except Refusal Place :=
  if '\x00' ∈ path.toList then .error .zeroInName
  else if path = "" then .error .notFound
  else if 4096 ≤ path.utf8ByteSize then .error .nameTooLong
  else (Text.pieces '/' path).foldlM (t.step s) (s.start path)

def readText (t : FileTree) (path : String) (s : Setting := {}) : Except Refusal String := do
  let place ← t.resolve path s
  if t.isDir place then
    s.ask .read place
    throw .isDirectory
  else
    match t.file? place with
    | none => throw .notFound
    | some content =>
      s.ask .read place
      match String.fromUTF8? content with
      | some text => return text
      | none => throw .notText

/-- The place of the file that is written at a path. -/
def writePlace (t : FileTree) (path : String) (s : Setting := {}) : Except Refusal Place := do
  let place ← t.resolve path s
  if t.isDir place then throw .isDirectory
  else
    s.ask (if (t.file? place).isSome then .write else .create) place
    return place

def put (t : FileTree) (place : Place) (content : ByteArray) : FileTree :=
  { t with files := (place, content) :: t.files.filter (·.1 ≠ place) }

def writeText (t : FileTree) (path text : String) (s : Setting := {}) : Except Refusal FileTree :=
  (t.writePlace path s).map fun place => t.put place text.toUTF8

def named (t : FileTree) (name : String) : List (Place × ByteArray) :=
  t.files.filter fun file => file.1.getLast? = some name

end FileTree

end ImageRecipe
