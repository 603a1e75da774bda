import ClusterAudit.Text.Basic
import ClusterAudit.Text.Utf8

/-!
# Files

Configurations and manifests are read from files below a working directory. A file tree holds
their bytes; a directory holds its entries in the order in which the system lists them, which is
no particular one. Paths are followed part by part: a part in front of another one has to be a
directory, two dots lead back to the directory above, and a slash at the end asks for a
directory. What a path with a slash in front leads to, if it is known, stands below the entry of the
working directory that is called by a slash alone, which no file can be.
-/

namespace ClusterAudit

/-- Why a file cannot be read or written. -/
inductive FileFault where
  /-- There is nothing of that name. -/
  | notFound
  /-- It is a directory. -/
  | isDirectory
  /-- A part of the path in front is no directory. -/
  | notDirectory
  /-- The path or a part of it is longer than it can be. -/
  | nameTooLong
  /-- The path holds a character that no path can hold. -/
  | nulInPath
  /-- The content is no text. -/
  | notText
deriving DecidableEq, Repr, Inhabited

/-- The words for a file that cannot be read. -/
def FileFault.message : FileFault → String
  | .notFound => "No such file or directory (os error 2)"
  | .isDirectory => "Is a directory (os error 21)"
  | .notDirectory => "Not a directory (os error 20)"
  | .nameTooLong => "File name too long (os error 36)"
  | .nulInPath => "file name contained an unexpected NUL byte"
  | .notText => "stream did not contain valid UTF-8"

/-- A file or a directory. -/
inductive FileTree where
  /-- A file with its bytes. -/
  | file (bytes : List UInt8)
  /-- A directory with its entries. -/
  | directory (entries : List (String × FileTree))
deriving Inhabited

namespace FileTree

/-- The directory without entries. -/
def empty : FileTree := .directory []

/-- The entry of a directory called `name`. -/
def child? (name : String) (entries : List (String × FileTree)) : Option FileTree :=
  (entries.find? fun e => e.1 == name).map (·.2)

/-! ### Following paths -/

/-- Follow the parts of a path from a place whose directories above are `above`, innermost first. -/
def follow : List String → List FileTree → FileTree → Except FileFault FileTree
  | [], _, t => .ok t
  | _ :: _, _, .file _ => .error .notDirectory
  | part :: rest, above, .directory entries =>
    if part == "" || part == "." then follow rest above (.directory entries)
    else if part == ".." then
      match above with
      | [] => .error .notFound
      | t :: above => follow rest above t
    else if 255 < (Utf8.encode part.toList).length then .error .nameTooLong
    else match child? part entries with
      | none => .error .notFound
      | some t => follow rest (.directory entries :: above) t

/-- The parts of a path. -/
def parts (path : String) : List String :=
  if path.toList.head? == some '/' then "/" :: Text.split '/' path else Text.split '/' path

/-- The longest path in bytes. -/
def longestPath : Nat := 4095

/-- What stands at a path below this directory. Nothing stands at the empty path. -/
def at? (t : FileTree) (path : String) : Except FileFault FileTree :=
  if path.toList.contains '\x00' then .error .nulInPath
  else if longestPath < path.utf8ByteSize then .error .nameTooLong
  else if path.isEmpty then .error .notFound
  else follow (parts path) [] t

/-- Whether a file stands at a path. -/
def isFileAt (t : FileTree) (path : String) : Bool :=
  match t.at? path with
  | .ok (.file _) => true
  | _ => false

/-- **The text of the file at a path.** -/
def readText (t : FileTree) (path : String) : Except FileFault String :=
  match t.at? path with
  | .error e => .error e
  | .ok (.directory _) => .error .isDirectory
  | .ok (.file bytes) =>
    match Utf8.decode? bytes with
    | some s => .ok s
    | none => .error .notText

/-! ### Putting files -/

/-- Put an entry into a directory, in the place of one of the same name. -/
def putEntry (name : String) (t : FileTree) :
    List (String × FileTree) → List (String × FileTree)
  | [] => [(name, t)]
  | (n, u) :: rest => if n == name then (name, t) :: rest else (n, u) :: putEntry name t rest

/-- The directory with something put at a path; directories on the way are made, and a file in the
way becomes one. -/
def put : FileTree → List String → FileTree → FileTree
  | _, [], new => new
  | .file _, part :: rest, new =>
    if part == "" || part == "." then put (.directory []) rest new
    else .directory [(part, put (.directory []) rest new)]
  | .directory entries, part :: rest, new =>
    if part == "" || part == "." then put (.directory entries) rest new
    else
      let below := (child? part entries).getD (.directory [])
      .directory (putEntry part (put below rest new) entries)

/-- Drop the parts of a path that stay in place, and for every two dots the part before. -/
def normalise : List String → List String → List String
  | [], done => done.reverse
  | part :: rest, done =>
    if part == "" || part == "." then normalise rest done
    else if part == ".." then normalise rest (done.drop 1)
    else normalise rest (part :: done)

/-- **Write a file** into a directory that is already there. -/
def write (t : FileTree) (path : String) (bytes : List UInt8) : Except FileFault FileTree :=
  let parts := parts path
  if path.toList.contains '\x00' then .error .nulInPath
  else if longestPath < path.utf8ByteSize then .error .nameTooLong
  else match parts.getLast? with
  | none => .error .notFound
  | some name =>
    match follow parts.dropLast [] t with
    | .error e => .error e
    | .ok (.file _) => .error .notDirectory
    | .ok (.directory entries) =>
      if path.isEmpty then .error .notFound
      else if name == "" || name == "." || name == ".." then .error .isDirectory
      else match child? name entries with
        | some (.directory _) => .error .isDirectory
        | _ =>
          if 255 < (Utf8.encode name.toList).length then .error .nameTooLong
          else .ok (t.put (normalise parts []) (.file bytes))

end FileTree

end ClusterAudit
