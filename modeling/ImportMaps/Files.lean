/-!
# ImportMaps — files and why they cannot be read

Reading a file gives its bytes or the reason why there are none (`Contents`). A
source or a settings file must be a text in UTF-8; `Contents.text` adds this last
reason to the others.

`Directory` is a working directory without anything below its subdirectories:
enough to say what every path in it stands for.
-/

namespace ImportMaps

/-! ## Contents -/

/-- Why a file gives no text. -/
inductive ReadFault where
  | notFound
  | isDirectory
  | notDirectory
  /-- The path, or a name in it, has more bytes than a path or a name may have. -/
  | nameTooLong
  /-- The bytes are not UTF-8. -/
  | notText
  /-- Any other reason of the system, with its number. -/
  | other (number : Nat) (reason : String)
  deriving DecidableEq, Repr

/-- The words for a reason. -/
def ReadFault.message : ReadFault → String
  | notFound => "No such file or directory (os error 2)"
  | isDirectory => "Is a directory (os error 21)"
  | notDirectory => "Not a directory (os error 20)"
  | nameTooLong => "File name too long (os error 36)"
  | notText => "stream did not contain valid UTF-8"
  | other number reason => reason ++ " (os error " ++ toString number ++ ")"

/-- The bytes of a file, or why it has none. -/
abbrev Contents := Except ReadFault ByteArray

/-- The text of a file. A byte order mark is a character like any other. -/
def Contents.text (c : Contents) : Except ReadFault String :=
  match c with
  | .error fault => .error fault
  | .ok bytes =>
    match String.fromUTF8? bytes with
    | some text => .ok text
    | none => .error .notText

/-! ## A directory -/

/-- What a name in a directory stands for. -/
inductive DirectoryEntry where
  | file (bytes : ByteArray)
  /-- A directory that is empty itself. -/
  | directory

/-- The named entries of a directory. -/
abbrev Directory := List (String × DirectoryEntry)

namespace Directory

/-- Where a path has led to, part by part. -/
inductive Place where
  /-- The directory itself. -/
  | here
  /-- A directory in it. -/
  | below
  /-- A directory around it. -/
  | outside
  | file (bytes : ByteArray)

/-- The bytes that a name may have. -/
def maxNameBytes : Nat := 255

/-- The bytes that a path may have. -/
def maxPathBytes : Nat := 4095

/-- The directory around a place that is a directory itself. -/
def Place.parent : Place → Place
  | below => here
  | _ => outside

/-- What a name stands for at a place. Only the directory itself has names. -/
def entry? (d : Directory) (place : Place) (name : String) : Option Place :=
  match place with
  | .here =>
    (d.lookup name).map fun
      | .file bytes => .file bytes
      | .directory => .below
  | _ => none

/-- Goes on by one part of a path. An empty part stands for the place itself, as
does a single dot, but only a directory has such parts. A name that is too long is
refused when it is looked up, so a fault before it comes first. -/
def step (d : Directory) (place : Place) (part : String) : Except ReadFault Place :=
  match place with
  | .file _ => .error .notDirectory
  | place =>
    if part = "" || part = "." then .ok place
    else if part = ".." then .ok place.parent
    else if maxNameBytes < part.utf8ByteSize then .error .nameTooLong
    else
      match d.entry? place part with
      | none => .error .notFound
      | some found => .ok found

/-- The parts of a path between its slashes. -/
def parts (path : List Char) : List (List Char) :=
  match path with
  | [] => [[]]
  | c :: cs =>
    if c = '/' then
      [] :: parts cs
    else
      match parts cs with
      | part :: rest => (c :: part) :: rest
      | [] => [[c]]

/-- The place that a path leads to. A path that is too long is not followed at all. -/
def find (d : Directory) (path : String) : Except ReadFault Place :=
  if path = "" then
    .error .notFound
  else if maxPathBytes < path.utf8ByteSize then
    .error .nameTooLong
  else
    -- A path from the root leaves the directory at once.
    let start := if path.toList.head? = some '/' then Place.outside else .here
    (parts path.toList).foldlM (fun place part => d.step place (String.ofList part)) start

/-- The bytes that a path leads to. -/
def read (d : Directory) (path : String) : Contents :=
  match d.find path with
  | .error fault => .error fault
  | .ok (.file bytes) => .ok bytes
  | .ok _ => .error .isDirectory

end Directory

end ImportMaps
