import LabelPress.Fault

/-
  A directory of files.

  A directory is a list of names and texts.  Bytes of a file that
  are no text stand in it as halves of surrogate pairs, and such a
  file cannot be read.  Reading a path walks its parts from the
  left: a part may be too long, stand for a directory or a file,
  or be missing.  In what is read, every line end counts as a
  newline.

  Key definitions include:
    * `FilePath`
    * `Files.read`
    * `Files.checkWritable`, `Files.checkText`
    * `Files.saved`
-/

namespace LabelPress

------------------------------------------------------------
-- Paths
------------------------------------------------------------

/-
  A path: the slashes of the root that it starts at, if it does,
  and its parts.
-/
structure FilePath where
  root : Text
  parts : List Text
  deriving DecidableEq

namespace FilePath

/- The root in front of a path; just two slashes are kept apart. -/
def rootOf
    (cs : Text) :
    Text :=
  let slashes := cs.takeWhile fun c : CodePoint => c = '/'
  match slashes.length with
  | 0 => ""
  | 2 => "//"
  | _ => "/"

/- The path of a text; empty parts and single points say nothing. -/
def ofText
    (s : Text) :
    FilePath :=
  ⟨rootOf s, (Text.partsBetween '/' s).filter fun p => p != "" && p != "."⟩

/- Whether a path starts at the root. -/
def isAbsolute
    (p : FilePath) :
    Bool :=
  p.root != ""

/- The written form of a path. -/
def text
    (p : FilePath) :
    Text :=
  let written := p.root ++ Text.intercalate "/" p.parts
  if written = "" then "." else written

/- The paths that lead to a path, itself the last. -/
def stages
    (p : FilePath) :
    List FilePath :=
  (List.range p.parts.length).map fun n =>
    ⟨p.root, p.parts.take (n + 1)⟩

end FilePath

------------------------------------------------------------
-- Directories
------------------------------------------------------------

/-
  A directory: the paths of its files and their texts.  A path
  that ends in a slash tells of a directory that may be empty.
-/
abbrev Files :=
  List (Text × Text)

namespace Files

/- The longest part of a path in bytes. -/
def maxPartBytes :
    Nat :=
  255

/- The longest path in bytes. -/
def maxPathBytes :
    Nat :=
  4095

/- What stands at the end of a path. -/
inductive Found where
  | file (text : Text)
  | directory

/- Whether some file lies below a path. -/
def isDirectory
    (files : Files)
    (path : Text) :
    Bool :=
  files.any fun (name, _) => (path ++ "/").isPrefixOf name

/- Whether two points after some parts lead back up. -/
def leadsBack
    (passed : List Text) :
    Bool :=
  match passed.getLast? with
  | some part => part != "" && part != ".."
  | none => false

/-
  Walk the parts of a path below those already passed.  The
  directory above is there, but only what is listed is in it.
-/
def walk
    (files : Files)
    (passed : List Text) :
    List Text → Except FileProblem Found
  | [] => .ok .directory
  | part :: rest =>
      if maxPartBytes < Text.byteCount part then .error .nameTooLong
      else if part = ".." ∧ leadsBack passed then
        walk files passed.dropLast rest
      else
        let path := Text.intercalate "/" (passed ++ [part])
        match files.lookup path with
        | some text =>
            if rest = [] then .ok (.file text) else .error .notDirectory
        | none =>
            if isDirectory files path || part == ".." then
              walk files (passed ++ [part]) rest
            else .error .missing

/- What stands before the first part of a path. -/
def start
    (path : FilePath) :
    List Text :=
  if path.isAbsolute then [""] else []

/- What a path leads to. -/
def find
    (files : Files)
    (path : FilePath) :
    Except FileProblem Found :=
  if maxPathBytes < Text.byteCount path.text then .error .nameTooLong
  else walk files (start path) path.parts

/- Whether a name holds the null character. -/
def hasNull
    (name : Text) :
    Bool :=
  name.any fun c => c.toNat == 0

/- Whether a name can be looked up. -/
def checkName
    (name : Text) :
    Except Fault Unit :=
  let path := (FilePath.ofText name).text
  match Text.loneHalvesOfName? path with
  | some halves => .error (.notEncodable halves)
  | none => if hasNull name then .error .nullInName else .ok ()

/- Whether a text can be written to a file. -/
def checkText
    (text : Text) :
    Except Fault Unit :=
  match Text.loneHalves? text with
  | some halves => .error (.notEncodable halves)
  | none => .ok ()

/- Every line end as a newline. -/
def newlinesOnly :
    Text → Text
  | [] => []
  | .char '\r' :: .char '\n' :: cs => '\n' :: newlinesOnly cs
  | c :: cs => (if c = '\r' then '\n' else c) :: newlinesOnly cs

/- Check that what a file holds is text. -/
def checkDecodable
    (text : Text) :
    Except Fault Unit :=
  match Text.strayBytes? text with
  | some bytes => .error (.notDecodable bytes)
  | none => .ok ()

/- The text of the file that a name leads to. -/
def read
    (files : Files)
    (name : Text) :
    Except Fault Text := do
  let path := FilePath.ofText name
  checkName name
  match find files path with
  | .ok (.file text) => do
      checkDecodable text
      return newlinesOnly text
  | .ok .directory => .error (.file .directory path.text)
  | .error p => .error (.file p path.text)

/-
  Whether a file can be written under a name: in place of one, or
  into a directory that is there.
-/
def checkWritable
    (files : Files)
    (name : Text) :
    Except Fault Unit := do
  let path := FilePath.ofText name
  checkName name
  match find files path with
  | .ok (.file _) => .ok ()
  | .ok .directory => .error (.file .directory path.text)
  | .error .missing =>
      match find files ⟨path.root, path.parts.dropLast⟩ with
      | .ok .directory => .ok ()
      | _ => .error (.file .missing path.text)
  | .error p => .error (.file p path.text)

/- The place that a path names, each way back up taken. -/
def place
    (path : FilePath) :
    Text :=
  let parts :=
    path.parts.foldl
      (fun passed (part : Text) =>
        if part = ".." ∧ leadsBack passed then passed.dropLast
        else passed ++ [part])
      (start path)
  Text.intercalate "/" parts

/- The directory after a text is put at a place. -/
def put
    (files : Files)
    (spot : Text)
    (text : Text) :
    Files :=
  match files with
  | [] => [(spot, text)]
  | (n, t) :: rest =>
      if n = spot then (n, text) :: rest else (n, t) :: put rest spot text

/- The directory after a text is written under a name. -/
def write
    (files : Files)
    (name : Text)
    (text : Text) :
    Files :=
  put files (place (FilePath.ofText name)) text

/-
  The directory after a text is saved under a name.  The file is
  opened, and by that emptied, before the text is encoded.
-/
def saved
    (files : Files)
    (name : Text)
    (text : Text) :
    Files :=
  match checkWritable files name, checkText text with
  | .error _, _ => files
  | .ok _, .error _ => write files name ""
  | .ok _, .ok _ => write files name text

/- The files of a directory that another one lacks or differs in. -/
def changedSince
    (after : Files)
    (before : Files) :
    Files :=
  after.filter fun (name, text) => before.lookup name != some text

end Files

end LabelPress
