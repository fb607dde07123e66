/-
Files and folders as a value: what commands read and what they leave behind. Names in a path are
separated by slashes; a dot stands for the folder itself and two dots for the one around it. A path
that does not start with a slash starts at the working folder.
-/
import Dialogue.Text.Basic

namespace Dialogue

/-- The content of a file: a text, or bytes that are no text as a whole. -/
inductive FileContent where
  | text (s : String)
  /-- The lines in front of the first one that is no text. -/
  | binary (front : String)
deriving DecidableEq, Repr

namespace FileContent

/-- The text that bytes stand for. Texts are in UTF-8. -/
def decode? (bytes : List UInt8) : Option String :=
  String.fromUTF8? ⟨bytes.toArray⟩

/-- The first line, with its line feed, and what follows it. -/
def splitLine (bytes : List UInt8) : List UInt8 × List UInt8 :=
  let line := bytes.takeWhile (· ≠ 10)
  (line ++ (bytes.drop line.length).take 1, bytes.drop (line.length + 1))

/-- The lines that are texts, up to the first one that is not. -/
def readableFront : Nat → List UInt8 → String
  | 0, _ => ""
  | fuel + 1, bytes =>
    let (line, rest) := splitLine bytes
    match decode? line with
    | some s => if rest.isEmpty then s else s ++ readableFront fuel rest
    | none => ""

/-- The content that bytes stand for. -/
def ofBytes (bytes : List UInt8) : FileContent :=
  match decode? bytes with
  | some s => .text s
  | none => .binary (readableFront bytes.length bytes)

end FileContent

/-- Why a path cannot be used. -/
inductive FileError where
  | missing
  /-- The file holds no text. -/
  | notText
  /-- A folder stands where a file should be. -/
  | folder
  /-- A file stands where a folder should be. -/
  | noFolder
deriving DecidableEq, Repr

/-- The wording of an error. -/
def FileError.message : FileError → String
  | .missing => "No such file or directory (os error 2)"
  | .notText => "stream did not contain valid UTF-8"
  | .folder => "Is a directory (os error 21)"
  | .noFolder => "Not a directory (os error 20)"

/-- The names that lead to a file or folder from the root, which has none. -/
abbrev FilePlace := List String

/-- Files and folders. -/
structure FileTree where
  files : List (FilePlace × FileContent) := []
  /-- The folders below the root. -/
  folders : List FilePlace := []
  /-- The working folder. -/
  here : FilePlace := []
deriving DecidableEq, Repr

namespace FileTree

/-- A tree without files whose working folder has that place. -/
def workingIn (place : FilePlace) : FileTree where
  folders := (List.range place.length).map fun n => place.take (n + 1)
  here := place

/-- Whether there is a folder at a place. -/
def hasFolder (t : FileTree) (place : FilePlace) : Bool :=
  place.isEmpty || t.folders.contains place

/-- The file at a place. -/
def file? (t : FileTree) (place : FilePlace) : Option FileContent :=
  t.files.lookup place

/-- The place to which a name leads from a folder. -/
def enter (place : FilePlace) (name : String) : FilePlace :=
  if name = "" ∨ name = "." then place
  else if name = ".." then place.dropLast
  else place ++ [name]

/-- Goes along names, all but the last of which must lead to folders. -/
def follow (t : FileTree) (place : FilePlace) : List String → Except FileError FilePlace
  | [] => .ok place
  | name :: names =>
    if t.hasFolder place then t.follow (enter place name) names
    else if (t.file? place).isSome then .error .noFolder
    else .error .missing

/-- The place at which a path starts. -/
def start (t : FileTree) (path : String) : FilePlace :=
  if path.startsWith "/" then [] else t.here

/-- The place of a path, whether or not there is anything. -/
def locate (t : FileTree) (path : String) : Except FileError FilePlace :=
  if path.isEmpty then .error .missing else t.follow (t.start path) (Text.pieces '/' path)

/-- Whether a path leads to a folder. -/
def isFolder (t : FileTree) (path : String) : Bool :=
  match t.locate path with
  | .ok place => t.hasFolder place
  | .error _ => false

/-- Whether a path leads to anything. -/
def hasPath (t : FileTree) (path : String) : Bool :=
  match t.locate path with
  | .ok place => t.hasFolder place || (t.file? place).isSome
  | .error _ => false

/-- The content of the file at a place. -/
def contentAt (t : FileTree) (place : FilePlace) : Except FileError FileContent :=
  match t.file? place with
  | some content => .ok content
  | none => .error (if t.hasFolder place then .folder else .missing)

/-- The text of the file at a place. -/
def textAt (t : FileTree) (place : FilePlace) : Except FileError String := do
  match ← t.contentAt place with
  | .text s => .ok s
  | .binary _ => .error .notText

/-- Reads a text. -/
def read (t : FileTree) (path : String) : Except FileError String := do
  t.textAt (← t.locate path)

/-- The names in a folder. -/
def namesIn (t : FileTree) (place : FilePlace) : List String :=
  (t.files.map (·.1) ++ t.folders).filterMap fun p =>
    if p.dropLast = place then p.getLast? else none

/-- The entries of a folder: each name with the text behind it. -/
def entries (t : FileTree) (path : String) :
    Except FileError (List (String × Except FileError String)) := do
  let place ← t.locate path
  if t.hasFolder place then
    .ok ((t.namesIn place).map fun name => (name, t.textAt (place ++ [name])))
  else if (t.file? place).isSome then .error .noFolder
  else .error .missing

/-- Goes along names, making the folders that are missing. -/
def makeAlong (t : FileTree) (place : FilePlace) : List String → Except FileError FileTree
  | [] => .ok t
  | name :: names =>
    let place := enter place name
    if t.hasFolder place then t.makeAlong place names
    else if (t.file? place).isSome then .error .noFolder
    else { t with folders := t.folders ++ [place] }.makeAlong place names

/-- Makes a folder and all folders on the way to it. -/
def makeFolder (t : FileTree) (path : String) : Except FileError FileTree :=
  t.makeAlong (t.start path) (Text.pieces '/' path)

/-- Puts a file at a place, over an earlier one. -/
def put (place : FilePlace) (content : FileContent) :
    List (FilePlace × FileContent) → List (FilePlace × FileContent)
  | [] => [(place, content)]
  | (p, c) :: rest =>
    if p = place then (p, content) :: rest else (p, c) :: put place content rest

/-- Writes a file into a folder that is there. -/
def write (t : FileTree) (path : String) (content : FileContent) : Except FileError FileTree := do
  let place ← t.locate path
  if t.hasFolder place then .error .folder
  else if !t.hasFolder place.dropLast then .error .missing
  else .ok { t with files := put place content t.files }

/-- Writes a text behind what the file has already. -/
def extend (t : FileTree) (path text : String) : Except FileError FileTree :=
  t.write path (.text (((t.read path).toOption).getD "" ++ text))

/-- Writes a file and makes the folders on the way to it. -/
def place (t : FileTree) (path : String) (content : FileContent) : Except FileError FileTree := do
  let names := Text.pieces '/' path
  let t ← t.makeAlong (t.start path) names.dropLast
  t.write path content

end FileTree

/-- The path of a name in a folder. -/
def joinPath (folder name : String) : String :=
  if folder.isEmpty ∨ folder.endsWith "/" then folder ++ name else folder ++ "/" ++ name

end Dialogue
