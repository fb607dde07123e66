/-
Flow files. The extension of its name tells the format of a file: JSON or YAML. A folder is loaded
file by file; those that are no flow files do not count, and those that do not load are left out.
-/
import Dialogue.Files.Tree
import Dialogue.Flow.Decode
import Dialogue.Flow.Encode
import Dialogue.Json.Printer
import Dialogue.Json.Reader
import Dialogue.Routing.Registry
import Dialogue.Yaml.Node
import Dialogue.Yaml.Printer

namespace Dialogue

/-- The formats of flow files. -/
inductive FileFormat where
  | json
  | yaml
deriving DecidableEq, Repr

/-- The part of a name behind its last dot, unless that is its first character. -/
def afterDot (name : List Char) : List Char :=
  let ext := (name.reverse.takeWhile (· ≠ '.')).reverse
  if ext.length + 1 < name.length then ext else []

/-- The extension of the last name of a path, in lower case. -/
def extensionOf (path : String) : String :=
  let names := (Text.cut '/' path.toList).filter fun n => n ≠ [] ∧ n ≠ ['.']
  match names.getLast? with
  | some name => if name = ['.', '.'] then "" else Text.lowercase (String.ofList (afterDot name))
  | none => ""

/-- The format that an extension stands for. -/
def FileFormat.ofExtension? (extension : String) : Option FileFormat :=
  if extension = "json" then some .json
  else if extension = "yaml" ∨ extension = "yml" then some .yaml
  else none

/-- The format of the file at a path. -/
def FileFormat.ofPath? (path : String) : Option FileFormat :=
  FileFormat.ofExtension? (extensionOf path)

/-- Why a flow file cannot be loaded or saved. -/
inductive FlowFileError where
  | file (error : FileError)
  | json (error : DecodeError)
  | yaml
  | unsupportedExtension (extension : String)
deriving DecidableEq, Repr

/-- The wording of an error. -/
def FlowFileError.message : FlowFileError → String
  | .file e => "I/O error: " ++ e.message
  | .json e => "JSON error: " ++ e.message
  | .yaml => "YAML error"
  | .unsupportedExtension extension =>
    "unsupported extension " ++ ticked extension ++ " (expected .json, .yaml or .yml)"

namespace Flow

/-- Reads a flow from a text; `now` is the time of one that gives none. -/
def ofText (now : Instant) (format : FileFormat) (s : String) : Except FlowFileError Flow :=
  match format with
  | .json =>
    match Json.decodeText (Flow.decode now) s with
    | .ok f => .ok f
    | .error e => .error (.json e)
  | .yaml =>
    match Yaml.decodeText (Flow.decode now) s with
    | some f => .ok f
    | none => .error .yaml

/-- Writes a flow as a text. -/
def toText (f : Flow) : FileFormat → String
  | .json => f.toJson.pretty
  | .yaml => Yaml.print f.toJson

/-- The flow of a file, given what reading the file brought. -/
def ofFile (now : Instant) (path : String) (read : Except FileError String) :
    Except FlowFileError Flow :=
  match read with
  | .error e => .error (.file e)
  | .ok s =>
    match FileFormat.ofPath? path with
    | some format => ofText now format s
    | none => .error (.unsupportedExtension (extensionOf path))

/-- Loads a flow. -/
def load (now : Instant) (t : FileTree) (path : String) : Except FlowFileError Flow :=
  ofFile now path (t.read path)

/-- Saves a flow. -/
def save (f : Flow) (t : FileTree) (path : String) : Except FlowFileError FileTree :=
  match FileFormat.ofPath? path with
  | some format =>
    match t.write path (.text (f.toText format)) with
    | .ok t => .ok t
    | .error e => .error (.file e)
  | none => .error (.unsupportedExtension (extensionOf path))

end Flow

/-! ## Folders -/

/-- A registry into which a folder is loaded. -/
structure FolderLoad where
  registry : Registry
  /-- The number of files that were loaded. -/
  loaded : Nat := 0
  /-- The errors of those that were not, with their names. -/
  failed : List (String × FlowFileError) := []
deriving DecidableEq, Repr

namespace FolderLoad

/-- What is said of a folder that cannot be read. -/
def failureText (path : String) : String :=
  "could not read flow directory " ++ path

/-- Takes one entry of a folder. -/
def take (now : Instant) (l : FolderLoad) (entry : String × Except FileError String) :
    FolderLoad :=
  if (FileFormat.ofPath? entry.1).isNone then l
  else
    match Flow.ofFile now entry.1 entry.2 with
    | .ok f => { l with registry := l.registry.register f, loaded := l.loaded + 1 }
    | .error e => { l with failed := l.failed ++ [(entry.1, e)] }

end FolderLoad

/-- Registers the flows of the entries of a folder, in order. -/
def Registry.loadEntries (r : Registry) (now : Instant)
    (entries : List (String × Except FileError String)) : FolderLoad :=
  entries.foldl (FolderLoad.take now) { registry := r }

/-- Registers the flows of a folder. -/
def Registry.loadFolder (r : Registry) (now : Instant) (t : FileTree) (path : String) :
    Except FileError FolderLoad :=
  (t.entries path).map (r.loadEntries now)

end Dialogue
