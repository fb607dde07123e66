/-
The schema of flow files, for editors: which members a flow, a node and an edge have, which of
them are required, and what stands for those that are left out.
-/
import Dialogue.Files.Tree
import Dialogue.Flow.Encode
import Dialogue.Json.Printer

namespace Dialogue.Schema

/-- Texts. -/
def text : List (String × Json) :=
  [("type", .text "string")]

/-- Texts that may be absent. -/
def optionalText : List (String × Json) :=
  [("type", .ofTexts ["string", "null"])]

/-- Truth values. -/
def flag : List (String × Json) :=
  [("type", .text "boolean")]

/-- Instants. -/
def instant : List (String × Json) :=
  [("type", .text "string"), ("format", .text "date-time")]

/-- The type of that name. -/
def reference (name : String) : List (String × Json) :=
  [("$ref", .text ("#/$defs/" ++ name))]

/-- Lists of the type of that name. -/
def listOf (name : String) : List (String × Json) :=
  [("type", .text "array"), ("items", .object (reference name))]

/-- A schema together with what stands for an absent value. -/
def orElse (schema : List (String × Json)) (value : Json) : List (String × Json) :=
  schema ++ [("default", value)]

/-- A schema with a description. -/
def described (description : String) (schema : List (String × Json)) : List (String × Json) :=
  ("description", .text description) :: schema

/-- The schema of a record. -/
def record (members : List (String × List (String × Json))) (required : List String) :
    List (String × Json) :=
  [("type", .text "object"),
    ("properties", .object (members.map fun m => (m.1, .object m.2))),
    ("required", .ofTexts required)]

/-- The schema of types of nodes. -/
def nodeType : List (String × Json) :=
  described "The six node types a flow can contain."
    (text ++ [("enum", .ofTexts (NodeType.all.map (·.name)))])

/-- The schema of nodes. -/
def node : List (String × Json) :=
  described ("Wire shape of a node: \x60\x7b \"id\", \"type\", \"data\" \x7d\x60. " ++
      "The builder stores UI\nstate (\x60label\x60, \x60executing\x60, ...) inside " ++
      "\x60data\x60, which is ignored here.")
    (record [("id", text), ("type", reference "NodeType"), ("data", orElse [] .null)]
      ["id", "type"])

/-- The schema of edges. -/
def edge : List (String × Json) :=
  described ("A directed connection. Labels only matter when the source is a branching\nnode.")
    (record [("id", text), ("source", text), ("target", text), ("label", optionalText),
        ("sourceHandle", described
          "Handle id set by the visual builder; used when \x60label\x60 is absent." optionalText)]
      ["id", "source", "target"])

/-- The schema of flows; `now` stands for the times of a flow that gives none. -/
def flow (now : Instant) : Json :=
  .object ([("$schema", .text "https://json-schema.org/draft/2020-12/schema"),
      ("title", .text "FlowData")] ++
    described ("A tenant-authored flow as stored by the builder.\n\nThe engine never mutates a " ++
        "flow; one \x60FlowData\x60 is shared read-only by\nevery invocation that runs it.")
      (record [("id", text), ("name", text), ("description", optionalText),
          ("isActive", orElse flag (.bool true)), ("tenantId", orElse text (.text "")),
          ("nodes", listOf "RawNode"), ("edges", orElse (listOf "Edge") (.array [])),
          ("createdAt", orElse instant now.toJson), ("updatedAt", orElse instant now.toJson)]
        ["id", "name", "nodes"]) ++
    [("$defs", .object [("Edge", .object edge), ("NodeType", .object nodeType),
      ("RawNode", .object node)])])

/-- The name of the schema file. -/
def fileName : String := "flow.schema.json"

/-- Why the schema was not written. -/
inductive WriteError where
  | folder (path : String)
  | file (error : FileError)
deriving DecidableEq, Repr

/-- The wording of an error. -/
def WriteError.message : WriteError → String
  | .folder path => "could not create " ++ path
  | .file e => e.message

/-- Writes the schema into a folder, which is made if it is missing, and tells the path of the
file. -/
def write (now : Instant) (t : FileTree) (folder : String) :
    Except WriteError (String × FileTree) :=
  match t.makeFolder folder with
  | .error _ => .error (.folder folder)
  | .ok t =>
    let path := joinPath folder fileName
    match t.write path (.text (flow now).pretty) with
    | .ok t => .ok (path, t)
    | .error e => .error (.file e)

end Dialogue.Schema
