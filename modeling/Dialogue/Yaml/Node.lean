/-
YAML documents from their tokens. An alias stands for the node that its anchor names; a merge key
adds the members of another record that the record does not have itself. A text holds exactly one
document.
-/
import Dialogue.Document.Decoder
import Dialogue.Table
import Dialogue.Yaml.Lexer

namespace Dialogue.Yaml

/-! ## Tags -/

/-- What the handles of tags stand for. -/
abbrev Handles := List (String × String)

/-- The handles that need no directive. -/
def Handles.standard : Handles :=
  [("", ""), ("!", "!"), ("!!", "tag:yaml.org,2002:")]

/-- A scalar by its tag and style: what is tagged as a text or not written plain is a text, unless
it is tagged as one of the other scalar types. -/
def scalarDoc (tag : Option String) (plain : Bool) (text : String) : Doc :=
  let typed := ["null", "bool", "int", "float"].any fun t => tag == some ("tag:yaml.org,2002:" ++ t)
  if typed || (plain && tag != some "tag:yaml.org,2002:str") then .plain text else .text text

/-- A scalar that was left out. -/
def emptyScalar : Doc := .plain ""

/-! ## Members -/

/-- The text of a scalar key. -/
def keyText? : Doc → Option String
  | .text s => some s
  | .plain s => some s
  | _ => none

/-- Whether some member has that key. -/
def hasKey (members : List (Doc × Doc)) (key : Doc) : Bool :=
  (keyText? key).any fun s => members.any fun m => keyText? m.1 == some s

/-- The members with a broken place at every key that stands there a second time. -/
def breakRepeats (seen : List String) : List (Doc × Doc) → List (Doc × Doc)
  | [] => []
  | (k, v) :: rest =>
    match keyText? k with
    | some s =>
      if s ∈ seen then (.broken .malformed none, v) :: breakRepeats seen rest
      else (k, v) :: breakRepeats (s :: seen) rest
    | none => (k, v) :: breakRepeats seen rest

/-- Whether a key asks for the members of another record. -/
def isMergeKey : Doc → Bool
  | .plain s => s == "<<"
  | _ => false

/-- The members that the value of a merge key brings, or a broken place. -/
def broughtBy : Doc → List (Doc × Doc)
  | .record members _ => members
  | .list docs _ => docs.flatMap fun d =>
    match d with
    | .record members _ => members
    | _ => [(.broken .malformed none, .null)]
  | _ => [(.broken .malformed none, .null)]

/-- Adds members with new keys. -/
def addNew (members : List (Doc × Doc)) : List (Doc × Doc) → List (Doc × Doc)
  | [] => members
  | m :: more => addNew (if hasKey members m.1 then members else members ++ [m]) more

/-- A record of these members, merge keys replaced by what they bring. -/
def recordDoc (members : List (Doc × Doc)) : Doc :=
  let members := breakRepeats [] members
  let own := members.filter fun m => !isMergeKey m.1
  let brought := (members.filter fun m => isMergeKey m.1).flatMap fun m => broughtBy m.2
  .record (addNew own brought) none

/-! ## Nodes -/

/-- The greatest number of collections that may be nested in one another. -/
def depthLimit : Nat := 128

/-- A collection at some depth: past the limit it can only be passed over. -/
def atDepth (depth : Nat) (d : Doc) : Doc :=
  if depth < depthLimit then d else .broken .malformed d.skip

/-- What is still to be read, and the nodes that were named so far. A node has a name already
while it is being read. -/
structure Reading where
  tokens : List Token
  anchors : Table (Option Doc) := []

namespace Reading

/-- Goes on with these tokens. -/
def onward (r : Reading) (tokens : List Token) : Reading :=
  { r with tokens }

/-- Names the node that is about to be read. -/
def name (r : Reading) : Option String → Reading
  | some a => { r with anchors := r.anchors.insert a none }
  | none => r

/-- Gives the name its node, unless it was given to another one meanwhile. -/
def give (r : Reading) (a : Option String) (d : Doc) : Reading :=
  match a with
  | some a =>
    match r.anchors.get? a with
    | some none => { r with anchors := r.anchors.insert a (some d) }
    | _ => r
  | none => r

/-- The node that an alias stands for. One inside itself cannot be decoded. -/
def aliased (r : Reading) (a : String) : Option Doc :=
  (r.anchors.get? a).map fun d => d.getD (.broken .malformed none)

end Reading

/-- What stands in front of a node. -/
structure Properties where
  anchor : Option String := none
  tag : Option String := none
deriving DecidableEq, Repr

/-- Reads an anchor and a tag, in either order. -/
def properties (h : Handles) : List Token → Option (Properties × List Token)
  | .anchor a :: .tag handle suffix :: ts =>
    (h.lookup handle).map fun head => (⟨some a, some (head ++ suffix)⟩, ts)
  | .tag handle suffix :: .anchor a :: ts =>
    (h.lookup handle).map fun head => (⟨some a, some (head ++ suffix)⟩, ts)
  | .anchor a :: ts => some (⟨some a, none⟩, ts)
  | .tag handle suffix :: ts =>
    (h.lookup handle).map fun head => (⟨none, some (head ++ suffix)⟩, ts)
  | ts => some ({}, ts)

/-- Where a node stands. -/
inductive Position where
  /-- Inside brackets. -/
  | flow
  | block
  /-- In a block record, where a list needs no indentation. -/
  | member
deriving DecidableEq, Repr

/-- Whether nothing stands for the item of a dash or for the key or value of a record, given the
token that follows. -/
def isLeftOut (p : Position) : List Token → Bool
  | [] => true
  | .blockItem :: _ => p == .block
  | .blockEnd :: _ => true
  | .key :: _ => true
  | .value :: _ => true
  | .flowComma :: _ => true
  | .flowListEnd :: _ => true
  | .flowRecordEnd :: _ => true
  | _ => false

mutual

/-- The node in front of the tokens. -/
def node (h : Handles) (fuel depth : Nat) (p : Position) (r : Reading) : Option (Doc × Reading) :=
  match fuel with
  | 0 => none
  | fuel + 1 =>
    match r.tokens with
    | .alias a :: ts => do
      let d ← r.aliased a
      some (d, r.onward ts)
    | ts => do
      let (props, ts) ← properties h ts
      let (d, r) ← content h fuel depth p props ((r.onward ts).name props.anchor)
      some (d, r.give props.anchor d)

/-- The node behind its anchor and tag. -/
def content (h : Handles) (fuel depth : Nat) (p : Position) (props : Properties) (r : Reading) :
    Option (Doc × Reading) :=
  match fuel with
  | 0 => none
  | fuel + 1 =>
    match r.tokens, p with
    | .scalar plain text :: ts, _ => some (scalarDoc props.tag plain text, r.onward ts)
    | .flowListStart :: ts, _ => do
      let (ds, r) ← flowItems h fuel (depth + 1) (r.onward ts)
      some (atDepth depth (.list ds none), r)
    | .flowRecordStart :: ts, _ => do
      let (ms, r) ← flowMembers h fuel (depth + 1) (r.onward ts)
      some (atDepth depth (recordDoc ms), r)
    | .blockItem :: _, .member => do
      let (ds, r) ← blockItems h fuel (depth + 1) r
      some (atDepth depth (.list ds none), r)
    | .blockListStart :: ts, _ => do
      let (ds, r) ← blockItems h fuel (depth + 1) (r.onward ts)
      match r.tokens with
      | .blockEnd :: ts => some (atDepth depth (.list ds none), r.onward ts)
      | _ => none
    | .blockRecordStart :: ts, _ => do
      let (ms, r) ← blockMembers h fuel (depth + 1) (r.onward ts)
      some (atDepth depth (recordDoc ms), r)
    | _, _ => if props = {} then none else some (scalarDoc props.tag true "", r)

/-- A node, or the empty scalar if there is none. -/
def nodeOrEmpty (h : Handles) (fuel depth : Nat) (p : Position) (r : Reading) :
    Option (Doc × Reading) :=
  match fuel with
  | 0 => none
  | fuel + 1 => if isLeftOut p r.tokens then some (emptyScalar, r) else node h fuel depth p r

/-- Items with dashes. -/
def blockItems (h : Handles) (fuel depth : Nat) (r : Reading) : Option (List Doc × Reading) :=
  match fuel with
  | 0 => none
  | fuel + 1 =>
    match r.tokens with
    | .blockItem :: ts => do
      let (d, r) ← nodeOrEmpty h fuel depth .block (r.onward ts)
      let (ds, r) ← blockItems h fuel depth r
      some (d :: ds, r)
    | _ => some ([], r)

/-- Members up to the end of a block record. -/
def blockMembers (h : Handles) (fuel depth : Nat) (r : Reading) :
    Option (List (Doc × Doc) × Reading) :=
  match fuel with
  | 0 => none
  | fuel + 1 =>
    match r.tokens with
    | .blockEnd :: ts => some ([], r.onward ts)
    | .key :: ts => do
      let (k, r) ← nodeOrEmpty h fuel depth .member (r.onward ts)
      let (v, r) ← memberValue h fuel depth .member r
      let (ms, r) ← blockMembers h fuel depth r
      some ((k, v) :: ms, r)
    | _ => none

/-- The value of a key, which may be left out together with its colon. -/
def memberValue (h : Handles) (fuel depth : Nat) (p : Position) (r : Reading) :
    Option (Doc × Reading) :=
  match fuel with
  | 0 => none
  | fuel + 1 =>
    match r.tokens with
    | .value :: ts => nodeOrEmpty h fuel depth p (r.onward ts)
    | _ => some (emptyScalar, r)

/-- Items up to the closing bracket. A single member may stand for a record. -/
def flowItems (h : Handles) (fuel depth : Nat) (r : Reading) : Option (List Doc × Reading) :=
  match fuel with
  | 0 => none
  | fuel + 1 => do
    match r.tokens with
    | .flowListEnd :: ts => some ([], r.onward ts)
    | .key :: ts =>
      let (k, r) ← nodeOrEmpty h fuel (depth + 1) .flow (r.onward ts)
      let (v, r) ← memberValue h fuel (depth + 1) .flow r
      let (ds, r) ← moreFlowItems h fuel depth r
      some (atDepth depth (recordDoc [(k, v)]) :: ds, r)
    | _ =>
      let (d, r) ← node h fuel depth .flow r
      let (ds, r) ← moreFlowItems h fuel depth r
      some (d :: ds, r)

/-- What follows an item: the closing bracket, or a comma. -/
def moreFlowItems (h : Handles) (fuel depth : Nat) (r : Reading) : Option (List Doc × Reading) :=
  match fuel with
  | 0 => none
  | fuel + 1 =>
    match r.tokens with
    | .flowListEnd :: ts => some ([], r.onward ts)
    | .flowComma :: ts => flowItems h fuel depth (r.onward ts)
    | _ => none

/-- Members up to the closing brace. A node without a colon is a key without a value. -/
def flowMembers (h : Handles) (fuel depth : Nat) (r : Reading) :
    Option (List (Doc × Doc) × Reading) :=
  match fuel with
  | 0 => none
  | fuel + 1 => do
    match r.tokens with
    | .flowRecordEnd :: ts => some ([], r.onward ts)
    | .key :: ts =>
      let (k, r) ← nodeOrEmpty h fuel depth .flow (r.onward ts)
      let (v, r) ← memberValue h fuel depth .flow r
      let (ms, r) ← moreFlowMembers h fuel depth r
      some ((k, v) :: ms, r)
    | _ =>
      let (k, r) ← node h fuel depth .flow r
      let (ms, r) ← moreFlowMembers h fuel depth r
      some ((k, emptyScalar) :: ms, r)

/-- What follows a member: the closing brace, or a comma. -/
def moreFlowMembers (h : Handles) (fuel depth : Nat) (r : Reading) :
    Option (List (Doc × Doc) × Reading) :=
  match fuel with
  | 0 => none
  | fuel + 1 =>
    match r.tokens with
    | .flowRecordEnd :: ts => some ([], r.onward ts)
    | .flowComma :: ts => flowMembers h fuel depth (r.onward ts)
    | _ => none

end

/-! ## Documents -/

/-- Takes the directives in front of a document: one version at most, and no handle twice. -/
def directives (version : Bool) (h own : Handles) : List Token → Option (Handles × List Token)
  | .versionDirective major minor :: ts =>
    if version ∨ major ≠ 1 ∨ (minor ≠ 1 ∧ minor ≠ 2) then none else directives true h own ts
  | .tagDirective handle head :: ts =>
    if (own.lookup handle).isSome then none
    else directives version h ((handle, head) :: own) ts
  | ts => some (own ++ h, ts)

/-- The only document of a text. -/
def document? (ts : List Token) : Option Doc := do
  let (h, start) ← directives false .standard [] ts
  let start ← match start with
    | .documentStart :: start => some start
    | start => if start.length = ts.length ∧ !ts.isEmpty then some start else none
  let (d, r) ← match start with
    | [] => some (emptyScalar, ⟨[], []⟩)
    | .documentEnd :: _ => some (emptyScalar, ⟨start, []⟩)
    | start => node h (4 * ts.length + 4) 0 .block ⟨start, []⟩
  if r.tokens.all (· == .documentEnd) then some d else none

/-- The document of a text. -/
def readDoc (s : String) : Option Doc :=
  (tokens? s).bind document?

/-- Decodes a text. Whatever is wrong with it counts the same. -/
def decodeText {α : Type} (f : Decoder α) (s : String) : Option α :=
  (readDoc s).bind fun d => (f .yaml d).toOption

end Dialogue.Yaml
