/-
Log filters: directives between commas that tell, for a target and everything below it, how much
is logged. The directive with the longest target decides; one without target counts for all. A
directive may also name a span, a piece of work during which things are logged, and a field. It then
lets through what happens inside such spans.
-/
import Dialogue.Table
import Dialogue.Text.Basic
import Dialogue.Text.WordChar

namespace Dialogue

/-- How much is logged; a higher number is more. -/
inductive LogLevel where
  | off
  | error
  | warn
  | info
  | debug
  | trace
deriving DecidableEq, Repr

namespace LogLevel

/-- The levels in order. -/
def all : List LogLevel := [.off, .error, .warn, .info, .debug, .trace]

/-- The name of a level. -/
def name : LogLevel → String
  | .off => "off"
  | .error => "error"
  | .warn => "warn"
  | .info => "info"
  | .debug => "debug"
  | .trace => "trace"

/-- The place of a level in the order. -/
def rank (l : LogLevel) : Nat :=
  all.idxOf l

/-- The level of a number, with or without a plus sign. -/
def ofNumber? (cs : List Char) : Option LogLevel :=
  let ds := match cs with
    | '+' :: ds => ds
    | ds => ds
  if ds.isEmpty ∨ !ds.all Char.isDigit then none
  else all[ds.foldl (fun n d => 10 * n + (d.toNat - '0'.toNat)) 0]?

/-- The level that a text stands for, the case of letters aside. -/
def ofText? (cs : List Char) : Option LogLevel :=
  match ofNumber? cs with
  | some l => some l
  | none => all.find? fun l => l.name.toList == cs.map Char.toLower

end LogLevel

/-- A field, and the value that it must have, if any. -/
structure FieldCheck where
  name : String
  value : Option String := none
deriving DecidableEq, Repr

/-- What a directive says: for which targets, spans and fields how much is logged. -/
structure LogDirective where
  target : Option String := none
  span : Option String := none
  field : Option FieldCheck := none
  level : LogLevel := .trace
deriving DecidableEq, Repr

/-- What a filter is asked about: something with a target, a level and fields. -/
structure LogPoint where
  target : String
  level : LogLevel
  fields : List String
deriving DecidableEq, Repr

/-- A piece of work that is logged as such. -/
structure LogSpan where
  target : String
  name : String
  fields : Table String
deriving DecidableEq, Repr

namespace FieldCheck

/-- Reads a check: a name, and perhaps a value behind an equals sign. -/
def ofText (cs : List Char) : FieldCheck :=
  match Text.cut '=' cs with
  | name :: value :: _ => ⟨String.ofList name, some (String.ofList value)⟩
  | _ => ⟨String.ofList cs, none⟩

/-- Whether a span passes the check. -/
def holds (f : FieldCheck) (s : LogSpan) : Bool :=
  match f.value with
  | some v => s.fields.get? f.name == some v
  | none => s.fields.contains f.name

end FieldCheck

namespace LogDirective

/-- Whether a directive may start with the character. -/
def mayStart (c : Char) : Bool :=
  c == '-' || c == ':' || c == '_' || c == '[' || Text.isWordChar c

/-- The level behind an equals sign. -/
def levelPart? (cs : List Char) : Option LogLevel :=
  if cs.isEmpty then some .trace else LogLevel.ofText? cs

/-- Finishes a directive with what follows the bracket of a span: nothing, or a level. -/
def finish? (d : LogDirective) : List Char → Option LogDirective
  | [] => some d
  | '=' :: cs => (levelPart? cs).map fun level => { d with level }
  | _ => none

/-- The directive behind the opening bracket of a span. -/
def spanPart? (target : Option String) (cs : List Char) : Option LogDirective :=
  let name := cs.takeWhile fun c => c != ']' && c != '\x7b'
  let span := String.ofList name
  match cs.drop name.length with
  | ']' :: rest => finish? { target, span := some span } rest
  | '\x7b' :: rest =>
    let field := rest.takeWhile (· != '\x7d')
    match field, rest.drop field.length with
    | _ :: _, '\x7d' :: ']' :: rest =>
      let span := if span.isEmpty then none else some span
      finish? { target, span, field := some (.ofText field) } rest
    | _, _ => none
  | _ => none

/-- Reads a directive. A single word is a level or, if it names none, a target. -/
def ofText? (cs : List Char) : Option LogDirective :=
  if !cs.head?.any mayStart then none
  else
    let word := cs.takeWhile fun c => c != '=' && c != '['
    let target := if word.isEmpty then none else some (String.ofList word)
    match cs.drop word.length with
    | [] =>
      match LogLevel.ofText? word with
      | some level => some { level }
      | none => some { target }
    | '=' :: rest =>
      (levelPart? rest).map fun level => { target := some (String.ofList word), level }
    | _ :: rest => spanPart? target rest

/-- Whether a target is that of the directive or below it. -/
def covers (d : LogDirective) (target : String) : Bool :=
  (d.target.getD "").toList.isPrefixOf target.toList

/-- Whether the directive says something about what happens outside of spans. -/
def appliesTo (d : LogDirective) (p : LogPoint) : Bool :=
  d.span.isNone && d.covers p.target &&
    d.field.all fun f => f.value.isNone && p.fields.contains f.name

/-- Whether the directive says something about what happens inside a span. -/
def appliesIn (d : LogDirective) (s : LogSpan) : Bool :=
  (d.span.isSome || d.field.isSome) && d.covers s.target &&
    d.span.all (· == s.name) && d.field.all (·.holds s)

/-- How closely a directive describes what it is about: the length of the target counts first, then
whether there is a field. -/
def closeness (d : LogDirective) : Nat × Nat :=
  ((d.target.map String.length).getD 0, if d.field.isSome then 1 else 0)

/-- Whether a directive describes what it is about less closely than another one. -/
def lessClose (a b : LogDirective) : Bool :=
  let (x, y) := (a.closeness, b.closeness)
  x.1 < y.1 || (x.1 == y.1 && x.2 < y.2)

end LogDirective

/-- The directives of a filter. -/
abbrev LogFilter := List LogDirective

namespace LogFilter

/-- Reads a filter; empty directives do not count. -/
def ofText? (s : String) : Option LogFilter :=
  let texts := ((Text.cut ',' s.toList).filter (!·.isEmpty)).map (Text.stripEnds Text.isBlank)
  (texts.filter (!·.isEmpty)).mapM LogDirective.ofText?

/-- Of several directives the closest one, and the last of those that are equally close. -/
def closest? (ds : List LogDirective) : Option LogDirective :=
  ds.foldl (fun best d =>
    match best with
    | some b => if d.lessClose b then some b else some d
    | none => some d) none

/-- Whether the filter lets something through that happens inside spans. A filter without
directives lets errors through. -/
def allows (f : LogFilter) (inside : List LogSpan) (p : LogPoint) : Bool :=
  if f.isEmpty then p.level.rank ≤ LogLevel.error.rank
  else
    (f.any fun d => p.level.rank ≤ d.level.rank && inside.any d.appliesIn) ||
      (closest? (f.filter (·.appliesTo p))).any fun d => p.level.rank ≤ d.level.rank

end LogFilter

end Dialogue
