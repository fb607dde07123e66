/-
Choosing among the options of a router: the question put to the classifier, and the option that a
free-form answer names. An answer that equals a label, apart from case, blanks and punctuation
around it, names that option; otherwise the answer must mention exactly one label.
-/
import Dialogue.Flow.Basic
import Dialogue.Text.Mention

namespace Dialogue

/-- Whether two labels are the same, blanks around them and letter case aside. -/
def sameLabel (a b : String) : Bool :=
  Text.normalize a == Text.normalize b

/-- The text unless it is absent or blank. -/
def filled (s : Option String) : Option String :=
  s.filter fun t => !Text.allBlank t

namespace Router

/-- One line of the list of categories. -/
def optionLine (o : Choice) : String :=
  match filled o.description with
  | some d => "- " ++ o.label ++ ": " ++ d ++ "\n"
  | none => "- " ++ o.label ++ "\n"

/-- The question put to the classifier. -/
def question (r : Router) (body : String) : String :=
  (match filled r.prompt with
    | some extra => Text.trim extra ++ "\n\n"
    | none => "") ++
  "Classify the user message into exactly one of the categories below. " ++
  "Answer with the category label only.\n\nCategories:\n" ++
  String.join (r.options.map optionLine) ++
  "\nUser message: " ++ body

end Router

/-- The prompt of an `ai` node together with the message. -/
def fullPrompt (prompt body : String) : String :=
  prompt ++ "\n\nUser message: " ++ body

/-- The answer without blanks and ASCII punctuation around it. -/
def cleanedAnswer (answer : String) : String :=
  Text.stripWhere (fun c => Text.isBlank c || Text.isPunctuation c) answer

/-- The options whose label is not blank. -/
def labelled (options : List Choice) : List Choice :=
  options.filter fun o => !Text.allBlank o.label

/-- The first option whose label equals the answer. -/
def exactOption? (options : List Choice) (cleaned : String) : Option Choice :=
  (labelled options).find? fun o => sameLabel o.label cleaned

/-- The options whose labels the answer mentions. -/
def mentioned (options : List Choice) (answer : String) : List Choice :=
  (labelled options).filter fun o => Text.mentions answer (Text.trim o.label)

/-- The greatest number of labels that are looked for in one answer. Labels are looked for by patterns
that are compiled into one automaton, and what bounds that is its size in bytes. This number stands for
the bound. Nearly all the room that a pattern takes is for the word characters which may not touch the
label, as much at every label, so for labels of a few words a count comes to the same. The longer labels
are, the fewer fit, and that is not counted here. What is proved of readings holds for any other bound
as well: it asks for no more than `tooManyLabels_perm`. -/
def labelLimit : Nat := 120

/-- Whether the patterns of the labels are taken to be too large to look for mentions. -/
def tooManyLabels (options : List Choice) : Bool :=
  labelLimit < (labelled options).length

/-- What an answer was found to say. -/
inductive Reading where
  /-- It names the option with this label. -/
  | option (label : String)
  /-- It names no option, or more than one. -/
  | unclear
  /-- It is no label, and there are too many labels to look for mentions. -/
  | unsearched
deriving DecidableEq, Repr

/-- Reads an answer. -/
def readAnswer (answer : String) (options : List Choice) : Reading :=
  let cleaned := cleanedAnswer answer
  if cleaned.isEmpty then .unclear
  else
    match exactOption? options cleaned with
    | some o => .option o.label
    | none =>
      if tooManyLabels options then .unsearched
      else
        match mentioned options answer with
        | [o] => .option o.label
        | _ => .unclear

/-- The label of the option that an answer names. -/
def chosenLabel (answer : String) (options : List Choice) : Option String :=
  match readAnswer answer options with
  | .option label => some label
  | _ => none

end Dialogue
