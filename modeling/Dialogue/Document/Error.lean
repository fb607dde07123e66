/-
Why a document cannot be decoded: the text itself is no document, or the document does not have
the form that is asked for.
-/
import Dialogue.Instant.Rfc3339
import Dialogue.Text.Quoted

namespace Dialogue

/-- How a text fails to be a document: something in it is out of place, or it ends too early. -/
inductive Fault where
  | malformed
  | truncated
deriving DecidableEq, Repr

/-- How a document differs from the form asked for. -/
inductive Mismatch where
  | missingField (name : String)
  | repeatedField (name : String)
  | wrongType (found expected : String)
  | wrongValue (found expected : String)
  | wrongLength (count : Nat) (expected : String)
  | unknownVariant (name : String) (known : List String)
  | badInstant (error : Instant.ReadError)
  | badPayload (node : String) (reason : Mismatch)
deriving DecidableEq, Repr

/-- A name between backquotes. -/
def ticked (name : String) : String :=
  "\x60" ++ name ++ "\x60"

/-- The variants that would have been right. -/
def variantChoice : List String → String
  | [] => "there are no variants"
  | [a] => "expected " ++ ticked a
  | [a, b] => "expected " ++ ticked a ++ " or " ++ ticked b
  | l => "expected one of " ++ ", ".intercalate (l.map ticked)

/-- What is said of a node whose data do not fit. -/
def badPayloadText (node reason : String) : String :=
  "invalid node " ++ ticked node ++ ": " ++ reason

/-- The wording of a mismatch. -/
def Mismatch.message : Mismatch → String
  | .missingField name => "missing field " ++ ticked name
  | .repeatedField name => "duplicate field " ++ ticked name
  | .wrongType found expected => "invalid type: " ++ found ++ ", expected " ++ expected
  | .wrongValue found expected => "invalid value: " ++ found ++ ", expected " ++ expected
  | .wrongLength count expected =>
    "invalid length " ++ toString count ++ ", expected " ++ expected
  | .unknownVariant name known =>
    "unknown variant " ++ ticked name ++ ", " ++ variantChoice known
  | .badInstant error => error.message
  | .badPayload node reason => badPayloadText node reason.message

/-- Why decoding failed. -/
inductive DecodeError where
  | fault (f : Fault)
  | mismatch (m : Mismatch)
deriving DecidableEq, Repr

/-- The wording of a failure. -/
def DecodeError.message : DecodeError → String
  | .fault .malformed => "malformed text"
  | .fault .truncated => "unexpected end of the text"
  | .mismatch m => m.message

end Dialogue
