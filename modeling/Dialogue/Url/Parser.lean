/-
URLs: reading a text as one, and the one form in which a URL is written. Reading drops what makes
no difference, such as the usual port of a scheme or dots in a path, and encodes what may not stand
as it is.
-/
import Dialogue.Url.Host

namespace Dialogue

/-- The path of a URL: names between slashes, or a text without structure. -/
inductive UrlPath where
  | names (l : List String)
  | opaqueText (s : String)
deriving DecidableEq, Repr

/-- A URL. -/
structure Url where
  scheme : String
  username : String := ""
  password : String := ""
  host : Option String := none
  /-- The port, unless it is the usual one of the scheme. -/
  port : Option Nat := none
  path : UrlPath
  query : Option String := none
  fragment : Option String := none
deriving DecidableEq, Repr

namespace Url

/-! ## Writing -/

/-- User name and password with their marks. -/
def credentials (u : Url) : String :=
  if u.username.isEmpty ∧ u.password.isEmpty then ""
  else u.username ++ (if u.password.isEmpty then "" else ":" ++ u.password) ++ "@"

/-- What stands between scheme and path. -/
def authority (u : Url) : String :=
  match u.host with
  | some h =>
    "//" ++ u.credentials ++ h ++
      match u.port with
      | some p => ":" ++ toString p
      | none => ""
  | none => ""

/-- The path with its slashes. Without a host it may not start with two of them. -/
def pathText (u : Url) : String :=
  match u.path with
  | .opaqueText s => s
  | .names l =>
    (if u.host.isNone ∧ 1 < l.length ∧ l.head? = some "" then "/." else "") ++
      String.join (l.map ("/" ++ ·))

/-- The URL as a text. -/
def text (u : Url) : String :=
  u.scheme ++ ":" ++ u.authority ++ u.pathText ++
    (match u.query with
      | some q => "?" ++ q
      | none => "") ++
    match u.fragment with
    | some f => "#" ++ f
    | none => ""

/-! ## Reading -/

/-- The usual port of a scheme. -/
def usualPort? (scheme : String) : Option Nat :=
  [("http", 80), ("https", 443), ("ws", 80), ("wss", 443), ("ftp", 21)].lookup scheme

/-- Whether the scheme is one of the common ones, which follow stricter rules. -/
def isSpecial (scheme : String) : Bool :=
  scheme == "file" || (usualPort? scheme).isSome

/-- The scheme and what follows its colon. -/
def schemePart? (cs : List Char) : Option (String × List Char) :=
  let name := cs.takeWhile fun c => c.isAlphanum || c == '+' || c == '-' || c == '.'
  match cs.drop name.length with
  | ':' :: rest =>
    if name.head?.any Char.isAlpha then some (String.ofList (name.map Char.toLower), rest) else none
  | _ => none

/-- Splits a text in front of its first mark. -/
def before (mark : Char → Bool) (cs : List Char) : List Char × List Char :=
  (cs.takeWhile fun c => !mark c, cs.dropWhile fun c => !mark c)

/-- What ends the part that names the host. -/
def endsAuthority (special : Bool) (c : Char) : Bool :=
  c == '/' || c == '?' || c == '#' || (special && c == '\\')

/-- Splits a text behind its last `@`. -/
def userPart (cs : List Char) : Option (List Char) × List Char :=
  let host := (cs.reverse.takeWhile (· ≠ '@')).reverse
  if host.length = cs.length then (none, cs)
  else (some (cs.take (cs.length - host.length - 1)), host)

/-- Splits a text at the colon of the port, which stands outside of brackets. -/
def portPart : (inBrackets : Bool) → List Char → List Char × Option (List Char)
  | _, [] => ([], none)
  | inBrackets, c :: cs =>
    if c = ':' ∧ !inBrackets then ([], some cs)
    else
      let inBrackets := if c = '[' then true else if c = ']' then false else inBrackets
      let (host, port) := portPart inBrackets cs
      (c :: host, port)

/-- The port that digits stand for; no digits stand for no port. -/
def readPort? (scheme : String) : Option (List Char) → Option (Option Nat)
  | none => some none
  | some ds =>
    if ds.all Char.isDigit then do
      let n ← digitsTo? 10 ds
      if 65535 < n then none
      else some (if ds.isEmpty ∨ usualPort? scheme = some n then none else some n)
    else none

/-- User name and password, encoded. -/
def readUser (cs : List Char) : String × String :=
  let (name, password) := before (· == ':') cs
  let encode (cs : List Char) : String := String.ofList (percentEncode userSet cs)
  (encode name, encode password.tail)

/-! ### Paths -/

/-- Whether a name stands for the folder itself. -/
def isDot (name : String) : Bool :=
  [".", "%2e"].contains name.toLower

/-- Whether a name stands for the folder around. -/
def isDotDot (name : String) : Bool :=
  ["..", ".%2e", "%2e.", "%2e%2e"].contains name.toLower

/-- Goes along the names of a path; `done` is in reverse. -/
def resolve (done : List String) : List String → List String
  | [] => done.reverse
  | [name] =>
    if isDotDot name then ("" :: done.tail).reverse
    else if isDot name then ("" :: done).reverse
    else (name :: done).reverse
  | name :: names =>
    if isDotDot name then resolve done.tail names
    else if isDot name then resolve done names
    else resolve (name :: done) names

/-- The names of a path behind its first slash. -/
def readNames (special : Bool) (cs : List Char) : List String :=
  let cs := if special then cs.map fun c => if c = '\\' then '/' else c else cs
  resolve [] ((Text.cut '/' cs).map fun name => String.ofList (percentEncode pathSet name))

/-- Whether a slash comes first. -/
def slashFirst (special : Bool) (cs : List Char) : Bool :=
  cs.head?.any fun c => c == '/' || (special && c == '\\')

/-- The path behind a host. The common schemes always have one. -/
def readPath (special : Bool) (cs : List Char) : UrlPath :=
  if cs.isEmpty ∧ !special then .names []
  else .names (readNames special (if slashFirst special cs then cs.tail else cs))

/-! ### The whole -/

/-- Adds query and fragment. -/
def withTail (u : Url) (tail : List Char) : Url :=
  let (query, fragment) := before (· == '#') tail
  let set := if isSpecial u.scheme then specialQuerySet else querySet
  { u with
    query := if query.isEmpty then none else some (String.ofList (percentEncode set query.tail))
    fragment := if fragment.isEmpty then none
      else some (String.ofList (percentEncode fragmentSet fragment.tail)) }

/-- Splits path, and query with fragment. -/
def tailPart (cs : List Char) : List Char × List Char :=
  before (fun c => c == '?' || c == '#') cs

/-- The URL behind the two slashes in front of a host. -/
def readAuthority? (scheme : String) (cs : List Char) : Option Url := do
  let special := isSpecial scheme
  let (front, rest) := before (endsAuthority special) cs
  let (user, hostPort) := userPart front
  let (hostChars, portChars) := portPart false hostPort
  if hostChars.isEmpty ∧ (special ∨ portChars.isSome ∨ user.any (!·.isEmpty)) then none
  else
    let host ← if hostChars.isEmpty then some ""
      else if special then parseHost? hostChars else parseOpaqueHost? hostChars
    let port ← readPort? scheme portChars
    let (username, password) := readUser (user.getD [])
    let (path, tail) := tailPart rest
    some (withTail { scheme, username, password, host := some host, port,
                     path := readPath special path } tail)

/-- The URL of a file. -/
def readFile? (cs : List Char) : Option Url := do
  let toSlash (c : Char) : Char := if c = '\\' then '/' else c
  let (front, tail) := tailPart cs
  match front.map toSlash with
  | '/' :: '/' :: rest =>
    let (host, path) := before (· == '/') rest
    let host ← if host.isEmpty then some "" else parseHost? host
    some (withTail { scheme := "file", host := some (if host = "localhost" then "" else host),
                     path := readPath true path } tail)
  | path => some (withTail { scheme := "file", host := some "", path := readPath true path } tail)

/-- Reads a URL. Controls and spaces at the ends do not count, nor do tabs and line breaks. -/
def parse? (s : String) : Option Url := do
  let cs := Text.stripEnds (fun c => c.toNat ≤ 0x20) s.toList
  let cs := cs.filter fun c => c ≠ '\t' ∧ c ≠ '\n' ∧ c ≠ '\r'
  let (scheme, rest) ← schemePart? cs
  if scheme = "file" then readFile? rest
  else if isSpecial scheme then
    readAuthority? scheme (rest.dropWhile fun c => c == '/' || c == '\\')
  else
    match rest with
    | '/' :: '/' :: rest => readAuthority? scheme rest
    | '/' :: rest =>
      let (path, tail) := tailPart rest
      some (withTail { scheme, path := .names (readNames false path) } tail)
    | rest =>
      let (path, tail) := tailPart rest
      some (withTail { scheme, path := .opaqueText (String.ofList (percentEncode [] path)) } tail)

end Url

end Dialogue
