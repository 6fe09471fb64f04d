import Vigil.Text.Blank
import Vigil.Text.Split
import Vigil.Url.Basic
import Vigil.Url.Host

/-!
# Reading addresses

An address begins with its scheme. The schemes of the web take a host in any
case, treat a backslash as a slash and leave out their usual port. Dot segments
of a path are resolved.
-/

namespace Vigil.Url

/-- How the parts after a scheme are read. -/
inductive Kind where
  | web (port : Nat)
  | file
  | other
deriving DecidableEq

namespace Kind

/-- The kind of a scheme. -/
def ofScheme (scheme : List Char) : Kind :=
  match String.ofList scheme with
  | "http" => web 80
  | "ws" => web 80
  | "https" => web 443
  | "wss" => web 443
  | "ftp" => web 21
  | "file" => file
  | _ => other

/-- A slash, or a backslash where it means the same. -/
def isSlash (kind : Kind) (c : Char) : Bool := c = '/' || (c = '\\' && kind != other)

/-- The port that is not written. -/
def usualPort : Kind → Option Nat
  | web port => some port
  | _ => none

end Kind

/-- The text without controls and spaces at its ends and without tabs and line ends in it. -/
def clean (text : List Char) : List Char :=
  let edge (c : Char) : Bool := c.toNat ≤ 0x20
  ((text.dropWhile edge).reverse.dropWhile edge).reverse.filter fun c => !(['\t', '\n', '\r'].contains c)

/-- The scheme in lower case and the text after its colon. -/
def splitScheme (text : List Char) : Option (List Char × List Char) := do
  let (scheme, rest) ← Text.splitFirst ':' text
  let letter ← scheme.head?
  if letter.isAlpha ∧ scheme.all fun c => c.isAlphanum || ['+', '-', '.'].contains c then
    some (scheme.map Char.toLower, rest)
  else none

/-- The segment means the place itself. -/
def isHere (segment : List Char) : Bool :=
  ["." , "%2e"].contains (String.ofList (segment.map Char.toLower))

/-- The segment means the place above. -/
def isAbove (segment : List Char) : Bool :=
  ["..", ".%2e", "%2e.", "%2e%2e"].contains (String.ofList (segment.map Char.toLower))

/-- The segment is the letter of a drive, as files have them. -/
def isDrive : List Char → Bool
  | [letter, mark] => letter.isAlpha && (mark = ':' || mark = '|')
  | _ => false

/-- The segments, last one first, without the last one; the drive of a file stays. -/
def shorten (kind : Kind) (done : List (List Char)) : List (List Char) :=
  match done with
  | [segment] => if kind = .file ∧ isDrive segment then done else []
  | _ => done.tail

/-- The segment as it is written. -/
def segmentText (kind : Kind) (segment : List Char) : List Char :=
  if kind = .file ∧ isDrive segment then [segment.headD 'c', ':'] else segment

/-- The segments after dot segments are resolved, last one first, behind those that are done. -/
def resolve (kind : Kind) (done : List (List Char)) : List (List Char) → List (List Char)
  | [] => done
  | segment :: rest =>
      if isAbove segment then
        resolve kind (if rest.isEmpty then [] :: shorten kind done else shorten kind done) rest
      else if isHere segment then resolve kind (if rest.isEmpty then [] :: done else done) rest
      else resolve kind (segmentText kind segment :: done) rest

/-- The pieces of a text between its slashes. -/
def splitSlashes (kind : Kind) (text : List Char) : List (List Char) :=
  Text.splitAt '/' (text.map fun c => if kind.isSlash c then '/' else c)

/-- The path of an address with a structure. The path of the web is never empty. -/
def readPath (kind : Kind) (text : List Char) : Path :=
  if kind = .other ∧ text.isEmpty then .segments []
  else
    let body := if (text.head?.map kind.isSlash).getD false then text.tail else text
    let segments := (splitSlashes kind body).map (encode keptInPath)
    let resolved := (resolve kind [] segments).reverse
    if kind = .file then
      let kept := resolved.dropWhile List.isEmpty
      .segments (if kept.isEmpty then [[]] else kept)
    else .segments resolved

/-- The text before the query and the fragment, the query and the fragment. -/
def splitTail (kind : Kind) (text : List Char) : List Char × Option (List Char) × Option (List Char) :=
  let (front, fragment) := match Text.splitFirst '#' text with
    | some (front, fragment) => (front, some fragment)
    | none => (text, none)
  let (body, query) := match Text.splitFirst '?' front with
    | some (body, query) => (body, some query)
    | none => (front, none)
  let kept := if kind = .other then keptInQuery else keptInWebQuery
  (body, query.map (encode kept), fragment.map (encode keptInFragment))

/-- The host and the text from the colon of the port on. -/
def splitPort (inBrackets : Bool) : List Char → List Char × List Char
  | [] => ([], [])
  | c :: rest =>
      if c = ':' ∧ inBrackets = false then ([], c :: rest)
      else
        let inside := if c = '[' then true else if c = ']' then false else inBrackets
        let parts := splitPort inside rest
        (c :: parts.1, parts.2)

/-- The port of a text that begins with its colon, and the rest, which a backslash may begin. -/
def readPort (kind : Kind) (text : List Char) : Option (Option Nat × List Char) :=
  let digits := text.tail.takeWhile Char.isDigit
  let rest := text.tail.dropWhile Char.isDigit
  if rest.head?.any (· != '\\') then none
  else if digits.isEmpty then some (none, rest)
  else do
    let port ← value? 10 digits
    if 65535 < port then none
    else some (if some port = kind.usualPort then none else some port, rest)

/-- The user name and the password in their written form. -/
def readCredentials (text : List Char) : List Char × List Char :=
  match Text.splitFirst ':' text with
  | some (name, password) => (encode keptInUser name, encode keptInUser password)
  | none => (encode keptInUser text, [])

/-- The address of a place: what stands after the two slashes. -/
def readPlace (kind : Kind) (scheme text : List Char) (query fragment : Option (List Char)) :
    Option Url := do
  let authority := text.takeWhile fun c => !kind.isSlash c
  let path := text.dropWhile fun c => !kind.isSlash c
  let (user, place) := (Text.splitLast '@' authority).getD ([], authority)
  let (username, password) := readCredentials user
  let (name, portText) := splitPort false place
  let host ← if kind = .other then plainHost? name else webHost? name
  if host.isEmpty ∧ (place.head? = some ':' ∨ !user.isEmpty ∧ (username ++ password) ≠ []) then none
  else if place.isEmpty ∧ authority ≠ [] ∧ user.isEmpty then none
  else
    let (port, rest) ← if portText.isEmpty then some (none, []) else readPort kind portText
    some {
      scheme := scheme
      username := username
      password := password
      host := some host
      port := port
      path := readPath kind (rest ++ path)
      query := query
      fragment := fragment }

/-- The host of a file, where none and the own one are the same, and the path. -/
def readFileHost (kind : Kind) (text : List Char) : Option (List Char × List Char) := do
  let name := text.takeWhile fun c => !kind.isSlash c
  if isDrive name then some ([], text)
  else
    let path := text.dropWhile fun c => !kind.isSlash c
    if name.isEmpty then some ([], path)
    else
      let host ← webHost? name
      some (if host = "localhost".toList then [] else host, path)

/-- The address of a file. -/
def readFile (kind : Kind) (scheme text : List Char) (query fragment : Option (List Char)) :
    Option Url := do
  let slashes := (text.takeWhile kind.isSlash).length
  let (host, path) ← if 2 ≤ slashes then readFileHost kind (text.drop 2) else some ([], text)
  let drive := (splitSlashes kind path).any isDrive
  some {
    scheme := scheme
    username := []
    password := []
    host := some (if drive then [] else host)
    port := none
    path := readPath kind path
    query := query
    fragment := fragment }

/-- Reads an address. -/
def read (text : List Char) : Option Url := do
  let (scheme, rest) ← splitScheme (clean text)
  let kind := Kind.ofScheme scheme
  let (body, query, fragment) := splitTail kind rest
  let placeless (path : Path) : Url := ⟨scheme, [], [], none, none, path, query, fragment⟩
  match kind with
  | .web _ => readPlace kind scheme (body.dropWhile kind.isSlash) query fragment
  | .file => readFile kind scheme body query fragment
  | .other =>
      match body with
      | '/' :: '/' :: place => readPlace kind scheme place query fragment
      | '/' :: _ => some (placeless (readPath kind body))
      | _ => some (placeless (.plain (encode keptInPlain body)))

end Vigil.Url
