import Vigil.Decimal.Basic
import Vigil.Url.Percent

/-!
# Addresses

The parts of an address in their written form. A path is a list of segments, or
one text where the address names a thing without a place, as `mailto:` does.
-/

namespace Vigil

/-- The path of an address. -/
inductive Url.Path where
  | segments (list : List (List Char))
  | plain (text : List Char)
deriving DecidableEq

/-- An address with every part in its written form. -/
structure Url where
  scheme : List Char
  username : List Char
  password : List Char
  host : Option (List Char)
  port : Option Nat
  path : Url.Path
  query : Option (List Char)
  fragment : Option (List Char)
deriving DecidableEq

namespace Url

/-- The user name and the password, if there are any. -/
def credentials (url : Url) : List Char :=
  if url.username.isEmpty ∧ url.password.isEmpty then []
  else url.username ++ (if url.password.isEmpty then [] else ':' :: url.password) ++ ['@']

/-- The part between the scheme and the path. -/
def authority (url : Url) : List Char :=
  match url.host with
  | none => []
  | some host =>
      '/' :: '/' :: (url.credentials ++ host ++ (url.port.map fun n => ':' :: Decimal.numeral n).getD [])

/-- The path; one that would look like a host gets a dot in front. -/
def pathText (url : Url) : List Char :=
  match url.path with
  | .plain text => text
  | .segments list =>
      let text := list.flatMap ('/' :: ·)
      match url.host, list with
      | none, [] :: _ :: _ => '/' :: '.' :: text
      | _, _ => text

/-- A part with its mark in front, if there is one. -/
def marked (mark : Char) (part : Option (List Char)) : List Char :=
  (part.map (mark :: ·)).getD []

/-- The address as a text. -/
def text (url : Url) : List Char :=
  url.scheme ++ ':' :: (url.authority ++ url.pathText ++ marked '?' url.query ++ marked '#' url.fragment)

/-- A query with a pair of form data at its end. -/
def appendPair (query : List Char) (pair : List Char × List Char) : List Char :=
  query ++ (if query.isEmpty then [] else ['&']) ++ formPair pair.1 pair.2

/-- The address with pairs of form data at the end of its query. -/
def withPairs (url : Url) (pairs : List (List Char × List Char)) : Url :=
  { url with query := some (pairs.foldl appendPair (url.query.getD [])) }

end Url

end Vigil
