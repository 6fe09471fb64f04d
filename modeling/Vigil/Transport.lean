import Vigil.Decimal.Basic
import Vigil.Duration

/-!
# Requests and responses

What is asked of a server, and the ways in which asking can fail. A method is a
word of token characters, written in capitals.
-/

namespace Vigil

/-- A name and perhaps a password. -/
structure Credentials where
  username : String
  password : Option String
deriving DecidableEq

/-- How long connecting and how long a whole request may take. -/
structure Timeouts where
  connect : Duration
  request : Duration
deriving DecidableEq

/-- One request. -/
structure FetchRequest where
  url : String
  method : String
  timeouts : Timeouts
  credentials : Option Credentials
deriving DecidableEq

/-- What a server answered. -/
structure FetchResponse where
  status : Nat
  body : String
deriving DecidableEq

/-- The status is one of success. -/
def FetchResponse.isSuccess (response : FetchResponse) : Bool :=
  200 ≤ response.status && response.status < 300

/-- Why a request had no usable answer. -/
inductive TransportFault where
  | timeout (detail : String)
  | network (detail : String)
  | status (code : Nat) (url : String)
  | client (detail : String)
deriving DecidableEq

/-- The message of a failed request. -/
def TransportFault.message : TransportFault → String
  | timeout detail => "Request timed out: " ++ detail
  | network detail => "Network error: " ++ detail
  | status code url =>
      "Unexpected status " ++ String.ofList (Decimal.numeral code) ++ " from " ++ url
  | client detail => "Failed to build HTTP client: " ++ detail

/-- What came of a request. -/
abbrev FetchResult := Except TransportFault FetchResponse

/-- What comes of every request while no server can be reached. -/
def FetchResult.unreachable : FetchResult := .error (.network "unreachable")

namespace Method

/-- The usual method. -/
def get : String := "GET"

/-- The character may stand in a method. -/
def isTokenChar (c : Char) : Bool :=
  c.isAlphanum ||
    ['!', '#', '$', '%', '&', '\'', '*', '+', '-', '.', '^', '_', '`', '|', '~'].contains c

/-- The method of a word in capitals, unless the word is empty or holds another character. -/
def read? (word : String) : Option String :=
  let letters := word.toList.map Char.toUpper
  if letters.isEmpty ∨ letters.any fun c => !isTokenChar c then none
  else some (String.ofList letters)

end Method

end Vigil
