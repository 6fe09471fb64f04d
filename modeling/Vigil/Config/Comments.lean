/-!
# Comments

A configuration in JSON may have comments: two slashes and a blank begin one, and
it goes on to the end of its line. Two slashes without a blank are not a comment,
so that addresses keep theirs.
-/

namespace Vigil.Config

/-- The text begins with a comment. -/
def opensComment : List Char → Bool
  | '/' :: '/' :: c :: _ => c = ' ' || c = '\t'
  | _ => false

/-- The text without its comments, where `inside` tells whether it begins in one. -/
def dropComments (inside : Bool) : List Char → List Char
  | [] => []
  | c :: rest =>
      if inside then if c = '\n' then c :: dropComments false rest else dropComments true rest
      else if opensComment (c :: rest) then dropComments true rest
      else c :: dropComments false rest

/-- The text without its comments. -/
def stripComments (text : List Char) : List Char := dropComments false text

end Vigil.Config
