import Vigil.LogEntry
import Vigil.Text.Alphabetic
import Vigil.Text.Blank
import Vigil.Text.Digit
import Vigil.Text.Split

/-!
# Log filters

A filter is a list of directives, each with a threshold for the parts of the program
whose names begin with its target. The longest target that fits decides, and what fits
no directive is not shown.
-/

namespace Vigil

/-- How much is shown: nothing, or everything from a severity on. -/
inductive Verbosity where
  | off
  | error
  | warning
  | info
  | debug
  | trace
deriving DecidableEq, Repr

namespace Verbosity

/-- The place of a verbosity, from nothing on. -/
def rank : Verbosity → Nat
  | off => 0
  | error => 1
  | warning => 2
  | info => 3
  | debug => 4
  | trace => 5

/-- The name of a verbosity. -/
def name : Verbosity → String
  | off => "off"
  | error => "error"
  | warning => "warn"
  | info => "info"
  | debug => "debug"
  | trace => "trace"

/-- All verbosities, from nothing on. -/
def all : List Verbosity := [off, error, warning, info, debug, trace]

/-- The digit that stands for a verbosity. -/
def digit (verbosity : Verbosity) : Char := Char.ofNat ('0'.toNat + verbosity.rank)

/-- The verbosity of a name in letters of any case, or of a digit. -/
def read? (word : List Char) : Option Verbosity :=
  all.find? fun verbosity =>
    word = [verbosity.digit] ∨ word.map Char.toLower = verbosity.name.toList

/-- The least verbosity that shows a severity. -/
def ofSeverity : Severity → Verbosity
  | .debug => debug
  | .info => info
  | .warning => warning
  | .error => error

end Verbosity

/-- A threshold for the targets that begin with a text. -/
structure LogDirective where
  target : List Char
  threshold : Verbosity
deriving DecidableEq, Repr

namespace LogDirective

/-- The character may begin a directive. -/
def isOpening (c : Char) : Bool := c.isAlphanum || ['-', ':', '_'].contains c

/-- A directive is a verbosity for everything, a target with a verbosity, or a target of which
everything is shown. -/
def read? (text : List Char) : Option LogDirective :=
  if !(text.head?.any isOpening) then none
  else
    match Text.splitFirst '=' text with
    | some (target, []) => some ⟨target, .trace⟩
    | some (target, word) => (Verbosity.read? word).map fun threshold => ⟨target, threshold⟩
    | none =>
        match Verbosity.read? text with
        | some threshold => some ⟨[], threshold⟩
        | none => some ⟨text, .trace⟩

end LogDirective

/-- Which entries are shown. -/
structure LogFilter where
  directives : List LogDirective
deriving DecidableEq, Repr

namespace LogFilter

/-- The filter of a list of directives; an empty one shows errors. -/
def ofDirectives (directives : List LogDirective) : LogFilter :=
  ⟨if directives.isEmpty then [⟨[], .error⟩] else directives⟩

/-- The parts between commas that are not empty. -/
def parts (text : String) : List (List Char) :=
  (Text.splitAt ',' text.toList).filter fun part => !part.isEmpty

/-- The filter of a text in which every directive can be read. -/
def read? (text : String) : Option LogFilter :=
  ((parts text).mapM LogDirective.read?).map ofDirectives

/-- The filter of those directives of a text that can be read. -/
def readLossy (text : String) : LogFilter := ofDirectives ((parts text).filterMap LogDirective.read?)

/-- Of two directives that fit, the one with the longer target, and of equal ones the later. -/
def prefer (best : Option LogDirective) (next : LogDirective) : Option LogDirective :=
  match best with
  | some chosen => if next.target.length < chosen.target.length then best else some next
  | none => some next

/-- The threshold for a target. -/
def threshold (filter : LogFilter) (target : String) : Verbosity :=
  let fitting := filter.directives.filter fun directive => directive.target.isPrefixOf target.toList
  ((fitting.foldl prefer none).map (·.threshold)).getD .off

/-- Whether an entry of a target is shown. -/
def shows (filter : LogFilter) (target : String) (severity : Severity) : Bool :=
  (Verbosity.ofSeverity severity).rank ≤ (filter.threshold target).rank

end LogFilter

end Vigil
