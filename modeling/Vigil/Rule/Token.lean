import Vigil.Decimal.Shortest
import Vigil.Text.Alphabetic
import Vigil.Text.Blank
import Vigil.Text.Quoted

/-!
# Tokens of rules

A rule is read from tokens: words, numbers, the colon, comparators and arithmetic
signs. Blanks separate tokens and mean nothing else. A refused character is
reported with its place in the text.
-/

namespace Vigil

/-- A comparison of a value with a threshold. -/
inductive Comparator where
  | greater
  | greaterOrEqual
  | less
  | lessOrEqual
  | equal
  | notEqual
deriving DecidableEq, Repr

/-- The spelling of a comparator. -/
def Comparator.symbol : Comparator → String
  | greater => ">"
  | greaterOrEqual => ">="
  | less => "<"
  | lessOrEqual => "<="
  | equal => "=="
  | notEqual => "!="

/-- Whether a value stands in the relation to a threshold; not-a-number only differs. -/
def Comparator.holds (c : Comparator) (value threshold : Double) : Bool :=
  match c with
  | greater => threshold.lt value
  | greaterOrEqual => threshold.le value
  | less => value.lt threshold
  | lessOrEqual => value.le threshold
  | equal => value.same threshold
  | notEqual => !value.same threshold

/-- The comparator that a character opens, and the text after it. -/
def Comparator.read? (c : Char) (rest : List Char) : Option (Comparator × List Char) :=
  match c, rest with
  | '>', '=' :: more => some (.greaterOrEqual, more)
  | '<', '=' :: more => some (.lessOrEqual, more)
  | '=', '=' :: more => some (.equal, more)
  | '!', '=' :: more => some (.notEqual, more)
  | '>', more => some (.greater, more)
  | '<', more => some (.less, more)
  | _, _ => none

/-- The text after a comparator is no longer than the text after its first character. -/
theorem Comparator.length_read? {c : Char} {rest more : List Char} {relation : Comparator}
    (found : read? c rest = some (relation, more)) : more.length ≤ rest.length := by
  unfold read? at found
  split at found <;> simp_all

/-- An arithmetic operation on a threshold. -/
inductive Arithmetic where
  | multiply
  | divide
  | add
  | subtract
deriving DecidableEq, Repr

/-- The sign of an operation. -/
def Arithmetic.sign : Arithmetic → Char
  | multiply => '*'
  | divide => '/'
  | add => '+'
  | subtract => '-'

/-- The result of an operation on a threshold. -/
def Arithmetic.apply (op : Arithmetic) (threshold operand : Double) : Double :=
  match op with
  | multiply => threshold * operand
  | divide => threshold / operand
  | add => threshold + operand
  | subtract => threshold - operand

/-- The operation of a sign. -/
def Arithmetic.ofSign? (c : Char) : Option Arithmetic :=
  [multiply, divide, add, subtract].find? fun op => c = op.sign

/-- A token of a rule. -/
inductive Token where
  | word (letters : String)
  | number (value : Double)
  | colon
  | comparator (c : Comparator)
  | arithmetic (op : Arithmetic)
deriving DecidableEq

/-- The token as messages show it. -/
def Token.text : Token → String
  | word letters => "Word(" ++ Text.quoted letters ++ ")"
  | number value => "Number(" ++ String.ofList value.shownText ++ ")"
  | colon => "Colon"
  | comparator c => "Comparator(" ++ Text.quoted c.symbol ++ ")"
  | arithmetic op => "Arith(" ++ Text.quotedChar op.sign ++ ")"

/-- A token that may be missing, as messages show it. -/
def Token.textOfOption : Option Token → String
  | some token => "Some(" ++ token.text ++ ")"
  | none => "None"

/-- Why a text is not a sequence of tokens. -/
inductive TokenFault where
  | unexpected (c : Char) (place : Nat)
  | number (literal : String)
deriving DecidableEq, Repr

/-- The wording of a fault. -/
def TokenFault.reason : TokenFault → String
  | unexpected c place =>
      "unexpected character " ++ Text.quotedChar c ++ " at " ++ String.ofList (Decimal.numeral place)
  | number literal => "invalid number " ++ Text.quoted literal

namespace Token

/-- The character continues a number. -/
def inNumber (c : Char) : Bool := c.isDigit || c = '.'

/-- The character continues a word. -/
def inWord (c : Char) : Bool := Text.isAlphabetic c || c = '%' || c = '_'

/-- The character opens a comparator. -/
def opensComparator (c : Char) : Bool := c = '>' || c = '<' || c = '=' || c = '!'

/-- The token that a character which is not blank opens, and the text after it. -/
def first (place : Nat) (c : Char) (rest : List Char) : Except TokenFault (Token × List Char) :=
  if c = ':' then .ok (.colon, rest)
  else if opensComparator c then
    match Comparator.read? c rest with
    | some (relation, more) => .ok (.comparator relation, more)
    | none => .error (.unexpected c place)
  else match Arithmetic.ofSign? c with
    | some op => .ok (.arithmetic op, rest)
    | none =>
        if inNumber c then
          let literal := c :: rest.takeWhile inNumber
          match Double.read literal with
          | some value => .ok (.number value, rest.dropWhile inNumber)
          | none => .error (.number (String.ofList literal))
        else if inWord c then
          .ok (.word (String.ofList (c :: rest.takeWhile inWord)), rest.dropWhile inWord)
        else .error (.unexpected c place)

/-- The text after a token is no longer than the text after its first character. -/
theorem length_first {place : Nat} {c : Char} {rest more : List Char} {token : Token}
    (found : first place c rest = .ok (token, more)) : more.length ≤ rest.length := by
  have tail (keep : Char → Bool) : (rest.dropWhile keep).length ≤ rest.length :=
    (List.dropWhile_suffix keep).length_le
  unfold first at found
  split at found
  · cases found; exact Nat.le_refl _
  split at found
  · split at found
    · cases found; exact Comparator.length_read? (by assumption)
    · cases found
  split at found
  · cases found; exact Nat.le_refl _
  split at found
  · dsimp only at found
    split at found
    · cases found; exact tail _
    · cases found
  split at found
  · cases found; exact tail _
  · cases found

/-- The tokens of a text that starts at a place. -/
def scanFrom (place : Nat) (text : List Char) : Except TokenFault (List Token) :=
  match text with
  | [] => .ok []
  | c :: rest =>
      if Text.isBlank c then scanFrom (place + 1) rest
      else match found : first place c rest with
        | .error fault => .error fault
        | .ok (token, more) =>
            have : more.length ≤ rest.length := length_first found
            match scanFrom (place + (rest.length + 1 - more.length)) more with
            | .ok tokens => .ok (token :: tokens)
            | .error fault => .error fault
termination_by text.length
decreasing_by
  · simp
  · simp only [List.length_cons]
    omega

/-- The tokens of a text. -/
def scan (text : String) : Except TokenFault (List Token) := scanFrom 0 text.toList

end Token

end Vigil
