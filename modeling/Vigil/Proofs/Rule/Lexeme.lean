import Mathlib.Data.List.Forall2
import Mathlib.Data.List.TakeWhile
import Vigil.Proofs.Text.Classes
import Vigil.Proofs.Text.Pieces
import Vigil.Proofs.Traversal
import Vigil.Rule.Reading

/-!
# Blanks between the tokens of rules

Each token of a rule takes a lexeme from the text, and blanks are what no token takes. A lexeme
tells its token without what follows, as long as a blank or nothing follows. So the lexemes of a
text may be joined anew, with blanks of any kind between them, and the text still has the same
tokens and is the same rule.
-/

namespace Vigil

namespace Rule

/-- The text of a rule is kept with it and means nothing else. -/
theorem ofTokens_reword (raw text : String) (tokens : List Token) :
    ofTokens text tokens = (ofTokens raw tokens).map fun rule => { rule with raw := text } := by
  unfold ofTokens
  repeat' split
  all_goals rfl

end Rule

namespace Token

open Text

/-! ## Lexemes -/

/-- The texts that are written for a token. -/
inductive Spells : Token → List Char → Prop where
  | colon : Spells .colon [':']
  | comparator (relation : Comparator) : Spells (.comparator relation) relation.symbol.toList
  | arithmetic (op : Arithmetic) : Spells (.arithmetic op) [op.sign]
  | number {literal : List Char} {value : Double} (inside : ∀ c ∈ literal, inNumber c = true)
      (reads : Double.read literal = some value) : Spells (.number value) literal
  | word {letters : List Char} (nonempty : letters ≠ [])
      (inside : ∀ c ∈ letters, inWord c = true) : Spells (.word (String.ofList letters)) letters

/-- The texts that the tokens of a text take from it, in their order. -/
def lexemes (text : List Char) : List (List Char) :=
  match text with
  | [] => []
  | c :: rest =>
      if isBlank c then lexemes rest
      else match found : first 0 c rest with
        | .error _ => []
        | .ok (_, more) =>
            have : more.length ≤ rest.length := length_first found
            (c :: rest.take (rest.length - more.length)) :: lexemes more
termination_by text.length

/-- Lexemes joined anew: a gap stands behind each of them, and only the last one may be empty. -/
inductive Joined : List (List Char) → List Char → Prop where
  | nil : Joined [] []
  | cons {lexeme gap rest : List Char} {lexemes : List (List Char)} (blank : IsGap gap)
      (apart : lexemes ≠ [] → gap ≠ []) (joined : Joined lexemes rest) :
      Joined (lexeme :: lexemes) (lexeme ++ (gap ++ rest))

/-- A text in front of which every token ends: it is empty or begins with a blank. -/
def Apart (rest : List Char) : Prop := ∀ c more, rest = c :: more → isBlank c = true

/-- The character goes on with a token: right behind its lexeme it would be taken with it. -/
def continues : Token → Char → Bool
  | .number _, c => inNumber c
  | .word _, c => inWord c
  | .comparator _, c => c = '='
  | .colon, _ => false
  | .arithmetic _, _ => false

/-- A text in front of which a token ends: it does not begin with what goes on with the token. -/
def Ends (token : Token) (rest : List Char) : Prop :=
  ∀ c more, rest = c :: more → continues token c = false

/-! ## Classes of characters -/

/-- What continues a number is no blank. -/
theorem separate_inNumber_isBlank : Separate inNumber isBlank := by
  intro c inside
  simp only [inNumber, Bool.or_eq_true, decide_eq_true_eq] at inside
  rcases inside with digit | rfl
  · exact separate_inRanges (by decide) c (inRanges_of_isDigit digit)
  · decide

/-- What continues a word is no blank. -/
theorem separate_inWord_isBlank : Separate inWord isBlank := by
  intro c inside
  simp only [inWord, Bool.or_eq_true, decide_eq_true_eq] at inside
  rcases inside with (letter | rfl) | rfl
  · exact separate_isBlank_isAlphabetic.symm c letter
  · decide
  · decide

/-- What continues a word continues no number. -/
theorem separate_inWord_inNumber : Separate inWord inNumber := by
  intro c inside
  simp only [inWord, Bool.or_eq_true, decide_eq_true_eq] at inside
  rcases inside with (letter | rfl) | rfl
  · have noDigit := separate_isDigit_isAlphabetic.symm c letter
    have noPoint : c ≠ '.' := ne_of_class letter (by decide)
    simp [inNumber, noDigit, noPoint]
  · decide
  · decide

/-- Every token ends where the text does. -/
theorem ends_nil (token : Token) : Ends token [] := by
  intro c more begins
  cases begins

/-- A blank goes on with no token. -/
theorem ends_of_apart {token : Token} {rest : List Char} (apart : Apart rest) :
    Ends token rest := by
  intro c more begins
  have blank := apart c more begins
  cases token with
  | word => exact separate_inWord_isBlank.symm c blank
  | number => exact separate_inNumber_isBlank.symm c blank
  | comparator => exact decide_eq_false (ne_of_class blank (by decide))
  | colon => rfl
  | arithmetic => rfl

/-- What is written for a token holds no blank. -/
theorem solid_of_spells {token : Token} {lexeme : List Char} (spells : Spells token lexeme) :
    ∀ c ∈ lexeme, isBlank c = false := by
  have written : ∀ {text : List Char}, text.all (fun c => !isBlank c) = true →
      ∀ c ∈ text, isBlank c = false := by
    intro text whole c member
    have hit := List.all_eq_true.1 whole c member
    rwa [Bool.not_eq_true'] at hit
  cases spells with
  | colon => exact written (by decide)
  | comparator relation => cases relation <;> exact written (by decide)
  | arithmetic op => cases op <;> exact written (by decide)
  | number inside => exact fun c member => separate_inNumber_isBlank c (inside c member)
  | word _ inside => exact fun c member => separate_inWord_isBlank c (inside c member)

/-- A character opens no token of one character and no comparator when it is of a class that leaves
their signs out. -/
theorem not_sign_of_class {inside : Char → Bool} {c : Char} (member : inside c = true)
    (outside : [':', '>', '<', '=', '!', '*', '/', '+', '-'].all (fun d => !inside d) = true) :
    c ≠ ':' ∧ opensComparator c = false ∧ Arithmetic.ofSign? c = none := by
  have other : ∀ d ∈ [':', '>', '<', '=', '!', '*', '/', '+', '-'], c ≠ d := by
    intro d listed
    have left := List.all_eq_true.1 outside d listed
    rw [Bool.not_eq_true'] at left
    exact ne_of_class member left
  simp only [List.forall_mem_cons] at other
  simp [opensComparator, Arithmetic.ofSign?, Arithmetic.sign, other]

/-! ## One token -/

/-- A run of characters of one class ends before a character that is not of it. -/
theorem span_of_ends {inside : Char → Bool} {run rest : List Char}
    (whole : ∀ c ∈ run, inside c = true) (ends : ∀ c more, rest = c :: more → inside c = false) :
    (run ++ rest).takeWhile inside = run ∧ (run ++ rest).dropWhile inside = rest := by
  have stops : rest.takeWhile inside = [] := by
    cases rest with
    | nil => rfl
    | cons c more => exact List.takeWhile_cons_of_neg (by simp [ends c more rfl])
  exact ⟨takeWhile_append_of_all whole stops, dropWhile_append_of_all whole stops⟩

/-- A comparator is read from its symbol when no equality sign follows it. -/
theorem read?_symbol (relation : Comparator) {rest : List Char}
    (ends : Ends (.comparator relation) rest) :
    ∃ c tail, relation.symbol.toList = c :: tail ∧ opensComparator c = true ∧ c ≠ ':' ∧
      Comparator.read? c (tail ++ rest) = some (relation, rest) := by
  have unequal : ∀ more, rest ≠ '=' :: more := by
    rintro more rfl
    exact absurd (ends '=' more rfl) (by simp [continues])
  cases relation with
  | greater =>
    refine ⟨'>', [], rfl, rfl, by decide, ?_⟩
    unfold Comparator.read?
    split <;> simp_all
  | less =>
    refine ⟨'<', [], rfl, rfl, by decide, ?_⟩
    unfold Comparator.read?
    split <;> simp_all
  | greaterOrEqual => exact ⟨'>', ['='], rfl, rfl, by decide, rfl⟩
  | lessOrEqual => exact ⟨'<', ['='], rfl, rfl, by decide, rfl⟩
  | equal => exact ⟨'=', ['='], rfl, rfl, by decide, rfl⟩
  | notEqual => exact ⟨'!', ['='], rfl, rfl, by decide, rfl⟩

/-- A token is read from what is written for it, and nothing else is, wherever it ends. -/
theorem first_of_spells {token : Token} {lexeme rest : List Char} (place : Nat)
    (spells : Spells token lexeme) (ends : Ends token rest) :
    ∃ c tail, lexeme = c :: tail ∧ first place c (tail ++ rest) = .ok (token, rest) := by
  cases spells with
  | colon => exact ⟨':', [], rfl, rfl⟩
  | comparator relation =>
    obtain ⟨c, tail, symbol, opens, noColon, reads⟩ := read?_symbol relation ends
    refine ⟨c, tail, symbol, ?_⟩
    simp only [first, if_neg noColon, opens, if_true, reads]
  | arithmetic op => cases op <;> exact ⟨_, [], rfl, rfl⟩
  | number inside reads =>
    cases lexeme with
    | nil =>
      have unread : Double.read [] = none := by decide
      rw [unread] at reads
      cases reads
    | cons c tail =>
      have opens := inside c List.mem_cons_self
      obtain ⟨noColon, noComparator, noSign⟩ := not_sign_of_class opens (by decide)
      have within : ∀ d ∈ tail, inNumber d = true := fun d member =>
        inside d (List.mem_cons_of_mem c member)
      obtain ⟨taken, dropped⟩ := span_of_ends within ends
      refine ⟨c, tail, rfl, ?_⟩
      simp [first, noColon, noComparator, noSign, opens, taken, dropped, reads]
  | word nonempty inside =>
    cases lexeme with
    | nil => exact absurd rfl nonempty
    | cons c tail =>
      have opens := inside c List.mem_cons_self
      obtain ⟨noColon, noComparator, noSign⟩ := not_sign_of_class opens (by decide)
      have noNumber := separate_inWord_inNumber c opens
      have within : ∀ d ∈ tail, inWord d = true := fun d member =>
        inside d (List.mem_cons_of_mem c member)
      obtain ⟨taken, dropped⟩ := span_of_ends within ends
      refine ⟨c, tail, rfl, ?_⟩
      simp [first, noColon, noComparator, noSign, noNumber, opens, taken, dropped]

/-- What is read as a comparator is its symbol. -/
theorem symbol_of_read? {c : Char} {rest more : List Char} {relation : Comparator}
    (reads : Comparator.read? c rest = some (relation, more)) :
    ∃ tail, rest = tail ++ more ∧ relation.symbol.toList = c :: tail := by
  unfold Comparator.read? at reads
  split at reads
  · cases reads; exact ⟨['='], rfl, rfl⟩
  · cases reads; exact ⟨['='], rfl, rfl⟩
  · cases reads; exact ⟨['='], rfl, rfl⟩
  · cases reads; exact ⟨['='], rfl, rfl⟩
  · cases reads; exact ⟨[], rfl, rfl⟩
  · cases reads; exact ⟨[], rfl, rfl⟩
  · cases reads

/-- What is read as a token is written for it. -/
theorem spells_of_first {place : Nat} {c : Char} {rest more : List Char} {token : Token}
    (reads : first place c rest = .ok (token, more)) :
    ∃ tail, rest = tail ++ more ∧ Spells token (c :: tail) := by
  have run : ∀ inside : Char → Bool, inside c = true →
      ∀ d ∈ c :: rest.takeWhile inside, inside d = true := by
    intro inside opens d member
    rcases List.mem_cons.1 member with rfl | later
    · exact opens
    · exact List.mem_takeWhile_imp later
  unfold first at reads
  split at reads
  · rename_i colon
    cases reads
    exact ⟨[], rfl, colon ▸ .colon⟩
  split at reads
  · split at reads
    · rename_i relation _ compared
      cases reads
      obtain ⟨tail, rfl, symbol⟩ := symbol_of_read? compared
      exact ⟨tail, rfl, symbol ▸ .comparator relation⟩
    · cases reads
  split at reads
  · rename_i op signed
    cases reads
    have sign : c = op.sign := by simpa using List.find?_some signed
    exact ⟨[], rfl, sign ▸ .arithmetic op⟩
  split at reads
  · rename_i opens
    dsimp only at reads
    split at reads
    · rename_i value literal
      cases reads
      exact ⟨rest.takeWhile inNumber, List.takeWhile_append_dropWhile.symm,
        .number (run inNumber opens) literal⟩
    · cases reads
  split at reads
  · rename_i opens
    cases reads
    exact ⟨rest.takeWhile inWord, List.takeWhile_append_dropWhile.symm,
      .word (List.cons_ne_nil _ _) (run inWord opens)⟩
  · cases reads

/-- Which token is read does not depend on the place. -/
theorem first_of_place {place : Nat} (other : Nat) {c : Char} {rest : List Char}
    {result : Token × List Char} (reads : first place c rest = .ok result) :
    first other c rest = .ok result := by
  unfold first at reads ⊢
  split at reads
  · simp_all
  split at reads
  · split at reads <;> simp_all
  split at reads
  · simp_all
  split at reads
  · dsimp only at reads
    split at reads <;> simp_all
  split at reads <;> simp_all

/-! ## All tokens -/

/-- A blank takes part in no lexeme. -/
theorem lexemes_of_blank {c : Char} (rest : List Char) (blank : isBlank c = true) :
    lexemes (c :: rest) = lexemes rest := by
  rw [lexemes, if_pos blank]

/-- The text that is read for a token is its lexeme. -/
theorem lexemes_of_first {place : Nat} {c : Char} {tail more : List Char} {token : Token}
    (solid : ¬isBlank c = true) (reads : first place c (tail ++ more) = .ok (token, more)) :
    lexemes (c :: (tail ++ more)) = (c :: tail) :: lexemes more := by
  have here := first_of_place 0 reads
  rw [lexemes, if_neg solid]
  split
  · rename_i fault refused
    rw [here] at refused
    cases refused
  · rename_i found more' again
    rw [here] at again
    cases again
    simp

/-- The tokens of a text are spelled by its lexemes, and these are all of the text but its
blanks. -/
theorem spells_lexemes {place : Nat} {text : List Char} {tokens : List Token}
    (scanned : scanFrom place text = .ok tokens) :
    List.Forall₂ Spells tokens (lexemes text) ∧
      (lexemes text).flatten = text.filter fun c => !isBlank c := by
  fun_induction scanFrom place text generalizing tokens with
  | case1 place =>
    cases scanned
    simp [lexemes]
  | case2 place c rest blank ih =>
    obtain ⟨spelled, whole⟩ := ih scanned
    rw [lexemes_of_blank rest blank, List.filter_cons_of_neg (by simp [blank])]
    exact ⟨spelled, whole⟩
  | case3 => cases scanned
  | case4 place c rest solid token more found shorter read others ih =>
    cases scanned
    obtain ⟨spelled, whole⟩ := ih others
    obtain ⟨tail, rfl, spells⟩ := spells_of_first found
    have kept : ((c :: tail).filter fun d => !isBlank d) = c :: tail := by
      rw [List.filter_eq_self]
      intro d member
      rw [solid_of_spells spells d member]
      rfl
    rw [lexemes_of_first solid found]
    refine ⟨.cons spells spelled, ?_⟩
    rw [List.flatten_cons, whole, ← List.cons_append, List.filter_append, kept]
  | case5 => cases scanned

/-- Blanks in front of a text are passed over. -/
theorem scanFrom_gap {gap : List Char} (blank : IsGap gap) (rest : List Char) :
    ∀ place, ∃ later, scanFrom place (gap ++ rest) = scanFrom later rest := by
  induction gap with
  | nil => exact fun place => ⟨place, rfl⟩
  | cons c more ih =>
    intro place
    obtain ⟨later, passed⟩ :=
      ih (fun d member => blank d (List.mem_cons_of_mem c member)) (place + 1)
    refine ⟨later, ?_⟩
    rw [List.cons_append, scanFrom, if_pos (blank c List.mem_cons_self), passed]

/-- The token that is read comes first. -/
theorem scanFrom_of_first {place : Nat} {c : Char} {rest more : List Char} {token : Token}
    {tokens : List Token} (solid : isBlank c = false)
    (reads : first place c rest = .ok (token, more))
    (others : ∀ later, scanFrom later more = .ok tokens) :
    scanFrom place (c :: rest) = .ok (token :: tokens) := by
  rw [scanFrom, if_neg (by simp [solid])]
  split
  · rename_i fault refused
    rw [reads] at refused
    cases refused
  · rename_i found more' again
    rw [reads] at again
    cases again
    rw [others]

/-- A lexeme is taken for its token where this ends, and what follows is scanned after it. -/
theorem scanFrom_of_spells {token : Token} {lexeme rest : List Char} {tokens : List Token}
    (spells : Spells token lexeme) (ends : Ends token rest)
    (others : ∀ place, scanFrom place rest = .ok tokens) :
    ∀ place, scanFrom place (lexeme ++ rest) = .ok (token :: tokens) := by
  intro place
  obtain ⟨c, tail, rfl, reads⟩ := first_of_spells place spells ends
  exact scanFrom_of_first (solid_of_spells spells c List.mem_cons_self) reads others

/-- Behind a joined lexeme the text is apart. -/
theorem apart_of_joined {gap rest : List Char} {lexemes : List (List Char)} (blank : IsGap gap)
    (apart : lexemes ≠ [] → gap ≠ []) (joined : Joined lexemes rest) : Apart (gap ++ rest) := by
  intro c more begins
  cases gap with
  | cons d others =>
    obtain ⟨rfl, -⟩ := List.cons.inj begins
    exact blank d List.mem_cons_self
  | nil =>
    cases joined with
    | nil => cases begins
    | cons => exact absurd rfl (apart (List.cons_ne_nil _ _))

/-- Lexemes that are joined anew are the tokens that they spell. -/
theorem scanFrom_of_joined {tokens : List Token} {lexemes : List (List Char)} {text : List Char}
    (spelled : List.Forall₂ Spells tokens lexemes) (joined : Joined lexemes text) :
    ∀ place, scanFrom place text = .ok tokens := by
  induction joined generalizing tokens with
  | nil =>
    cases spelled
    intro place
    rw [scanFrom]
  | cons blank apart joined ih =>
    cases spelled with
    | cons spells others =>
      have apart := apart_of_joined blank apart joined
      refine scanFrom_of_spells spells (ends_of_apart apart) fun later => ?_
      obtain ⟨last, passed⟩ := scanFrom_gap blank _ later
      rw [passed]
      exact ih others last

/-- Each token of a text is spelled by its lexeme, and the lexemes are all of the text but its
blanks. However they are joined anew by blanks, with blanks around them or without, the text has the
same tokens. So it is a rule exactly when the text was one, with the same level, comparisons and
connectives, and is refused for the same fault otherwise. -/
theorem scan_of_joined {raw : String} {tokens : List Token} (scanned : scan raw = .ok tokens) :
    List.Forall₂ Spells tokens (lexemes raw.toList) ∧
      (lexemes raw.toList).flatten = raw.toList.filter (fun c => !isBlank c) ∧
      ∀ gap body, IsGap gap → Joined (lexemes raw.toList) body →
        let text := String.ofList (gap ++ body)
        scan text = .ok tokens ∧
          Rule.read text = ((Rule.read raw).map fun rule => { rule with raw := text }).mapError
            fun refused => { refused with raw := text } := by
  obtain ⟨spelled, whole⟩ := spells_lexemes scanned
  refine ⟨spelled, whole, fun gap body blank joined => ?_⟩
  intro text
  have rescanned : scan text = .ok tokens := by
    obtain ⟨later, passed⟩ := scanFrom_gap blank body 0
    rw [scan, String.toList_ofList, passed]
    exact scanFrom_of_joined spelled joined later
  refine ⟨rescanned, ?_⟩
  unfold Rule.read
  rw [rescanned, scanned]
  dsimp only
  rw [Rule.ofTokens_reword raw]
  cases Rule.ofTokens raw tokens <;> rfl

/-- A rule without blanks, with an ideographic space, a line feed and a no-break space put in. -/
theorem scan_of_spread_rule :
    let text := "critical\u3000: >=\n3\u00a0 MB "
    Token.scan "critical:>=3MB" = .ok
        [.word "critical", .colon, .comparator .greaterOrEqual, .number 3, .word "MB"] ∧
      scan text = scan "critical:>=3MB" ∧
      Rule.read text = .ok ⟨.critical, ⟨.greaterOrEqual, .value 3145728, .unchanged⟩, [], text⟩ := by
  have scanned : scan "critical:>=3MB" = .ok
      [.word "critical", .colon, .comparator .greaterOrEqual, .number 3, .word "MB"] := by
    decide +kernel
  have read : Rule.read "critical:>=3MB" =
      .ok ⟨.critical, ⟨.greaterOrEqual, .value 3145728, .unchanged⟩, [], "critical:>=3MB"⟩ := by
    decide +kernel
  have pieces : lexemes "critical:>=3MB".toList =
      ["critical".toList, [':'], ['>', '='], ['3'], ['M', 'B']] := by
    decide +kernel
  have gaps : ∀ {gap : List Char}, gap.all isBlank = true → IsGap gap := by
    intro gap blank
    exact List.all_eq_true.1 blank
  have joined : Joined (lexemes "critical:>=3MB".toList)
      ("critical".toList ++ (['\u3000'] ++ ([':'] ++ ([' '] ++ (['>', '='] ++ (['\n'] ++
        (['3'] ++ (['\u00a0', ' '] ++ (['M', 'B'] ++ ([' '] ++ [])))))))))) := by
    rw [pieces]
    refine .cons (gaps (by decide)) (by simp) (.cons (gaps (by decide)) (by simp) ?_)
    refine .cons (gaps (by decide)) (by simp) (.cons (gaps (by decide)) (by simp) ?_)
    exact .cons (gaps (by decide)) (by simp) .nil
  obtain ⟨-, -, respaced⟩ := scan_of_joined scanned
  obtain ⟨rescanned, reread⟩ := respaced [] _ (by simp [IsGap]) joined
  refine ⟨scanned, ?_, ?_⟩
  · rw [scanned]
    exact rescanned
  · rw [read] at reread
    exact reread

end Token

end Vigil
