import Vigil.Json.Reading

/-!
# Texts within a JSON text

Whether a place in a JSON text lies within a text in quotes can be told from the characters before
it, one after the other. This account knows nothing of lexemes, yet every text that has lexemes
satisfies it: it ends outside of quotes, no control stands within them, and a slash stands nowhere
else.
-/

namespace Vigil.Json

/-- Where a place lies: outside of quotes, within them, or there after a backslash. -/
inductive Quoting where
  | outside
  | inside
  | escaped
deriving DecidableEq

namespace Quoting

/-- Where the place after a character lies. Within quotes there are no controls, and outside of them
there are no slashes. -/
def next : Quoting → Char → Option Quoting
  | outside, c => if c = '"' then some inside else if c = '/' then none else some outside
  | inside, c =>
      if c.toNat < 0x20 then none
      else if c = '"' then some outside
      else if c = '\\' then some escaped
      else some inside
  | escaped, c => if c.toNat < 0x20 then none else some inside

/-- Where the place after a text lies. -/
def follow (q : Quoting) (text : List Char) : Option Quoting := text.foldlM next q

@[simp] theorem follow_cons (q : Quoting) (c : Char) (rest : List Char) :
    q.follow (c :: rest) = (q.next c).bind fun after => after.follow rest := rfl

/-- Texts are followed one after the other. -/
theorem follow_append (q : Quoting) (before after : List Char) :
    q.follow (before ++ after) = (q.follow before).bind fun there => there.follow after := by
  simp [follow, List.foldlM_append]

/-- A digit is neither a quote nor a slash. -/
theorem next_digit {c : Char} (digit : c.isDigit = true) : outside.next c = some outside := by
  have quote : c ≠ '"' := by
    rintro rfl
    cases digit
  have slash : c ≠ '/' := by
    rintro rfl
    cases digit
  simp [next, quote, slash]

/-- Digits leave a place outside of quotes. -/
theorem follow_dropDigits (text : List Char) :
    outside.follow (text.dropWhile Char.isDigit) = outside.follow text := by
  induction text with
  | nil => rfl
  | cons c rest ih =>
    cases digit : c.isDigit with
    | false => simp [digit]
    | true => simpa [digit, next_digit digit] using ih

/-- A slash stands within quotes. -/
theorem ne_outside_of_slash {q : Quoting} {rest : List Char}
    (follows : (q.follow ('/' :: rest)).isSome = true) : q ≠ outside := by
  rintro rfl
  cases follows

/-- Within quotes a text does not end, nor does its line. -/
theorem follow_lineEnd {q : Quoting} (within : q ≠ outside) (rest : List Char) :
    q.follow ('\n' :: rest) = none := by
  cases q with
  | outside => exact absurd rfl within
  | inside => rfl
  | escaped => rfl

end Quoting

open Quoting

/-! ## Numerals -/

namespace Number

/-- The whole digits of a numeral are no quotes and no slashes. -/
theorem follow_wholeDigits {text digits rest : List Char}
    (reads : wholeDigits? text = some (digits, rest)) :
    outside.follow text = outside.follow rest := by
  unfold wholeDigits? at reads
  dsimp only at reads
  split at reads
  · cases reads
  · cases reads
    exact (follow_dropDigits text).symm

/-- Nor are the characters of its exponent. -/
theorem follow_exponent {text digits rest : List Char} {down : Bool}
    (reads : exponent? text = some (down, digits, rest)) :
    outside.follow text = outside.follow rest := by
  unfold exponent? at reads
  split at reads
  rename_i down more sign
  have unsigned : outside.follow text = outside.follow more := by
    split at sign <;> cases sign <;> rfl
  dsimp only at reads
  split at reads
  · cases reads
  · cases reads
    rw [unsigned, follow_dropDigits]

/-- A numeral ends after its last digit. -/
theorem rest_of_scaled {x : Option Double} {n : Number} {more rest : List Char}
    (reads : (x.bind fun y => some (real y, more)) = some (n, rest)) : more = rest := by
  obtain ⟨y, -, made⟩ := Option.bind_eq_some_iff.1 reads
  cases made
  rfl

/-- From the mark of an exponent on, a numeral has no quotes and no slashes. -/
theorem follow_of_withExponent {s : Scaled} {negative : Bool} {n : Number} {c : Char}
    {text rest : List Char} (mark : c = 'e' ∨ c = 'E')
    (reads : ((exponent? text).bind fun parts =>
      (s.withExponent negative parts.1 parts.2.1).bind fun x => some (real x, parts.2.2)) =
        some (n, rest)) :
    outside.follow (c :: text) = outside.follow rest := by
  obtain ⟨⟨down, digits, last⟩, exponent, reads⟩ := Option.bind_eq_some_iff.1 reads
  have plain : outside.follow (c :: text) = outside.follow text := by
    rcases mark with rfl | rfl <;> rfl
  have ends : last = rest := rest_of_scaled reads
  rw [plain, follow_exponent exponent, ends]

/-- A numeral without its sign has no quotes and no slashes. -/
theorem follow_readUnsigned {negative : Bool} {text rest : List Char} {n : Number}
    (reads : readUnsigned negative text = some (n, rest)) :
    outside.follow text = outside.follow rest := by
  unfold readUnsigned at reads
  obtain ⟨⟨whole, after⟩, digits, reads⟩ := Option.bind_eq_some_iff.1 reads
  rw [follow_wholeDigits digits]
  dsimp only at reads
  split at reads
  · split at reads
    · cases reads
    · rename_i afterPoint places
      have point : outside.follow ('.' :: afterPoint) =
          outside.follow (afterPoint.dropWhile Char.isDigit) := (follow_dropDigits afterPoint).symm
      rw [point]
      split at reads
      · rename_i last
        split at reads
        · rename_i mark
          rw [last]
          exact follow_of_withExponent mark reads
        · rw [rest_of_scaled reads]
      · rename_i last
        rw [last, rest_of_scaled reads]
  · split at reads
    · rename_i mark
      exact follow_of_withExponent mark reads
    · obtain ⟨number, -, made⟩ := Option.bind_eq_some_iff.1 reads
      cases made
      rfl
  · obtain ⟨number, -, made⟩ := Option.bind_eq_some_iff.1 reads
    cases made
    rfl

/-- Nor has its sign. -/
theorem follow_read {text rest : List Char} {n : Number} (reads : read text = some (n, rest)) :
    outside.follow text = outside.follow rest := by
  unfold read at reads
  split at reads
  · rename_i more
    have sign : outside.follow ('-' :: more) = outside.follow more := rfl
    rw [sign, follow_readUnsigned reads]
  · exact follow_readUnsigned reads

end Number

/-! ## Lexemes -/

namespace Lexeme

/-- A hexadecimal digit stands within quotes as itself. -/
theorem next_hexDigit {c : Char} {value : Nat} (digit : hexValue? c = some value) :
    inside.next c = some inside := by
  have bound : 48 ≤ c.toNat := by
    unfold hexValue? at digit
    split at digit
    · rename_i decimal
      simp only [Char.isDigit, Bool.and_eq_true, decide_eq_true_eq] at decimal
      exact decimal.1
    · split at digit
      · rename_i lower
        exact Nat.le_trans (by decide) lower.1
      · split at digit
        · rename_i upper
          exact Nat.le_trans (by decide) upper.1
        · cases digit
  have notControl : ¬ c.toNat < 0x20 := by omega
  have quote : c ≠ '"' := by
    rintro rfl
    cases digit
  have backslash : c ≠ '\\' := by
    rintro rfl
    cases digit
  simp [next, notControl, quote, backslash]

/-- So do four of them. -/
theorem follow_hexWord {a b c d : Char} {unit : Nat} (word : hexWord? a b c d = some unit)
    (rest : List Char) : inside.follow (a :: b :: c :: d :: rest) = inside.follow rest := by
  simp only [hexWord?, Option.bind_eq_bind, Option.bind_eq_some_iff] at word
  obtain ⟨_, first, _, second, _, third, _, fourth, -⟩ := word
  simp [next_hexDigit first, next_hexDigit second, next_hexDigit third, next_hexDigit fourth]

/-- Whatever is escaped is no control. -/
theorem follow_escaped {c plain : Char} (escape : escaped? c = some plain) (rest : List Char) :
    inside.follow ('\\' :: c :: rest) = inside.follow rest := by
  unfold escaped? at escape
  split at escape
  case h_9 => cases escape
  all_goals rfl

/-- A character is put in front of a text that was read. -/
theorem exists_of_push {c : Char} {read : Option (List Char × List Char)} {chars rest : List Char}
    (reads : read.map (fun parts => (c :: parts.1, parts.2)) = some (chars, rest)) :
    ∃ others, read = some (others, rest) := by
  obtain ⟨⟨others, more⟩, found, made⟩ := Option.map_eq_some_iff.1 reads
  cases made
  exact ⟨others, found⟩

/-- A text in quotes ends where its closing quote leads outside. -/
theorem follow_readText {text chars rest : List Char} (reads : readText text = some (chars, rest)) :
    inside.follow text = outside.follow rest := by
  have unicode (more : List Char) : inside.follow ('\\' :: 'u' :: more) = inside.follow more := rfl
  fun_induction readText text generalizing chars rest with
  | case2 rest =>
    cases reads
    rfl
  | case5 a b c d e f g h more unit word high low second half ih =>
    obtain ⟨others, later⟩ := exists_of_push reads
    rw [unicode, follow_hexWord word, unicode, follow_hexWord second, ih later]
  | case8 a b c d e f g h more unit word high low ih =>
    obtain ⟨others, later⟩ := exists_of_push reads
    rw [unicode, follow_hexWord word, ih later]
  | case11 a b c d more single unit word halves ih =>
    obtain ⟨others, later⟩ := exists_of_push reads
    rw [unicode, follow_hexWord word, ih later]
  | case13 c more _ _ plain escape ih =>
    obtain ⟨others, later⟩ := exists_of_push reads
    rw [follow_escaped escape, ih later]
  | case15 c more quote _ _ _ other ih =>
    obtain ⟨others, later⟩ := exists_of_push reads
    obtain ⟨backslash, control⟩ := not_or.1 other
    have stays : inside.next c = some inside := by
      simp only [next, if_neg control, if_neg quote, if_neg backslash]
    rw [follow_cons, stays, Option.bind_some, ih later]
  | _ => cases reads

/-- The words of JSON have no quotes and no slashes. -/
theorem eq_append_of_dropWord {word text rest : List Char}
    (drops : dropWord? word text = some rest) : text = word ++ rest := by
  unfold dropWord? at drops
  split at drops
  · rename_i opens
    obtain ⟨more, rfl⟩ := List.isPrefixOf_iff_prefix.1 opens
    cases drops
    rw [List.drop_left]
  · cases drops

/-- The lexeme that a character opens begins and ends outside of quotes. -/
theorem follow_first {c : Char} {text rest : List Char} {lexeme : Lexeme}
    (opens : first c text = some (lexeme, rest)) :
    outside.follow (c :: text) = outside.follow rest := by
  unfold first at opens
  split at opens
  case h_7 =>
    obtain ⟨parts, reads, made⟩ := Option.map_eq_some_iff.1 opens
    cases made
    exact follow_readText reads
  case h_8 | h_9 | h_10 =>
    obtain ⟨more, drops, made⟩ := Option.map_eq_some_iff.1 opens
    cases made
    rw [eq_append_of_dropWord drops]
    rfl
  case h_11 =>
    obtain ⟨⟨n, more⟩, reads, made⟩ := Option.map_eq_some_iff.1 opens
    cases made
    exact Number.follow_read reads
  all_goals
    cases opens
    rfl

/-- A text that has lexemes ends outside of quotes. -/
theorem follow_scanWithin {fuel : Nat} {text : List Char} {lexemes : List Lexeme}
    (scans : scanWithin fuel text = some lexemes) : outside.follow text = some outside := by
  fun_induction scanWithin fuel text generalizing lexemes with
  | case1 => cases scans
  | case2 => rfl
  | case3 fuel c rest space ih =>
    have stays : outside.next c = some outside := by
      simp only [isSpace, Bool.or_eq_true, decide_eq_true_eq] at space
      rcases space with ((rfl | rfl) | rfl) | rfl <;> rfl
    rw [follow_cons, stays, Option.bind_some, ih scans]
  | case4 fuel c rest other ih =>
    obtain ⟨⟨lexeme, more⟩, opens, scans⟩ := Option.bind_eq_some_iff.1 scans
    obtain ⟨others, later, made⟩ := Option.bind_eq_some_iff.1 scans
    rw [follow_first opens, ih _ later]

end Lexeme

/-- A text that is read as a value ends outside of quotes. -/
theorem follow_of_read {text : List Char} {value : Json} (reads : read text = some value) :
    outside.follow text = some outside := by
  obtain ⟨lexemes, scans, -⟩ := Option.bind_eq_some_iff.1 reads
  exact Lexeme.follow_scanWithin scans

end Vigil.Json
