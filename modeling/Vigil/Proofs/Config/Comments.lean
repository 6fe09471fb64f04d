import Vigil.Config.Comments
import Vigil.Proofs.Json.Quoting

/-!
# Removing comments

Comments are removed without regard to quotes. A JSON text in which two slashes and a blank stand
nowhere stays as it is. But they may stand within a text in quotes; then its closing quote goes with
the comment, and what is left is no JSON text any more. So the removal of comments never alters a
value unnoticed: it leaves a JSON text alone or makes it unreadable.
-/

namespace Vigil.Config

open Json (Quoting)

/-- Two slashes and a blank stand somewhere in the text. -/
def HasComment (text : List Char) : Prop := ['/', '/', ' '] <:+: text ∨ ['/', '/', '\t'] <:+: text

instance (text : List Char) : Decidable (HasComment text) := inferInstanceAs (Decidable (_ ∨ _))

/-- A comment is opened by two slashes and a blank. -/
theorem opensComment_iff (text : List Char) :
    opensComment text = true ↔ ['/', '/', ' '] <+: text ∨ ['/', '/', '\t'] <+: text := by
  constructor
  · intro opens
    unfold opensComment at opens
    split at opens
    · simp only [Bool.or_eq_true, decide_eq_true_eq] at opens
      rcases opens with rfl | rfl
      · exact .inl ⟨_, rfl⟩
      · exact .inr ⟨_, rfl⟩
    · cases opens
  · rintro (⟨rest, rfl⟩ | ⟨rest, rfl⟩) <;> rfl

/-- They stand at the first character or later. -/
theorem hasComment_cons (c : Char) (rest : List Char) :
    HasComment (c :: rest) ↔ opensComment (c :: rest) = true ∨ HasComment rest := by
  simp only [HasComment, opensComment_iff, List.infix_cons_iff]
  exact or_or_or_comm

/-- A text without comments stays as it is. -/
theorem stripComments_of_not_hasComment {text : List Char} (clean : ¬ HasComment text) :
    stripComments text = text := by
  unfold stripComments
  induction text with
  | nil => rfl
  | cons c rest ih =>
    rw [hasComment_cons, not_or] at clean
    obtain ⟨here, later⟩ := clean
    simp [dropComments, here, ih later]

/-- A comment goes to the end of its line. -/
theorem dropComments_inside (text : List Char) :
    dropComments true text = [] ∨ ∃ rest, dropComments true text = '\n' :: rest := by
  induction text with
  | nil => exact .inl rfl
  | cons c rest ih =>
    by_cases line : c = '\n'
    · exact .inr ⟨dropComments false rest, by simp [dropComments, line]⟩
    · simpa [dropComments, line] using ih

/-- What stands before the first comment stays, and after it the text or the line ends. -/
theorem stripComments_of_hasComment {text : List Char} (comment : HasComment text) :
    ∃ before after rest, text = before ++ '/' :: after ∧ stripComments text = before ++ rest ∧
      (rest = [] ∨ ∃ more, rest = '\n' :: more) := by
  unfold stripComments
  induction text with
  | nil => simp [HasComment] at comment
  | cons c rest ih =>
    cases opens : opensComment (c :: rest) with
    | true =>
      have slash : c = '/' := by
        rcases (opensComment_iff _).1 opens with ⟨more, parts⟩ | ⟨more, parts⟩ <;>
          exact (List.cons.inj parts).1.symm
      refine ⟨[], rest, dropComments true rest, by rw [slash]; rfl, ?_, dropComments_inside rest⟩
      simp [dropComments, opens]
    | false =>
      have later : HasComment rest := by simpa [hasComment_cons, opens] using comment
      obtain ⟨before, after, left, parts, stripped, ends⟩ := ih later
      refine ⟨c :: before, after, left, by rw [parts]; rfl, ?_, ends⟩
      simp [dropComments, opens, stripped]

/-- A JSON text does not end, nor does its line, where a slash may stand. -/
theorem read_of_cut {before after rest : List Char} {value : Json}
    (reads : Json.read (before ++ '/' :: after) = some value)
    (cut : rest = [] ∨ ∃ more, rest = '\n' :: more) : Json.read (before ++ rest) = none := by
  have whole := Json.follow_of_read reads
  rw [Quoting.follow_append] at whole
  obtain ⟨there, follows, slash⟩ := Option.bind_eq_some_iff.1 whole
  have within : there ≠ .outside := Quoting.ne_outside_of_slash (Option.isSome_of_eq_some slash)
  cases again : Json.read (before ++ rest) with
  | none => rfl
  | some other =>
    have ended := Json.follow_of_read again
    rw [Quoting.follow_append, follows, Option.bind_some] at ended
    rcases cut with rfl | ⟨more, rfl⟩
    · exact absurd (Option.some.inj ended) within
    · rw [Quoting.follow_lineEnd within] at ended
      cases ended

/-- Removing comments leaves a JSON text alone, and so its value, exactly if two slashes and a blank
stand nowhere in it. Otherwise nothing can be read any more: in no case is another value read. -/
theorem read_stripComments {text : List Char} {value : Json} (reads : Json.read text = some value) :
    (¬ HasComment text → stripComments text = text) ∧
      (Json.read (stripComments text) = some value ↔ ¬ HasComment text) ∧
      (HasComment text → Json.read (stripComments text) = none) := by
  have unreadable (comment : HasComment text) : Json.read (stripComments text) = none := by
    obtain ⟨before, after, rest, parts, stripped, ends⟩ := stripComments_of_hasComment comment
    rw [stripped]
    rw [parts] at reads
    exact read_of_cut reads ends
  refine ⟨stripComments_of_not_hasComment, ⟨fun same comment => ?_, fun clean => ?_⟩, unreadable⟩
  · rw [unreadable comment] at same
    cases same
  · rw [stripComments_of_not_hasComment clean, reads]

/-- The slashes of an address have no blank after them and stay. -/
theorem read_stripComments_of_address :
    let text := "\x7b\"url\": \"http://a/\"\x7d".toList
    let value := Json.object [("url", .text "http://a/")]
    Json.read text = some value ∧ ¬ HasComment text ∧ stripComments text = text ∧
      Json.read (stripComments text) = some value := by
  intro text value
  have reads : Json.read text = some value := by rfl
  have clean : ¬ HasComment text := by decide +kernel
  obtain ⟨same, reread, -⟩ := read_stripComments reads
  exact ⟨reads, clean, same clean, reread.2 clean⟩

/-- Two slashes and a blank within quotes take the end of their line with them, and the last
quote. -/
theorem slashes_in_quotes_are_removed :
    let text := "\x7b\"prefix\": \"a // b\"\x7d".toList
    Json.read text = some (.object [("prefix", .text "a // b")]) ∧
      stripComments text = "\x7b\"prefix\": \"a ".toList ∧
      Json.read (stripComments text) = none :=
  ⟨by rfl, by decide +kernel, by rfl⟩

end Vigil.Config
