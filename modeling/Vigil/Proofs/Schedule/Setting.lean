import Vigil.Proofs.Interval.Shape
import Vigil.Proofs.Text.Words
import Vigil.Schedule

/-!
# Durations and cron expressions

A setting is a cron expression by the number of its words, before anything else is read. That never
takes a duration away: a text that has the shape of an interval is one word. The words are counted
once in the setting and once in the trimmed text that is completed, and trimming keeps words, so both
counts agree: what is completed has six words, and completing it again changes nothing.
-/

namespace Vigil

namespace Interval

/-- A text that has the shape of an interval is one word. -/
theorem Shape.words_eq {text : List Char} (s : Shape text) : Text.words text = [s.body] := by
  have some : s.body ≠ [] := by
    simp only [Shape.body, ne_eq, List.append_eq_nil_iff, not_and]
    exact fun _ _ => s.lettered
  rw [← Text.words_trim, s.trim_eq_body, Text.words_of_solid s.isBlank_eq_false some]

/-- A text of another number of words is refused for its shape. -/
theorem read_of_words {text : String} (several : (Text.words text.toList).length ≠ 1) :
    read text = .error ⟨text, .shape⟩ := by
  have shapeless : parts? text.toList = none := by
    rw [parts?_eq_none_iff]
    exact ⟨fun s => several (by rw [s.words_eq, List.length_singleton])⟩
  rw [read, readChars, shapeless]
  rfl

end Interval

namespace IntervalSetting

/-- A text is a cron expression when it has five words or six. -/
theorem isCron_text_iff (text : String) : isCron (.text text) = true ↔
    (Text.words text.toList).length = 5 ∨ (Text.words text.toList).length = 6 := by
  simp only [isCron, hasCronShape, Bool.or_eq_true, beq_iff_eq]

end IntervalSetting

namespace Schedule

/-- A zero of its own is the first word. -/
theorem words_zero_cons (text : List Char) :
    Text.words ('0' :: ' ' :: text) = ['0'] :: Text.words text :=
  Text.words_cons_cons ['0'] (List.forall_mem_singleton.2 (by decide)) (List.cons_ne_nil _ _)
    (by decide) text

/-- Only five words are completed. -/
theorem normalizeCron_of_length {text : List Char} (other : (Text.words text).length ≠ 5) :
    normalizeCron text = Text.trim text := by
  simp only [normalizeCron, Text.words_trim, if_neg other]

/-- Five words are completed by a zero in front of them. -/
theorem normalizeCron_of_five {text : List Char} (five : (Text.words text).length = 5) :
    normalizeCron text = '0' :: ' ' :: Text.trim text := by
  simp only [normalizeCron, Text.words_trim, if_pos five]

/-- The words of a completed text are those of the text, with a zero in front where they are five. -/
theorem words_normalizeCron (text : List Char) :
    Text.words (normalizeCron text) =
      if (Text.words text).length = 5 then ['0'] :: Text.words text else Text.words text := by
  split
  · rename_i five
    rw [normalizeCron_of_five five, words_zero_cons, Text.words_trim]
  · rename_i other
    rw [normalizeCron_of_length other, Text.words_trim]

/-- Five words become six, and any other number of them stays. -/
theorem length_words_normalizeCron (text : List Char) :
    (Text.words (normalizeCron text)).length =
      if (Text.words text).length = 5 then 6 else (Text.words text).length := by
  rw [words_normalizeCron]
  split
  · rename_i five
    rw [List.length_cons, five]
  · rfl

/-- A completed text has no blanks around it. -/
theorem trim_normalizeCron (text : List Char) : Text.trim (normalizeCron text) = normalizeCron text := by
  by_cases five : (Text.words text).length = 5
  · have some : Text.trim text ≠ [] := by
      intro none
      rw [← Text.words_trim, none] at five
      cases five
    have kept : Text.trimEnd (Text.trim text) = Text.trim text := Text.trimEnd_trimEnd _
    have start : Text.trimStart ('0' :: ' ' :: Text.trim text) = ['0', ' '] ++ Text.trim text := rfl
    rw [normalizeCron_of_five five, Text.trim, start,
      Text.trimEnd_append_of_ne_nil ['0', ' '] (kept.trans_ne some), kept]
    rfl
  · rw [normalizeCron_of_length five, Text.trim_trim]

/-- Completing a text a second time changes nothing. -/
theorem normalizeCron_normalizeCron (text : List Char) :
    normalizeCron (normalizeCron text) = normalizeCron text := by
  have settled : (Text.words (normalizeCron text)).length ≠ 5 := by
    rw [length_words_normalizeCron]
    split
    · decide
    · assumption
  rw [normalizeCron_of_length settled, trim_normalizeCron]

/-- A text that is read as an interval is no cron expression, and its schedule is that of the
interval. A cron expression is refused as an interval, and it is completed to six words. Whatever the
text is, the words of the completed text are its own, with a zero in front where there are five of
them, and completing is done once. -/
theorem reading_of_text (now : Int) (text : String) :
    let setting := IntervalSetting.text text
    let words := Text.words text.toList
    (∀ length, Interval.read text = .ok length →
      setting.isCron = false ∧ ofSetting now setting = ofInterval length) ∧
    (setting.isCron = true →
      Interval.read text = .error ⟨text, .shape⟩ ∧ ofSetting now setting = ofCron now text ∧
      (Text.words (normalizeCron text.toList)).length = 6) ∧
    Text.words (normalizeCron text.toList) = (if words.length = 5 then ['0'] :: words else words) ∧
    normalizeCron (normalizeCron text.toList) = normalizeCron text.toList := by
  intro setting words
  have refused : setting.isCron = true → Interval.read text = .error ⟨text, .shape⟩ := by
    intro cron
    rw [IntervalSetting.isCron_text_iff] at cron
    exact Interval.read_of_words (by omega)
  refine ⟨?_, ?_, words_normalizeCron text.toList, normalizeCron_normalizeCron text.toList⟩
  · intro length accepted
    have fixed : setting.isCron = false := by
      rw [Bool.eq_false_iff]
      intro cron
      rw [refused cron] at accepted
      cases accepted
    refine ⟨fixed, ?_⟩
    simp only [ofSetting, setting, fixed, Bool.false_eq_true, if_false, IntervalSetting.interval,
      accepted]
    rfl
  · intro cron
    refine ⟨refused cron, ?_, ?_⟩
    · simp only [ofSetting, setting, cron, if_true]
    · rw [length_words_normalizeCron]
      rcases (IntervalSetting.isCron_text_iff text).1 cron with five | six
      · rw [if_pos five]
      · rw [if_neg (by omega), six]

/-- Ninety minutes are a duration; five words with blanks of all kinds around them are a cron
expression. -/
theorem reading_of_duration_and_cron :
    (∃ length, Interval.read " 1.5hour\n" = .ok length ∧
      ofSetting 0 (.text " 1.5hour\n") = ofInterval length) ∧
    (IntervalSetting.isCron (.text "\t*/5  9-17 * *\u2003mon\n") = true ∧
      ofSetting 0 (.text "\t*/5  9-17 * *\u2003mon\n") = ofCron 0 "\t*/5  9-17 * *\u2003mon\n" ∧
      (Text.words (normalizeCron "\t*/5  9-17 * *\u2003mon\n".toList)).length = 6) := by
  have accepted : Interval.read " 1.5hour\n" = .ok ⟨.ofDecimal false ⟨15, -1⟩, .hour⟩ := by
    decide +kernel
  have cron : IntervalSetting.isCron (.text "\t*/5  9-17 * *\u2003mon\n") = true := by
    decide +kernel
  obtain ⟨-, fixed⟩ := (reading_of_text 0 " 1.5hour\n").1 _ accepted
  obtain ⟨-, branch, six⟩ := (reading_of_text 0 "\t*/5  9-17 * *\u2003mon\n").2.1 cron
  exact ⟨⟨_, accepted, fixed⟩, cron, branch, six⟩

end Schedule

end Vigil
