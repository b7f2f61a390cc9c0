import ESharp.Statement
import Mathlib.Tactic.Common

/-!
# Reading string literals

A reader of literals looks for the quote that closes one. A backslash takes the next character with it,
whatever it is, so what the reader finds depends on all that stands before. Main statement: the message
of an assertion is read back as its condition, and the literal ends where it was meant to end.
-/

namespace ESharp.Statement

/-- A character of a literal, as it stands or after a backslash. -/
inductive Mark
  | plain (c : Char)
  | escaped (c : Char)
  deriving DecidableEq, Repr

namespace Mark

/-- The character that a mark stands for. Only a backslash and a quote stand for themselves when they
are escaped. -/
def value : Mark → Char
  | plain c => c
  | escaped c => c

def text : Mark → Text
  | plain c => [c]
  | escaped c => ['\\', c]

/-- The mark by which a character is written. -/
def ofChar (c : Char) : Mark := if c = '\\' ∨ c = '"' then escaped c else plain c

@[simp] lemma value_ofChar (c : Char) : (ofChar c).value = c := by
  unfold ofChar
  split_ifs <;> rfl

lemma eq_of_ofChar_eq_escaped {c d : Char} (h : ofChar c = escaped d) : d = '\\' ∨ d = '"' := by
  unfold ofChar at h
  split_ifs at h with hc
  cases h
  exact hc

lemma ne_of_ofChar_eq_plain {c d : Char} (h : ofChar c = plain d) : d ≠ '\\' ∧ d ≠ '"' := by
  unfold ofChar at h
  split_ifs at h with hc
  cases h
  exact not_or.mp hc

lemma text_ofChar (c : Char) : (ofChar c).text = escapeChar c := by
  by_cases hb : c = '\\'
  · simp [ofChar, text, escapeChar, hb]
  · by_cases hq : c = '"'
    · simp [ofChar, text, escapeChar, hq]
    · simp [ofChar, text, escapeChar, hb, hq]

end Mark

/-- The marks up to the quote that closes a literal, and the text after that quote. -/
def body? : Text → Option (List Mark × Text)
  | [] => none
  -- a backslash with nothing to take
  | ['\\'] => none
  | '"' :: t => some ([], t)
  | '\\' :: c :: t => (body? t).map fun p => (.escaped c :: p.1, p.2)
  | c :: t => (body? t).map fun p => (.plain c :: p.1, p.2)

/-- The marks of the literal at the start of a text, and the text after it. -/
def literal? : Text → Option (List Mark × Text)
  | '"' :: t => body? t
  | _ => none

lemma body?_plain {c : Char} (hb : c ≠ '\\') (hq : c ≠ '"') (t : Text) :
    body? (c :: t) = (body? t).map fun p => (.plain c :: p.1, p.2) := by
  rw [body?]
  all_goals simp [hb, hq]

/-- Marks are read back when none of them is a bare quote or a bare backslash. -/
lemma body?_flatMap_text {ms : List Mark} (h : ∀ c, .plain c ∈ ms → c ≠ '\\' ∧ c ≠ '"') (t : Text) :
    body? (ms.flatMap Mark.text ++ '"' :: t) = some (ms, t) := by
  induction ms with
  | nil => rfl
  | cons m ms ih =>
    have hms := ih fun c hc => h c (List.mem_cons_of_mem m hc)
    cases m with
    | plain c =>
      obtain ⟨hb,hq⟩ := h c List.mem_cons_self
      rw [List.flatMap_cons, Mark.text, List.append_assoc, List.singleton_append,
        body?_plain hb hq, hms]
      rfl
    | escaped c =>
      -- the reader goes on behind the character, also if it is a quote
      change (body? (ms.flatMap Mark.text ++ '"' :: t)).map _ = _
      rw [hms]
      rfl

lemma flatMap_text_ofChar (t : Text) : (t.map Mark.ofChar).flatMap Mark.text = escape t := by
  rw [List.flatMap_map, escape]
  simp only [Mark.text_ofChar]

/-- A quoted text is read character by character, and the reading stops at its last quote. -/
lemma literal?_quote (t after : Text) :
    literal? (quote t ++ after) = some (t.map Mark.ofChar, after) := by
  have hplain : ∀ c, .plain c ∈ t.map Mark.ofChar → c ≠ '\\' ∧ c ≠ '"' := by
    intro c hc
    obtain ⟨d,-,hd⟩ := List.mem_map.mp hc
    exact Mark.ne_of_ofChar_eq_plain hd
  have hbody := body?_flatMap_text hplain after
  rw [flatMap_text_ofChar] at hbody
  simpa [quote, literal?] using hbody

/-- An assertion ends with a literal of its condition, whatever text comes after it: the literal is
closed by its own last quote, escapes nothing but backslashes and quotes, and reads as the condition. -/
theorem assert_message_reads_back (helper condition : Text) :
    ∃ q, assert helper condition =
        helper ++ '(' :: condition ++ ", ".toList ++ q ++ ");".toList ∧
      q.head? = some '"' ∧
      ∀ after, ∃ ms, literal? (q ++ after) = some (ms, after) ∧
        (∀ c, .escaped c ∈ ms → c = '\\' ∨ c = '"') ∧ ms.map Mark.value = condition := by
  refine ⟨quote condition, rfl, rfl, fun after => ?_⟩
  refine ⟨condition.map Mark.ofChar, literal?_quote condition after, ?_, ?_⟩
  · intro c hc
    obtain ⟨d,-,hd⟩ := List.mem_map.mp hc
    exact Mark.eq_of_ofChar_eq_escaped hd
  · simp [Function.comp_def]

-- A backslash at the end of a condition does not take the closing quote with it.
example : literal? "\"a\\\\\");".toList = some ([.plain 'a', .escaped '\\'], ");".toList) := by decide

end ESharp.Statement
