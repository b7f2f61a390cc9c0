import ESharp.Text.Basic
import ESharp.Text.Letter

/-!
# Identifiers

A name of the written program: letters, underscores and, after the first character, digits. A
reserved word is a name only behind an at sign, which is no part of the name it declares.
-/

namespace ESharp.Identifier

/-- The reserved words of C#. Words that are keywords only in some places are names. -/
def reserved : List Text :=
  ["abstract", "as", "base", "bool", "break", "byte", "case", "catch", "char", "checked",
    "class", "const", "continue", "decimal", "default", "delegate", "do", "double", "else",
    "enum", "event", "explicit", "extern", "false", "finally", "fixed", "float", "for",
    "foreach", "goto", "if", "implicit", "in", "int", "interface", "internal", "is", "lock",
    "long", "namespace", "new", "null", "object", "operator", "out", "override", "params",
    "private", "protected", "public", "readonly", "ref", "return", "sbyte", "sealed", "short",
    "sizeof", "stackalloc", "static", "string", "struct", "switch", "this", "throw", "true",
    "try", "typeof", "uint", "ulong", "unchecked", "unsafe", "ushort", "using", "virtual",
    "void", "volatile", "while"].map String.toList

def isStart (c : Char) : Bool := c == '_' || Text.isLetter c

def isPart (c : Char) : Bool := isStart c || Text.isDigit c

/-- Whether a text has the shape of a name, reserved or not. -/
def isWord : Text → Bool
  | [] => false
  | c :: t => isStart c && t.all isPart

def isValid : Text → Bool
  | '@' :: t => isWord t
  | t => isWord t && !reserved.contains t

/-- The name that is declared, without the at sign. -/
def declared : Text → Text
  | '@' :: t => t
  | t => t

theorem isPart_of_mem_isWord {t : Text} (h : isWord t) {c : Char} (hc : c ∈ t) : isPart c := by
  cases t with
  | nil => simp at hc
  | cons e t =>
    obtain ⟨he, ht⟩ := Bool.and_eq_true_iff.mp h
    rcases List.mem_cons.mp hc with rfl | hc
    · simp [isPart, he]
    · exact List.all_eq_true.mp ht c hc

theorem eq_at_or_isPart_of_mem {name : Text} (h : isValid name) {c : Char} (hc : c ∈ name) :
    c = '@' ∨ isPart c := by
  unfold isValid at h
  split at h
  · exact (List.mem_cons.mp hc).imp_right (isPart_of_mem_isWord h)
  · exact .inr (isPart_of_mem_isWord (Bool.and_eq_true_iff.mp h).1 hc)

example : isValid "@class".toList := by decide

example : ¬ isValid "class".toList := by decide

example : ¬ isValid "@@x".toList := by decide

end ESharp.Identifier
