import Mathlib.Logic.Basic
import KayobeConfig.Library.Text

/-!
Lines of comma-separated values, and where a word occurs in them: separators that are
not in the word neither make an occurrence nor break one.
-/

namespace Library

def csvEscape (text : List Char) : List Char :=
  text.flatMap fun char => if char = '"' then ['"', '"'] else [char]

def csvField : Option String → List Char
  | none => []
  | some text => '"' :: csvEscape text.toList ++ ['"']

def csvLine (fields : List (Option String)) : List Char := [','].intercalate (fields.map csvField)

variable {word : List Char} {separator : Char}

theorem infix_intercalate (nonempty : word ≠ []) (absent : separator ∉ word)
    (texts : List (List Char)) :
    word <:+: [separator].intercalate texts ↔ ∃ text ∈ texts, word <:+: text := by
  induction texts with
  | nil => simp [nonempty]
  | cons text texts ih =>
      cases texts with
      | nil => simp
      | cons next others =>
          rw [List.intercalate_cons_cons, List.append_assoc, List.singleton_append,
            infix_append_separator absent, ih]
          exact (List.exists_mem_cons_iff _ text (next :: others)).symm

theorem infix_csvEscape (quoteless : '"' ∉ word) (before text : List Char) :
    word <:+: before ++ csvEscape text ↔ word <:+: before ++ text := by
  induction text generalizing before with
  | nil => rfl
  | cons char chars ih =>
      by_cases quote : char = '"'
      · subst quote
        have escaped : csvEscape ('"' :: chars) = '"' :: '"' :: csvEscape chars := rfl
        rw [escaped, infix_append_separator quoteless, infix_append_separator quoteless,
          infix_separator_cons quoteless]
        exact or_congr_right (ih [])
      · have escaped : csvEscape (char :: chars) = char :: csvEscape chars := by
          simp [csvEscape, quote]
        have moved := ih (before ++ [char])
        rw [List.append_assoc, List.append_assoc] at moved
        rw [escaped]
        exact moved

theorem infix_csvField (nonempty : word ≠ []) (quoteless : '"' ∉ word) (field : Option String) :
    word <:+: csvField field ↔ ∃ text ∈ field, word <:+: text.toList := by
  cases field with
  | none => simp [csvField, nonempty]
  | some text =>
      have quoted : csvField (some text) = '"' :: (csvEscape text.toList ++ ['"']) := rfl
      rw [quoted, infix_separator_cons quoteless, infix_append_separator quoteless,
        List.infix_nil]
      have escaped := infix_csvEscape quoteless [] text.toList
      simp only [List.nil_append] at escaped
      simp [nonempty, escaped]

theorem infix_csvLine (nonempty : word ≠ []) (quoteless : '"' ∉ word) (commaless : ',' ∉ word)
    (fields : List (Option String)) :
    word <:+: csvLine fields ↔ ∃ field ∈ fields, ∃ text ∈ field, word <:+: text.toList := by
  unfold csvLine
  rw [infix_intercalate nonempty commaless]
  simp only [List.mem_map, exists_exists_and_eq_and, infix_csvField nonempty quoteless]

end Library
