import Mathlib.Algebra.Group.Int.Defs
import Mathlib.Algebra.Group.Nat.Defs
import Std.Data.String.ToInt
import KayobeConfig.Library.Text

/-!
Python values as a script meets them in parsed JSON and in object attributes, and
what it relies on from floats and from Unicode case mapping. Floats stay abstract:
a runtime says which integers and texts convert to one, and that the text of a
float reads back as that float.
-/

namespace Library

inductive PyValue (Float : Type)
  | none
  | bool (value : Bool)
  | int (value : Int)
  | float (value : Float)
  | str (value : String)
  | list (items : List (PyValue Float))
  | dict (entries : List (String × PyValue Float))
  | object (attributes : List (String × PyValue Float))
  | function

/-- `mulInt` and `divInt` are a float times and over an integer constant. -/
structure PyRuntime where
  Float : Type
  ofInt : Int → Option Float
  ofBool : Bool → Float
  ofText : String → Option Float
  repr : Float → String
  mulInt : Float → Int → Float
  divInt : Float → Int → Float
  lower : String → String
  upper : String → String
  str : PyValue Float → String
  ofInt_small : ∀ value : Int, value.natAbs ≤ 2 ^ 53 → (ofInt value).isSome
  ofInt_bool : ∀ value : Bool, ofInt (if value then 1 else 0) = some (ofBool value)
  ofText_repr : ∀ value, ofText (repr value) = some value
  ofText_int : ∀ value result, ofInt value = some result → ofText (toString value) = some result
  repr_graphic : ∀ value, ∀ char ∈ (repr value).toList, isSpace char = false
  str_text : ∀ text, str (.str text) = text

theorem intText_chars (value : Int) :
    ∀ char ∈ (toString value).toList, char.isDigit = true ∨ char = '-' := by
  intro char member
  cases value with
  | ofNat size =>
      have digits : char ∈ (Nat.repr size).toList := member
      simp only [Nat.toList_repr] at digits
      exact Or.inl (Nat.isDigit_of_mem_toDigits (by omega) (by omega) digits)
  | negSucc size =>
      have digits : char ∈ ("-" ++ Nat.repr (size + 1)).toList := member
      simp only [String.toList_append, Nat.toList_repr, List.mem_append] at digits
      rcases digits with sign | digits
      · exact Or.inr (by simpa using sign)
      · exact Or.inl (Nat.isDigit_of_mem_toDigits (by omega) (by omega) digits)

theorem isSpace_of_isDigit {char : Char} (digit : char.isDigit = true ∨ char = '-') :
    isSpace char = false := by
  rcases digit with digit | rfl
  · have bounds : 48 ≤ char.toNat ∧ char.toNat ≤ 57 := by
      simpa [Char.isDigit, UInt32.le_iff_toNat_le] using digit
    simp only [isSpace, decide_eq_false_iff_not, List.mem_cons, List.not_mem_nil, or_false]
    omega
  · decide

theorem intText_graphic (value : Int) : ∀ char ∈ (toString value).toList, isSpace char = false :=
  fun char member => isSpace_of_isDigit (intText_chars value char member)

def wholeOfText (text : String) : Option Int :=
  if ['.', '0'] <:+ text.toList then
    (String.ofList (text.toList.take (text.toList.length - 2))).toInt?
  else text.toInt?

theorem wholeOfText_int (value : Int) : wholeOfText (toString value) = some value := by
  have plain : ¬['.', '0'] <:+ (toString value).toList := by
    intro suffix
    have member : '.' ∈ (toString value).toList := suffix.subset (by simp)
    rcases intText_chars value '.' member with digit | sign
    · simp [Char.isDigit] at digit
    · simp at sign
  unfold wholeOfText
  rw [if_neg plain]
  exact Int.toInt?_repr value

theorem wholeOfText_repr (value : Int) : wholeOfText (toString value ++ ".0") = some value := by
  have parts : (toString value ++ ".0").toList = (toString value).toList ++ ['.', '0'] := by
    simp
  have suffix : ['.', '0'] <:+ (toString value ++ ".0").toList := by
    rw [parts]
    exact List.suffix_append _ _
  unfold wholeOfText
  rw [if_pos suffix, parts]
  simp

/-- Integers from here on round to an infinite double, and `float()` overflows. -/
def floatLimit : Nat := 2 ^ 1024 - 2 ^ 970

def wholeRuntime : PyRuntime where
  Float := Int
  ofInt value := if value.natAbs < floatLimit then some value else none
  ofBool value := if value then 1 else 0
  ofText := wholeOfText
  repr value := toString value ++ ".0"
  mulInt := (· * ·)
  divInt := (· / ·)
  lower := asciiLower
  upper := asciiUpper
  str value := match value with
    | .str text => text
    | _ => ""
  ofInt_small value small := by
    have bound : value.natAbs < floatLimit := Nat.lt_of_le_of_lt small (by decide +kernel)
    simp [bound]
  ofInt_bool value := by
    have bound : (if value then (1 : Int) else 0).natAbs < floatLimit := by
      cases value <;> decide +kernel
    rw [if_pos bound]
  ofText_repr := wholeOfText_repr
  ofText_int value result converted := by
    split at converted
    · cases converted
      exact wholeOfText_int value
    · cases converted
  repr_graphic value char member := by
    simp only [String.toList_append, List.mem_append] at member
    rcases member with digits | fraction
    · exact intText_graphic value char digits
    · rw [show ".0".toList = ['.', '0'] from rfl] at fraction
      rcases List.mem_pair.mp fraction with rfl | rfl <;> decide
  str_text _ := rfl

end Library
