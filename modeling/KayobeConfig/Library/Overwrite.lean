import Mathlib.Data.List.Induction
import KayobeConfig.Library.Loops

/-!
Writes that replace some values of a map. After any number of them each key has the
value of the last write that names it.
-/

namespace Library

variable {κ ν : Type*}

abbrev Write (κ ν : Type*) := κ → Option ν

def overwrite (values : κ → ν) (write : Write κ ν) : κ → ν := fun key => (write key).getD (values key)

def lastWritten (writes : List (Write κ ν)) (key : κ) : Option ν :=
  writes.reverse.findSome? fun write => write key

theorem foldl_overwrite (writes : List (Write κ ν)) (values : κ → ν) (key : κ) :
    writes.foldl overwrite values key = (lastWritten writes key).getD (values key) := by
  induction writes using List.reverseRecOn with
  | nil => rfl
  | append_singleton writes last ih =>
      unfold lastWritten at ih ⊢
      rw [List.foldl_append, List.foldl_cons, List.foldl_nil, overwrite, ih, List.reverse_append,
        List.reverse_singleton, List.singleton_append, List.findSome?_cons]
      cases last key <;> rfl

theorem foldl_overwrite_twice (writes : List (Write κ ν)) (values : κ → ν) :
    writes.foldl overwrite (writes.foldl overwrite values) = writes.foldl overwrite values := by
  funext key
  rw [foldl_overwrite, foldl_overwrite]
  cases lastWritten writes key <;> rfl

theorem lastWritten_append (earlier later : List (Write κ ν)) (key : κ) :
    lastWritten (earlier ++ later) key = (lastWritten later key).or (lastWritten earlier key) := by
  unfold lastWritten
  rw [List.reverse_append, List.findSome?_append]

end Library
