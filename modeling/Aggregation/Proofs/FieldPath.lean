import Aggregation.FieldPath

/-!
This module contains the references to fields. A reference is a name that has itself as reference.
-/

namespace Aggregation

namespace FieldPath

theorem toList_sigil_append (text : String) : ("$" ++ text).toList = '$' :: text.toList := by
  rw [String.toList_append]
  rfl

theorem dropWhile_sigil {text : String} (h : text.toList.head? ≠ some '$')
    : text.toList.dropWhile (· == '$') = text.toList := by
  cases hcs : text.toList with
  | nil => rw [List.dropWhile_nil]
  | cons c cs =>
    rw [hcs, List.head?_cons, ne_eq, Option.some_inj] at h
    rw [List.dropWhile_cons_of_neg]
    simpa using h

theorem takeWhile_sigil {text : String} (h : text.toList.head? ≠ some '$')
    : text.toList.takeWhile (· == '$') = [] := by
  have happend := @List.takeWhile_append_dropWhile _ (· == '$') text.toList
  rw [dropWhile_sigil h] at happend
  exact List.append_left_eq_self.mp happend

theorem head?_marked (path : String) : (marked path).toList.head? = some '$' := by
  unfold marked
  split
  . next h => exact h
  . next h => rw [toList_sigil_append, List.head?_cons]

theorem marked_marked (path : String) : marked (marked path) = marked path := by
  rw [marked, if_pos (head?_marked path)]

theorem marked_ne_empty (path : String) : marked path ≠ "" := by
  intro h
  have hhead := head?_marked path
  rw [h] at hhead
  simp at hhead

theorem reference_name_marked (ctx : Context) (path : String)
    : (name (marked path)).reference ctx = .ok (marked path) := by
  rw [reference, resolve, if_neg (marked_ne_empty path)]
  rw [pure_bind, marked_marked]
  rfl

/-- Nothing is looked up for a reference, so that the context can be any other one. -/
theorem reference_reference (f : FieldPath) (ctx ctx' : Context)
    : (do (name (← f.reference ctx)).reference ctx') = f.reference ctx := by
  rw [reference]
  cases f.resolve ctx with
  | error e => rfl
  | ok path =>
    rw [bind_assoc]
    apply reference_name_marked

theorem reference_name_of_reference {f : FieldPath} {ctx : Context} {path : String}
    (h : f.reference ctx = .ok path) (ctx' : Context) : (name path).reference ctx' = .ok path := by
  have hreference := f.reference_reference ctx ctx'
  rw [h] at hreference
  exact hreference

end FieldPath

end Aggregation
