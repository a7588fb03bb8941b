import Aggregation.Bson.Document
import Mathlib.Data.List.Forall2

/-!
This module contains what a document holds under a key after entries have been inserted.
-/

namespace Aggregation

namespace Document

@[simp]
theorem single_inj {key : String} {v w : Bson} : single key v = single key w ↔ v = w := by
  simp [single]

@[simp]
theorem get?_nil (key : String) : get? [] key = none := by
  rfl

@[simp]
theorem get?_cons (k : String) (v : Bson) (d : Document) (key : String)
    : get? ((k, v) :: d) key = if key = k then some v else get? d key := by
  unfold get?
  by_cases h : key = k
  . simp [h]
  . simp [List.lookup_cons, h, beq_false_of_ne h]

theorem keys_cons (k : String) (v : Bson) (d : Document) : keys ((k, v) :: d) = k :: keys d := by
  rfl

theorem insertAll_cons (d : Document) (k : String) (v : Bson) (entries : List (String × Bson))
    : d.insertAll ((k, v) :: entries) = (d.insert k v).insertAll entries := by
  rfl

@[simp]
theorem get?_append (d e : Document) (key : String)
    : get? (d ++ e) key = (get? d key).or (get? e key) := by
  apply List.lookup_append

@[simp]
theorem get?_optional (o : Option α) (k : String) (f : α → Bson) (key : String)
    : get? (o.toList.map fun a => (k, f a)) key = if key = k then o.map f else none := by
  cases o with
  | none => simp
  | some a => simp

/-- Entries that agree on their keys, one by one, agree on what is found under a key. -/
theorem rel_get? {R : α → Bson → Prop} {xs : List (String × α)} {d : Document}
    (h : List.Forall₂ (fun x e => x.1 = e.1 ∧ R x.2 e.2) xs d) (key : String)
    : Option.Rel R (xs.lookup key) (d.get? key) := by
  induction h with
  | nil => exact .none
  | @cons x e _ _ head _ ih =>
    rcases x with ⟨k, a⟩
    rcases e with ⟨k', v⟩
    simp only at head
    rcases head with ⟨rfl, hR⟩
    rw [get?_cons, List.lookup_cons]
    by_cases hkey : key = k
    . simpa [hkey] using Option.Rel.some hR
    . simpa [hkey, beq_false_of_ne hkey] using ih

/-- A search for the name among what the entries were made of finds what stands under the name. -/
theorem rel_find?_get? {R : α → Bson → Prop} {named : String → α → Bool} {xs : List α}
    {d : Document}
    (h : List.Forall₂ (fun x e => (∀ key, named key x = true ↔ key = e.1) ∧ R x e.2) xs d)
    (key : String) : Option.Rel R (xs.find? (named key)) (d.get? key) := by
  induction h with
  | nil => exact .none
  | @cons x e _ _ head _ ih =>
    rcases e with ⟨k, v⟩
    rcases head with ⟨hnamed, hR⟩
    rw [get?_cons, List.find?_cons]
    by_cases hkey : key = k
    . rw [if_pos hkey, (hnamed key).mpr hkey]
      exact .some hR
    . have hfalse : named key x = false := by
        rw [Bool.eq_false_iff]
        intro h
        exact hkey ((hnamed key).mp h)
      rw [if_neg hkey, hfalse]
      exact ih

theorem get?_insert (d : Document) (k : String) (v : Bson) (key : String)
    : (d.insert k v).get? key = if key = k then some v else d.get? key := by
  induction d with
  | nil => simp [insert]
  | cons e d ih =>
    rcases e with ⟨k', v'⟩
    rw [insert]
    split
    . next h =>
      subst h
      simp only [get?_cons]
      split <;> rfl
    . next h =>
      simp only [get?_cons, ih]
      split
      . next hkey => simp [hkey, h]
      . rfl

theorem get?_insertAll (d : Document) (entries : List (String × Bson)) (key : String)
    : (d.insertAll entries).get? key = (get? entries.reverse key).or (d.get? key) := by
  induction entries generalizing d with
  | nil => simp [insertAll]
  | cons e entries ih =>
    rcases e with ⟨k, v⟩
    rw [insertAll_cons, ih, get?_insert, List.reverse_cons, get?_append, Option.or_assoc]
    by_cases h : key = k <;> simp [h]

theorem get?_ofEntries (entries : List (String × Bson)) (key : String)
    : (ofEntries entries).get? key = get? entries.reverse key := by
  unfold ofEntries
  rw [get?_insertAll]
  simp

/-- What stands under a key was made of the last one of those that were given the key. -/
theorem rel_lookup_ofEntries {R : α → Bson → Prop} {xs : List (String × α)}
    {entries : List (String × Bson)}
    (h : List.Forall₂ (fun x e => x.1 = e.1 ∧ R x.2 e.2) xs entries) (key : String)
    : Option.Rel R (xs.reverse.lookup key) ((ofEntries entries).get? key) := by
  rw [get?_ofEntries]
  apply rel_get?
  rw [List.forall₂_reverse_iff]
  exact h

theorem rel_find?_ofEntries {R : α → Bson → Prop} {named : String → α → Bool} {xs : List α}
    {entries : List (String × Bson)}
    (h : List.Forall₂ (fun x e => (∀ key, named key x = true ↔ key = e.1) ∧ R x e.2) xs entries)
    (key : String)
    : Option.Rel R (xs.reverse.find? (named key)) ((ofEntries entries).get? key) := by
  rw [get?_ofEntries]
  apply rel_find?_get?
  rw [List.forall₂_reverse_iff]
  exact h

theorem keys_eq_map_fst {R : α → Bson → Prop} {xs : List (String × α)}
    {entries : List (String × Bson)}
    (h : List.Forall₂ (fun x e => x.1 = e.1 ∧ R x.2 e.2) xs entries)
    : keys entries = xs.map Prod.fst := by
  induction h with
  | nil => rfl
  | cons head _ ih =>
    rw [List.map_cons, ← ih, head.left]
    rfl

/-!
The keys of a document that was built by insertions are distinct.
-/

theorem keys_insert (d : Document) (k : String) (v : Bson)
    : (d.insert k v).keys = if k ∈ d.keys then d.keys else d.keys ++ [k] := by
  induction d with
  | nil => simp [insert, keys]
  | cons e d ih =>
    rcases e with ⟨k', v'⟩
    unfold keys at ih ⊢
    rw [insert]
    split
    . next h => simp [h]
    . next h =>
      simp only [List.map_cons, ih]
      have hne : k ≠ k' := Ne.symm h
      split <;> simp_all

theorem mem_keys_insertAll {d : Document} {entries : List (String × Bson)} {key : String}
    : key ∈ (d.insertAll entries).keys ↔ key ∈ d.keys ∨ key ∈ keys entries := by
  induction entries generalizing d with
  | nil => simp [insertAll, keys]
  | cons e entries ih =>
    rcases e with ⟨k, v⟩
    rw [insertAll_cons, ih, keys_insert, keys_cons, List.mem_cons]
    split
    . next h => grind
    . next h => grind

theorem mem_keys_ofEntries {entries : List (String × Bson)} {key : String}
    : key ∈ (ofEntries entries).keys ↔ key ∈ keys entries := by
  unfold ofEntries
  rw [mem_keys_insertAll]
  simp [keys]

theorem keys_insertAll (d : Document) (entries : List (String × Bson))
    : (d.insertAll entries).keys =
        d.keys ++ ((keys entries).filter (· ∉ d.keys)).eraseDups := by
  induction entries generalizing d with
  | nil => simp [insertAll, keys]
  | cons e entries ih =>
    rcases e with ⟨k, v⟩
    rw [insertAll_cons, ih, keys_insert, keys_cons]
    split
    . next h => rw [List.filter_cons_of_neg (by simpa using h)]
    . next h =>
      rw [List.filter_cons_of_pos (by simpa using h), List.eraseDups_cons, List.filter_filter]
      rw [List.append_assoc, List.singleton_append]
      -- The keys that are new after the first one are those that are new and differ from it.
      congr 3
      apply List.filter_congr
      grind

theorem keys_ofEntries (entries : List (String × Bson))
    : (ofEntries entries).keys = (keys entries).eraseDups := by
  unfold ofEntries
  rw [keys_insertAll]
  simp [keys]

theorem nodup_keys_insert {d : Document} (h : d.keys.Nodup) (k : String) (v : Bson)
    : (d.insert k v).keys.Nodup := by
  rw [keys_insert]
  split
  . exact h
  . next hk =>
    rw [List.nodup_append]
    refine ⟨h, by simp, ?_⟩
    grind

theorem nodup_keys_insertAll {d : Document} (h : d.keys.Nodup) (entries : List (String × Bson))
    : (d.insertAll entries).keys.Nodup := by
  induction entries generalizing d with
  | nil => exact h
  | cons e entries ih =>
    apply ih
    apply nodup_keys_insert
    exact h

theorem nodup_keys_ofEntries (entries : List (String × Bson)) : (ofEntries entries).keys.Nodup := by
  apply nodup_keys_insertAll
  simp [keys]

theorem insert_of_notMem {d : Document} {k : String} (h : k ∉ d.keys) (v : Bson)
    : d.insert k v = d ++ [(k, v)] := by
  induction d with
  | nil => rfl
  | cons e d ih =>
    rcases e with ⟨k', v'⟩
    rw [keys_cons, List.mem_cons, not_or] at h
    rw [insert, if_neg (Ne.symm h.left), ih h.right, List.cons_append]

theorem insertAll_of_nodup {d : Document} {entries : List (String × Bson)}
    (h : (keys (d ++ entries)).Nodup) : d.insertAll entries = d ++ entries := by
  induction entries generalizing d with
  | nil => rw [List.append_nil, insertAll, List.foldl_nil]
  | cons e entries ih =>
    rcases e with ⟨k, v⟩
    have hk : k ∉ d.keys := by
      simp only [keys, List.map_append, List.map_cons, List.nodup_append] at h
      intro hmem
      exact h.right.right k hmem k (by simp) rfl
    rw [insertAll_cons, insert_of_notMem hk, ih, List.append_assoc, List.singleton_append]
    rw [List.append_assoc, List.singleton_append]
    exact h

theorem ofEntries_of_nodup {entries : List (String × Bson)} (h : (keys entries).Nodup)
    : ofEntries entries = entries := by
  unfold ofEntries
  apply insertAll_of_nodup
  exact h

theorem insertAll_cons_of_notMem {k : String} (v : Bson) (d : Document)
    {entries : List (String × Bson)} (h : k ∉ keys entries)
    : insertAll ((k, v) :: d) entries = (k, v) :: insertAll d entries := by
  induction entries generalizing d with
  | nil => rfl
  | cons e entries ih =>
    rcases e with ⟨k', v'⟩
    rw [keys_cons, List.mem_cons, not_or] at h
    rw [insertAll_cons, insertAll_cons, insert, if_neg h.left, ih]
    exact h.right

theorem ofEntries_cons_of_notMem {k : String} (v : Bson) {entries : List (String × Bson)}
    (h : k ∉ keys entries) : ofEntries ((k, v) :: entries) = (k, v) :: ofEntries entries := by
  apply insertAll_cons_of_notMem
  exact h

theorem get?_eq_some_of_mem {d : Document} (h : d.keys.Nodup) {k : String} {v : Bson}
    (hmem : (k, v) ∈ d) : d.get? k = some v := by
  induction d with
  | nil => simp at hmem
  | cons e d ih =>
    rcases e with ⟨k', v'⟩
    rw [keys_cons, List.nodup_cons] at h
    rw [get?_cons]
    rw [List.mem_cons, Prod.mk.injEq] at hmem
    rcases hmem with ⟨rfl, rfl⟩ | hmem
    . simp
    . have hne : k ≠ k' := by
        intro heq
        apply h.left
        rw [← heq]
        exact List.mem_map_of_mem (f := Prod.fst) hmem
      rw [if_neg hne]
      exact ih h.right hmem

end Document

theorem Bson.ne_single (key : String) (v : Bson) : v ≠ .single key v := by
  intro h
  have hsize := congrArg sizeOf h
  simp only [single, Document.single, document.sizeOf_spec, List.cons.sizeOf_spec,
    List.nil.sizeOf_spec, Prod.mk.sizeOf_spec] at hsize
  omega

end Aggregation
