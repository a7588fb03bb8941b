import Aggregation.Property
import Aggregation.Proofs.Except

/-!
This module contains the links of chains of properties, and the paths they make. A chain is nothing
but its links. A path lists the names that the links have in documents, and as long as there are no
dots in the names they can be read off it.
-/

namespace Aggregation

namespace Link

/-- Where the name of a link comes from. What overrides a name does so even if it is empty. -/
inductive NamedBy (l : Link) : String → Prop where
  | identity (h : l.identity = true) : NamedBy l identityField
  | value {s : String} (hidentity : l.identity = false) (h : l.value = some s) : NamedBy l s
  | rename {s : String} (hidentity : l.identity = false) (hvalue : l.value = none)
      (h : l.rename = some s) : NamedBy l s
  | declared (hidentity : l.identity = false) (hvalue : l.value = none)
      (hrename : l.rename = none) : NamedBy l l.declared

theorem namedBy_wireName (l : Link) : l.NamedBy l.wireName := by
  unfold wireName override
  split
  . next hidentity =>
    apply NamedBy.identity
    exact hidentity
  . next hidentity =>
    rw [Bool.not_eq_true] at hidentity
    cases hvalue : l.value with
    | some s =>
      apply NamedBy.value hidentity
      exact hvalue
    | none =>
      cases hrename : l.rename with
      | some s =>
        apply NamedBy.rename hidentity hvalue
        exact hrename
      | none =>
        apply NamedBy.declared hidentity hvalue
        exact hrename

theorem namedBy_iff {l : Link} {s : String} : l.NamedBy s ↔ l.wireName = s := by
  constructor
  . intro h
    unfold wireName override
    cases h with
    | identity hidentity => simp [hidentity]
    | value hidentity hvalue => simp [hidentity, hvalue]
    | rename hidentity hvalue hrename => simp [hidentity, hvalue, hrename]
    | declared hidentity hvalue hrename => simp [hidentity, hvalue, hrename]
  . rintro rfl
    apply namedBy_wireName

theorem segment_eq_ok {l : Link} {s : String}
    : l.segment = .ok s ↔ l.wireName ≠ "" ∧ l.wireName = s := by
  unfold segment
  split
  . next h => simp [h]
  . next h => simp [h]

theorem segment_eq_error {l : Link} {e : Error}
    : l.segment = .error e ↔
        l.wireName = "" ∧ .invalidFieldPath (.emptySegment l.declared) = e := by
  unfold segment
  split
  . next h => simp [h]
  . next h => simp [h]

end Link

namespace Property

variable {p q : Property} {path path' : String}

theorem links_ne_nil (p : Property) : p.links ≠ [] := by
  cases p <;> simp [links]

theorem links_nested (p q : Property) : (p.nested q).links = p.links ++ q.links := by
  induction q with
  | root l => rw [nested, links, links]
  | child q l ih =>
    rw [nested, links, links, ih]
    rw [List.append_assoc]

theorem links_inj : p.links = q.links ↔ p = q := by
  constructor
  . intro h
    induction p generalizing q with
    | root l =>
      cases q with
      | root m => simpa [links] using h
      | child q m =>
        rw [links, links, List.singleton_eq_append_iff] at h
        simp [q.links_ne_nil] at h
    | child p l ih =>
      cases q with
      | root m =>
        rw [links, links, List.append_eq_singleton_iff] at h
        simp [p.links_ne_nil] at h
      | child q m =>
        rw [links, links] at h
        have hparts := List.append_inj' h rfl
        rw [ih hparts.left, List.singleton_inj.mp hparts.right]
  . intro h
    rw [h]

theorem length_links (p : Property) : p.links.length = p.depth := by
  induction p with
  | root l => rfl
  | child p l ih => rw [links, depth, List.length_append, ih, List.length_singleton]

theorem depth_nested (p q : Property) : (p.nested q).depth = p.depth + q.depth := by
  rw [← length_links, links_nested, List.length_append, length_links, length_links]

theorem nested_assoc (p q r : Property) : p.nested (q.nested r) = (p.nested q).nested r := by
  rw [← links_inj]
  simp only [links_nested, List.append_assoc]

/--
There is one chain whose links are those of the outer chain and then those of the inner one, and
nesting makes it.
-/
theorem nested_concatenates (p q r : Property)
    : (∀ s : Property, s.links = p.links ++ q.links ↔ s = p.nested q) ∧
        (p.nested q).depth = p.depth + q.depth ∧ p.nested (q.nested r) = (p.nested q).nested r := by
  refine ⟨?_, ?_, ?_⟩
  . intro s
    rw [← links_nested, links_inj]
  . apply depth_nested
  . apply nested_assoc

def segments (p : Property) : List String :=
  p.links.map Link.wireName

theorem segments_child (p : Property) (l : Link)
    : (child p l).segments = p.segments ++ [l.wireName] := by
  simp [segments, links]

theorem segments_ne_nil (p : Property) : p.segments ≠ [] := by
  unfold segments
  rw [ne_eq, List.map_eq_nil_iff]
  apply links_ne_nil

theorem segments_nested (p q : Property) : (p.nested q).segments = p.segments ++ q.segments := by
  unfold segments
  rw [links_nested, List.map_append]

/-- The link with an empty name that is nearest to the leaf. -/
def nameless? (p : Property) : Option Link :=
  p.links.reverse.find? fun l => l.wireName = ""

theorem nameless?_child (p : Property) (l : Link)
    : (child p l).nameless? = if l.wireName = "" then some l else p.nameless? := by
  unfold nameless?
  rw [links, List.reverse_concat, List.find?_cons]
  split
  . next h => simp_all
  . next h => simp_all

theorem path_eq_ok
    : p.path = .ok path ↔ "" ∉ p.segments ∧ ".".intercalate p.segments = path := by
  induction p generalizing path with
  | root l =>
    rw [Property.path, Link.segment_eq_ok]
    rw [segments, links, List.map_singleton, List.mem_singleton, String.intercalate_singleton]
    rw [ne_comm]
  | child p l ih =>
    rw [segments_child, String.intercalate_append_of_ne_nil p.segments_ne_nil (by simp)]
    rw [String.intercalate_singleton]
    simp only [Property.path, Except.bind_eq_ok, Except.pure_eq_ok, Link.segment_eq_ok, ih]
    rw [List.mem_append, List.mem_singleton, not_or]
    grind

theorem path_eq_error {e : Error}
    : p.path = .error e ↔
        ∃ l, p.nameless? = some l ∧ .invalidFieldPath (.emptySegment l.declared) = e := by
  induction p with
  | root l =>
    rw [Property.path, Link.segment_eq_error]
    rw [nameless?, links, List.reverse_singleton, List.find?_singleton]
    split
    . next h => simp_all
    . next h => simp_all
  | child p l ih =>
    rw [nameless?_child]
    simp only [Property.path, Except.bind_eq_error, Except.pure_eq_error, Link.segment_eq_error,
      Link.segment_eq_ok, ih]
    split
    . next h => simp [h]
    . next h => simp [h]

theorem path_nested (hp : p.path = .ok path) (hq : q.path = .ok path')
    : (p.nested q).path = .ok (path ++ "." ++ path') := by
  rw [path_eq_ok] at hp hq ⊢
  rw [segments_nested, List.mem_append, not_or]
  rw [String.intercalate_append_of_ne_nil p.segments_ne_nil q.segments_ne_nil]
  rw [hp.right, hq.right]
  exact ⟨⟨hp.left, hq.left⟩, rfl⟩

theorem splitOn_intercalate_segments (h : ∀ s ∈ p.segments, '.' ∉ s.toList)
    : (".".intercalate p.segments).toList.splitOn '.' = p.segments.map String.toList := by
  have hdot : ".".toList = ['.'] := by rfl
  rw [String.toList_intercalate, hdot]
  apply List.splitOn_intercalate
  . rw [List.forall_mem_map]
    exact h
  . rw [ne_eq, List.map_eq_nil_iff]
    apply segments_ne_nil

theorem path_eq_path_iff (hp : p.path = .ok path) (hq : q.path = .ok path')
    (hdots : ∀ s ∈ p.segments ++ q.segments, '.' ∉ s.toList)
    : path = path' ↔ p.segments = q.segments := by
  rw [path_eq_ok] at hp hq
  rw [List.forall_mem_append] at hdots
  rw [← hp.right, ← hq.right]
  constructor
  . intro h
    apply List.map_injective_iff.mpr fun _ _ => String.toList_injective
    rw [← splitOn_intercalate_segments hdots.left, ← splitOn_intercalate_segments hdots.right, h]
  . intro h
    rw [h]

/--
A path has the names of all links, root first, with a dot between any two of them. If there are
empty names, the one nearest to the leaf is reported.
-/
theorem path_joins_segments (p q : Property)
    : (∀ l ∈ p.links, ∀ s, l.NamedBy s ↔ l.wireName = s) ∧
        (∀ path, p.path = .ok path ↔ "" ∉ p.segments ∧ ".".intercalate p.segments = path) ∧
        (∀ e, p.path = .error e ↔
          ∃ l, p.nameless? = some l ∧ .invalidFieldPath (.emptySegment l.declared) = e) ∧
        ∀ path path', p.path = .ok path → q.path = .ok path' →
          (p.nested q).path = .ok (path ++ "." ++ path') ∧
          ((∀ s ∈ p.segments ++ q.segments, '.' ∉ s.toList) →
            (path = path' ↔ p.segments = q.segments)) := by
  refine ⟨?_, ?_, ?_, ?_⟩
  . intro l _ s
    apply Link.namedBy_iff
  . intro path
    apply path_eq_ok
  . intro e
    apply path_eq_error
  . intro path path' hp hq
    constructor
    . apply path_nested hp hq
    . apply path_eq_path_iff hp hq

def buyer : Property :=
  .child (.named "order") { declared := "customer", rename := some "buyer" }

def mailbox : Property :=
  .child (.identity "serial") { declared := "mail", value := some "box", rename := some "post" }

/-- Two links override their names by nothing. -/
def blanked : Property :=
  .child
    (.child (.root { declared := "order", value := some "", rename := some "purchase" })
      { declared := "note", rename := some "" })
    { declared := "text" }

theorem path_joins_segments_buyer
    : buyer.path = .ok "order.buyer" ∧ mailbox.path = .ok "_id.box" ∧
        (∀ s ∈ buyer.segments ++ mailbox.segments, '.' ∉ s.toList) ∧
        (buyer.nested mailbox).path = .ok ("order.buyer" ++ "." ++ "_id.box") ∧
        ("order.buyer" = "_id.box" ↔ buyer.segments = mailbox.segments) ∧
        blanked.path = .error (.invalidFieldPath (.emptySegment "note")) := by
  have hbuyer : buyer.path = .ok "order.buyer" := by rfl
  have hmailbox : mailbox.path = .ok "_id.box" := by rfl
  have hdots : ∀ s ∈ buyer.segments ++ mailbox.segments, '.' ∉ s.toList := by decide
  have hjoins := (path_joins_segments buyer mailbox).right.right.right _ _ hbuyer hmailbox
  refine ⟨hbuyer, hmailbox, hdots, hjoins.left, hjoins.right hdots, ?_⟩
  rw [(path_joins_segments blanked blanked).right.right.left]
  exact ⟨_, rfl, rfl⟩

end Property

end Aggregation
