import Aggregation.Proofs.Builder.Basic
import Aggregation.Proofs.Property
import Aggregation.Record.Derive

/-!
This module contains the names that are derived from a declaration of a record. All attributes of a
field count as one list of settings, in which the last text for a key is taken.
-/

namespace Aggregation

namespace Setting

/-- The setting is a flag with a text, or anything else without one. -/
def Misplaced (s : Setting) : Prop :=
  s.key = "id" ↔ s.text ≠ none

def Refused (keys : List String) (s : Setting) : Prop :=
  s.key ∉ keys ∨ s.Misplaced

instance (s : Setting) : Decidable s.Misplaced :=
  inferInstanceAs (Decidable (_ ↔ _))

instance (keys : List String) (s : Setting) : Decidable (s.Refused keys) :=
  inferInstanceAs (Decidable (_ ∨ _))

theorem not_refused_iff {keys : List String} {s : Setting}
    : ¬ s.Refused keys ↔ s.key ∈ keys ∧ (s.key = "id" ↔ s.text = none) := by
  unfold Refused Misplaced
  grind

def textOf? (key : String) (s : Setting) : Option String :=
  if s.key = key then s.text else none

end Setting

def lastText? (key : String) (attributes : List Attribute) : Option String :=
  (attributes.flatten.filterMap (Setting.textOf? key)).getLast?

/--
Reading attributes one after the other is reading all their settings, as long as none is refused.
-/
theorem foldlM_attributes_eq_ok {σ ε : Type} {read : σ → Attribute → Except ε σ}
    {take : σ → Setting → σ} {keys : List String}
    (h : ∀ x a y, read x a = .ok y ↔ (∀ s ∈ a, ¬ s.Refused keys) ∧ a.foldl take x = y)
    {attributes : List Attribute} {x y : σ}
    : attributes.foldlM read x = .ok y ↔
        (∀ s ∈ attributes.flatten, ¬ s.Refused keys) ∧ attributes.flatten.foldl take x = y := by
  induction attributes generalizing x with
  | nil => simp
  | cons a attributes ih =>
    rw [List.foldlM_cons, List.flatten_cons, List.forall_mem_append, List.foldl_append]
    simp only [Except.bind_eq_ok, h, ih]
    grind

theorem bareName_cases (identifier : String)
    : "r#" ++ bareName identifier = identifier ∨
        bareName identifier = identifier ∧ ∀ s, identifier ≠ "r#" ++ s := by
  have hmark : "r#".toList = ['r', '#'] := by rfl
  unfold bareName
  split
  . next cs h =>
    apply Or.inl
    rw [← String.toList_inj, String.toList_append, hmark, String.toList_ofList, h]
    rfl
  . next h =>
    refine .inr ⟨rfl, ?_⟩
    intro s hs
    apply h s.toList
    rw [hs, String.toList_append, hmark]
    rfl

theorem Text.lowerFirst_eq (s : String)
    : lowerFirst s = String.ofList ((s.toList.take 1).flatMap lowerCase ++ s.toList.drop 1) := by
  unfold lowerFirst
  split
  . next h => simp [h]
  . next h => simp [h]

namespace Link

/-- The link after a setting that is not refused. -/
def take (l : Link) (s : Setting) : Link where
  declared := l.declared
  value := (s.textOf? "value").or l.value
  rename := (s.textOf? "name").or l.rename
  identity := l.identity || s.key = "id"

def settingKeys : List String :=
  ["id", "value", "name"]

theorem configure_cons_of_not_refused {l : Link} {s : Setting} (h : ¬ s.Refused settingKeys)
    (rest : Attribute) : l.configure (s :: rest) = (l.take s).configure rest := by
  rcases s with ⟨key, text⟩
  rw [Setting.not_refused_iff] at h
  simp only [settingKeys, List.mem_cons, List.not_mem_nil, or_false] at h
  rcases h with ⟨rfl | rfl | rfl, h⟩
  . cases text with
    | none => simp [configure, take, Setting.textOf?]
    | some t => simp at h
  . cases text with
    | none => simp at h
    | some t => simp [configure, take, Setting.textOf?, Setting.requiredText]
  . cases text with
    | none => simp at h
    | some t => simp [configure, take, Setting.textOf?, Setting.requiredText]

theorem configure_cons_of_refused {l : Link} {s : Setting} (h : s.Refused settingKeys)
    (rest : Attribute) : ∃ e, l.configure (s :: rest) = .error e := by
  rcases s with ⟨key, text⟩
  simp only [Setting.Refused, Setting.Misplaced, settingKeys] at h
  unfold configure
  split
  . next hkey =>
    cases text with
    | none => simp_all
    | some t => exact ⟨_, rfl⟩
  . split
    . next hkey =>
      cases text with
      | none => exact ⟨_, rfl⟩
      | some t => simp_all
    . split
      . next hkey =>
        cases text with
        | none => exact ⟨_, rfl⟩
        | some t => simp_all
      . exact ⟨_, rfl⟩

theorem configure_eq_ok (l : Link) (a : Attribute) (l' : Link)
    : l.configure a = .ok l' ↔
        (∀ s ∈ a, ¬ s.Refused settingKeys) ∧ a.foldl take l = l' := by
  induction a generalizing l with
  | nil => simp [configure]
  | cons s rest ih =>
    rw [List.forall_mem_cons, List.foldl_cons]
    by_cases h : s.Refused settingKeys
    . rcases configure_cons_of_refused (l := l) h rest with ⟨e, he⟩
      simp [he, h]
    . rw [configure_cons_of_not_refused h, ih]
      simp [h]

theorem declared_foldl_take (l : Link) (settings : List Setting)
    : (settings.foldl take l).declared = l.declared := by
  induction settings generalizing l with
  | nil => rfl
  | cons s settings ih => rw [List.foldl_cons, ih, take]

theorem identity_foldl_take (l : Link) (settings : List Setting)
    : (settings.foldl take l).identity = (l.identity || settings.any (·.key = "id")) := by
  induction settings generalizing l with
  | nil => simp
  | cons s settings ih => rw [List.foldl_cons, ih, take, List.any_cons, Bool.or_assoc]

theorem value_foldl_take (l : Link) (settings : List Setting)
    : (settings.foldl take l).value =
        (settings.filterMap (Setting.textOf? "value")).getLast?.or l.value := by
  apply Builder.foldl_getLast?
  intro l s
  rfl

theorem rename_foldl_take (l : Link) (settings : List Setting)
    : (settings.foldl take l).rename =
        (settings.filterMap (Setting.textOf? "name")).getLast?.or l.rename := by
  apply Builder.foldl_getLast?
  intro l s
  rfl

end Link

namespace FieldDeclaration

/-- The name of the field in documents. -/
def wireName (f : FieldDeclaration) : String :=
  if ∃ s ∈ f.attributes.flatten, s.key = "id" then
    "_id"
  else
    ((lastText? "value" f.attributes).or (lastText? "name" f.attributes)).getD (bareName f.name)

theorem link_eq_ok {f : FieldDeclaration} {l : Link}
    : f.link = .ok l ↔
        (∀ s ∈ f.attributes.flatten, ¬ s.Refused Link.settingKeys) ∧
          f.attributes.flatten.foldl Link.take { declared := bareName f.name } = l := by
  apply foldlM_attributes_eq_ok
  exact Link.configure_eq_ok

theorem wireName_of_link {f : FieldDeclaration} {l : Link} (h : f.link = .ok l)
    : l.wireName = f.wireName := by
  rw [link_eq_ok] at h
  rw [← h.right, Link.wireName, Link.override, Link.identity_foldl_take, Link.value_foldl_take,
    Link.rename_foldl_take, Link.declared_foldl_take, wireName]
  simp only [lastText?, identityField, List.any_eq_true, decide_eq_true_eq, Bool.false_or,
    Option.or_none]

end FieldDeclaration

/--
The accessor stands for a single field, with the name that the declaration gives it.
-/
structure Accessor.Refers (f : FieldDeclaration) (a : Accessor) : Prop where
  function : a.function = f.name
  depth : a.property.depth = 1
  declared : "r#" ++ a.property.leaf.declared = f.name ∨
    a.property.leaf.declared = f.name ∧ ∀ s, f.name ≠ "r#" ++ s
  path_ok (path : String) : a.property.path = .ok path ↔ path ≠ "" ∧ f.wireName = path
  path_error (e : Error) : a.property.path = .error e ↔
    f.wireName = "" ∧ .invalidFieldPath (.emptySegment a.property.leaf.declared) = e

namespace FieldDeclaration

theorem refers_of_accessor {f : FieldDeclaration} {record : String} {a : Accessor}
    (h : f.accessor record = .ok a) : a.Refers f := by
  simp only [accessor, Except.bind_eq_ok, Except.pure_eq_ok] at h
  rcases h with ⟨l, hl, rfl⟩
  have hname := wireName_of_link hl
  have hdeclared : l.declared = bareName f.name := by
    rw [link_eq_ok] at hl
    rw [← hl.right, Link.declared_foldl_take]
  constructor
  . rfl
  . rfl
  . simp only [Property.leaf]
    rw [hdeclared]
    apply bareName_cases
  . intro path
    simp only [Property.path]
    rw [Link.segment_eq_ok, hname]
    grind
  . intro e
    simp only [Property.path, Property.leaf]
    rw [Link.segment_eq_error, hname]

theorem exists_accessor {f : FieldDeclaration} {record : String}
    : (∃ a, f.accessor record = .ok a) ↔
        ∀ s ∈ f.attributes.flatten, ¬ s.Refused Link.settingKeys := by
  simp [accessor, link_eq_ok]

end FieldDeclaration

namespace RecordDeclaration

theorem configureCollection_eq_ok (c : Option String) (a : Attribute) (c' : Option String)
    : configureCollection c a = .ok c' ↔
        (∀ s ∈ a, ¬ s.Refused ["collection"]) ∧
          a.foldl (fun c s => (s.textOf? "collection").or c) c = c' := by
  induction a generalizing c with
  | nil => simp [configureCollection]
  | cons s rest ih =>
    rcases s with ⟨key, text⟩
    rw [List.forall_mem_cons, List.foldl_cons]
    unfold configureCollection
    split
    . next h =>
      simp only at h
      subst h
      cases text with
      | none => simp [Setting.requiredText, Setting.Refused, Setting.Misplaced]
      | some t =>
        simp [Setting.requiredText, Setting.textOf?, Setting.Refused, Setting.Misplaced, ih]
    . next h => simp_all [Setting.Refused]

theorem collection_eq_ok {r : RecordDeclaration} {c : String}
    : r.collection = .ok c ↔
        (∀ s ∈ r.attributes.flatten, ¬ s.Refused ["collection"]) ∧
          (lastText? "collection" r.attributes).getD (Text.lowerFirst r.name) = c := by
  have hfold (settings : List Setting) :
      settings.foldl (fun c s => (s.textOf? "collection").or c) none =
        (settings.filterMap (Setting.textOf? "collection")).getLast?.or none := by
    apply Builder.foldl_getLast? id
    intro c s
    rfl
  have hread {c : Option String} : r.attributes.foldlM configureCollection none = .ok c ↔
      (∀ s ∈ r.attributes.flatten, ¬ s.Refused ["collection"]) ∧
        lastText? "collection" r.attributes = c := by
    rw [foldlM_attributes_eq_ok configureCollection_eq_ok, hfold, Option.or_none]
    rfl
  simp only [collection, Except.bind_eq_ok, Except.pure_eq_ok, hread]
  grind

/-- Some attribute of the record or of one of its fields has a setting that is refused. -/
def Misconfigured (r : RecordDeclaration) (fields : List FieldDeclaration) : Prop :=
  (∃ s ∈ r.attributes.flatten, s.Refused ["collection"]) ∨
    ∃ f ∈ fields, ∃ s ∈ f.attributes.flatten, s.Refused Link.settingKeys

instance (r : RecordDeclaration) (fields : List FieldDeclaration)
    : Decidable (r.Misconfigured fields) :=
  inferInstanceAs (Decidable (_ ∨ _))

theorem derive_eq_ok {r : RecordDeclaration} {fields : List FieldDeclaration}
    (hshape : r.shape = .named fields) {d : Record}
    : r.derive = .ok d ↔ ∃ c accessors, r.collection = .ok c ∧
        fields.mapM (FieldDeclaration.accessor r.name) = .ok accessors ∧ {
          collection := c
          companion := bareName r.name ++ "Fields"
          companionDoc := "Property references for the fields of [`" ++ r.name ++ "`]."
          visibility := r.visibility
          accessors } = d := by
  simp [derive, RecordDeclaration.fields, hshape]

theorem exists_derive_iff {r : RecordDeclaration} {fields : List FieldDeclaration}
    (hshape : r.shape = .named fields)
    : (∃ d, r.derive = .ok d) ↔ ¬ r.Misconfigured fields := by
  have haccessors : (∃ as, fields.mapM (FieldDeclaration.accessor r.name) = .ok as) ↔
      ∀ f ∈ fields, ∀ s ∈ f.attributes.flatten, ¬ s.Refused Link.settingKeys := by
    rw [Except.exists_mapM_eq_ok]
    simp only [FieldDeclaration.exists_accessor]
  have hcollection : (∃ c, r.collection = .ok c) ↔
      ∀ s ∈ r.attributes.flatten, ¬ s.Refused ["collection"] := by
    simp [collection_eq_ok]
  have hparts : (∃ d, r.derive = .ok d) ↔ (∃ c, r.collection = .ok c) ∧
      ∃ as, fields.mapM (FieldDeclaration.accessor r.name) = .ok as := by
    simp only [derive_eq_ok hshape]
    grind
  rw [hparts, hcollection, haccessors, Misconfigured]
  simp only [not_or, not_exists, not_and]

end RecordDeclaration

/--
The record has the collection that is declared, and an accessor for each field in its place.
-/
structure Record.Follows (r : RecordDeclaration) (fields : List FieldDeclaration) (d : Record)
    : Prop where
  collection : d.collection = (lastText? "collection" r.attributes).getD
    (String.ofList ((r.name.toList.take 1).flatMap Text.lowerCase ++ r.name.toList.drop 1))
  accessors : List.Forall₂ Accessor.Refers fields d.accessors

namespace RecordDeclaration

theorem follows_of_derive {r : RecordDeclaration} {fields : List FieldDeclaration}
    (hshape : r.shape = .named fields) {d : Record} (h : r.derive = .ok d)
    : d.Follows r fields := by
  rw [derive_eq_ok hshape] at h
  rcases h with ⟨c, accessors, hc, haccessors, rfl⟩
  rw [collection_eq_ok, Text.lowerFirst_eq] at hc
  constructor
  . exact hc.right.symm
  . rw [Except.mapM_eq_ok] at haccessors
    apply haccessors.imp
    intro f a ha
    exact f.refers_of_accessor ha

/--
A declaration is rejected for a setting with an unknown key and for one that is misplaced. All else
is named after the last text that counts.
-/
theorem derive_of_named {r : RecordDeclaration} {fields : List FieldDeclaration}
    (hshape : r.shape = .named fields)
    : ((∃ e, r.derive = .error e) ↔ r.Misconfigured fields) ∧
        (¬ r.Misconfigured fields → ∃ d, r.derive = .ok d ∧ d.Follows r fields) := by
  have hok := exists_derive_iff hshape
  constructor
  . rw [← not_iff_not, ← hok, Except.exists_eq_ok, not_exists]
  . intro h
    rw [← hok] at h
    rcases h with ⟨d, hd⟩
    exact ⟨d, hd, follows_of_derive hshape hd⟩

def renamedFields : List FieldDeclaration := [
  { name := "key", attributes := [[⟨"value", some "serial"⟩], [⟨"id", none⟩]] },
  { name := "r#type", attributes := [
      [⟨"value", some "kind"⟩, ⟨"name", some "label"⟩], [⟨"value", some "sort"⟩]] },
  { name := "note", attributes := [[⟨"name", some "remark"⟩], [], [⟨"value", some ""⟩]] },
  { name := "total", attributes := [[⟨"name", some "sum"⟩, ⟨"name", some "amount"⟩]] },
  { name := "r#in" }]

def renamed : RecordDeclaration where
  name := "ÉtatCivil"
  shape := .named renamedFields

theorem derive_of_named_renamed
    : renamed.shape = .named renamedFields ∧ ¬ renamed.Misconfigured renamedFields ∧
        (∃ d, renamed.derive = .ok d ∧ d.collection = "étatCivil" ∧
          d.Follows renamed renamedFields) ∧
        renamedFields.map FieldDeclaration.wireName = ["_id", "sort", "", "amount", "in"] := by
  have hshape : renamed.shape = .named renamedFields := by rfl
  have hconfigured : ¬ renamed.Misconfigured renamedFields := by decide
  rcases (derive_of_named hshape).right hconfigured with ⟨d, hd, hfollows⟩
  have hcollection : d.collection = "étatCivil" := by
    rw [hfollows.collection]
    rfl
  exact ⟨hshape, hconfigured, ⟨d, hd, hcollection, hfollows⟩, by rfl⟩

def keyed (s : Setting) : RecordDeclaration where
  name := "Order"
  shape := .named [{ name := "key", attributes := [[s]] }]

/-- Settings with known keys are refused, one for a text too many and one for a missing text. -/
theorem known_keys_refused
    : "id" ∈ Link.settingKeys ∧ (keyed ⟨"id", some "x"⟩).derive = .error .unexpectedText ∧
        "value" ∈ Link.settingKeys ∧ (keyed ⟨"value", none⟩).derive = .error .missingText := by
  refine ⟨?_, ?_, ?_, ?_⟩
  . decide
  . rfl
  . decide
  . rfl

end RecordDeclaration

end Aggregation
