import Aggregation.Proofs.Criteria.Form

/-!
This module contains the truth value of criteria and of the documents they are written as. The form
for queries and the form for expressions have the truth value of the criteria, as long as they agree
on its leaves.
-/

namespace Aggregation

namespace Bson

mutual

/--
The truth value of a condition, where `leaf` interprets what is not put together by a connective.
-/
def truth (connectives : Connectives) (leaf : Bson → Bool) : Bson → Bool
  | .document [(key, .array items)] =>
    (connectives key (truths connectives leaf items)).getD (leaf (.single key (.array items)))
  | v => leaf v

def truths (connectives : Connectives) (leaf : Bson → Bool) : List Bson → List Bool
  | [] => []
  | v :: vs => truth connectives leaf v :: truths connectives leaf vs

end

@[simp]
theorem truths_eq_map (connectives : Connectives) (leaf : Bson → Bool) (vs : List Bson)
    : truths connectives leaf vs = vs.map (truth connectives leaf) := by
  induction vs with
  | nil => simp [truths]
  | cons v vs ih => simp [truths, ih]

theorem truth_single_array (connectives : Connectives) (leaf : Bson → Bool) (key : String)
    (items : List Bson)
    : truth connectives leaf (.document (Document.single key (.array items))) =
        (connectives key (items.map (truth connectives leaf))).getD
          (leaf (.single key (.array items))) := by
  unfold Document.single
  rw [truth, truths_eq_map]

end Bson

namespace Criteria

mutual

def holds (leaf : Leaf → Bool) : Criteria → Bool
  | .all parts => allHold leaf parts
  | .any parts => anyHolds leaf parts
  | .negation part => !part.holds leaf
  | .presence f expected => leaf (.presence f expected)
  | .field f operator value => leaf (.field f operator value)

def allHold (leaf : Leaf → Bool) : List Criteria → Bool
  | [] => true
  | c :: cs => c.holds leaf && allHold leaf cs

def anyHolds (leaf : Leaf → Bool) : List Criteria → Bool
  | [] => false
  | c :: cs => c.holds leaf || anyHolds leaf cs

end

@[simp]
theorem allHold_eq_all (leaf : Leaf → Bool) (cs : List Criteria)
    : allHold leaf cs = (cs.map (holds leaf)).all id := by
  induction cs with
  | nil => simp [allHold]
  | cons c cs ih => simp [allHold, ih]

@[simp]
theorem anyHolds_eq_any (leaf : Leaf → Bool) (cs : List Criteria)
    : anyHolds leaf cs = (cs.map (holds leaf)).any id := by
  induction cs with
  | nil => simp [anyHolds]
  | cons c cs ih => simp [anyHolds, ih]

@[simp]
theorem holds_toCriteria (leaf : Leaf → Bool) (l : Leaf) : l.toCriteria.holds leaf = leaf l := by
  cases l <;> rw [Leaf.toCriteria, holds]

theorem holds_congr {c : Criteria} {v w : Leaf → Bool} (h : ∀ l ∈ c.leaves, v l = w l)
    : c.holds v = c.holds w := by
  have parts {parts : List Criteria}
      (ih : ∀ c ∈ parts, (∀ l ∈ c.leaves, v l = w l) → c.holds v = c.holds w)
      (h : ∀ l ∈ leavesOfAll parts, v l = w l)
      : parts.map (holds v) = parts.map (holds w) := by
    apply List.map_congr_left
    intro c hc
    apply ih c hc
    intro l hl
    apply h
    rw [mem_leavesOfAll]
    exact ⟨c, hc, hl⟩
  induction c with
  | all cs ih =>
    rw [holds, holds, allHold_eq_all, allHold_eq_all]
    rw [parts ih h]
  | any cs ih =>
    rw [holds, holds, anyHolds_eq_any, anyHolds_eq_any]
    rw [parts ih h]
  | negation c ih =>
    rw [holds, holds]
    rw [ih h]
  | presence f expected =>
    rw [holds, holds]
    apply h
    simp [leaves]
  | field f operator value =>
    rw [holds, holds]
    apply h
    simp [leaves]

namespace Form

variable {F : Form} {c : Criteria} {d : Document} {leaf : Bson → Bool}

def truthOfLeaf (F : Form) (leaf : Bson → Bool) (l : Leaf) : Bool :=
  match F.write l.toCriteria with
  | .ok d => Bson.truth F.connectives leaf (.document d)
  | .error _ => false

theorem truthOfLeaf_eq {l : Leaf} (h : F.write l.toCriteria = .ok d)
    : F.truthOfLeaf leaf l = Bson.truth F.connectives leaf (.document d) := by
  rw [truthOfLeaf, h]

theorem truth_eq_holds (h : F.write c = .ok d)
    : Bson.truth F.connectives leaf (.document d) = c.holds (F.truthOfLeaf leaf) := by
  have parts {cs : List Criteria} {ds : List Document}
      (ih : List.Forall₂ (fun c d => Bson.truth F.connectives leaf (.document d) =
        c.holds (F.truthOfLeaf leaf)) cs ds)
      : (ds.map Bson.document).map (Bson.truth F.connectives leaf) =
          cs.map (holds (F.truthOfLeaf leaf)) := by
    induction ih with
    | nil => simp
    | cons hhead _ htail =>
      rw [List.map_cons, List.map_cons, List.map_cons]
      rw [hhead, htail]
  apply Form.induction (h := h)
    (motive := fun c d => Bson.truth F.connectives leaf (.document d) =
      c.holds (F.truthOfLeaf leaf))
  . intro cs ds ih
    rw [Bson.truth_single_array, F.connectives_and, Option.getD_some]
    rw [holds, allHold_eq_all, parts ih]
  . intro cs ds ih
    rw [Bson.truth_single_array, F.connectives_or, Option.getD_some]
    rw [holds, anyHolds_eq_any, parts ih]
  . intro c d ih
    rw [Bson.truth_single_array, List.map_singleton, F.connectives_negation, Option.getD_some]
    rw [holds, ih]
  . intro l d h
    rw [holds_toCriteria, truthOfLeaf_eq h]

end Form

theorem truth_query_eq_truth_expression {ctx : Context} {c : Criteria} {q e : Document}
    {asked told : Bson → Bool} (hq : c.query ctx = .ok q) (he : c.expression ctx = .ok e)
    (agree : ∀ l ∈ c.leaves, ∀ a b, l.toCriteria.query ctx = .ok a →
      l.toCriteria.expression ctx = .ok b →
      Bson.truth .query asked (.document a) = Bson.truth .expression told (.document b))
    : Bson.truth .query asked (.document q) = Bson.truth .expression told (.document e) ∧
        Bson.truth .query asked (.document q) = c.holds ((Form.query ctx).truthOfLeaf asked) := by
  have hquery : Bson.truth .query asked (.document q) =
      c.holds ((Form.query ctx).truthOfLeaf asked) := by
    apply Form.truth_eq_holds (F := .query ctx)
    exact hq
  have hexpression : Bson.truth .expression told (.document e) =
      c.holds ((Form.expression ctx).truthOfLeaf told) := by
    apply Form.truth_eq_holds (F := .expression ctx)
    exact he
  -- Criteria have one truth value for each form, and the two differ at most on the leaves.
  have hleaves : c.holds ((Form.query ctx).truthOfLeaf asked) =
      c.holds ((Form.expression ctx).truthOfLeaf told) := by
    apply holds_congr
    intro l hl
    rcases Form.exists_write_leaf (F := .query ctx) hq l hl with ⟨a, ha⟩
    rcases Form.exists_write_leaf (F := .expression ctx) he l hl with ⟨b, hb⟩
    rw [Form.truthOfLeaf_eq ha, Form.truthOfLeaf_eq hb]
    exact agree l hl a b ha hb
  constructor
  . exact hquery.trans (hleaves.trans hexpression.symm)
  . exact hquery

def untagged : Criteria :=
  .negation (.all [.field (.name "tag") .noneOf (.string "x"), .presence (.name "bonus") true])

def untaggedQuery : Document :=
  .single "$nor" (.array [.single "$and" (.array [
    .single "tag" (.single "$nin" (.array [.string "x"])),
    .single "bonus" (.single "$exists" (.bool true))])])

def untaggedExpression : Document :=
  .single "$not" (.array [.single "$and" (.array [
    .single "$not" (.array [.single "$in" (.array [.string "$tag", .array [.string "x"]])]),
    .single "$ne" (.array [.single "$type" (.string "$bonus"), .string "missing"])])])

def untaggedMeets : Bson → Bool
  -- The document has another tag and no bonus.
  | .document [("tag", _)] => true
  | _ => false

theorem truth_untaggedQuery
    : untagged.query {} = .ok untaggedQuery ∧ untagged.expression {} = .ok untaggedExpression ∧
        Bson.truth .query untaggedMeets (.document untaggedQuery) =
          Bson.truth .expression untaggedMeets (.document untaggedExpression) ∧
        Bson.truth .query untaggedMeets (.document untaggedQuery) = true := by
  have hq : untagged.query {} = .ok untaggedQuery := by rfl
  have he : untagged.expression {} = .ok untaggedExpression := by rfl
  have agree : ∀ l ∈ untagged.leaves, ∀ a b, l.toCriteria.query {} = .ok a →
      l.toCriteria.expression {} = .ok b →
      Bson.truth .query untaggedMeets (.document a) =
        Bson.truth .expression untaggedMeets (.document b) := by
    intro l hl a b ha hb
    have hl' : l = .field (.name "tag") .noneOf (.string "x") ∨
        l = .presence (.name "bonus") true := by
      simpa [untagged, leaves, leavesOfAll] using hl
    cases hl' with
    | inl h =>
      subst h
      cases ha
      cases hb
      rfl
    | inr h =>
      subst h
      cases ha
      cases hb
      rfl
  have h := truth_query_eq_truth_expression hq he agree
  exact ⟨hq, he, h.left, by rfl⟩

end Criteria

end Aggregation
