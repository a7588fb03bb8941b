import Aggregation.Expression.Switch
import Aggregation.Proofs.Expression.Constant
import Aggregation.Proofs.Stage.Declaration

/-!
This module contains the calls that take a constant, and what an engine reads where the constant is
written. The calls of the stage that projects mark it, and the other ones do not.
-/

namespace Aggregation

variable {ctx : Context}

namespace Bson

/--
A way into a document by a key, or into an array by a position.
-/
inductive Step where
  | key (k : String)
  | item (n : Nat)

def step? : Bson → Step → Option Bson
  | .document d, .key k => Document.get? d k
  | .array vs, .item n => vs[n]?
  | _, _ => none

def at? (v : Bson) (path : List Step) : Option Bson :=
  path.foldlM step? v

@[simp]
theorem at?_nil (v : Bson) : v.at? [] = some v := by
  rfl

@[simp]
theorem at?_cons (v : Bson) (s : Step) (path : List Step)
    : v.at? (s :: path) = (v.step? s).bind fun w => w.at? path := by
  rfl

@[simp]
theorem step?_document (d : Document) (k : String)
    : (document d).step? (.key k) = d.get? k := by
  rfl

@[simp]
theorem step?_array (vs : List Bson) (n : Nat) : (array vs).step? (.item n) = vs[n]? := by
  rfl

@[simp]
theorem step?_single (k : String) (v : Bson) : (single k v).step? (.key k) = some v := by
  simp [single, Document.single]

end Bson

theorem Operand.resolveAll_eq_mapM (os : List Operand)
    : resolveAll ctx os = os.mapM (Operand.resolve ctx) := by
  induction os with
  | nil => simp [resolveAll]
  | cons o os ih => simp [resolveAll, ih]

namespace Switch

def Clause.branch? : Clause → Option (Expression × Operand)
  | .branch case result => some (case, result)
  | .branchValue case v => some (case, .literal v)
  | .default _ | .defaultValue _ => none

def Clause.default? : Clause → Option Operand
  | .default result => some result
  | .defaultValue v => some (.literal v)
  | .branch .. | .branchValue .. => none

theorem branches_ofClauses (clauses : List Clause)
    : (ofClauses clauses).branches = clauses.filterMap Clause.branch? := by
  unfold ofClauses
  rw [List.filterMap_eq_flatMap_toList]
  apply Builder.foldl_append branches
  intro s c
  cases c <;> simp [declare, Clause.branch?]

theorem default_ofClauses (clauses : List Clause)
    : (ofClauses clauses).default = (clauses.filterMap Clause.default?).getLast? := by
  unfold ofClauses
  rw [Builder.foldl_getLast? Switch.default Clause.default?]
  . apply Option.or_none
  . intro s c
    cases c <;> simp [declare, Clause.default?]

end Switch

namespace Expression

def resolveBranch (ctx : Context) (branch : Expression × Operand) : Except Error Bson := do
  let case ← branch.1.resolve ctx
  return .document [("case", case), ("then", ← branch.2.resolve ctx)]

theorem resolveBranches_eq_mapM (branches : List (Expression × Operand))
    : resolveBranches ctx branches = branches.mapM (resolveBranch ctx) := by
  induction branches with
  | nil => simp [resolveBranches]
  | cons branch branches ih =>
    rcases branch with ⟨e, o⟩
    simp [resolveBranches, resolveBranch, ih]

theorem resolve_switch_eq_ok {branches : List (Expression × Operand)} {default : Option Operand}
    {v : Bson}
    : (switch branches default).resolve ctx = .ok v ↔
        branches ≠ [] ∧ ∃ bs, branches.mapM (resolveBranch ctx) = .ok bs ∧
          ∃ es, Operand.resolveDefault ctx default = .ok es ∧
            .single "$switch" (.document (("branches", .array bs) :: es)) = v := by
  rw [resolve, resolveBranches_eq_mapM]
  cases branches with
  | nil => simp
  | cons branch branches => simp [-List.mapM_cons]

end Expression

/--
A call that takes a constant, with everything around it.
-/
inductive ConstantCall where
  | assigned (form : AssignForm) (clauses : Gap Assign.Clause) (field : FieldPath)
  | consequence (condition otherwise : Operand)
  | alternative (condition result : Operand)
  | replacement (first : Operand) (rest : List Operand)
  | branch (clauses : Gap Switch.Clause) (case : Expression)
  | default (clauses : Gap Switch.Clause)
  | projected (clauses : Gap Project.Clause) (field : FieldPath)
  | aliased (clauses : Gap Project.Clause) (field : FieldPath)

namespace ConstantCall

def resolve (ctx : Context) (v : Bson) : ConstantCall → Except Error (Option Bson)
  | .assigned form clauses field =>
    (Declarer.assign form (clauses.fill (.value field v))).resolve ctx
  | .consequence condition otherwise => do
    return some (← (Expression.cond condition (.literal v) otherwise).resolve ctx)
  | .alternative condition result => do
    return some (← (Expression.cond condition result (.literal v)).resolve ctx)
  | .replacement first rest => do
    return some (← (Expression.ifNull first rest (.literal v)).resolve ctx)
  | .branch clauses case => do
    let s := Switch.ofClauses (clauses.fill (.branchValue case v))
    return some (← s.toExpression.resolve ctx)
  | .default clauses => do
    let s := Switch.ofClauses (clauses.fill (.defaultValue v))
    return some (← s.toExpression.resolve ctx)
  | .projected clauses field => (Declarer.project (clauses.fill (.literal field v))).resolve ctx
  | .aliased clauses field =>
    (Declarer.project (clauses.fill (.computed (.literal v) field))).resolve ctx

def path (ctx : Context) : ConstantCall → Except Error (List Bson.Step)
  | .assigned form _ field => do return [.key form.name, .key (← field.resolve ctx)]
  | .consequence .. => return [.key "$cond", .key "then"]
  | .alternative .. => return [.key "$cond", .key "else"]
  | .replacement _ rest => return [.key "$ifNull", .item (rest.length + 1)]
  | .branch clauses _ =>
    let earlier := clauses.before.filterMap Switch.Clause.branch?
    return [.key "$switch", .key "branches", .item earlier.length, .key "then"]
  | .default _ => return [.key "$switch", .key "default"]
  | .projected _ field | .aliased _ field => do
    return [.key "$project", .key (← field.resolve ctx)]

/--
No later call takes the place of the constant.
-/
def Kept (ctx : Context) : ConstantCall → Prop
  | .assigned _ clauses field =>
    ∀ c ∈ clauses.after, c.declaration.name ctx ≠ field.resolve ctx
  | .projected clauses field | .aliased clauses field =>
    ∀ c ∈ clauses.after, c.declaration.name ctx ≠ field.resolve ctx
  | .default clauses => ∀ c ∈ clauses.after, c.default? = none
  | .consequence .. | .alternative .. | .replacement .. | .branch .. => True

def marks : ConstantCall → Bool
  | .projected .. | .aliased .. => true
  | .assigned .. | .consequence .. | .alternative .. | .replacement .. | .branch .. | .default _ =>
    false

def node (v : Bson) (c : ConstantCall) : Bson :=
  if c.marks then .single "$literal" v else v

theorem denotes_node_iff (c : ConstantCall) (v : Bson)
    : (c.node v).Denotes v ↔ c.marks = true ∨ v.plain = true := by
  unfold node
  split
  . next h => simp [h, Bson.denotes_single_literal]
  . next h => simp [h, Bson.denotes_self_iff]

theorem at?_of_written {before after : List Declaration} {field : FieldPath} {v : Bson}
    {d : Document} (stage : String)
    (h : Declaration.Written ctx (before ++ .ofPath field (fun _ => return v) :: after) d)
    (hafter : ∀ a ∈ after, a.name ctx ≠ field.resolve ctx)
    : ∃ key, field.resolve ctx = .ok key ∧
        (Bson.single stage (.document d)).at? [.key stage, .key key] = some v := by
  rcases h.get?_of_last hafter with ⟨key, w, ⟨hkey, hw⟩, hget⟩
  cases hw
  exact ⟨key, hkey, by simpa using hget⟩

theorem at?_of_assign {form : AssignForm} {clauses : Gap Assign.Clause} {field : FieldPath}
    {v out : Bson}
    (h : (Declarer.assign form (clauses.fill (.value field v))).resolve ctx = .ok (some out))
    (hkept : ∀ c ∈ clauses.after, c.declaration.name ctx ≠ field.resolve ctx)
    : ∃ key, field.resolve ctx = .ok key ∧
        out.at? [.key form.name, .key key] = some v := by
  rcases Declarer.written_of_resolve h with ⟨_, d, hout, hemits, hwritten⟩
  rw [Option.some_inj] at hout
  subst hout
  rw [Declarer.declarations, Gap.fill, List.map_append, List.map_cons] at hwritten
  cases hemits
  apply at?_of_written form.name hwritten
  simpa using hkept

theorem at?_of_project {clauses : Gap Project.Clause} {field : FieldPath} {c : Project.Clause}
    {v out : Bson} (hc : c.declaration = .ofPath field fun _ => return .single "$literal" v)
    (h : (Declarer.project (clauses.fill c)).resolve ctx = .ok (some out))
    (hkept : ∀ c ∈ clauses.after, c.declaration.name ctx ≠ field.resolve ctx)
    : ∃ key, field.resolve ctx = .ok key ∧
        out.at? [.key "$project", .key key] = some (.single "$literal" v) := by
  rcases Declarer.written_of_resolve h with ⟨_, d, hout, hemits, hwritten⟩
  rw [Option.some_inj] at hout
  subst hout
  rw [Declarer.declarations, Gap.fill, List.map_append, List.map_cons, hc] at hwritten
  cases hemits
  apply at?_of_written "$project" hwritten
  simpa using hkept

theorem at?_of_branch {clauses : Gap Switch.Clause} {case : Expression} {v out : Bson}
    (h : (Switch.ofClauses (clauses.fill (.branchValue case v))).toExpression.resolve ctx = .ok out)
    : out.at? [.key "$switch", .key "branches",
        .item (clauses.before.filterMap Switch.Clause.branch?).length, .key "then"] = some v := by
  rw [Switch.toExpression, Expression.resolve_switch_eq_ok] at h
  rcases h with ⟨_, bs, hbs, es, _, rfl⟩
  have hbranch : (Switch.Clause.branchValue case v).branch? = some (case, .literal v) := by rfl
  rw [Switch.branches_ofClauses, Gap.fill, List.filterMap_append,
    List.filterMap_cons_some hbranch] at hbs
  rcases Except.getElem?_of_mapM hbs with ⟨w, hw, hget⟩
  simp only [Expression.resolveBranch, Operand.resolve, Except.bind_eq_ok,
    Except.pure_eq_ok] at hw
  rcases hw with ⟨w, _, _, rfl, rfl⟩
  simp [hget]

theorem at?_of_default {clauses : Gap Switch.Clause} {v out : Bson}
    (h : (Switch.ofClauses (clauses.fill (.defaultValue v))).toExpression.resolve ctx = .ok out)
    (hkept : ∀ c ∈ clauses.after, c.default? = none)
    : out.at? [.key "$switch", .key "default"] = some v := by
  rw [Switch.toExpression, Expression.resolve_switch_eq_ok] at h
  rcases h with ⟨_, bs, _, es, hes, rfl⟩
  have hdefault : (Switch.Clause.defaultValue v).default? = some (.literal v) := by rfl
  rw [← List.filterMap_eq_nil_iff] at hkept
  rw [Switch.default_ofClauses, Gap.fill, List.filterMap_append,
    List.filterMap_cons_some hdefault, hkept, List.getLast?_concat] at hes
  simp only [Operand.resolveDefault, Operand.resolve, Except.bind_eq_ok, Except.pure_eq_ok] at hes
  rcases hes with ⟨_, rfl, rfl⟩
  simp

theorem at?_path {c : ConstantCall} {v out : Bson} (h : c.resolve ctx v = .ok (some out))
    (hkept : c.Kept ctx) : ∃ path, c.path ctx = .ok path ∧ out.at? path = some (c.node v) := by
  cases c with
  | assigned form clauses field =>
    rcases at?_of_assign h hkept with ⟨key, hkey, hat⟩
    refine ⟨_, ?_, hat⟩
    rw [path, hkey]
    rfl
  | consequence condition otherwise =>
    simp only [resolve, Expression.resolve, Operand.resolve, Except.bind_eq_ok,
      Except.pure_eq_ok] at h
    rcases h with ⟨_, ⟨_, _, _, rfl, _, _, rfl⟩, ⟨⟩⟩
    exact ⟨_, rfl, rfl⟩
  | alternative condition result =>
    simp only [resolve, Expression.resolve, Operand.resolve, Except.bind_eq_ok,
      Except.pure_eq_ok] at h
    rcases h with ⟨_, ⟨_, _, _, _, _, rfl, rfl⟩, ⟨⟩⟩
    exact ⟨_, rfl, rfl⟩
  | replacement first rest =>
    simp only [resolve, Expression.resolve, Operand.resolve, Except.bind_eq_ok,
      Except.pure_eq_ok] at h
    rcases h with ⟨_, ⟨w, _, ws, hws, _, rfl, rfl⟩, ⟨⟩⟩
    -- The replacement comes after as many values as there are operands to replace.
    rw [Operand.resolveAll_eq_mapM, Except.mapM_eq_ok] at hws
    refine ⟨_, rfl, ?_⟩
    simp [hws.length_eq, node, marks]
  | branch clauses case =>
    simp only [resolve, Except.bind_eq_ok, Except.pure_eq_ok] at h
    rcases h with ⟨_, h, ⟨⟩⟩
    exact ⟨_, rfl, at?_of_branch h⟩
  | default clauses =>
    simp only [resolve, Except.bind_eq_ok, Except.pure_eq_ok] at h
    rcases h with ⟨_, h, ⟨⟩⟩
    exact ⟨_, rfl, at?_of_default h hkept⟩
  | projected clauses field | aliased clauses field =>
    rcases at?_of_project rfl h hkept with ⟨key, hkey, hat⟩
    refine ⟨_, ?_, hat⟩
    rw [path, hkey]
    rfl

/--
What is written for the constant denotes it if the call marks it, or if there is nothing in it to
interpret.
-/
theorem denotes_iff {c : ConstantCall} {v out : Bson} (h : c.resolve ctx v = .ok (some out))
    (hkept : c.Kept ctx)
    : ∃ path node, c.path ctx = .ok path ∧ out.at? path = some node ∧
        node = (if c.marks then .single "$literal" v else v) ∧
        (node.Denotes v ↔ c.marks = true ∨ v.plain = true) := by
  rcases at?_path h hkept with ⟨path, hpath, hat⟩
  exact ⟨path, c.node v, hpath, hat, rfl, denotes_node_iff c v⟩

def status : ConstantCall :=
  .assigned .addFields
    ⟨[.copy (.name "status") (.name "draft")], [.value (.name "total") (.string "$price")]⟩
    (.property (.named "status"))

def statusValue : Bson :=
  .array [.string "new", .document [("cost", .string "US$")]]

theorem status_denotes
    : ∃ out, status.resolve {} statusValue = .ok (some out) ∧ status.Kept {} ∧
        out.at? [.key "$addFields", .key "status"] = some statusValue ∧
        statusValue.Denotes statusValue := by
  have hresolve : status.resolve {} statusValue = .ok (some (.single "$addFields" (.document
      [("status", statusValue), ("total", .string "$price")]))) := by rfl
  have hkept : status.Kept {} := by
    rw [status, Kept, List.forall_mem_singleton]
    decide
  rcases denotes_iff hresolve hkept with ⟨_, _, ⟨⟩, hat, rfl, hdenotes⟩
  exact ⟨_, hresolve, hkept, hat, hdenotes.mpr (.inr (by decide))⟩

/-- A text that looks like a reference is read as one if the call does not mark it. -/
theorem assigned_text_interpreted
    : ∃ out, (assigned .set ⟨[], []⟩ (.name "a")).resolve {} (.string "$price") = .ok (some out) ∧
        out.at? [.key "$set", .key "a"] = some (.string "$price") ∧
        ¬ (Bson.string "$price").Denotes (.string "$price") := by
  refine ⟨_, rfl, rfl, ?_⟩
  rw [Bson.denotes_self_iff]
  decide

end ConstantCall

end Aggregation
