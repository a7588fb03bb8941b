import Mathlib.Data.List.Basic

/-!
This module contains builders that are configured call by call. Each call goes to one setting, which
is a slot for the last call or a list of all calls. Calls to different settings can be made in any
order.
-/

namespace Aggregation

structure Builder where
  State : Type
  Call : Type
  Setting : Type
  [decEq : DecidableEq Setting]
  start : State
  declare : State → Call → State
  setting : Call → Setting
  grows : Setting → Bool
  declare_comm (s : State) {c d : Call} (h : setting c ≠ setting d)
    : declare (declare s c) d = declare (declare s d) c
  declare_absorb (s : State) {c d : Call} (hslot : grows (setting c) = false)
    (h : setting c = setting d) : declare (declare s c) d = declare s d

namespace Builder

attribute [instance] decEq

variable (b : Builder)

def declareAll (s : b.State) (cs : List b.Call) : b.State :=
  cs.foldl b.declare s

def callsTo (k : b.Setting) (cs : List b.Call) : List b.Call :=
  cs.filter fun c => b.setting c = k

def callsElsewhere (k : b.Setting) (cs : List b.Call) : List b.Call :=
  cs.filter fun c => b.setting c ≠ k

/--
The two sequences of calls do not differ in what counts for the settings one by one.
-/
structure Agree (cs cs' : List b.Call) : Prop where
  slot (k : b.Setting) (h : b.grows k = false)
    : (b.callsTo k cs).getLast? = (b.callsTo k cs').getLast?
  list (k : b.Setting) (h : b.grows k = true) : b.callsTo k cs = b.callsTo k cs'

variable {b} {k : b.Setting} {cs cs' : List b.Call}

theorem declareAll_cons (s : b.State) (c : b.Call) (cs : List b.Call)
    : b.declareAll s (c :: cs) = b.declareAll (b.declare s c) cs := by
  unfold declareAll
  apply List.foldl_cons

theorem declareAll_declare (s : b.State) {c : b.Call} (h : ∀ d ∈ cs, b.setting c ≠ b.setting d)
    : b.declareAll (b.declare s c) cs = b.declare (b.declareAll s cs) c := by
  induction cs generalizing s with
  | nil => rfl
  | cons d cs ih =>
    rw [List.forall_mem_cons] at h
    rw [declareAll_cons, declareAll_cons, b.declare_comm s h.left]
    apply ih
    exact h.right

/-- The calls to one setting can be made first. -/
theorem declareAll_eq_declareAll_callsTo (k : b.Setting) (s : b.State) (cs : List b.Call)
    : b.declareAll s cs =
        b.declareAll (b.declareAll s (b.callsTo k cs)) (b.callsElsewhere k cs) := by
  unfold callsTo callsElsewhere
  induction cs generalizing s with
  | nil => rfl
  | cons c cs ih =>
    rw [declareAll_cons, ih]
    by_cases h : b.setting c = k
    . rw [List.filter_cons_of_pos (by simpa using h), List.filter_cons_of_neg (by simpa using h)]
      rw [declareAll_cons]
    . rw [List.filter_cons_of_neg (by simpa using h), List.filter_cons_of_pos (by simpa using h)]
      rw [declareAll_cons, declareAll_declare]
      intro d hd
      simp only [List.mem_filter, decide_eq_true_eq] at hd
      rw [hd.right]
      exact h

/-- Of the calls to a slot only the last one counts. -/
theorem declareAll_of_slot (hslot : b.grows k = false) (s : b.State)
    (h : ∀ c ∈ cs, b.setting c = k)
    : b.declareAll s cs = b.declareAll s cs.getLast?.toList := by
  induction cs generalizing s with
  | nil => rfl
  | cons c cs ih =>
    rw [List.forall_mem_cons] at h
    cases cs with
    | nil => rfl
    | cons d cs =>
      have hd : b.setting c = b.setting d := by
        rw [h.left, h.right d List.mem_cons_self]
      rw [List.getLast?_cons_cons, ← ih s h.right]
      rw [declareAll_cons, declareAll_cons, declareAll_cons, b.declare_absorb s _ hd]
      rw [h.left]
      exact hslot

theorem Agree.declareAll_callsTo (h : b.Agree cs cs') (k : b.Setting) (s : b.State)
    : b.declareAll s (b.callsTo k cs) = b.declareAll s (b.callsTo k cs') := by
  cases hk : b.grows k with
  | true => rw [h.list k hk]
  | false =>
    have hmem (cs : List b.Call) : ∀ c ∈ b.callsTo k cs, b.setting c = k := by
      simp [callsTo]
    rw [declareAll_of_slot hk s (hmem cs), declareAll_of_slot hk s (hmem cs'), h.slot k hk]

theorem callsTo_callsElsewhere (k l : b.Setting) (cs : List b.Call)
    : b.callsTo l (b.callsElsewhere k cs) = if l = k then [] else b.callsTo l cs := by
  unfold callsTo callsElsewhere
  rw [List.filter_filter]
  split
  . next h => simp [h]
  . next h =>
    apply List.filter_congr
    intro c _
    grind

theorem Agree.callsElsewhere (h : b.Agree cs cs') (k : b.Setting)
    : b.Agree (b.callsElsewhere k cs) (b.callsElsewhere k cs') := by
  constructor
  . intro l hl
    rw [callsTo_callsElsewhere, callsTo_callsElsewhere]
    split
    . rfl
    . exact h.slot l hl
  . intro l hl
    rw [callsTo_callsElsewhere, callsTo_callsElsewhere]
    split
    . rfl
    . exact h.list l hl

-- The induction is on the settings that are left, and all calls to one of them go at once.
theorem Agree.declareAll_eq_of_settings (ks : List b.Setting) (h : b.Agree cs cs')
    (hcs : ∀ c ∈ cs, b.setting c ∈ ks) (hcs' : ∀ c ∈ cs', b.setting c ∈ ks) (s : b.State)
    : b.declareAll s cs = b.declareAll s cs' := by
  have hrest {k : b.Setting} {ks : List b.Setting} {cs : List b.Call}
      (h : ∀ c ∈ cs, b.setting c ∈ k :: ks) : ∀ c ∈ b.callsElsewhere k cs, b.setting c ∈ ks := by
    intro c hc
    simp only [Builder.callsElsewhere, List.mem_filter, decide_eq_true_eq] at hc
    exact List.mem_of_ne_of_mem hc.right (h c hc.left)
  induction ks generalizing cs cs' s with
  | nil =>
    simp only [List.not_mem_nil, imp_false, ← List.eq_nil_iff_forall_not_mem] at hcs hcs'
    rw [hcs, hcs']
  | cons k ks ih =>
    rw [declareAll_eq_declareAll_callsTo k s cs, declareAll_eq_declareAll_callsTo k s cs']
    rw [h.declareAll_callsTo]
    apply ih
    . exact h.callsElsewhere k
    . exact hrest hcs
    . exact hrest hcs'

theorem Agree.declareAll_eq (h : b.Agree cs cs') (s : b.State)
    : b.declareAll s cs = b.declareAll s cs' := by
  apply declareAll_eq_of_settings ((cs ++ cs').map b.setting) h
  . intro c hc
    exact List.mem_map_of_mem (List.mem_append_left cs' hc)
  . intro c hc
    exact List.mem_map_of_mem (List.mem_append_right cs hc)

theorem foldl_append {σ γ τ : Type} {declare : σ → γ → σ} (list : σ → List τ) (added : γ → List τ)
    (h : ∀ s c, list (declare s c) = list s ++ added c) (s : σ) (cs : List γ)
    : list (cs.foldl declare s) = list s ++ cs.flatMap added := by
  induction cs generalizing s with
  | nil => simp
  | cons c cs ih =>
    rw [List.foldl_cons, ih, h, List.flatMap_cons, List.append_assoc]

theorem foldl_getLast? {σ γ τ : Type} {declare : σ → γ → σ} (slot : σ → Option τ)
    (set : γ → Option τ) (h : ∀ s c, slot (declare s c) = (set c).or (slot s)) (s : σ) (cs : List γ)
    : slot (cs.foldl declare s) = (cs.filterMap set).getLast?.or (slot s) := by
  induction cs generalizing s with
  | nil => simp
  | cons c cs ih =>
    rw [List.foldl_cons, ih, h, List.filterMap_cons]
    cases set c with
    | none => rfl
    | some a => simp [List.getLast?_cons]

/-- What is left in a slot by the last of the calls that go there. -/
def lastCall? {γ τ : Type} (set : γ → Option τ) (cs : List γ) : Option τ :=
  (cs.filterMap set).getLast?

theorem foldl_lastCall? {σ γ τ : Type} {declare : σ → γ → σ} (slot : σ → Option τ)
    (set : γ → Option τ) (h : ∀ s c, slot (declare s c) = (set c).or (slot s)) {s : σ}
    (hs : slot s = none) (cs : List γ) : slot (cs.foldl declare s) = lastCall? set cs := by
  rw [foldl_getLast? slot set h, hs, Option.or_none, lastCall?]

end Builder

end Aggregation
