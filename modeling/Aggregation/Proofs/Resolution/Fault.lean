import Aggregation.Proofs.Except
import Aggregation.Proofs.Resolution.Stage

/-!
This module contains the condition under which a pipeline is built, which is that nothing is wrong
about it, and the error that is reported otherwise, which is the first thing that is wrong.
-/

namespace Aggregation

variable {ctx : Context}

namespace FieldPath

theorem resolve_eq_error {f : FieldPath} {e : Error}
    : f.resolve ctx = .error e ↔ f.fault? ctx = some e := by
  cases f with
  | name path =>
    rw [resolve, fault?]
    split <;> simp
  | property p =>
    rw [resolve, fault?]
    split <;> simp [*]

theorem resolve_ofPath_eq_error {f : FieldPath} {e : Error}
    : (Operand.ofPath f).resolve ctx = .error e ↔ f.fault? ctx = some e := by
  rw [← resolve_eq_error]
  cases f with
  | name path => simp [Operand.ofPath, Operand.resolve, reference]
  | property p => simp [Operand.ofPath, Operand.resolve, resolve]

end FieldPath

theorem Check.answer_eq_error {k : Check} {e : Error}
    : k.answer ⟨ctx, .property⟩ = .error e ↔ k.fault? ctx = some e := by
  cases k with
  | path f => simp [answer, fault?, FieldPath.resolve_eq_error]
  | reference f => simp [answer, fault?, FieldPath.resolve_ofPath_eq_error]
  | instant t => simp [answer, fault?]
  | fault e' => simp [answer, fault?]

namespace Asks

variable {α : Type} {ks : List Check} {x : Environment → Except Error α}

theorem eq_error (h : Asks ks x) (ctx : Context) (e : Error)
    : x ⟨ctx, .property⟩ = .error e ↔ (ks.filterMap (Check.fault? ctx)).head? = some e := by
  induction h with
  | pure a => simp
  | @ask k ks x _ ih =>
    rw [Except.bind_eq_error, Check.answer_eq_error]
    cases hfault : k.fault? ctx with
    | some e' =>
      rw [List.filterMap_cons_some hfault, List.head?_cons]
      -- Nothing is asked after the first fault.
      rw [← Check.answer_eq_error] at hfault
      simp [hfault]
    | none =>
      rw [List.filterMap_cons_none hfault]
      have hanswer : ∃ v, k.answer ⟨ctx, .property⟩ = .ok v := by
        rw [Except.exists_eq_ok]
        simp [Check.answer_eq_error, hfault]
      rcases hanswer with ⟨v, hv⟩
      simp [hv, ih]

theorem exists_eq_ok (h : Asks ks x) (ctx : Context)
    : (∃ a, x ⟨ctx, .property⟩ = .ok a) ↔ ks.filterMap (Check.fault? ctx) = [] := by
  rw [Except.exists_eq_ok]
  simp only [h.eq_error]
  rw [← List.head?_eq_none_iff, Option.eq_none_iff_forall_ne_some]

end Asks

namespace Pipeline

theorem build_reports_first_fault (ctx : Context) (p : Pipeline)
    : ((∃ ds, p.build ctx = .ok ds) ↔ p.faults ctx = []) ∧
        ∀ e, p.build ctx = .error e ↔ (p.faults ctx).head? = some e := by
  have hok := p.asks_build.exists_eq_ok ctx
  have herror := p.asks_build.eq_error ctx
  simp only [substitute_property] at hok herror
  exact ⟨hok, herror⟩

example : faults {} [
      .lookup { localField := some (.name ""), pipeline := some [.facet {}] },
      .unset []] =
    [.incompleteStage "$lookup" .noOutputField, .invalidFieldPath .empty,
      .incompleteStage "$facet" .noFacet, .incompleteStage "$unset" .noField] := by
  rfl

end Pipeline

end Aggregation
