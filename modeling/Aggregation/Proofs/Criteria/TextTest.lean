import Aggregation.Proofs.Criteria.Negation
import Aggregation.Proofs.Except
import Aggregation.Proofs.Text.Pattern

/-!
This module contains the tests of criteria that look for text. Both forms carry the same pattern,
which finds the text itself, up to case, where the test says.
-/

namespace Aggregation

open Text.Pattern (Token Finds)

namespace Criteria

inductive TextTest where
  | startsWith
  | endsWith
  | contains
  | notContains

namespace TextTest

def operator : TextTest → FieldOperator
  | startsWith => .startsWith
  | endsWith => .endsWith
  | contains => .contains
  | notContains => .notContains

def pattern : TextTest → String → String
  | startsWith => Text.patternOfStart
  | endsWith => Text.patternOfEnd
  | contains | notContains => Text.patternOfPart

def tokens : TextTest → List Char → List Token
  | startsWith, cs => .start :: cs.map .literal
  | endsWith, cs => cs.map .literal ++ [.finish]
  | contains, cs | notContains, cs => .wildcard :: cs.map .literal ++ [.wildcard]

def Found : TextTest → List Char → List Char → Prop
  | startsWith, cs, text => cs <+: text
  | endsWith, cs, text => cs <:+ text
  | contains, cs, text | notContains, cs, text => cs <:+: text

/-- How queries carry a pattern, with the option for any case. -/
def asked (pattern : String) : TextTest → Document
  | notContains => [("$not", .document [("$regex", .string pattern), ("$options", .string "i")])]
  | startsWith | endsWith | contains =>
    [("$regex", .string pattern), ("$options", .string "i")]

/-- How expressions carry it. -/
def told (reference pattern : String) : TextTest → Document
  | notContains => [("$not", .array [.document [("$regexMatch", .document
      [("input", .string reference), ("regex", .string pattern), ("options", .string "i")])]])]
  | startsWith | endsWith | contains => [("$regexMatch", .document
      [("input", .string reference), ("regex", .string pattern), ("options", .string "i")])]

theorem condition_string (t : TextTest) (s : String)
    : condition t.operator (.string s) = .ok (t.asked (t.pattern s)) := by
  cases t <;> rfl

theorem test_string (t : TextTest) {ctx : Context} {f : FieldPath} {reference : String}
    (h : f.reference ctx = .ok reference) (s : String)
    : test ctx reference t.operator (.string s) = .ok (t.told reference (t.pattern s)) := by
  cases t with
  | notContains =>
    rw [operator, test_notContains h]
    rfl
  | startsWith | endsWith | contains => rfl

theorem query_string (t : TextTest) (ctx : Context) (f : FieldPath) (s : String)
    : query ctx (.field f t.operator (.string s)) = (do
        return [(← f.resolve ctx, .document (t.asked (t.pattern s)))]) := by
  rw [query, condition_string]
  rfl

theorem expression_string (t : TextTest) (ctx : Context) (f : FieldPath) (s : String)
    : expression ctx (.field f t.operator (.string s)) = (do
        return t.told (← f.reference ctx) (t.pattern s)) := by
  rw [expression]
  cases h : f.reference ctx with
  | error e => rfl
  | ok reference => exact t.test_string h s

theorem tokens_pattern (t : TextTest) (s : String)
    : Text.Pattern.tokens (t.pattern s).toList = t.tokens s.toList := by
  cases t with
  | startsWith => apply Text.Pattern.tokens_patternOfStart
  | endsWith => apply Text.Pattern.tokens_patternOfEnd
  | contains | notContains => apply Text.Pattern.tokens_patternOfPart

theorem finds_tokens_iff (t : TextTest) (fold : Char → Char) (cs text : List Char)
    : Finds fold (t.tokens cs) text ↔ t.Found (cs.map fold) (text.map fold) := by
  cases t with
  | startsWith => apply Text.Pattern.finds_start_iff
  | endsWith => apply Text.Pattern.finds_finish_iff
  | contains | notContains => apply Text.Pattern.finds_part_iff

theorem tokens_inj {t : TextTest} {cs cs' : List Char} : t.tokens cs = t.tokens cs' ↔ cs = cs' := by
  have hliteral : Function.Injective Token.literal := by
    intro c d h
    cases h
    rfl
  cases t <;> simp [tokens, List.map_inj_right hliteral]

theorem pattern_inj {t : TextTest} {s s' : String} : t.pattern s = t.pattern s' ↔ s = s' := by
  constructor
  . intro h
    rw [← String.toList_inj, ← @tokens_inj t, ← tokens_pattern, ← tokens_pattern, h]
  . intro h
    rw [h]

/--
The text is searched for as it is: none of its characters is read as anything but itself.
-/
theorem matches_text (t : TextTest) (s : String)
    : (∀ ctx f,
          query ctx (.field f t.operator (.string s)) = (do
            return [(← f.resolve ctx, .document (t.asked (t.pattern s)))]) ∧
          expression ctx (.field f t.operator (.string s)) = (do
            return t.told (← f.reference ctx) (t.pattern s))) ∧
        Text.Pattern.tokens (t.pattern s).toList = t.tokens s.toList ∧
        (∀ fold text, Finds fold (Text.Pattern.tokens (t.pattern s).toList) text ↔
          t.Found (s.toList.map fold) (text.map fold)) ∧
        ∀ s', t.pattern s = t.pattern s' ↔ s = s' := by
  refine ⟨?_, ?_, ?_, ?_⟩
  . intro ctx f
    constructor
    . apply query_string
    . apply expression_string
  . apply tokens_pattern
  . intro fold text
    rw [tokens_pattern]
    apply finds_tokens_iff
  . intro s'
    apply pattern_inj

end TextTest

end Criteria

end Aggregation
