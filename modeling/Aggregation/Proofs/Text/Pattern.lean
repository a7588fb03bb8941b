import Aggregation.Text.Pattern
import Mathlib.Data.List.Infix

/-!
This module contains the reading of patterns as tokens and the search for them in a text. Text that
was made a pattern is read as itself, whatever characters there are in it.
-/

namespace Aggregation.Text

namespace Pattern

/-- An operator is a metacharacter that is not escaped and not part of an anchor or wildcard. -/
inductive Token where
  | start
  | finish
  | wildcard
  | literal (c : Char)
  | operator (c : Char)
  deriving DecidableEq

/-- The tokens behind the first place, which is the only one for the anchor at the start. -/
def tokensAfter : List Char → List Token
  | [] => []
  | ['$'] => [.finish]
  | '\\' :: c :: cs => .literal c :: tokensAfter cs
  | '.' :: '*' :: cs => .wildcard :: tokensAfter cs
  | c :: cs => (if isMetacharacter c then .operator c else .literal c) :: tokensAfter cs

def tokens : List Char → List Token
  | '^' :: cs => .start :: tokensAfter cs
  | cs => tokensAfter cs

theorem tokensAfter_cons {c : Char} (h : isMetacharacter c = false) (cs : List Char)
    : tokensAfter (c :: cs) = .literal c :: tokensAfter cs := by
  rw [tokensAfter]
  . simp [h]
  -- The earlier cases of the definition begin with metacharacters.
  . rintro rfl
    simp [isMetacharacter] at h
  . rintro _ _ rfl
    simp [isMetacharacter] at h
  . rintro _ rfl
    simp [isMetacharacter] at h

theorem literally_cons (c : Char) (cs : List Char)
    : literally (c :: cs) = (if isMetacharacter c then ['\\', c] else [c]) ++ literally cs := by
  unfold literally
  rw [List.flatMap_cons]

theorem tokensAfter_literally (cs tail : List Char)
    : tokensAfter (literally cs ++ tail) = cs.map .literal ++ tokensAfter tail := by
  induction cs with
  | nil => rfl
  | cons c cs ih =>
    rw [literally_cons, List.append_assoc, List.map_cons, List.cons_append, ← ih]
    split
    . rfl
    . next h =>
      rw [Bool.not_eq_true] at h
      apply tokensAfter_cons h

theorem tokens_of_ne {c : Char} (h : c ≠ '^') (cs : List Char)
    : tokens (c :: cs) = tokensAfter (c :: cs) := by
  rw [tokens]
  rintro _ ⟨⟩
  exact h rfl

theorem tokens_literally (cs : List Char) {c : Char} (h : c ≠ '^') (tail : List Char)
    : tokens (literally cs ++ c :: tail) = cs.map .literal ++ tokensAfter (c :: tail) := by
  rw [← tokensAfter_literally]
  -- The anchor at the start is escaped, so it does not matter that nothing is in front of the text.
  cases cs with
  | nil => apply tokens_of_ne h
  | cons d cs =>
    rw [literally_cons]
    split
    . rfl
    . next hd =>
      apply tokens_of_ne
      rintro rfl
      simp [isMetacharacter] at hd

theorem tokens_patternOfStart (s : String)
    : tokens (patternOfStart s).toList = .start :: s.toList.map .literal := by
  have hread := tokensAfter_literally s.toList []
  rw [List.append_nil, tokensAfter, List.append_nil] at hread
  rw [patternOfStart, String.toList_ofList, tokens, hread]

theorem tokens_patternOfEnd (s : String)
    : tokens (patternOfEnd s).toList = s.toList.map .literal ++ [.finish] := by
  rw [patternOfEnd, String.toList_ofList]
  apply tokens_literally
  decide

example : tokens (patternOfEnd "$\\").toList = [.literal '$', .literal '\\', .finish] := by
  decide

theorem tokens_patternOfPart (s : String)
    : tokens (patternOfPart s).toList = .wildcard :: s.toList.map .literal ++ [.wildcard] := by
  have hwildcard (cs : List Char) : tokens (['.', '*'] ++ cs) = .wildcard :: tokensAfter cs := by
    rfl
  rw [patternOfPart, String.toList_ofList, List.append_assoc, hwildcard, tokensAfter_literally]
  rfl

/-!
Characters are compared by what `fold` makes of them, which takes their case away.
-/

variable {fold : Char → Char} {before after text : List Char} {ts : List Token}

/-- The tokens match a beginning of what is after the given part of the text. -/
def Matches (fold : Char → Char) : List Token → List Char → List Char → Prop
  | [], _, _ => True
  | .start :: ts, before, after => before = [] ∧ Matches fold ts before after
  | .finish :: ts, before, after => after = [] ∧ Matches fold ts before after
  | .wildcard :: ts, before, after =>
    ∃ run rest, run ++ rest = after ∧ Matches fold ts (before ++ run) rest
  | .literal c :: ts, before, after =>
    ∃ d rest, d :: rest = after ∧ fold c = fold d ∧ Matches fold ts (before ++ [d]) rest
  | .operator _ :: _, _, _ => False

def Finds (fold : Char → Char) (ts : List Token) (text : List Char) : Prop :=
  ∃ before after, before ++ after = text ∧ Matches fold ts before after

theorem matches_literals {cs : List Char}
    : Matches fold (cs.map .literal ++ ts) before after ↔
        ∃ word rest, word ++ rest = after ∧ cs.map fold = word.map fold ∧
          Matches fold ts (before ++ word) rest := by
  induction cs generalizing before after with
  | nil => simp
  | cons c cs ih =>
    rw [List.map_cons, List.cons_append, Matches]
    simp only [ih]
    constructor
    . rintro ⟨d, _, rfl, hd, word, rest, rfl, hword, hts⟩
      refine ⟨d :: word, rest, rfl, ?_, ?_⟩
      . rw [List.map_cons, List.map_cons, hd, hword]
      . simpa using hts
    . rintro ⟨word, rest, rfl, hword, hts⟩
      cases word with
      | nil => simp at hword
      | cons d word =>
        rw [List.map_cons, List.map_cons, List.cons.injEq] at hword
        refine ⟨d, _, rfl, hword.left, word, rest, rfl, hword.right, ?_⟩
        simpa using hts

theorem finds_start_iff {cs : List Char}
    : Finds fold (.start :: cs.map .literal) text ↔ cs.map fold <+: text.map fold := by
  have hmatches := @matches_literals fold [] text [] cs
  rw [List.append_nil] at hmatches
  rw [List.prefix_map_iff]
  constructor
  . rintro ⟨_, after, rfl, rfl, h⟩
    rw [List.nil_append] at hmatches ⊢
    rcases hmatches.mp h with ⟨word, rest, rfl, hword, _⟩
    exact ⟨word, List.prefix_append word rest, hword⟩
  . rintro ⟨word, ⟨rest, rfl⟩, hword⟩
    exact ⟨[], _, rfl, rfl, hmatches.mpr ⟨word, rest, rfl, hword, trivial⟩⟩

theorem finds_finish_iff {cs : List Char}
    : Finds fold (cs.map .literal ++ [.finish]) text ↔ cs.map fold <:+ text.map fold := by
  unfold Finds
  simp only [matches_literals, Matches]
  rw [List.suffix_map_iff]
  constructor
  . rintro ⟨before, _, rfl, word, _, rfl, hword, rfl, _⟩
    rw [List.append_nil]
    exact ⟨word, List.suffix_append before word, hword⟩
  . rintro ⟨word, ⟨before, rfl⟩, hword⟩
    exact ⟨before, word, rfl, word, [], List.append_nil word, hword, rfl, trivial⟩

theorem finds_part_iff {cs : List Char}
    : Finds fold (.wildcard :: cs.map .literal ++ [.wildcard]) text ↔
        cs.map fold <:+: text.map fold := by
  unfold Finds
  simp only [List.cons_append, Matches, matches_literals]
  rw [List.infix_map_iff]
  constructor
  . rintro ⟨before, _, rfl, run, _, rfl, word, _, rfl, hword, run', rest, rfl, _⟩
    refine ⟨word, ⟨before ++ run, run' ++ rest, ?_⟩, hword⟩
    simp
  . rintro ⟨word, ⟨run, run', rfl⟩, hword⟩
    refine ⟨[], _, rfl, run, _, ?_, word, run', rfl, hword, run', [], ?_, trivial⟩
    . simp
    . rw [List.append_nil]

end Pattern

end Aggregation.Text
