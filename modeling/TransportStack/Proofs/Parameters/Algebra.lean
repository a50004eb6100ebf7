import TransportStack.Proofs.Parameters.Seen

/-!
Sections of sections, and what sections and common values have of combined parameters. Combining
replaces key by key, also by empty values, which sections and common values leave out: where an
empty value replaces one that is not, the section of the combination lacks it.
-/

namespace TransportStack.Parameters

/-- Whether an empty value of `q` replaces one of `p` that is not empty under a key. -/
def Blanks (q p : Parameters) (k : String) : Prop :=
  q.get? k = some "" ∧ p.filled? k ≠ none

theorem toList_bareName (name : String) :
    (bareName name).toList = name.toList.rdropWhile (· == '.') :=
  String.toList_ofList

theorem bareName_append (name : String) {rest : String} (named : bareName rest ≠ "") :
    bareName (name ++ rest) = name ++ bareName rest := by
  rw [← String.toList_inj, toList_bareName, String.toList_append, String.toList_append,
    toList_bareName, List.rdropWhile, List.reverse_append, List.dropWhile_append]
  have some_left : (rest.toList.reverse.dropWhile (· == '.')).isEmpty = false := by
    rw [List.isEmpty_eq_false_iff]
    intro none_left
    apply named
    rw [← String.toList_inj, toList_bareName, List.rdropWhile, none_left]
    rfl
  simp [some_left, List.rdropWhile]

theorem scopedKey_scopedKey (outer k : String) {inner : String} (named : bareName inner ≠ "") :
    scopedKey outer (scopedKey inner k) = scopedKey (bareName outer ++ "." ++ inner) k := by
  rw [scopedKey_eq, scopedKey_eq, scopedKey_eq, bareName_append _ named]
  simp only [String.append_assoc]

variable (p q : Parameters)

theorem within_within (outer : String) {inner : String} (named : bareName inner ≠ "") :
    (p.within outer).within inner = p.within (bareName outer ++ "." ++ inner) := by
  refine Dict.ext_get? fun k => ?_
  rw [get?_within, get?_within, get?_within, scopedKey_scopedKey outer k named,
    Option.filter_filter]
  simp only [Bool.and_self]

theorem common_common : p.common.common = p.common := by
  refine Dict.ext_get? fun k => ?_
  rw [get?_common, get?_common]
  split
  · rfl
  · rw [Option.filter_filter]
    simp only [Bool.and_self]

theorem get?_combine (k : String) : (p.combine q).get? k = (q.get? k).or (p.get? k) :=
  Dict.get?_overlay p q

theorem combine_assoc (r : Parameters) : (p.combine q).combine r = p.combine (q.combine r) := by
  refine Dict.ext_get? fun k => ?_
  rw [get?_combine, get?_combine, get?_combine, get?_combine, Option.or_assoc]

theorem combine_empty : p.combine .empty = p := rfl

theorem empty_combine : Parameters.combine .empty p = p := by
  refine Dict.ext_get? fun k => ?_
  rw [get?_combine]
  exact Option.or_none

/-- What is not empty of a combination, under one key. -/
theorem filled?_combine_eq_iff (k : String) :
    (p.combine q).filled? k = (q.filled? k).or (p.filled? k) ↔ ¬q.Blanks p k := by
  rw [filled?, get?_combine, Blanks]
  cases replaced : q.get? k with
  | none => simp [filled?, replaced]
  | some v =>
      by_cases empty : v = ""
      · subst empty
        simp [filled?, replaced, Option.filter_some, eq_comm]
      · simp [filled?, replaced, Option.filter_some, empty]

theorem within_combine_iff (name : String) :
    (p.combine q).within name = (p.within name).combine (q.within name) ↔
      ∀ k, ¬q.Blanks p (scopedKey name k) := by
  have at_key (k : String) :
      ((p.combine q).within name).get? k = ((p.within name).combine (q.within name)).get? k ↔
        ¬q.Blanks p (scopedKey name k) := by
    rw [← filled?_combine_eq_iff, get?_combine, get?_within, get?_within, get?_within]
    rfl
  constructor
  · intro same k
    exact (at_key k).1 (congrArg (·.get? k) same)
  · intro unblanked
    exact Dict.ext_get? fun k => (at_key k).2 (unblanked k)

theorem common_combine_iff :
    (p.combine q).common = p.common.combine q.common ↔ ∀ k, '.' ∉ k.toList → ¬q.Blanks p k := by
  have at_key (k : String) :
      (p.combine q).common.get? k = (p.common.combine q.common).get? k ↔
        ('.' ∉ k.toList → ¬q.Blanks p k) := by
    rw [get?_combine, get?_common, get?_common, get?_common]
    by_cases dotted : '.' ∈ k.toList
    · simp [dotted]
    · rw [if_neg dotted, if_neg dotted, if_neg dotted, forall_prop_of_true dotted]
      exact filled?_combine_eq_iff p q k
  constructor
  · intro same k
    exact (at_key k).1 (congrArg (·.get? k) same)
  · intro unblanked
    exact Dict.ext_get? fun k => (at_key k).2 (unblanked k)

theorem not_blanks_of_filled {q : Parameters} (filled : ∀ k, q.get? k ≠ some "") (k : String) :
    ¬q.Blanks p k :=
  fun blanked => filled k blanked.1

/-- A section of a section is the section of the joined names, if the inner one is more than dots.
Taking the common values again changes nothing. Combining is associative, takes the second value
where there are two, and leaves parameters as they are when one side has none. If no value of the
second parameters is empty, sections and common values of a combination are the combined ones. -/
theorem sections_nest_and_combine (p q r : Parameters) (outer inner : String) :
    (bareName inner ≠ "" →
      (p.within outer).within inner = p.within (bareName outer ++ "." ++ inner)) ∧
    p.common.common = p.common ∧
    (p.combine q).combine r = p.combine (q.combine r) ∧
    (∀ k, (p.combine q).get? k = (q.get? k).or (p.get? k)) ∧
    (p.combine .empty = p ∧ Parameters.combine .empty p = p) ∧
    ((∀ k, q.get? k ≠ some "") →
      (p.combine q).within outer = (p.within outer).combine (q.within outer) ∧
      (p.combine q).common = p.common.combine q.common) := by
  refine ⟨p.within_within outer, p.common_common, p.combine_assoc q r, p.get?_combine q,
    ⟨p.combine_empty, p.empty_combine⟩, fun filled => ?_⟩
  have unblanked := p.not_blanks_of_filled filled
  exact ⟨(p.within_combine_iff q outer).2 fun k => unblanked _,
    (p.common_combine_iff q).2 fun k _ => unblanked k⟩

end TransportStack.Parameters
