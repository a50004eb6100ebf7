import Mathlib.Data.List.Forall2
import TransportStack.Layer
import TransportStack.Proofs.Dictionary

/-!
What the layers of a resolved chain are: each one carries its name and the first implementation that
is found for it, and where neighbours are checked, all of them fit. The pass that resolves names from
the top has, when it comes to a name, counted the equal names above, and has filled all slots above.
-/

namespace TransportStack.Layer

variable {ι : Type}

/-- A layer that a name stands for. -/
def IsFor (k : Catalogue ι) (withSolutions : Bool) (name : String) (l : Layer ι) : Prop :=
  l.name = name ∧ k.resolve? withSolutions name = some (l.category, l.implementation)

theorem isFor_of_resolve? {k : Catalogue ι} {withSolutions : Bool} {name : String} {index : Nat}
    {l : Layer ι} (h : resolve? k withSolutions name index = some l) :
    IsFor k withSolutions name l := by
  obtain ⟨⟨c, i⟩, hr, rfl⟩ := Option.map_eq_some_iff.1 h
  exact ⟨rfl, hr⟩

section

/-- The counters after names have come up from the last to the first. -/
def counted (names : List String) : Dict Nat :=
  names.foldr (fun name d => d.insert name ((d.get? name).getD 0 + 1)) .empty

/-- The counter of a name is the number of its occurrences. -/
theorem get?_counted (names : List String) (name : String) :
    ((counted names).get? name).getD 0 = names.count name := by
  induction names with
  | nil => rfl
  | cons n names ih =>
      change (((counted names).insert n (((counted names).get? n).getD 0 + 1)).get? name).getD 0 = _
      rw [Dict.get?_insert, List.count_cons]
      by_cases same : name = n
      · subst same
        simp [ih]
      · simp [same, Ne.symm same, ih]

variable (k : Catalogue ι) (withSolutions : Bool)

/-- The slots after the pass through the upper part of a chain, which starts at a place. -/
def passed (place : Nat) (names : List String) : Except TransportError (Slots ι) :=
  (names.zipIdx place).reverse.foldlM
    (fun (s : Slots ι) (name, place) => s.fill k withSolutions name place)
    (.vacant (place + names.length))

/-- The slots of which those above a place are filled. -/
def Slots.above (place : Nat) (names : List String) (layers : List (Layer ι)) : Slots ι :=
  ⟨counted names, List.replicate place none ++ layers.map some⟩

theorem Slots.fill_above (place : Nat) (name : String) (names : List String)
    (layers : List (Layer ι)) :
    (Slots.above (place + 1) names layers).fill k withSolutions name place =
      match resolve? k withSolutions name (names.count name) with
      | some l => .ok (.above place (name :: names) (l :: layers))
      | none => .error (.schemeNotSupported name) := by
  have filled (l : Layer ι) : (List.replicate (place + 1) none ++ layers.map some).set place
      (some l) = List.replicate place none ++ (l :: layers).map some := by
    rw [List.replicate_succ', List.append_assoc, List.set_append_right _ _ (by simp)]
    simp
  rw [fill, above, get?_counted]
  cases resolve? k withSolutions name (names.count name) with
  | none => rfl
  | some l =>
      dsimp only
      rw [filled, ← get?_counted names name]
      rfl

theorem passed_cons (place : Nat) (name : String) (names : List String) :
    passed k withSolutions place (name :: names) =
      passed k withSolutions (place + 1) names >>= fun s => s.fill k withSolutions name place := by
  rw [passed, passed, List.zipIdx_cons, List.reverse_cons, List.foldlM_append, List.length_cons,
    Nat.add_assoc, Nat.add_comm 1]
  congr 1
  funext s
  exact bind_pure _

theorem resolveNames_eq_passed (names : List String) :
    resolveNames k withSolutions names =
      (fun s => s.layers.filterMap id) <$> passed k withSolutions 0 names := by
  rw [passed, Nat.zero_add, map_eq_pure_bind]
  rfl

theorem Slots.collect_above (names : List String) (layers : List (Layer ι)) :
    (Slots.above 0 names layers).layers.filterMap id = layers := by
  change ([] ++ layers.map some).filterMap id = layers
  rw [List.nil_append, List.filterMap_map]
  exact List.filterMap_some

private theorem resolveNames_cons_of_passed (name : String) {names : List String}
    (upper : passed k withSolutions 1 names =
      Slots.above 1 names <$> resolveNames k withSolutions names) :
    resolveNames k withSolutions (name :: names) =
      resolveNames k withSolutions names >>= fun layers =>
        match resolve? k withSolutions name (names.count name) with
        | some l => .ok (l :: layers)
        | none => .error (.schemeNotSupported name) := by
  rw [resolveNames_eq_passed, passed_cons, upper]
  cases resolveNames k withSolutions names with
  | error e => rfl
  | ok layers =>
      change (fun s : Slots ι => s.layers.filterMap id) <$>
        (Slots.above 1 names layers).fill k withSolutions name 0 = _
      rw [Slots.fill_above]
      cases resolve? k withSolutions name (names.count name) with
      | none => rfl
      | some l => exact congrArg Except.ok (Slots.collect_above (name :: names) (l :: layers))

/-- Wherever a pass starts, it fills its slots with the layers of its names. -/
theorem passed_eq (place : Nat) (names : List String) :
    passed k withSolutions place names =
      Slots.above place names <$> resolveNames k withSolutions names := by
  induction names generalizing place with
  | nil =>
      change Except.ok (Slots.vacant (place + 0)) = .ok (Slots.above place [] [])
      rw [Slots.above, List.map_nil, List.append_nil]
      rfl
  | cons name names ih =>
      rw [resolveNames_cons_of_passed k withSolutions name (ih 1), passed_cons, ih]
      cases resolveNames k withSolutions names with
      | error e => rfl
      | ok layers =>
          change (Slots.above (place + 1) names layers).fill k withSolutions name place = _
          rw [Slots.fill_above]
          simp only [bind, Except.bind]
          cases resolve? k withSolutions name (names.count name) <;> rfl

/-- A name is resolved after those above it, and its index is the number of equal ones among them. -/
theorem resolveNames_cons (name : String) (above : List String) :
    resolveNames k withSolutions (name :: above) =
      resolveNames k withSolutions above >>= fun layers =>
        match resolve? k withSolutions name (above.count name) with
        | some l => .ok (l :: layers)
        | none => .error (.schemeNotSupported name) :=
  resolveNames_cons_of_passed k withSolutions name (passed_eq k withSolutions 1 above)

end

theorem isFor_of_resolveNames {k : Catalogue ι} {withSolutions : Bool} {names : List String}
    {layers : List (Layer ι)} (h : resolveNames k withSolutions names = .ok layers) :
    List.Forall₂ (IsFor k withSolutions) names layers := by
  induction names generalizing layers with
  | nil => cases h; exact .nil
  | cons name above ih =>
      rw [resolveNames_cons] at h
      cases hr : resolveNames k withSolutions above with
      | error e => rw [hr] at h; cases h
      | ok ls =>
          cases found : resolve? k withSolutions name (above.count name) with
          | none => simp only [hr, found] at h; cases h
          | some l =>
              simp only [hr, found] at h
              cases h
              exact .cons (isFor_of_resolve? found) (ih hr)

theorem isFor_of_mem {k : Catalogue ι} {withSolutions : Bool} {names : List String}
    {layers : List (Layer ι)} (h : List.Forall₂ (IsFor k withSolutions) names layers)
    {l : Layer ι} (hl : l ∈ layers) : l.name ∈ names ∧ IsFor k withSolutions l.name l := by
  induction h with
  | nil => cases hl
  | cons first _ ih =>
      obtain rfl | hl := List.mem_cons.1 hl
      · rw [first.1]
        exact ⟨List.mem_cons_self, first⟩
      · exact ⟨List.mem_cons_of_mem _ (ih hl).1, (ih hl).2⟩

theorem resolveNames_of_found {k : Catalogue ι} {withSolutions : Bool} {names : List String}
    (h : ∀ name ∈ names, (k.resolve? withSolutions name).isSome) :
    ∃ layers, resolveNames k withSolutions names = .ok layers := by
  induction names with
  | nil => exact ⟨[], rfl⟩
  | cons name above ih =>
      obtain ⟨ls, hls⟩ := ih fun n hn => h n (List.mem_cons_of_mem _ hn)
      obtain ⟨r, hr⟩ := Option.isSome_iff_exists.1 (h name List.mem_cons_self)
      refine ⟨⟨name, r.1, r.2, above.count name⟩ :: ls, ?_⟩
      rw [resolveNames_cons, hls]
      simp only [resolve?, hr, Option.map_some]
      rfl

/-- A list of names is resolved when it is not empty, no name is, all can be found, and neighbours
fit where that is asked for. -/
theorem resolve_eq_ok_iff {k : Catalogue ι} {withSolutions enforce : Bool} {names : List String}
    {layers : List (Layer ι)} :
    resolve k withSolutions enforce names = .ok layers ↔
      names ≠ [] ∧ "" ∉ names ∧ resolveNames k withSolutions names = .ok layers ∧
        (enforce = true → checkNeighbours layers = .ok ()) := by
  unfold resolve
  by_cases empty : (names.isEmpty || names.any (· == "")) = true
  · rw [if_pos empty]
    simp only [Bool.or_eq_true, List.isEmpty_iff, List.any_eq_true, beq_iff_eq, exists_eq_right]
      at empty
    refine ⟨fun h => (nomatch h), fun h => ?_⟩
    exact absurd empty (not_or.2 ⟨h.1, h.2.1⟩)
  · rw [if_neg empty]
    simp only [Bool.or_eq_true, List.isEmpty_iff, List.any_eq_true, beq_iff_eq, exists_eq_right,
      not_or] at empty
    simp only [ne_eq, empty, not_false_eq_true, true_and]
    cases hr : resolveNames k withSolutions names with
    | error e => simp [bind, Except.bind]
    | ok ls =>
        cases enforce with
        | false => simp [bind, Except.bind, pure, Except.pure]
        | true =>
            cases hc : checkNeighbours ls with
            | error e =>
                simp only [bind, Except.bind, hc, if_true, reduceCtorEq, Except.ok.injEq, false_iff,
                  not_and]
                rintro rfl
                simp [hc]
            | ok u =>
                simp only [bind, Except.bind, hc, if_true, pure, Except.pure, Except.ok.injEq,
                  forall_const]
                constructor
                · rintro rfl
                  exact ⟨rfl, hc⟩
                · exact fun h => h.1

end TransportStack.Layer
