import Mathlib.Data.List.Chain
import TransportStack.Proofs.Chain.Resolved
import TransportStack.Proofs.Text.Pieces

/-!
Which lists of names are resolved, to which layers, and what is reported for all others. A name
means the eligible category that is tried first among those that have it. Of several faults an empty
name comes before an unknown one, and an unknown one before layers that do not fit; of several
unknown names the uppermost is reported, and of several pairs the lowest.
-/

namespace TransportStack

theorem Scheme.join_eq_intercalate (names : List String) : join names = "+".intercalate names := by
  rw [← String.toList_inj, String.toList_intercalate, join, Text.joinAt, separator,
    Text.joinPieces_eq_intercalate, String.toList_ofList]
  rfl

namespace Catalogue

variable {ι : Type} {k : Catalogue ι} {withSolutions : Bool} {name : String}

/-- The place of a category in the order of trial. -/
def rank : Category → Nat
  | .addrSolution => 0
  | .streamSolution => 1
  | .packetSolution => 2
  | .packetObfuscator => 3
  | .streamObfuscator => 4
  | .packetAdapter => 5
  | .streamAdapter => 6
  | .streamConn => 7
  | .packetConn => 8

/-- Solutions count only when they are enabled. -/
def Eligible (withSolutions : Bool) (c : Category) : Prop :=
  c ∈ solutions → withSolutions = true

def Registers (k : Catalogue ι) (withSolutions : Bool) (name : String) : Prop :=
  ∃ c, Eligible withSolutions c ∧ (k.find? c name).isSome

/-- A name means an implementation in the eligible category that comes first among those that have
the name. -/
structure Means (k : Catalogue ι) (withSolutions : Bool) (name : String) (c : Category) (i : ι) :
    Prop where
  eligible : Eligible withSolutions c
  found : k.find? c name = some i
  first : ∀ c', Eligible withSolutions c' → (k.find? c' name).isSome → rank c ≤ rank c'

theorem mem_eligible_iff (c : Category) :
    c ∈ eligible withSolutions ↔ Eligible withSolutions c := by
  cases withSolutions <;> cases c <;> simp [Eligible, eligible, solutions, plainCategories]

theorem eligible_ordered (withSolutions : Bool) :
    (eligible withSolutions).Pairwise fun c c' => rank c < rank c' := by
  cases withSolutions <;> decide

theorem resolve?_eq_some_iff {c : Category} {i : ι} :
    k.resolve? withSolutions name = some (c, i) ↔ k.Means withSolutions name c i := by
  have ordered := eligible_ordered withSolutions
  rw [resolve?, List.findSome?_eq_some_iff]
  constructor
  · rintro ⟨before, c', after, split, hit, missed⟩
    obtain ⟨i', found, same⟩ := Option.map_eq_some_iff.1 hit
    cases same
    rw [split, List.pairwise_append, List.pairwise_cons] at ordered
    refine ⟨?_, found, fun c' eligible registered => ?_⟩
    · rw [← mem_eligible_iff, split]
      exact List.mem_append_right _ List.mem_cons_self
    · rw [← mem_eligible_iff, split] at eligible
      obtain earlier | later := List.mem_append.1 eligible
      · rw [Option.map_eq_none_iff.1 (missed c' earlier)] at registered
        cases registered
      · obtain rfl | later := List.mem_cons.1 later
        · exact Nat.le_refl _
        · exact Nat.le_of_lt (ordered.2.1.1 c' later)
  · intro means
    obtain ⟨before, after, split⟩ := List.append_of_mem ((mem_eligible_iff c).2 means.eligible)
    refine ⟨before, c, after, split, by rw [means.found]; rfl, fun c' earlier => ?_⟩
    have eligible : Eligible withSolutions c' := by
      rw [← mem_eligible_iff, split]
      exact List.mem_append_left _ earlier
    rw [split, List.pairwise_append] at ordered
    have less := ordered.2.2 c' earlier c List.mem_cons_self
    rw [Option.map_eq_none_iff, ← Option.not_isSome_iff_eq_none]
    exact fun registered => Nat.not_le_of_lt less (means.first c' eligible registered)

theorem resolve?_eq_none_iff :
    k.resolve? withSolutions name = none ↔ ¬k.Registers withSolutions name := by
  simp only [resolve?, List.findSome?_eq_none_iff, mem_eligible_iff, Option.map_eq_none_iff,
    Registers, not_exists, not_and, Option.not_isSome_iff_eq_none]

theorem registers_iff :
    k.Registers withSolutions name ↔ ∃ c i, k.Means withSolutions name c i := by
  constructor
  · intro registers
    have found := mt resolve?_eq_none_iff.1 (not_not_intro registers)
    obtain ⟨⟨c, i⟩, found⟩ := Option.ne_none_iff_exists'.1 found
    exact ⟨c, i, resolve?_eq_some_iff.1 found⟩
  · rintro ⟨c, i, means⟩
    exact ⟨c, means.eligible, by rw [means.found]; rfl⟩

theorem Means.unique {c c' : Category} {i i' : ι} (h : k.Means withSolutions name c i)
    (h' : k.Means withSolutions name c' i') : c = c' ∧ i = i' := by
  have same := (resolve?_eq_some_iff.2 h).symm.trans (resolve?_eq_some_iff.2 h')
  exact Prod.mk.inj (Option.some.inj same)

end Catalogue

namespace Layer

variable {ι : Type} {k : Catalogue ι} {withSolutions enforce : Bool} {names : List String}
  {layers : List (Layer ι)}

/-- The layers that names stand for: one for each name, which has the name, what the name means, and
as its index the number of equal names further up. -/
def Resolves (k : Catalogue ι) (withSolutions : Bool) (names : List String)
    (layers : List (Layer ι)) : Prop :=
  layers.length = names.length ∧ ∀ i name, names[i]? = some name → ∃ l, layers[i]? = some l ∧
    l.name = name ∧ k.Means withSolutions name l.category l.implementation ∧
    l.index = (names.drop (i + 1)).count name

def Fits (below above : Layer ι) : Prop := above.isCompatibleWith (some below) = true

theorem resolves_cons_iff {name : String} {above : List String} :
    Resolves k withSolutions (name :: above) layers ↔ ∃ l ls, layers = l :: ls ∧
      (l.name = name ∧ k.Means withSolutions name l.category l.implementation ∧
        l.index = above.count name) ∧ Resolves k withSolutions above ls := by
  constructor
  · rintro ⟨length, each⟩
    obtain ⟨l, first, own⟩ := each 0 name rfl
    cases layers with
    | nil => cases first
    | cons l' ls =>
        cases first
        exact ⟨l, ls, rfl, own, Nat.succ.inj length, fun i => each (i + 1)⟩
  · rintro ⟨l, ls, rfl, own, length, each⟩
    refine ⟨congrArg Nat.succ length, fun i n hn => ?_⟩
    cases i with
    | zero =>
        cases hn
        exact ⟨l, rfl, own⟩
    | succ i => exact each i n hn

theorem resolve?_eq_some_iff {name : String} {index : Nat} {l : Layer ι} :
    resolve? k withSolutions name index = some l ↔
      l.name = name ∧ k.Means withSolutions name l.category l.implementation ∧ l.index = index := by
  rw [resolve?, Option.map_eq_some_iff]
  constructor
  · rintro ⟨⟨c, i⟩, found, rfl⟩
    exact ⟨rfl, Catalogue.resolve?_eq_some_iff.1 found, rfl⟩
  · rintro ⟨rfl, means, rfl⟩
    exact ⟨_, Catalogue.resolve?_eq_some_iff.2 means, rfl⟩

theorem resolve?_eq_none_iff {name : String} (index : Nat) :
    resolve? k withSolutions name index = none ↔ ¬k.Registers withSolutions name := by
  rw [resolve?, Option.map_eq_none_iff, Catalogue.resolve?_eq_none_iff]

theorem resolveNames_eq_ok_iff :
    resolveNames k withSolutions names = .ok layers ↔ Resolves k withSolutions names layers := by
  induction names generalizing layers with
  | nil =>
      have none_given : Resolves k withSolutions [] layers ↔ layers = [] := by
        simp [Resolves]
      have resolved : resolveNames k withSolutions [] = .ok [] := rfl
      rw [none_given, resolved, Except.ok.injEq, eq_comm]
  | cons name above ih =>
      rw [resolves_cons_iff]
      simp only [← ih, resolveNames_cons]
      cases resolveNames k withSolutions above with
      | error e => simp [bind, Except.bind]
      | ok ls =>
          simp only [bind, Except.bind, ← resolve?_eq_some_iff]
          cases resolve? k withSolutions name (above.count name) with
          | none => simp
          | some l => simp [eq_comm]

theorem exists_resolveNames_iff :
    (∃ layers, resolveNames k withSolutions names = .ok layers) ↔
      ∀ name ∈ names, k.Registers withSolutions name := by
  constructor
  · rintro ⟨layers, found⟩ name named
    obtain ⟨i, hi⟩ := List.mem_iff_getElem?.1 named
    obtain ⟨l, -, -, means, -⟩ := (resolveNames_eq_ok_iff.1 found).2 i name hi
    exact Catalogue.registers_iff.2 ⟨_, _, means⟩
  · intro registered
    refine resolveNames_of_found fun name named => ?_
    obtain ⟨c, i, means⟩ := Catalogue.registers_iff.1 (registered name named)
    rw [Catalogue.resolve?_eq_some_iff.2 means]
    rfl

/-- The uppermost unknown name is reported. -/
theorem resolveNames_eq_error_iff {e : TransportError} :
    resolveNames k withSolutions names = .error e ↔ ∃ below name above,
      names = below ++ name :: above ∧ ¬k.Registers withSolutions name ∧
      (∀ n ∈ above, k.Registers withSolutions n) ∧ e = .schemeNotSupported name := by
  induction names with
  | nil =>
      have resolved : resolveNames k withSolutions [] = .ok [] := rfl
      simp [resolved]
  | cons name above ih =>
      have first : resolveNames k withSolutions (name :: above) = .error e ↔
          resolveNames k withSolutions above = .error e ∨
            (∃ ls, resolveNames k withSolutions above = .ok ls) ∧
              ¬k.Registers withSolutions name ∧ e = .schemeNotSupported name := by
        rw [← resolve?_eq_none_iff (above.count name), resolveNames_cons]
        cases resolveNames k withSolutions above with
        | error e' => simp [bind, Except.bind]
        | ok ls =>
            cases resolve? k withSolutions name (above.count name) with
            | none => simp [bind, Except.bind, eq_comm]
            | some l => simp [bind, Except.bind]
      rw [first, ih, exists_resolveNames_iff]
      constructor
      · rintro (⟨below, n, above, rfl, fault⟩ | ⟨known, unknown, rfl⟩)
        · exact ⟨name :: below, n, above, rfl, fault⟩
        · exact ⟨[], name, above, rfl, unknown, known, rfl⟩
      · rintro ⟨_ | ⟨_, below⟩, n, above, split, unknown, known, rfl⟩
        · cases split
          exact .inr ⟨known, unknown, rfl⟩
        · cases split
          exact .inl ⟨below, n, above, rfl, unknown, known, rfl⟩

theorem checkNeighbours_eq_ok_iff :
    checkNeighbours layers = .ok () ↔ layers.IsChain Fits := by
  induction layers with
  | nil => simp [checkNeighbours]
  | cons below rest ih =>
      cases rest with
      | nil => simp [checkNeighbours]
      | cons above rest =>
          rw [List.isChain_cons_cons, ← ih, checkNeighbours, Fits]
          split
          · rename_i fits
            simp only [fits, true_and]
          · rename_i misfit
            simp only [misfit, reduceCtorEq, false_and]

/-- The lowest pair that does not fit is reported. -/
theorem checkNeighbours_eq_error_iff {e : TransportError} :
    checkNeighbours layers = .error e ↔ ∃ lower below above upper,
      layers = lower ++ below :: above :: upper ∧ (lower ++ [below]).IsChain Fits ∧
      ¬Fits below above ∧ e = .incompatibleLayers above.render below.render := by
  induction layers with
  | nil => simp [checkNeighbours]
  | cons bottom rest ih =>
      cases rest with
      | nil =>
          refine ⟨fun h => (nomatch h), ?_⟩
          rintro ⟨_ | ⟨_, _ | ⟨_, _⟩⟩, below, above, upper, split, -⟩ <;> cases split
      | cons next rest =>
          rw [checkNeighbours]
          split
          · rename_i fits
            rw [ih]
            constructor
            · rintro ⟨lower, below, above, upper, split, chain, fault⟩
              refine ⟨bottom :: lower, below, above, upper, congrArg _ split, ?_, fault⟩
              refine List.isChain_cons.2 ⟨fun l first => ?_, chain⟩
              have same : l = next := by
                cases lower <;> cases split <;> exact (Option.some.inj first).symm
              exact same ▸ fits
            · rintro ⟨_ | ⟨_, lower⟩, below, above, upper, split, chain, misfit, rfl⟩
              · cases split
                exact absurd fits misfit
              · exact ⟨lower, below, above, upper, (List.cons.inj split).2, chain.tail, misfit, rfl⟩
          · rename_i misfit
            rw [Except.error.injEq]
            constructor
            · rintro rfl
              exact ⟨[], bottom, next, rest, rfl, .singleton _, misfit, rfl⟩
            · rintro ⟨_ | ⟨_, lower⟩, below, above, upper, split, chain, -, rfl⟩
              · cases split
                rfl
              · obtain ⟨rfl, split⟩ := List.cons.inj split
                have first := (List.isChain_cons.1 chain).1 next
                cases lower <;> cases split <;> exact absurd (first rfl) misfit

def NamesFit (k : Catalogue ι) (withSolutions : Bool) (below above : String) : Prop :=
  ∀ c i c' i', k.Means withSolutions below c i → k.Means withSolutions above c' i' →
    c'.mask.acceptsBelow c.mask = true

theorem Resolves.isChain_iff (h : Resolves k withSolutions names layers) :
    layers.IsChain Fits ↔ names.IsChain (NamesFit k withSolutions) := by
  induction names generalizing layers with
  | nil =>
      cases List.eq_nil_of_length_eq_zero h.1
      simp
  | cons name rest ih =>
      obtain ⟨below, ls, rfl, ⟨-, means, -⟩, resolves⟩ := resolves_cons_iff.1 h
      cases rest with
      | nil =>
          cases List.eq_nil_of_length_eq_zero resolves.1
          simp
      | cons name' rest =>
          have others := ih resolves
          obtain ⟨above, ls, rfl, ⟨-, means', -⟩, -⟩ := resolves_cons_iff.1 resolves
          rw [List.isChain_cons_cons, List.isChain_cons_cons, others]
          refine and_congr_left fun _ => ⟨fun fits c i c' i' h h' => ?_, fun fits => ?_⟩
          · obtain ⟨rfl, -⟩ := means.unique h
            obtain ⟨rfl, -⟩ := means'.unique h'
            exact fits
          · exact fits _ _ _ _ means means'

def Named (names : List String) : Prop := names ≠ [] ∧ "" ∉ names

theorem resolve_of_not_named (h : ¬Named names) :
    resolve k withSolutions enforce names = .error (.schemeNotSupported (Scheme.join names)) := by
  refine if_pos ?_
  simpa [Named, Classical.or_iff_not_imp_left] using h

theorem resolve_eq_error_iff_of_named (h : Named names) {e : TransportError} :
    resolve k withSolutions enforce names = .error e ↔
      resolveNames k withSolutions names = .error e ∨ enforce = true ∧
        ∃ layers, resolveNames k withSolutions names = .ok layers ∧
          checkNeighbours layers = .error e := by
  have usable : (names.isEmpty || names.any (· == "")) = false := by
    obtain ⟨some_names, no_empty⟩ := h
    simp only [Bool.or_eq_false_iff, List.isEmpty_eq_false_iff, List.any_eq_false, beq_iff_eq]
    exact ⟨some_names, fun name named same => no_empty (same ▸ named)⟩
  rw [resolve, usable, if_neg Bool.false_ne_true]
  cases resolveNames k withSolutions names with
  | error e' => simp [bind, Except.bind]
  | ok layers =>
      cases enforce with
      | false => simp [bind, Except.bind, pure, Except.pure]
      | true =>
          cases fault : checkNeighbours layers <;>
            simp [bind, Except.bind, pure, Except.pure, fault]

/-- Names are resolved exactly when there are some, none is empty, all are registered and, where
that is asked for, neighbours fit; the layers are those that the names stand for. An empty list or
name fails with all names, an unknown name with the uppermost one, and layers that do not fit with
the lowest pair, in this order. -/
theorem resolve_exactly (k : Catalogue ι) (withSolutions enforce : Bool) (names : List String) :
    let resolved := resolve k withSolutions enforce names
    ((∃ layers, resolved = .ok layers) ↔
        Named names ∧ (∀ name ∈ names, k.Registers withSolutions name) ∧
        (enforce = true → names.IsChain (NamesFit k withSolutions))) ∧
      (∀ layers, resolved = .ok layers → Resolves k withSolutions names layers) ∧
      ∀ e, resolved = .error e ↔
        ¬Named names ∧ e = .schemeNotSupported ("+".intercalate names) ∨
        Named names ∧ (∃ below name above, names = below ++ name :: above ∧
          ¬k.Registers withSolutions name ∧ (∀ n ∈ above, k.Registers withSolutions n) ∧
          e = .schemeNotSupported name) ∨
        Named names ∧ enforce = true ∧ ∃ lower below above upper,
          Resolves k withSolutions names (lower ++ below :: above :: upper) ∧
          (lower ++ [below]).IsChain Fits ∧ ¬Fits below above ∧
          e = .incompatibleLayers above.render below.render := by
  intro resolved
  have ok_iff (layers : List (Layer ι)) : resolved = .ok layers ↔ Named names ∧
      Resolves k withSolutions names layers ∧ (enforce = true → layers.IsChain Fits) := by
    rw [resolve_eq_ok_iff, resolveNames_eq_ok_iff, checkNeighbours_eq_ok_iff, Named, and_assoc]
  refine ⟨⟨?_, ?_⟩, fun layers found => ((ok_iff layers).1 found).2.1, fun e => ?_⟩
  · rintro ⟨layers, found⟩
    obtain ⟨named, resolves, fit⟩ := (ok_iff layers).1 found
    refine ⟨named, exists_resolveNames_iff.1 ⟨layers, resolveNames_eq_ok_iff.2 resolves⟩, ?_⟩
    rw [← resolves.isChain_iff]
    exact fit
  · rintro ⟨named, registered, fit⟩
    obtain ⟨layers, found⟩ := exists_resolveNames_iff.2 registered
    have resolves := resolveNames_eq_ok_iff.1 found
    rw [← resolves.isChain_iff] at fit
    exact ⟨layers, (ok_iff layers).2 ⟨named, resolves, fit⟩⟩
  · by_cases named : Named names
    · simp only [named, not_true, false_and, true_and, false_or]
      rw [← resolveNames_eq_error_iff, show (resolved = .error e ↔ _) from
        resolve_eq_error_iff_of_named named]
      refine or_congr_right (and_congr_right fun _ => ?_)
      simp only [resolveNames_eq_ok_iff, checkNeighbours_eq_error_iff]
      constructor
      · rintro ⟨_, resolves, lower, below, above, upper, rfl, fault⟩
        exact ⟨lower, below, above, upper, resolves, fault⟩
      · rintro ⟨lower, below, above, upper, resolves, fault⟩
        exact ⟨_, resolves, lower, below, above, upper, rfl, fault⟩
    · simp only [named, not_false_eq_true, false_and, true_and, or_false]
      rw [← Scheme.join_eq_intercalate, show resolved = _ from resolve_of_not_named named,
        Except.error.injEq, eq_comm]

end Layer

end TransportStack
