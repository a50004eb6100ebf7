import Mathlib.Data.List.Nodup
import Mathlib.Data.List.Sort
import TransportStack.Dict

/-!
Dictionaries by their look-ups: what each operation finds under a key, and that two dictionaries
with the same look-ups are equal.
-/

namespace TransportStack.Dict

variable {α : Type}

/-- Where a key has one value at most, looking it up finds this value. -/
theorem lookup_eq_some_iff {es : List (String × α)} {k : String}
    (single : ∀ v v', (k, v) ∈ es → (k, v') ∈ es → v = v') {v : α} :
    es.lookup k = some v ↔ (k, v) ∈ es := by
  induction es with
  | nil => simp
  | cons e es ih =>
      obtain ⟨k', v'⟩ := e
      rw [List.lookup_cons]
      by_cases same : k = k'
      · subst same
        simp only [beq_self_eq_true, Option.some.injEq]
        constructor
        · rintro rfl
          exact List.mem_cons_self
        · exact fun h => single _ _ List.mem_cons_self h
      · have others := ih fun v v' h h' =>
          single v v' (List.mem_cons_of_mem _ h) (List.mem_cons_of_mem _ h')
        simp only [beq_eq_false_iff_ne.2 same, others, List.mem_cons, Prod.mk.injEq, same,
          false_and, false_or]

variable (d : Dict α) {k : String}

theorem single {v v' : α} (h : (k, v) ∈ d.entries) (h' : (k, v') ∈ d.entries) : v = v' := by
  have distinct : (d.entries.map Prod.fst).Nodup :=
    List.Pairwise.map _ (fun _ _ less => String.ne_of_lt less) d.ordered
  exact congrArg Prod.snd (List.inj_on_of_nodup_map distinct h h' rfl)

theorem get?_eq_some_iff {v : α} : d.get? k = some v ↔ (k, v) ∈ d.entries :=
  lookup_eq_some_iff fun _ _ => d.single

theorem ext_get? {d d' : Dict α} (same : ∀ k, d.get? k = d'.get? k) : d = d' := by
  have : Std.Irrefl fun a b : String × α => a.1 < b.1 := ⟨fun a => String.lt_irrefl a.1⟩
  have : Std.Antisymm fun a b : String × α => a.1 < b.1 :=
    ⟨fun a b less more => absurd (String.lt_trans less more) (String.lt_irrefl a.1)⟩
  have entries : d.entries = d'.entries := by
    refine d.ordered.eq_of_mem_iff d'.ordered fun e => ?_
    rw [← get?_eq_some_iff, ← get?_eq_some_iff, same]
  cases d
  cases entries
  rfl

theorem get?_filter (p : String → α → Bool) :
    (d.filter p).get? k = (d.get? k).filter (p k) := by
  ext v
  rw [get?_eq_some_iff, Option.filter_eq_some_iff, get?_eq_some_iff, filter, List.mem_filter]

theorem get?_erase (k' : String) : (d.erase k').get? k = if k = k' then none else d.get? k := by
  rw [erase, get?_filter]
  by_cases same : k = k'
  · subst same
    simp
  · cases d.get? k <;> simp [same]

theorem lookup_insertEntry (k' : String) (v : α) (es : List (String × α)) :
    (insertEntry k' v es).lookup k = if k = k' then some v else es.lookup k := by
  have front (es : List (String × α)) :
      ((k', v) :: es).lookup k = if k = k' then some v else es.lookup k := by
    by_cases same : k = k' <;> simp [List.lookup_cons, same, beq_eq_false_iff_ne.2]
  induction es with
  | nil => exact front []
  | cons e es ih =>
      obtain ⟨k₁, v₁⟩ := e
      unfold insertEntry
      split
      · exact front ((k₁, v₁) :: es)
      · rename_i least
        split
        · rename_i greater
          by_cases same : k = k₁
          · subst same
            simp [String.ne_of_lt greater]
          · simp only [List.lookup_cons, beq_eq_false_iff_ne.2 same, ih]
        · rename_i greatest
          have here : k' = k₁ := eq_of_not_lt least greatest
          rw [front, List.lookup_cons]
          by_cases same : k = k'
          · rw [if_pos same, if_pos same]
          · rw [if_neg same, if_neg same, beq_eq_false_iff_ne.2 (here ▸ same)]

theorem get?_insert (k' : String) (v : α) :
    (d.insert k' v).get? k = if k = k' then some v else d.get? k :=
  lookup_insertEntry k' v d.entries

/-- Of several values that are inserted under a key, the last one is found. -/
theorem get?_insertAll (es : List (String × α)) :
    (d.insertAll es).get? k = (es.reverse.lookup k).or (d.get? k) := by
  induction es generalizing d with
  | nil => rfl
  | cons e es ih =>
      change ((d.insert e.1 e.2).insertAll es).get? k = _
      have last : [e].lookup k = if k = e.1 then some e.2 else none := lookup_insertEntry e.1 e.2 []
      rw [ih, get?_insert, List.reverse_cons, List.lookup_append, Option.or_assoc, last]
      split <;> rfl

theorem get?_overlay (other : Dict α) :
    (d.overlay other).get? k = (other.get? k).or (d.get? k) := by
  have found : other.entries.reverse.lookup k = other.get? k := by
    ext v
    rw [get?_eq_some_iff, lookup_eq_some_iff, List.mem_reverse]
    exact fun _ _ h h' => other.single (List.mem_reverse.1 h) (List.mem_reverse.1 h')
  rw [overlay, get?_insertAll, found]

end TransportStack.Dict
