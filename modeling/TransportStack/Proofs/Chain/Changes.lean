import Mathlib.Data.List.Induction
import TransportStack.Catalogue
import TransportStack.Proofs.Dictionary

/-!
Catalogues that are changed while they are in use. What a name stands for in a category is what the
last change of this name there has left, and without one it is what it was before.
-/

namespace TransportStack.Catalogue

/-- What is done to one name in the registry of one category. -/
inductive Change (ι : Type)
  | register (category : Category) (name : String) (implementation : ι)
  | unregister (category : Category) (name : String)

variable {ι : Type}

namespace Change

def category : Change ι → Category
  | register c _ _ | unregister c _ => c

def name : Change ι → String
  | register _ name _ | unregister _ name => name

/-- What the name stands for after the change. -/
def leaves : Change ι → Option ι
  | register _ _ i => some i
  | unregister _ _ => none

abbrev Concerns (change : Change ι) (c : Category) (name : String) : Prop :=
  change.category = c ∧ change.name = name

def make (k : Catalogue ι) : Change ι → Catalogue ι
  | register c name i => k.register c name i
  | unregister c name => k.unregister c name

end Change

def after (k : Catalogue ι) (changes : List (Change ι)) : Catalogue ι :=
  changes.foldl Change.make k

/-- What a name stands for when changes have been made, told by the last one that concerns it. -/
def standing (k : Catalogue ι) (changes : List (Change ι)) (c : Category) (name : String) :
    Option ι :=
  match changes.reverse.find? fun change => change.Concerns c name with
  | some change => change.leaves
  | none => k.find? c name

variable (k : Catalogue ι)

theorem find?_modify (c c' : Category) (f : Registry ι → Registry ι) (name : String) :
    (k.modify c f).find? c' name =
      if c = c' then (f (k.registry c')).find? name else k.find? c' name := by
  by_cases same : c' = c
  · subst same
    simp only [modify, find?, if_true]
  · simp only [modify, find?, if_neg same, if_neg (Ne.symm same)]

theorem find?_make (change : Change ι) (c : Category) (name : String) :
    (change.make k).find? c name =
      if change.Concerns c name then change.leaves else k.find? c name := by
  rw [ite_and]
  cases change with
  | register c' name' i =>
      rw [Change.make, register, find?_modify]
      refine ite_congr rfl (fun _ => ?_) fun _ => rfl
      rw [Registry.register, Registry.find?, Registry.entries, Option.getD_some, Dict.get?_insert]
      exact ite_congr (propext eq_comm) (fun _ => rfl) fun _ => rfl
  | unregister c' name' =>
      rw [Change.make, unregister, find?_modify]
      refine ite_congr rfl (fun _ => ?_) fun _ => rfl
      rw [Registry.unregister, Registry.find?, Registry.entries, Option.getD_some, Dict.get?_erase]
      exact ite_congr (propext eq_comm) (fun _ => rfl) fun _ => rfl

theorem after_append (changes more : List (Change ι)) :
    k.after (changes ++ more) = (k.after changes).after more :=
  List.foldl_append

/-- The last change of a name decides what it stands for. -/
theorem find?_after (changes : List (Change ι)) (c : Category) (name : String) :
    (k.after changes).find? c name = k.standing changes c name := by
  induction changes using List.reverseRecOn with
  | nil => rfl
  | append_singleton changes last ih =>
      rw [after_append, after, List.foldl_cons, List.foldl_nil, find?_make, ih, standing, standing,
        List.reverse_append, List.reverse_singleton, List.singleton_append, List.find?_cons]
      by_cases concerned : last.Concerns c name
      · rw [if_pos concerned, decide_eq_true concerned]
      · rw [if_neg concerned, decide_eq_false concerned]

theorem find?_after_of_unconcerned {changes : List (Change ι)} {c : Category} {name : String}
    (spared : ∀ change ∈ changes, ¬change.Concerns c name) :
    (k.after changes).find? c name = k.find? c name := by
  have none_found : (changes.reverse.find? fun change => change.Concerns c name) = none := by
    rw [List.find?_eq_none]
    intro change h concerned
    exact spared change (List.mem_reverse.1 h) (of_decide_eq_true concerned)
  rw [find?_after, standing, none_found]

end TransportStack.Catalogue
