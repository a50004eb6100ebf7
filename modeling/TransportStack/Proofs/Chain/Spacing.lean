import Mathlib.Data.List.Forall2
import TransportStack.Chain
import TransportStack.Proofs.Text.Pieces
import TransportStack.Proofs.Text.Trimming

/-!
Splitting a scheme undoes joining tokens, and a scheme stands for its tokens: blanks around them do
not matter, so they do not matter to the chain either, or to the failure to make one.
-/

namespace TransportStack.Scheme

open TransportStack.Text

/-- A token is whole and has no blank at either end. It may be empty. -/
structure IsToken (name : String) : Prop where
  whole : separator ∉ name.toList
  trimmed : IsTrimmed name.toList

/-- The same tokens one by one, with blanks around them. -/
abbrev AllSpaced (tokens spaced : List String) : Prop :=
  List.Forall₂ (fun t s => Spaced t.toList s.toList) tokens spaced

/-- Two schemes that have the same tokens, up to the blanks around them. -/
def SameTokens (a b : String) : Prop :=
  ∃ tokens as bs : List String, (∀ t ∈ tokens, IsToken t) ∧ a = join as ∧ b = join bs ∧
    AllSpaced tokens as ∧ AllSpaced tokens bs

theorem join_eq (names : List String) :
    join names = String.ofList (joinPieces separator (names.map String.toList)) := rfl

theorem split_ne_nil (scheme : String) : split scheme ≠ [] := by
  intro nothing
  have length : (pieces separator scheme.toList).length = _ := length_pieces scheme.toList
  rw [List.map_eq_nil_iff.1 nothing] at length
  cases length

theorem length_split (scheme : String) :
    (split scheme).length = scheme.toList.count separator + 1 := by
  rw [split, List.length_map, length_pieces]

theorem isToken_of_mem_split {scheme name : String} (h : name ∈ split scheme) : IsToken name := by
  obtain ⟨p, hp, rfl⟩ := List.mem_map.1 h
  refine ⟨?_, ?_⟩
  · intro inside
    obtain ⟨before, after, same, -⟩ := spaced_trim p
    apply notMem_of_mem_pieces hp
    rw [String.toList_ofList] at inside
    rw [same]
    exact List.mem_append_left _ (List.mem_append_right _ inside)
  · rw [String.toList_ofList]
    exact isTrimmed_trim p

section

variable {tokens spaced : List String} (tokened : ∀ t ∈ tokens, IsToken t)
  (blanks : AllSpaced tokens spaced)

include tokened blanks

theorem whole_of_spaced : ∀ s ∈ spaced, separator ∉ s.toList := by
  have unblank : isBlank separator = false := by decide
  induction blanks with
  | nil => exact fun _ h => absurd h List.not_mem_nil
  | @cons t s tokens spaced around rest ih =>
      intro s' hs inside
      obtain rfl | hs := List.mem_cons.1 hs
      · obtain own | blank := around.mem inside
        · exact (tokened t List.mem_cons_self).whole own
        · cases unblank.symm.trans blank
      · exact ih (fun t ht => tokened t (List.mem_cons_of_mem _ ht)) s' hs inside

theorem map_trim_of_spaced : (spaced.map fun s => String.ofList (trim s.toList)) = tokens := by
  induction blanks with
  | nil => rfl
  | @cons t s tokens spaced around rest ih =>
      have first := (tokened t List.mem_cons_self).trimmed.trim_eq
      rw [List.map_cons, around.trim_eq, first, String.ofList_toList,
        ih fun t ht => tokened t (List.mem_cons_of_mem _ ht)]

/-- Splitting finds the tokens again, whatever blanks there are around them. -/
theorem split_join_of_spaced (joined : tokens ≠ []) : split (join spaced) = tokens := by
  have pieced : pieces separator (joinPieces separator (spaced.map String.toList)) =
      spaced.map String.toList := by
    refine pieces_joinPieces ?_ ?_
    · rw [ne_eq, List.map_eq_nil_iff]
      rintro rfl
      cases blanks
      exact joined rfl
    · intro p hp
      obtain ⟨s, hs, rfl⟩ := List.mem_map.1 hp
      exact whole_of_spaced tokened blanks s hs
  rw [split, join_eq, String.toList_ofList, pieced, List.map_map]
  exact map_trim_of_spaced tokened blanks

end

theorem split_join {names : List String} (joined : names ≠ [])
    (tokened : ∀ name ∈ names, IsToken name) : split (join names) = names :=
  split_join_of_spaced tokened (List.forall₂_same.2 fun t _ => spaced_refl t.toList) joined

/-- A scheme is the joined pieces that its tokens were trimmed from. -/
theorem exists_spaced_split (scheme : String) :
    ∃ spaced, scheme = join spaced ∧ AllSpaced (split scheme) spaced := by
  refine ⟨splitAt separator scheme, ?_, ?_⟩
  · rw [join_eq, splitAt, List.map_map, ← String.toList_inj, String.toList_ofList]
    have same : String.toList ∘ String.ofList = id := funext fun _ => String.toList_ofList
    rw [same, List.map_id, joinPieces_pieces]
  · rw [split, splitAt, AllSpaced, List.forall₂_map_left_iff, List.forall₂_map_right_iff,
      List.forall₂_same]
    intro p _
    rw [String.toList_ofList, String.toList_ofList]
    exact spaced_trim p

/-- Schemes have the same tokens exactly when splitting tells so. -/
theorem sameTokens_iff {a b : String} : SameTokens a b ↔ split a = split b := by
  constructor
  · rintro ⟨tokens, as, bs, tokened, rfl, rfl, first, second⟩
    by_cases joined : tokens = []
    · subst joined
      cases first
      cases second
      rfl
    · rw [split_join_of_spaced tokened first joined, split_join_of_spaced tokened second joined]
  · intro same
    obtain ⟨as, ha, first⟩ := exists_spaced_split a
    obtain ⟨bs, hb, second⟩ := exists_spaced_split b
    rw [← same] at second
    exact ⟨split a, as, bs, fun t => isToken_of_mem_split, ha, hb, first, second⟩

/-- Splitting undoes joining. Of any scheme it makes tokens, one more than there are separators, and
joining these and splitting again makes the same. Schemes that have the same tokens up to blanks, and
no others, are split into the same, so they make the same chain or fail alike. -/
theorem splitting_undoes_joining :
    (∀ names, names ≠ [] → (∀ name ∈ names, IsToken name) → split (join names) = names) ∧
    (∀ scheme, (∀ name ∈ split scheme, IsToken name) ∧
      (split scheme).length = scheme.toList.count separator + 1 ∧
      split (join (split scheme)) = split scheme) ∧
    ∀ a b, (SameTokens a b ↔ split a = split b) ∧
      (SameTokens a b → ∀ (ι : Type) (k : Catalogue ι) (o : ChainOptions),
        Chain.ofScheme k a o = Chain.ofScheme k b o) := by
  refine ⟨fun _ => split_join, fun scheme => ?_, fun a b => ⟨sameTokens_iff, ?_⟩⟩
  · have tokened : ∀ name ∈ split scheme, IsToken name := fun _ => isToken_of_mem_split
    exact ⟨tokened, length_split scheme, split_join (split_ne_nil scheme) tokened⟩
  · intro alike ι k o
    rw [Chain.ofScheme, Chain.ofScheme, sameTokens_iff.1 alike]

/-- Pieces of blanks alone, and empty ones at the ends, are empty tokens. -/
example : split "+ tcp\t+ + a b +" = ["", "tcp", "", "a b", ""] := by decide

end TransportStack.Scheme
