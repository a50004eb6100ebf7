import TransportStack.Proofs.Dictionary
import TransportStack.Proofs.Parameters.Sections

/-!
What layers find in the parameters. A section has the values whose keys are its name, a dot and the
key that it is asked for. A dotted key therefore belongs to one section, the one before its first
dot, and two sets of parameters that differ at such a key are the same to all others.
-/

namespace TransportStack.Parameters

/-- The key that stands for a key within a section. -/
def scopedKey (name k : String) : String := String.ofList (sectionStart name ++ k.toList)

/-- The section that a dotted key belongs to. -/
def owner (key : String) : String := String.ofList (key.toList.takeWhile (· != '.'))

/-- A dotted key as its section knows it. -/
def ownKey (key : String) : String := String.ofList ((key.toList.dropWhile (· != '.')).drop 1)

def AgreeExcept (key : String) (p q : Parameters) : Prop := ∀ k, k ≠ key → p.get? k = q.get? k

theorem keyWithin?_eq_some_iff {name key k : String} :
    keyWithin? name key = some k ↔ key = scopedKey name k := by
  rw [keyWithin?, Option.map_eq_some_iff, scopedKey, ← String.toList_inj, String.toList_ofList]
  simp only [Text.after?_eq_some_iff]
  constructor
  · rintro ⟨rest, split, rfl⟩
    rw [split, String.toList_ofList]
  · exact fun split => ⟨k.toList, split, String.ofList_toList⟩

section

variable (p : Parameters)

theorem mem_entriesWithin_iff (name : String) {k v : String} :
    (k, v) ∈ (p.entries.filterMap fun e =>
      if e.2 = "" then none else (keyWithin? name e.1).map fun k => (k, e.2)) ↔
    (scopedKey name k, v) ∈ p.entries ∧ v ≠ "" := by
  rw [List.mem_filterMap]
  constructor
  · rintro ⟨⟨key, v'⟩, known, found⟩
    split at found
    · cases found
    · rename_i filled
      obtain ⟨k', within, same⟩ := Option.map_eq_some_iff.1 found
      cases same
      rw [← keyWithin?_eq_some_iff.1 within]
      exact ⟨known, filled⟩
  · rintro ⟨known, filled⟩
    exact ⟨_, known, by rw [if_neg filled, keyWithin?_eq_some_iff.2 rfl, Option.map_some]⟩

theorem get?_within (name k : String) :
    (p.within name).get? k = (p.get? (scopedKey name k)).filter (· != "") := by
  ext v
  rw [within, Dict.ofList, Dict.get?_insertAll, show Dict.empty.get? k = none from rfl,
    Option.or_none, Dict.lookup_eq_some_iff, List.mem_reverse, mem_entriesWithin_iff,
    Option.filter_eq_some_iff, Dict.get?_eq_some_iff, bne_iff_ne]
  intro v v' h h'
  rw [List.mem_reverse, mem_entriesWithin_iff] at h h'
  exact p.single h.1 h'.1

theorem get?_common (k : String) :
    p.common.get? k = if '.' ∈ k.toList then none else (p.get? k).filter (· != "") := by
  rw [common, Dict.get?_filter]
  split <;> rename_i dotted <;> simp [dotted]

theorem get?_seenBy (name k : String) :
    (p.seenBy name).get? k = ((p.within name).get? k).or (p.common.get? k) :=
  Dict.get?_overlay _ _

end

section

variable {name k : String} (plain : '.' ∉ name.toList)
include plain

theorem toList_scopedKey : (scopedKey name k).toList = name.toList ++ '.' :: k.toList := by
  have kept : name.toList.reverse.dropWhile (· == '.') = name.toList.reverse := by
    cases letters : name.toList.reverse with
    | nil => rfl
    | cons c cs =>
        have last : c ∈ name.toList := List.mem_reverse.1 (letters ▸ List.mem_cons_self)
        exact List.dropWhile_cons_of_neg fun dot => plain (beq_iff_eq.1 dot ▸ last)
  rw [scopedKey, String.toList_ofList, sectionStart, Text.dropEndWhile, kept, List.reverse_reverse,
    List.append_assoc]
  rfl

private theorem ne_dot : ∀ c ∈ name.toList, (c != '.') = true :=
  fun _ h => bne_iff_ne.2 fun dot => plain (dot ▸ h)

theorem owner_scopedKey : owner (scopedKey name k) = name := by
  rw [owner, toList_scopedKey plain, List.takeWhile_append_of_pos (ne_dot plain)]
  simp

theorem ownKey_scopedKey : ownKey (scopedKey name k) = k := by
  rw [ownKey, toList_scopedKey plain, List.dropWhile_append_of_pos (ne_dot plain)]
  simp

end

namespace AgreeExcept

variable {p q : Parameters} {key name : String} (same : AgreeExcept key p q)
  (dotted : '.' ∈ key.toList)
include same dotted

theorem common : p.common = q.common := by
  refine Dict.ext_get? fun k => ?_
  rw [get?_common, get?_common]
  split
  · rfl
  · rename_i undotted
    rw [same k fun here => undotted (here ▸ dotted)]

/-- A section without a dot in its name sees a difference at one key only if the key is its own, and
under no other key than what follows its name. -/
theorem get?_seenBy (plain : '.' ∉ name.toList) {k : String}
    (other : name = owner key → k ≠ ownKey key) :
    (p.seenBy name).get? k = (q.seenBy name).get? k := by
  have elsewhere : scopedKey name k ≠ key := by
    rintro rfl
    exact other (owner_scopedKey plain).symm (ownKey_scopedKey plain).symm
  rw [Parameters.get?_seenBy, Parameters.get?_seenBy, get?_within, get?_within, same _ elsewhere,
    same.common dotted]

theorem seenBy (plain : '.' ∉ name.toList) (other : name ≠ owner key) :
    p.seenBy name = q.seenBy name :=
  Dict.ext_get? fun _ => same.get?_seenBy dotted plain fun own => absurd own other

end AgreeExcept

end TransportStack.Parameters
