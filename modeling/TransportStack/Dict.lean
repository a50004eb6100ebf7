/-!
Dictionaries from strings. The entries are kept in strictly increasing order of their keys, so two
dictionaries with the same look-ups are equal.
-/

namespace TransportStack

/-- Entries in strictly increasing order of keys. -/
abbrev Ordered {α : Type} (es : List (String × α)) : Prop :=
  es.Pairwise fun a b => a.1 < b.1

structure Dict (α : Type) where
  entries : List (String × α)
  ordered : Ordered entries

namespace Dict

variable {α β : Type}

theorem eq_of_not_lt {a b : String} (h : ¬a < b) (h' : ¬b < a) : a = b :=
  String.le_antisymm (String.not_lt.1 h') (String.not_lt.1 h)

def insertEntry (k : String) (v : α) : List (String × α) → List (String × α)
  | [] => [(k, v)]
  | e :: es =>
      if k < e.1 then (k, v) :: e :: es
      else if e.1 < k then e :: insertEntry k v es
      else (k, v) :: es

theorem mem_insertEntry {k : String} {v : α} {es : List (String × α)} {x : String × α}
    (h : x ∈ insertEntry k v es) : x = (k, v) ∨ x ∈ es := by
  induction es with
  | nil => simpa [insertEntry] using h
  | cons e es ih =>
      unfold insertEntry at h
      split at h
      · simpa using h
      · split at h
        · rcases List.mem_cons.1 h with h | h
          · exact .inr (h ▸ List.mem_cons_self)
          · exact (ih h).imp_right (List.mem_cons_of_mem _)
        · exact (List.mem_cons.1 h).imp_right (List.mem_cons_of_mem _)

theorem ordered_insertEntry (k : String) (v : α) {es : List (String × α)} (h : Ordered es) :
    Ordered (insertEntry k v es) := by
  induction es with
  | nil => simp [insertEntry, Ordered]
  | cons e es ih =>
      have he := List.pairwise_cons.1 h
      unfold insertEntry
      split
      · rename_i hk
        refine List.pairwise_cons.2 ⟨fun x hx => ?_, h⟩
        rcases List.mem_cons.1 hx with rfl | hx
        · exact hk
        · exact String.lt_trans hk (he.1 x hx)
      · rename_i hk
        split
        · rename_i hk'
          refine List.pairwise_cons.2 ⟨fun x hx => ?_, ih he.2⟩
          rcases mem_insertEntry hx with rfl | hx
          · exact hk'
          · exact he.1 x hx
        · rename_i hk'
          have : k = e.1 := eq_of_not_lt hk hk'
          exact List.pairwise_cons.2 ⟨fun x hx => this ▸ he.1 x hx, he.2⟩

def empty : Dict α := ⟨[], List.Pairwise.nil⟩

instance : Inhabited (Dict α) := ⟨empty⟩

def get? (d : Dict α) (k : String) : Option α :=
  d.entries.lookup k

def contains (d : Dict α) (k : String) : Bool :=
  (d.get? k).isSome

def insert (d : Dict α) (k : String) (v : α) : Dict α :=
  ⟨insertEntry k v d.entries, ordered_insertEntry k v d.ordered⟩

def filter (d : Dict α) (p : String → α → Bool) : Dict α :=
  ⟨d.entries.filter fun e => p e.1 e.2, d.ordered.filter _⟩

def erase (d : Dict α) (k : String) : Dict α :=
  d.filter fun k' _ => k' != k

/-- Inserts entries one after the other, so the last value of a key stays. -/
def insertAll (d : Dict α) (es : List (String × α)) : Dict α :=
  es.foldl (fun d e => d.insert e.1 e.2) d

/-- The dictionary of a list of entries; the last value of a key stays. -/
def ofList (es : List (String × α)) : Dict α :=
  empty.insertAll es

def keys (d : Dict α) : List String :=
  d.entries.map (·.1)

def size (d : Dict α) : Nat :=
  d.entries.length

def overlay (d other : Dict α) : Dict α :=
  d.insertAll other.entries

instance [DecidableEq α] : DecidableEq (Dict α) := fun a b =>
  if h : a.entries = b.entries then
    isTrue (by cases a; cases b; cases h; rfl)
  else isFalse fun e => h (e ▸ rfl)

end Dict

end TransportStack
