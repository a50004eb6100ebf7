import Mathlib.Data.List.Perm.Subperm
import TransportStack.Proofs.Tunnel.Crossing

/-!
The order of the streams that cross. What the listener has returned from a session, what is in its
line from that session, what the worker of the session has in hand and what still waits on the
session are the other ends of the streams that were dialed on it, in the order of the calls.
-/

namespace TransportStack.Tunnel

variable {N : Nat}

theorem IsEnd.pipe? {i : Nat} {side : Half} {x : Stream} (h : IsEnd N i side x) :
    x.pipe? = some i := by
  obtain ⟨q, rfl, rfl, -⟩ := h.piped
  rfl

theorem IsEnd.peer {i : Nat} {x : Stream} (h : IsEnd N i .first x) : IsEnd N i .second x.peer := by
  obtain ⟨q, rfl, pipe, half, signal⟩ := h.piped
  exact ⟨_, rfl, pipe, congrArg Half.other half, signal⟩

theorem IsEnd.not_second {i i' : Nat} {x : Stream} (h : IsEnd N i .first x) :
    ¬IsEnd N i' .second x := by
  intro h'
  obtain ⟨q, rfl, -, first, -⟩ := h.piped
  obtain ⟨q', same, -, second, -⟩ := h'.piped
  cases same
  rw [first] at second
  cases second

/-- The streams of one session, by the number of the call that opened them. -/
def ofSession (N j : Nat) (xs : List Stream) : List Stream :=
  xs.filter fun x => x.pipe?.map (· / N) == some j

theorem ofSession_append (N j : Nat) (xs ys : List Stream) :
    ofSession N j (xs ++ ys) = ofSession N j xs ++ ofSession N j ys :=
  List.filter_append xs ys

theorem ofSession_singleton {i : Nat} {side : Half} {x : Stream} (h : IsEnd N i side x) (j : Nat) :
    ofSession N j [x] = if i / N = j then [x] else [] := by
  rw [ofSession, List.filter_singleton, h.pipe?]
  simp only [Option.map_some, Option.some_beq_some, Bool.cond_eq_ite, beq_iff_eq]

theorem ofSession_map_peer (N j : Nat) (xs : List Stream) :
    ofSession N j (xs.map Stream.peer) = (ofSession N j xs).map Stream.peer := by
  have same (s : Stream) : s.peer.pipe? = s.pipe? := by
    cases s <;> rfl
  rw [ofSession, List.filter_map, ofSession]
  congr 2
  funext s
  rw [Function.comp_apply, same]

theorem mem_ofSession {i : Nat} {side : Half} {x : Stream} (h : IsEnd N i side x) {j : Nat}
    {xs : List Stream} : x ∈ ofSession N j xs ↔ x ∈ xs ∧ i / N = j := by
  rw [ofSession, List.mem_filter, h.pipe?]
  simp only [Option.map_some, Option.some_beq_some, beq_iff_eq]

theorem subperm_of_ofSession {xs ys : List Stream} (known : ∀ x ∈ xs, ∃ i side, IsEnd N i side x)
    (sessions : ∀ j, (ofSession N j xs).Sublist (ofSession N j ys)) : xs.Subperm ys := by
  refine List.subperm_ext_iff.2 fun x hx => ?_
  obtain ⟨i, side, he⟩ := known x hx
  have here (zs : List Stream) : (ofSession N (i / N) zs).count x = zs.count x :=
    List.count_filter (by simp [he.pipe?])
  rw [← here xs, ← here ys]
  exact (sessions (i / N)).count_le x

section

variable {inHand : List (Nat × Stream)} {j : Nat} {x : Stream}

theorem mem_handOf : x ∈ handOf inHand j ↔ (j, x) ∈ inHand := by
  simp [handOf]

theorem handOf_concat (inHand : List (Nat × Stream)) (j : Nat) (x : Stream) (i : Nat) :
    handOf (inHand ++ [(j, x)]) i = handOf inHand i ++ if j = i then [x] else [] := by
  rw [handOf, List.filter_append, List.map_append, List.filter_singleton, handOf]
  by_cases same : j = i
  · simp [same]
  · rw [if_neg same, beq_false_of_ne same]
    rfl

theorem handOf_without (inHand : List (Nat × Stream)) (j i : Nat) :
    handOf (inHand.filter fun q => q.1 != j) i = if j = i then [] else handOf inHand i := by
  rw [handOf, List.filter_filter, handOf]
  by_cases same : j = i
  · simp [same]
  · rw [if_neg same]
    congr 1
    refine List.filter_congr fun q _ => ?_
    by_cases own : q.1 = i
    · simp [own, Ne.symm same]
    · simp [own]

theorem ne_of_handOf_eq_nil (empty : handOf inHand j = []) {q : Nat × Stream} (hq : q ∈ inHand) :
    q.1 ≠ j := by
  rintro rfl
  have here := mem_handOf.2 hq
  rw [empty] at here
  exact nomatch here

/-- An empty hand that takes a stream is empty again without it. -/
theorem filter_concat_of_handOf_eq_nil (empty : handOf inHand j = []) (x : Stream) :
    (inHand ++ [(j, x)]).filter (fun q => q.1 != j) = inHand := by
  have others : inHand.filter (fun q => q.1 != j) = inHand :=
    List.filter_eq_self.2 fun q hq => bne_iff_ne.2 (ne_of_handOf_eq_nil empty hq)
  rw [List.filter_append, others]
  simp

theorem mem_without_or_mem_handOf (hx : x ∈ inHand.map Prod.snd) (j : Nat) :
    x ∈ (inHand.filter fun q => q.1 != j).map Prod.snd ∨ x ∈ handOf inHand j := by
  obtain ⟨q, hq, rfl⟩ := List.mem_map.1 hx
  by_cases own : q.1 = j
  · exact .inr (mem_handOf.2 (own ▸ hq))
  · exact .inl (List.mem_map_of_mem (List.mem_filter.2 ⟨hq, bne_iff_ne.2 own⟩))

theorem handOf_length (inHand : List (Nat × Stream)) (j : Nat) :
    (handOf inHand j).length = (inHand.map Prod.fst).count j := by
  rw [handOf, List.length_map, ← List.countP_eq_length_filter, List.count, List.countP_map]
  rfl

/-- A worker that holds no more than one stream holds the one that is found in its hand. -/
theorem handOf_eq (once : (inHand.map Prod.fst).Nodup) {xs : List Stream}
    (hand : handOf inHand j = x :: xs) : xs = [] := by
  have one := List.nodup_iff_count_le_one.1 once j
  rw [← handOf_length, hand, List.length_cons] at one
  exact List.eq_nil_of_length_eq_zero (Nat.le_zero.1 (Nat.le_of_succ_le_succ one))

end

/-- Where the other ends of dialed streams are, session by session. -/
def InOrder (N : Nat) (dialed returned line : List Stream) (inHand : List (Nat × Stream))
    (incoming : Nat → List Stream) : Prop :=
  ∀ j, ofSession N j (returned ++ line) ++ handOf inHand j ++ incoming j =
    ofSession N j (dialed.map Stream.peer)

namespace InOrder

variable {dialed returned line : List Stream} {inHand : List (Nat × Stream)}
  {incoming incoming' : Nat → List Stream} {i j : Nat} {x : Stream}

theorem dial (h : InOrder N dialed returned line inHand incoming) (he : IsEnd N i .second x.peer)
    (arrived : ∀ j, incoming' j = incoming j ++ if i / N = j then [x.peer] else []) :
    InOrder N (dialed ++ [x]) returned line inHand incoming' := by
  intro j
  rw [arrived, ← List.append_assoc, h j, List.map_append, ofSession_append, List.map_singleton,
    ofSession_singleton he]

theorem receive (h : InOrder N dialed returned line inHand incoming) (empty : handOf inHand j = [])
    {rest : List Stream} (waiting : incoming j = x :: rest)
    (taken : ∀ i, incoming' i = if j = i then rest else incoming i) :
    InOrder N dialed returned line (inHand ++ [(j, x)]) incoming' := by
  intro i
  rw [← h i, handOf_concat, taken]
  by_cases same : j = i
  · subst same
    rw [if_pos rfl, if_pos rfl, empty, waiting, List.nil_append, List.append_nil,
      List.append_assoc, List.singleton_append]
  · rw [if_neg same, if_neg same, List.append_nil]

theorem offer (h : InOrder N dialed returned line inHand incoming) (he : IsEnd N i .second x)
    (own : i / N = j) (hand : handOf inHand j = [x]) :
    InOrder N dialed returned (line ++ [x]) (inHand.filter fun q => q.1 != j) incoming := by
  intro j'
  rw [← h j', handOf_without, ← List.append_assoc, ofSession_append, ofSession_singleton he, own]
  by_cases same : j = j'
  · subst same
    rw [if_pos rfl, if_pos rfl, hand, List.append_nil]
  · rw [if_neg same, if_neg same, List.append_nil]

theorem take (h : InOrder N dialed returned (x :: line) inHand incoming) :
    InOrder N dialed (returned ++ [x]) line inHand incoming := by
  intro j
  rw [← h j, List.append_assoc returned, List.singleton_append]

theorem mem_of_hand (h : InOrder N dialed returned line inHand incoming)
    (hx : x ∈ handOf inHand j) : x ∈ ofSession N j (dialed.map Stream.peer) := by
  rw [← h j]
  exact List.mem_append_left _ (List.mem_append_right _ hx)

theorem isPrefix (h : InOrder N dialed returned line inHand incoming) (j : Nat) :
    ofSession N j returned <+: ofSession N j (dialed.map Stream.peer) := by
  rw [← h j, ofSession_append, List.append_assoc, List.append_assoc]
  exact List.prefix_append _ _

/-- With nothing on the way everything has been returned. -/
theorem eq_of_empty (h : InOrder N dialed returned [] [] incoming) (empty : ∀ j, incoming j = [])
    (j : Nat) : ofSession N j returned = ofSession N j (dialed.map Stream.peer) := by
  rw [← h j, empty, List.append_nil, List.append_nil, handOf, List.filter_nil, List.map_nil,
    List.append_nil]

end InOrder

end TransportStack.Tunnel
