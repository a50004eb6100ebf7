import TransportStack.Network.Release

/-!
What is held. The rounds that find what is held stay within whatever is closed under holding, and
find everything that what is held from the start leads to. Only what nobody holds is released.
-/

namespace TransportStack.Network

variable (n : Network)

/-- Holding in so many steps. -/
def LeadsTo : Nat → Holding → Holding → Prop
  | 0, x, y => x = y
  | k + 1, x, y => ∃ z ∈ n.heldBy x, LeadsTo k z y

variable {n} in
theorem LeadsTo.snoc {k : Nat} {x y z : Holding} (h : n.LeadsTo k x y) (hz : z ∈ n.heldBy y) :
    n.LeadsTo (k + 1) x z := by
  induction k generalizing x with
  | zero =>
      cases h
      exact ⟨z, hz, rfl⟩
  | succ k ih =>
      obtain ⟨w, hw, h⟩ := h
      exact ⟨w, hw, ih h⟩

theorem mark_subset {marked : List Holding} (k : Nat) (found : List Holding) {x : Holding}
    (h : x ∈ marked) : x ∈ n.mark k marked found := by
  induction k generalizing marked found with
  | zero => exact h
  | succ k ih =>
      cases found with
      | nil => exact h
      | cons f fs => exact ih _ (List.mem_append_right _ h)

/-- The rounds stay within what is closed under holding. -/
theorem mark_within {P : Holding → Prop} (closed : ∀ x, P x → ∀ y ∈ n.heldBy x, P y) (k : Nat)
    {marked found : List Holding} (hm : ∀ x ∈ marked, P x) (hf : ∀ x ∈ found, P x) :
    ∀ x ∈ n.mark k marked found, P x := by
  induction k generalizing marked found with
  | zero => exact hm
  | succ k ih =>
      cases found with
      | nil => exact hm
      | cons f fs =>
          have next : ∀ x ∈ (((f :: fs).flatMap n.heldBy).filter
              fun h => !marked.contains h).eraseDups, P x := by
            intro x hx
            have reached := (List.mem_filter.1 (List.mem_eraseDups.1 hx)).1
            obtain ⟨y, hy, held⟩ := List.mem_flatMap.1 reached
            exact closed y (hf y hy) x held
          apply ih
          · intro x hx
            obtain hx | hx := List.mem_append.1 hx
            · exact next x hx
            · exact hm x hx
          · exact next

/-- What is marked and was not found just now has been followed: what it holds is marked too. -/
def Followed (marked found : List Holding) : Prop :=
  ∀ x ∈ marked, x ∈ found ∨ ∀ y ∈ n.heldBy x, y ∈ marked

theorem followed_round {marked found : List Holding} (h : n.Followed marked found) :
    let next := ((found.flatMap n.heldBy).filter fun h => !marked.contains h).eraseDups
    (∀ x ∈ marked, ∀ y ∈ n.heldBy x, y ∈ next ++ marked) ∧ n.Followed (next ++ marked) next := by
  intro next
  have followed : ∀ x ∈ marked, ∀ y ∈ n.heldBy x, y ∈ next ++ marked := by
    intro x hx y hy
    obtain new | old := h x hx
    · by_cases known : y ∈ marked
      · exact List.mem_append_right _ known
      · apply List.mem_append_left
        rw [List.mem_eraseDups, List.mem_filter]
        refine ⟨List.mem_flatMap.2 ⟨x, new, hy⟩, ?_⟩
        simpa using known
    · exact List.mem_append_right _ (old y hy)
  refine ⟨followed, ?_⟩
  intro x hx
  obtain hx | hx := List.mem_append.1 hx
  · exact .inl hx
  · exact .inr (followed x hx)

/-- The rounds find all that is no more steps away than there are rounds. -/
theorem mem_mark_of_leadsTo (k : Nat) {marked found : List Holding} (h : n.Followed marked found)
    {x y : Holding} (hx : x ∈ marked) {d : Nat} (hd : d ≤ k) (leads : n.LeadsTo d x y) :
    y ∈ n.mark k marked found := by
  induction k generalizing marked found x d with
  | zero =>
      obtain rfl := Nat.le_zero.1 hd
      cases leads
      exact hx
  | succ k ih =>
      cases d with
      | zero =>
          cases leads
          exact n.mark_subset _ _ hx
      | succ d =>
          obtain ⟨z, hz, leads⟩ := leads
          cases found with
          | nil =>
              -- Nothing new was found: what is marked is closed under holding.
              have closed : ∀ x ∈ marked, ∀ y ∈ n.heldBy x, y ∈ marked := fun x hx =>
                (h x hx).resolve_left List.not_mem_nil
              have inside : ∀ d x, x ∈ marked → n.LeadsTo d x y → y ∈ marked := by
                intro d
                induction d with
                | zero => rintro x hx rfl; exact hx
                | succ d step =>
                    rintro x hx ⟨z, hz, leads⟩
                    exact step z (closed x hx z hz) leads
              exact inside d z (closed x hx z hz) leads
          | cons f fs =>
              obtain ⟨followed, again⟩ := n.followed_round h
              exact ih again (followed x hx z hz) (Nat.le_of_succ_le_succ hd) leads

variable (roots : List Holding)

/-- What is held from the start: what the program and the tasks hold. -/
def Grasps (x : Holding) : Prop := x ∈ roots ∨ ∃ d ∈ n.demuxers, x ∈ d.taskHoldings

theorem grasps_iff {x : Holding} :
    n.Grasps roots x ↔ x ∈ (roots ++ n.demuxers.flatMap Demuxer.taskHoldings).eraseDups := by
  rw [List.mem_eraseDups, List.mem_append, List.mem_flatMap]
  rfl

variable {n roots}

theorem mem_held {x y : Holding} (hx : n.Grasps roots x) {d : Nat} (hd : d ≤ n.holdingCount + 1)
    (leads : n.LeadsTo d x y) : y ∈ n.held roots :=
  n.mem_mark_of_leadsTo _ (fun _ hx => .inl hx) ((n.grasps_iff roots).1 hx) hd leads

theorem held_within {P : Holding → Prop} (start : ∀ x, n.Grasps roots x → P x)
    (closed : ∀ x, P x → ∀ y ∈ n.heldBy x, P y) : ∀ x ∈ n.held roots, P x := by
  have first : ∀ x ∈ (roots ++ n.demuxers.flatMap Demuxer.taskHoldings).eraseDups, P x :=
    fun x hx => start x ((n.grasps_iff roots).2 hx)
  exact n.mark_within closed _ first first

theorem release?_getD (n : Network) (roots : List Holding) :
    (n.release? roots).getD n =
      (n.unreleased.filter fun x => !(n.held roots).contains x).foldl releaseOne n := by
  simp only [release?]
  split
  · rename_i none_loose
    rw [none_loose]
    rfl
  · rfl

/-- A release releases things that were not released before and that nobody holds. -/
theorem release?_eq_some {n' : Network} (h : n.release? roots = some n') :
    ∃ loose : List Holding, loose ≠ [] ∧ (∀ x ∈ loose, x ∈ n.unreleased ∧ x ∉ n.held roots) ∧
      n' = loose.foldl releaseOne n := by
  simp only [release?] at h
  split at h
  · cases h
  · rename_i some_loose
    cases h
    refine ⟨_, some_loose, ?_, rfl⟩
    intro x hx
    obtain ⟨unreleased, unheld⟩ := List.mem_filter.1 hx
    exact ⟨unreleased, by simpa using unheld⟩

theorem release?_eq_none_iff :
    n.release? roots = none ↔ ∀ x ∈ n.unreleased, x ∈ n.held roots := by
  have nothing : n.release? roots = none ↔
      (n.unreleased.filter fun x => !(n.held roots).contains x) = [] := by
    simp only [release?]
    split <;> simp_all
  rw [nothing, List.filter_eq_nil_iff]
  simp only [Bool.not_eq_true', Bool.not_eq_false, List.contains_iff_mem]

/-- What can be released is there and has not been released. -/
def Unreleased (n : Network) : Holding → Prop
  | .pipeHalf i _ => ∃ p, n.pipes[i]? = some p ∧ p.released = false
  | .single s => ∃ l ∈ n.links, l.1 = s
  | .sessionHalf i h => ∃ s, n.sessions[i]? = some s ∧ (s.halves.get h).released = false
  | .streamBinding i => n.streams.isLive i = true
  | .socketBinding i => n.sockets.isLive i = true
  | .demuxer i => ∃ d, n.demuxers[i]? = some d
  | .dialed _ | .accepted _ | .rotation _ => False

theorem unreleased_of_mem {x : Holding} (h : x ∈ n.unreleased) : n.Unreleased x := by
  simp only [unreleased, List.mem_append, List.mem_flatMap, List.mem_map, List.mem_filterMap,
    List.mem_filter, unreleased.withPlaces] at h
  obtain ((((⟨⟨p, i⟩, hp, hx⟩ | ⟨l, hl, rfl⟩) | ⟨⟨s, i⟩, hs, side, -, hx⟩) | ⟨i, hi, rfl⟩) |
      ⟨i, hi, rfl⟩) | ⟨⟨d, i⟩, hd, hx⟩ := h
  · have at_place := List.mk_mem_zipIdx_iff_getElem?.1 hp
    cases hr : p.released with
    | true => simp only [hr, if_true, List.not_mem_nil] at hx
    | false =>
        simp only [hr, Bool.false_eq_true, if_false, List.mem_cons, List.not_mem_nil, or_false]
          at hx
        obtain rfl | rfl := hx <;> exact ⟨p, at_place, hr⟩
  · exact ⟨l, hl.1, rfl⟩
  · have at_place := List.mk_mem_zipIdx_iff_getElem?.1 hs
    cases hr : (s.halves.get side).released with
    | true => simp only [hr, if_true, reduceCtorEq] at hx
    | false =>
        simp only [hr, Bool.false_eq_true, if_false, Option.some.injEq] at hx
        cases hx
        exact ⟨s, at_place, hr⟩
  · exact (List.mem_filter.1 hi).2
  · exact (List.mem_filter.1 hi).2
  · have at_place := List.mk_mem_zipIdx_iff_getElem?.1 hd
    split at hx
    · cases hx
    · cases hx
      exact ⟨d, at_place⟩

theorem mem_unreleased_sessionHalf {i : Nat} {side : Half} {s : Session Stream}
    (hs : n.sessions[i]? = some s) (hr : (s.halves.get side).released = false) :
    .sessionHalf i side ∈ n.unreleased := by
  simp only [unreleased, List.mem_append, List.mem_flatMap, List.mem_filterMap,
    unreleased.withPlaces]
  refine .inl (.inl (.inl (.inr ⟨(s, i), List.mk_mem_zipIdx_iff_getElem?.2 hs, side, ?_, ?_⟩)))
  · cases side <;> simp
  · simp only [hr, Bool.false_eq_true, if_false]

/-- All that can hold something. -/
def holders (n : Network) : List Holding :=
  (List.range n.sessions.length).flatMap (fun i => [.sessionHalf i .first, .sessionHalf i .second]) ++
    (List.range n.dialed.length).map .dialed ++ (List.range n.accepted.length).map .accepted ++
    (List.range n.rotations.length).map .rotation ++
    (List.range n.streams.bindings.length).map .streamBinding ++
    (List.range n.sockets.bindings.length).map .socketBinding ++
    (List.range n.demuxers.length).map .demuxer

theorem length_holders_le : n.holders.length ≤ n.holdingCount := by
  simp only [holders, holdingCount, List.length_append, List.length_flatMap, List.length_map,
    List.length_range, List.length_cons, List.length_nil, List.map_const', List.sum_replicate_nat]
  omega

theorem mem_holders {x y : Holding} (h : y ∈ n.heldBy x) : x ∈ n.holders := by
  have there {α : Type} {xs : List α} {i : Nat} (nothing : xs[i]? = none → n.heldBy x = []) :
      i < xs.length := by
    refine Nat.lt_of_not_le fun beyond => ?_
    rw [nothing (List.getElem?_eq_none beyond)] at h
    cases h
  simp only [holders, List.mem_append, List.mem_flatMap, List.mem_map, List.mem_range]
  cases x with
  | pipeHalf => cases h
  | single => cases h
  | sessionHalf i side =>
      have less : i < n.sessions.length := there fun none => by simp only [heldBy, none]; rfl
      refine .inl (.inl (.inl (.inl (.inl (.inl ⟨i, less, ?_⟩)))))
      cases side <;> simp
  | dialed i =>
      have less : i < n.dialed.length := there fun none => by simp only [heldBy, none]; rfl
      exact .inl (.inl (.inl (.inl (.inl (.inr ⟨i, less, rfl⟩)))))
  | accepted i =>
      have less : i < n.accepted.length := there fun none => by simp only [heldBy, none]; rfl
      exact .inl (.inl (.inl (.inl (.inr ⟨i, less, rfl⟩))))
  | rotation i =>
      have less : i < n.rotations.length := there fun none => by simp only [heldBy, none]; rfl
      exact .inl (.inl (.inl (.inr ⟨i, less, rfl⟩)))
  | streamBinding i =>
      have less : i < n.streams.bindings.length :=
        there fun none => by simp only [heldBy, none]; rfl
      exact .inl (.inl (.inr ⟨i, less, rfl⟩))
  | socketBinding i =>
      have less : i < n.sockets.bindings.length :=
        there fun none => by simp only [heldBy, none]; rfl
      exact .inl (.inr ⟨i, less, rfl⟩)
  | demuxer i =>
      have less : i < n.demuxers.length := there fun none => by simp only [heldBy, none]; rfl
      exact .inr ⟨i, less, rfl⟩

/-- The rounds end with all that what is marked holds, if there are more of them than things that can
hold something and are not marked. -/
theorem mark_closed (k : Nat) {marked found : List Holding} (followed : n.Followed marked found)
    (enough : (∀ x ∈ found, x ∉ n.holders) ∨
      (n.holders.filter fun x => !marked.contains x).length < k) {x y : Holding}
    (hx : x ∈ n.mark k marked found) (hy : y ∈ n.heldBy x) : y ∈ n.mark k marked found := by
  have ended (marked found : List Holding) (followed : n.Followed marked found)
      (none_holds : ∀ x ∈ found, x ∉ n.holders) {x y : Holding} (hx : x ∈ marked)
      (hy : y ∈ n.heldBy x) : y ∈ marked := by
    obtain new | old := followed x hx
    · exact absurd (mem_holders hy) (none_holds x new)
    · exact old y hy
  induction k generalizing marked found with
  | zero =>
      obtain none_holds | less := enough
      · exact ended marked found followed none_holds hx hy
      · exact absurd less (Nat.not_lt_zero _)
  | succ k ih =>
      cases found with
      | nil => exact ended marked [] followed (fun _ h => absurd h List.not_mem_nil) hx hy
      | cons f fs =>
          obtain ⟨-, again⟩ := n.followed_round followed
          refine ih again ?_ hx
          by_cases some_holds : ∃ z ∈ ((((f :: fs).flatMap n.heldBy).filter
              fun h => !marked.contains h).eraseDups), z ∈ n.holders
          · obtain ⟨z, hz, holds⟩ := some_holds
            have new := List.mem_filter.1 (List.mem_eraseDups.1 hz)
            obtain ⟨w, hw, held⟩ := List.mem_flatMap.1 new.1
            have less := enough.resolve_left fun none => none w hw (mem_holders held)
            right
            -- One of the things that can hold something is marked now and was not before.
            have fewer (next : List Holding) (hz : z ∈ next) :
                (n.holders.filter fun x => !(next ++ marked).contains x).length <
                  (n.holders.filter fun x => !marked.contains x).length := by
              have twice : (n.holders.filter fun x => !(next ++ marked).contains x) =
                  (n.holders.filter fun x => !marked.contains x).filter
                    fun x => !next.contains x := by
                simp only [List.filter_filter, List.contains_append, Bool.not_or]
              rw [twice, List.length_filter_lt_length_iff_exists]
              exact ⟨z, List.mem_filter.2 ⟨holds, new.2⟩, by simpa using hz⟩
            exact Nat.lt_of_lt_of_le (fewer _ hz) (Nat.le_of_lt_succ less)
          · exact .inl fun z hz holds => some_holds ⟨z, hz, holds⟩

/-- What is held is all that what is held from the start leads to. -/
theorem held_closed {x y : Holding} (hx : x ∈ n.held roots) (hy : y ∈ n.heldBy x) :
    y ∈ n.held roots := by
  refine mark_closed _ (fun x hx => .inl hx) (.inr ?_) hx hy
  exact Nat.lt_succ_of_le (Nat.le_trans (List.length_filter_le _ _) length_holders_le)

theorem held_of_grasps {x : Holding} (h : n.Grasps roots x) : x ∈ n.held roots :=
  mem_held h (Nat.zero_le _) rfl

end TransportStack.Network
