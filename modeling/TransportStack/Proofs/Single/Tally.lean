import TransportStack.Proofs.Rotation.Plain
import TransportStack.Proofs.Single.Steps

/-!
What holds after every history of sockets without multiplexing: each socket and each stream has a
signal that nothing else has, the cells of the sockets are what the history says, and a signal of
theirs was fired itself only by what the history names.
-/

namespace TransportStack

open Network
open Scenario (ByteOp ByteResult)

variable {past : List Single.Happening} {n n' : Network}

theorem Stream.IsOutside.mono {own own' : List Nat} {x : Stream} (h : x.IsOutside own n)
    (more : n.signals.count ≤ n'.signals.count)
    (fresh : ∀ k ∈ own', k ∈ own ∨ n.signals.count ≤ k) : x.IsOutside own' n' := by
  intro s hs k hk
  obtain ⟨less, unowned⟩ := h s hs k hk
  refine ⟨Nat.lt_of_lt_of_le less more, fun owned => ?_⟩
  obtain old | new := fresh k owned
  · exact unowned old
  · exact Nat.not_le_of_lt less new

namespace Single

variable {e : Happening}

@[simp] theorem own_cons (e : Happening) (past : List Happening) :
    own (e :: past) = e.owns ++ own past :=
  rfl

theorem mem_own {k : Nat} : k ∈ own past ↔ ∃ e ∈ past, k ∈ e.owns := List.mem_flatMap

theorem handed_cons (e : Happening) (past : List Happening) :
    handed (e :: past) = e.handed?.toList ++ handed past := by
  rw [handed, List.filterMap_cons]
  cases e.handed? <;> rfl

theorem mem_handed {t : Stream} : t ∈ handed past ↔ ∃ e ∈ past, e.handed? = some t :=
  List.mem_filterMap

theorem mem_returned {i : Nat} {t : Stream} :
    t ∈ returned i past ↔ .looked i (.done (.ok t)) ∈ past := by
  rw [returned, List.mem_filterMap]
  constructor
  · rintro ⟨e, he, gives⟩
    cases e with
    | looked j answer =>
        obtain _ | (_ | t') := answer
        · cases gives
        · cases gives
        · simp only [Happening.returned?, Option.ite_none_right_eq_some, Option.some.injEq] at gives
          obtain ⟨rfl, rfl⟩ := gives
          exact he
    | _ => cases gives
  · exact fun looked => ⟨_, looked, if_pos rfl⟩

namespace Happening

/-- What has to have happened before something, and what follows from how it is done. -/
def IsGrounded (past : List Happening) : Happening → Prop
  | made _ g _ => g.ancestors = []
  | presented _ g x => g.ancestors = x.signal.lineage
  | arrived i (.ok t) =>
      (∃ g q, made i g q ∈ past ∧ t.signal.ancestors = g.lineage) ∧
        t = .single t.connection t.signal (some i)
  | looked i (.done (.ok t)) => ∃ g x, presented i g x ∈ past ∧ t = .single x g none
  | closed s g =>
      (∃ i q, s = .dialed i ∧ made i g q ∈ past) ∨ ∃ i x, s = .accepted i ∧ presented i g x ∈ past
  | used t _ _ | closedStream t | followed t => t ∈ handed past
  | released gone => ∀ t ∈ gone, t ∈ handed past
  | _ => True

theorem IsGrounded.mono (h : e.IsGrounded past) (later : Happening) :
    e.IsGrounded (later :: past) := by
  have still {t : Stream} (ht : t ∈ handed past) : t ∈ handed (later :: past) := by
    rw [handed_cons]
    exact List.mem_append_right _ ht
  cases e with
  | arrived i result =>
      cases result with
      | error _ => trivial
      | ok t =>
          obtain ⟨⟨g, q, made, above⟩, form⟩ := h
          exact ⟨⟨g, q, List.mem_cons_of_mem _ made, above⟩, form⟩
  | looked i answer =>
      obtain _ | (_ | t) := answer
      · trivial
      · trivial
      · obtain ⟨g, x, presented, form⟩ := h
        exact ⟨g, x, List.mem_cons_of_mem _ presented, form⟩
  | closed s g =>
      obtain ⟨i, q, rfl, made⟩ | ⟨i, x, rfl, presented⟩ := h
      · exact .inl ⟨i, q, rfl, List.mem_cons_of_mem _ made⟩
      · exact .inr ⟨i, x, rfl, List.mem_cons_of_mem _ presented⟩
  | used t _ _ | closedStream t | followed t => exact still h
  | released gone => exact fun t ht => still (h t ht)
  | made _ _ _ | presented _ _ _ => exact h
  | refused _ | called _ | elsewhere => trivial

/-- Whether something can fire a signal of a socket or of a stream. -/
def canFire : Happening → Bool
  | closed _ _ | used _ _ _ | closedStream _ | followed _ | released _ => true
  | _ => false

theorem not_fires (h : e.canFire = false) (g : Signal) : ¬e.Fires g := by
  rintro (⟨s, rfl⟩ | ⟨t, (ends | rfl), -⟩)
  · cases h
  · cases e with
    | used _ _ _ | closedStream _ | released _ => cases h
    | _ => exact ends
  · cases h

/-- Something that makes no signal and hands nothing out. -/
structure IsSilent (e : Happening) : Prop where
  owns : e.owns = []
  handed : e.handed? = none

theorem IsSilent.connection (h : e.IsSilent) : e.connection? = none := by
  have owns := h.owns
  cases e with
  | presented => cases owns
  | arrived i result =>
      cases result with
      | error _ => rfl
      | ok t => cases owns
  | _ => rfl

theorem IsSilent.remote (h : e.IsSilent) (i : Nat) : e.remote? i = none := by
  have owns := h.owns
  cases e with
  | arrived i result =>
      cases result with
      | error _ => rfl
      | ok t => cases owns
  | _ => rfl

end Happening

/-- Histories in which no two things make the same signal. -/
structure Told (past : List Happening) : Prop where
  owner : ∀ e ∈ past, ∀ e' ∈ past, ∀ k ∈ e.owns, k ∈ e'.owns → e = e'
  grounded : ∀ e ∈ past, e.IsGrounded past

namespace Told

variable (told : Told past)

include told

theorem cons (grounded : e.IsGrounded past) (fresh : ∀ k ∈ e.owns, k ∉ own past) :
    Told (e :: past) where
  owner a ha b hb k hk hk' := by
    obtain rfl | old := List.mem_cons.1 ha
    · obtain rfl | old' := List.mem_cons.1 hb
      · rfl
      · exact absurd (mem_own.2 ⟨b, old', hk'⟩) (fresh k hk)
    · obtain rfl | old' := List.mem_cons.1 hb
      · exact absurd (mem_own.2 ⟨a, old, hk⟩) (fresh k hk')
      · exact told.owner a old b old' k hk hk'
  grounded a ha := by
    obtain rfl | old := List.mem_cons.1 ha
    · exact grounded.mono _
    · exact (told.grounded a old).mono _

/-- A stream that was handed out was dialed, or it is the stream of an accepted connection. -/
theorem handed_cases {t : Stream} (h : t ∈ handed past) :
    (∃ i, .arrived i (.ok t) ∈ past ∧ t = .single t.connection t.signal (some i)) ∨
      ∃ i, .looked i (.done (.ok t)) ∈ past ∧ .presented i t.signal t.connection ∈ past ∧
        t = .single t.connection t.signal none := by
  obtain ⟨e, he, gives⟩ := mem_handed.1 h
  have grounded := told.grounded e he
  cases e with
  | arrived i result =>
      cases result with
      | error _ => cases gives
      | ok t' =>
          cases gives
          exact .inl ⟨i, he, grounded.2⟩
  | looked i answer =>
      obtain _ | (_ | t') := answer
      · cases gives
      · cases gives
      · cases gives
        obtain ⟨g, x, presented, rfl⟩ := grounded
        exact .inr ⟨i, he, presented, rfl⟩
  | _ => cases gives

/-- A stream that was handed out is a single stream, over a connection in the history, and its signal
is one of those that the history makes. -/
theorem of_handed {t : Stream} (h : t ∈ handed past) :
    (∃ socket?, t = .single t.connection t.signal socket?) ∧
      ∃ e ∈ past, e.connection? = some t.connection ∧ t.signal.number ∈ e.owns := by
  obtain ⟨i, arrived, form⟩ | ⟨i, -, presented, form⟩ := told.handed_cases h
  · exact ⟨⟨some i, form⟩, _, arrived, rfl, List.mem_singleton_self _⟩
  · exact ⟨⟨none, form⟩, _, presented, rfl, List.mem_singleton_self _⟩

theorem number_of_handed {t : Stream} (h : t ∈ handed past) : t.signal.number ∈ own past := by
  obtain ⟨-, e, he, -, owns⟩ := told.of_handed h
  exact mem_own.2 ⟨e, he, owns⟩

end Told

/-- What the signals of the network have to do with a history. -/
structure Tallied (past : List Happening) (n : Network) : Prop where
  numbered : n.IsNumbered
  made : ∀ k ∈ own past, k < n.signals.count
  demuxers : ∀ d ∈ n.demuxers, d.shutdown.number ∉ own past
  outside : ∀ e ∈ past, ∀ x, e.connection? = some x → x.IsOutside (own past) n
  links : ∀ l : Signal × Signal, l.1.number ∈ own past →
    (l ∈ n.links ↔ ∃ t ∈ handed past, l = (t.signal, t.connection.signal))
  fired : ∀ f ∈ n.signals.fired, f.number ∈ own past → ∃ e ∈ past, e.Fires f
  firing : ∀ e ∈ past, ∀ g, e.Fires g → n.isFired g = true

namespace Tallied

variable (tallied : Tallied past n)

include tallied

theorem keeps (keeps : Keeps (own past) e.Fires n n') (fires : ∀ g, e.Fires g → n'.isFired g = true)
    (silent : e.IsSilent) : Tallied (e :: past) n' := by
  have same_own : own (e :: past) = own past := by rw [own_cons, silent.owns, List.nil_append]
  have same_handed : handed (e :: past) = handed past := by
    rw [handed_cons, silent.handed]
    rfl
  exact {
    numbered := keeps.numbered
    made := fun k hk => by
      rw [same_own] at hk
      exact Nat.lt_of_lt_of_le (tallied.made k hk) keeps.count
    demuxers := by
      rw [same_own]
      exact keeps.demuxers
    outside := fun a ha x hx => by
      rw [same_own]
      obtain rfl | old := List.mem_cons.1 ha
      · rw [silent.connection] at hx
        cases hx
      · exact (tallied.outside a old x hx).mono keeps.count fun _ => .inl
    links := fun l hl => by
      rw [same_own] at hl
      rw [same_handed]
      exact (keeps.links l hl).trans (tallied.links l hl)
    fired := fun f hf owned => by
      rw [same_own] at owned
      obtain old | cause := keeps.causes f hf owned
      · obtain ⟨a, ha, fires⟩ := tallied.fired f old owned
        exact ⟨a, List.mem_cons_of_mem _ ha, fires⟩
      · exact ⟨e, List.mem_cons_self, cause⟩
    firing := fun a ha g hg => by
      obtain rfl | old := List.mem_cons.1 ha
      · exact fires g hg
      · exact isFired_mono keeps.fired (tallied.firing a old g hg) }

/-- Something that makes a signal or hands a stream out, and fires nothing. -/
theorem adds (told : Told past) (count : n.signals.count ≤ n'.signals.count)
    (fired : n'.signals.fired = n.signals.fired) (demuxers : n'.demuxers = n.demuxers)
    (links : n'.links =
      n.links ++ (e.handed?.map fun t => (t.signal, t.connection.signal)).toList)
    (fresh : ∀ k ∈ e.owns, n.signals.count ≤ k ∧ k < n'.signals.count)
    (outside : ∀ x, e.connection? = some x → x.IsOutside (own past) n)
    (owned : ∀ t, e.handed? = some t → t.signal.number ∈ own (e :: past))
    (quiet : ∀ g, ¬e.Fires g) : Tallied (e :: past) n' := by
  have numbered := tallied.numbered
  have split {k : Nat} (hk : k ∈ own (e :: past)) :
      n.signals.count ≤ k ∧ k < n'.signals.count ∨ k ∈ own past := by
    rw [own_cons, List.mem_append] at hk
    exact hk.imp_left (fresh k)
  have made : ∀ k ∈ own (e :: past), k < n'.signals.count := by
    intro k hk
    obtain ⟨-, less⟩ | old := split hk
    · exact less
    · exact Nat.lt_of_lt_of_le (tallied.made k old) count
  -- What was there before has no number that was made just now.
  have unmade {k : Nat} (less : k < n.signals.count) (hk : k ∈ own (e :: past)) : k ∈ own past := by
    obtain ⟨more, -⟩ | old := split hk
    · exact absurd less (Nat.not_lt_of_le more)
    · exact old
  have new_link (l : Signal × Signal) :
      l ∈ (e.handed?.map fun t => (t.signal, t.connection.signal)).toList ↔
        ∃ t, e.handed? = some t ∧ l = (t.signal, t.connection.signal) := by
    cases e.handed? <;> simp
  exact {
    numbered := {
      fired := fun f hf => by
        rw [fired] at hf
        exact Nat.lt_of_lt_of_le (numbered.fired f hf) count
      links := fun l hl => by
        rw [links, List.mem_append, new_link] at hl
        obtain old | ⟨t, ht, rfl⟩ := hl
        · exact Nat.lt_of_lt_of_le (numbered.links l old) count
        · exact made _ (owned t ht)
      demuxers := fun d hd => by
        rw [demuxers] at hd
        exact Nat.lt_of_lt_of_le (numbered.demuxers d hd) count }
    made := made
    demuxers := fun d hd hk => by
      rw [demuxers] at hd
      exact tallied.demuxers d hd (unmade (numbered.demuxers d hd) hk)
    outside := fun a ha x hx => by
      have kept : x.IsOutside (own past) n := by
        obtain rfl | old := List.mem_cons.1 ha
        · exact outside x hx
        · exact tallied.outside a old x hx
      exact kept.mono count fun k hk => (split hk).elim (fun new => .inr new.1) .inl
    links := fun l hl => by
      rw [links, List.mem_append, new_link]
      simp only [handed_cons, List.mem_append, Option.mem_toList, or_and_right, exists_or]
      constructor
      · rintro (old | new)
        · exact .inr ((tallied.links l (unmade (numbered.links l old) hl)).1 old)
        · exact .inl new
      · rintro (new | ⟨t, ht, same⟩)
        · exact .inr new
        · have number : l.1.number ∈ own past := by
            rw [same]
            exact told.number_of_handed ht
          exact .inl ((tallied.links l number).2 ⟨t, ht, same⟩)
    fired := fun f hf hk => by
      rw [fired] at hf
      obtain ⟨a, ha, fires⟩ := tallied.fired f hf (unmade (numbered.fired f hf) hk)
      exact ⟨a, List.mem_cons_of_mem _ ha, fires⟩
    firing := fun a ha g hg => by
      obtain rfl | old := List.mem_cons.1 ha
      · exact absurd hg (quiet g)
      · exact isFired_mono (by rw [fired]; exact List.Subset.refl _)
          (tallied.firing a old g hg) }

end Tallied

end Single

end TransportStack
