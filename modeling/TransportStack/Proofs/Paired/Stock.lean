import Mathlib.Data.List.Induction
import Mathlib.Data.List.Nodup
import TransportStack.Proofs.Paired.Ownership

/-!
What there is: the streams that came to be have the pipes in their order, all streams that the
program got or can accept are ends of those, and nothing has happened on what is not there yet.
-/

namespace TransportStack

open Scenario (ByteOp ByteResult)

theorem Stream.pipe?_of_end? {x : Stream} {k : Nat} {h : Half} (own : x.end? = some (k, h)) :
    x.pipe? = some k := by
  cases x with
  | piped q =>
      cases own
      rfl
  | single | recorded => cases own

namespace Network

variable {n : Network} {i : Nat} {s : Session Stream}

theorem mem_queued_setSession (there : n.sessions[i]? = some s) {s' : Session Stream} {j : Nat}
    {x : Stream} (hx : x ∈ (n.setSession i s').queued j) :
    x ∈ n.queued j ∨ j = i ∧ ∃ h, x ∈ (s'.halves.get h).incoming := by
  by_cases same : i = j
  · subst same
    have set : (n.setSession i s').sessions[i]? = some s' :=
      List.getElem?_set_self (List.getElem?_eq_some_iff.1 there).1
    exact .inr ⟨rfl, (mem_queued_iff set).1 hx⟩
  · have kept : (n.setSession i s').sessions[j]? = n.sessions[j]? := List.getElem?_set_ne same
    rw [queued, kept] at hx
    exact .inl hx

theorem queued_setSession_subset (there : n.sessions[i]? = some s) {s' : Session Stream}
    (fewer : ∀ h, (s'.halves.get h).incoming ⊆ (s.halves.get h).incoming) (j : Nat) :
    (n.setSession i s').queued j ⊆ n.queued j := by
  intro x hx
  obtain old | ⟨rfl, h, waits⟩ := mem_queued_setSession there hx
  · exact old
  · exact (mem_queued_iff there).2 ⟨h, fewer h waits⟩

theorem lt_of_mem_queued {x : Stream} (hx : x ∈ n.queued i) : i < n.sessions.length := by
  refine Nat.lt_of_not_le fun beyond => ?_
  rw [queued, List.getElem?_eq_none beyond] at hx
  cases hx

theorem queued_withSession (n : Network) (capacity : Nat) (dialing accepting : Address)
    (dial? : Option MemoryDial) (j : Nat) :
    (n.withSession capacity dialing accepting dial?).queued j = n.queued j := by
  change (((n.sessions ++ [_])[j]?).map _).getD [] = _
  rw [queued, List.getElem?_append]
  split
  · rfl
  · rename_i beyond
    rw [List.getElem?_eq_none (Nat.le_of_not_lt beyond)]
    cases j - n.sessions.length <;> rfl

end Network

namespace Paired

namespace Happening

variable {e : Happening}

/-- What does not happen on a session leaves no trace on it. -/
theorem apart_session {i : Nat} (apart : e.session? ≠ some i) (h : Half) :
    e.opens i h = [] ∧ e.accepts i h = [] ∧ e.sends i h = [] ∧ e.receives i h = [] ∧
      e.closes i = false := by
  have other {j : Nat} (apart : some j ≠ some i) : j ≠ i := fun same => apart (congrArg some same)
  cases e with
  | opened j side r =>
      cases r <;> simp [opens, accepts, sends, receives, closes, other apart]
  | accepted j side r =>
      obtain _ | (_ | _) := r <;> simp [opens, accepts, sends, receives, closes, other apart]
  | sent j side payload r =>
      cases r <;> simp [opens, accepts, sends, receives, closes, other apart]
  | received j side r =>
      obtain _ | (_ | _) := r <;> simp [opens, accepts, sends, receives, closes, other apart]
  | closed j side => simp [opens, accepts, sends, receives, closes, other apart]
  | _ => exact ⟨rfl, rfl, rfl, rfl, rfl⟩

/-- What is not done with a stream leaves no trace on it. -/
theorem apart_pipe {k : Nat} (apart : e.pipe? ≠ some k) (h : Half) :
    e.writes k h = [] ∧ e.reads k h = [] ∧ e.shuts k h = false ∧ e.hurts k = false := by
  cases e with
  | used x op answer =>
      have other : x.end? ≠ some (k, h) := fun own => apart (Stream.pipe?_of_end? own)
      have unhurt : x.pipe? ≠ some k := apart
      refine ⟨?_, ?_, ?_, ?_⟩
      · unfold writes
        split <;> simp_all
      · unfold reads
        split <;> simp_all
      · unfold shuts
        split <;> simp_all
      · unfold hurts
        split <;> simp_all
  | closedStream x => exact ⟨rfl, rfl, rfl, decide_eq_false apart⟩
  | _ => exact ⟨rfl, rfl, rfl, rfl⟩

theorem pipe?_of_hurts {k : Nat} (hurt : e.hurts k = true) : e.pipe? = some k := by
  apply Classical.byContradiction
  intro apart
  rw [(apart_pipe apart .first).2.2.2] at hurt
  cases hurt

theorem hurts_used_of_sane {answer : Option ByteResult} (sane : ∀ c, answer ≠ some (.failed c))
    (x : Stream) (op : ByteOp) (k : Nat) : (used x op answer).hurts k = false := by
  unfold hurts
  split <;> simp_all

end Happening

/-- A stream that came to be, seen from one of its ends. -/
def Known (l : List Happening) (x : Stream) : Prop :=
  ∃ b ∈ births l, x = .piped b.2 ∨ x = (Stream.piped b.2).peer

structure Stocked (n : Network) (l : List Happening) : Prop where
  bare : n.Bare
  sessions : ∀ e ∈ l, ∀ i, e.session? = some i → i < n.sessions.length
  pipes : ∀ e ∈ l, ∀ k, e.pipe? = some k → k < n.pipes.length
  births : (births l).map (·.2.pipe) = List.range n.pipes.length
  first : ∀ b ∈ Paired.births l, b.2.half = .first
  streams : ∀ e ∈ l, ∀ x ∈ e.streams, Known l x
  queued : ∀ i, ∀ x ∈ n.queued i, Known l x

section

variable {n n' : Network} {l : List Happening} {e : Happening} {a : Act} {r : List Holding}

theorem Known.concat {x : Stream} (known : Known l x) (e : Happening) : Known (l ++ [e]) x := by
  obtain ⟨b, hb, own⟩ := known
  rw [Known, births_concat]
  exact ⟨b, List.mem_append_left _ hb, own⟩

theorem Known.piped {x : Stream} (known : Known l x) : ∃ q, x = .piped q := by
  obtain ⟨b, -, rfl | rfl⟩ := known <;> exact ⟨_, rfl⟩

theorem Known.birth {q : PipedStream} (known : Known l (.piped q)) :
    ∃ b ∈ births l, b.2.pipe = q.pipe ∧ b.2.signal = q.signal := by
  obtain ⟨b, hb, own | own⟩ := known <;> cases own <;> exact ⟨b, hb, rfl, rfl⟩

theorem Happening.mem_sockets {x : Socket} (hx : x ∈ e.sockets) :
    ∃ i h, x = .session i h ∧ e.session? = some i := by
  cases e with
  | pairedSockets capacity i =>
      obtain rfl | hx := List.mem_cons.1 hx
      · exact ⟨i, .first, rfl, rfl⟩
      · exact ⟨i, .second, List.mem_singleton.1 hx, rfl⟩
  | _ => cases hx

theorem Happening.opens_subset_streams {i : Nat} {side : Half} : e.opens i side ⊆ e.streams := by
  intro x hx
  unfold Happening.opens at hx
  split at hx
  · split at hx
    · exact hx
    · cases hx
  · cases hx

theorem Happening.session?_of_births {i : Nat} {q : PipedStream} (born : (some i, q) ∈ e.births) :
    e.session? = some i := by
  unfold Happening.births at born
  split at born <;> simp_all [Happening.session?]

/-- Whether the ends of sessions that the program gets are those of the next session. -/
def Fresh (n : Network) (e : Happening) : Prop :=
  ∀ i h, .session i h ∈ e.sockets → i = n.sessions.length

theorem Effect.fresh (effect : Effect r n a e n') : Fresh n e := by
  intro i h new
  cases effect with
  | pairedSockets capacity dialing accepting dial? =>
      obtain same | same := List.mem_cons.1 new
      · cases same
        rfl
      · cases List.mem_singleton.1 same
        rfl
  | _ => cases new

/-- The program gets no end of a session that was there before. -/
theorem Fresh.mem_sockets (fresh : Fresh n e) {i : Nat} {h : Half} (within : i < n.sessions.length)
    (has : .session i h ∈ sockets (l ++ [e])) : .session i h ∈ sockets l := by
  obtain ⟨⟨e', he', hx⟩, stays⟩ := mem_sockets_iff.1 has
  obtain old | new := List.mem_append.1 he'
  · exact mem_sockets_iff.2 ⟨⟨e', old, hx⟩, fun e he => stays e (List.mem_append_left _ he)⟩
  · exact absurd (fresh i h (List.mem_singleton.1 new ▸ hx)) (Nat.ne_of_lt within)

theorem Effect.pipe?_eq (effect : Effect r n a e n') : e.pipe? = a.pipe? := by
  cases effect <;> rfl

/-- What an act is done with is there. -/
theorem Act.Finds.pipe_lt {k : Nat} (finds : a.Finds n) (on : a.pipe? = some k) :
    k < n.pipes.length := by
  cases a with
  | use | closeStream | drop =>
      obtain ⟨q, rfl, less⟩ := finds
      cases on
      exact less
  | _ => cases on

namespace Stocked

theorem plain (h : Stocked n l) : Plain n l where
  bare := h.bare
  sessions x hx := by
    obtain ⟨⟨e, -, hx⟩, -⟩ := mem_sockets_iff.1 hx
    obtain ⟨i, side, rfl, -⟩ := Happening.mem_sockets hx
    exact ⟨i, side, rfl⟩
  streams x hx := by
    obtain ⟨⟨e, he, hx⟩, -⟩ := mem_streams_iff.1 hx
    exact (h.streams e he x hx).piped
  queued i x hx := (h.queued i x hx).piped

theorem session_lt (h : Stocked n l) {i : Nat} {side : Half} (has : .session i side ∈ sockets l) :
    i < n.sessions.length := by
  obtain ⟨⟨e, he, hx⟩, -⟩ := mem_sockets_iff.1 has
  obtain ⟨j, side, same, on⟩ := Happening.mem_sockets hx
  cases same
  exact h.sessions e he i on

theorem pipe_lt (h : Stocked n l) {x : Stream} (known : Known l x) :
    ∃ q, x = .piped q ∧ q.pipe < n.pipes.length := by
  obtain ⟨b, hb, own⟩ := known
  have there : b.2.pipe ∈ (Paired.births l).map (·.2.pipe) := List.mem_map_of_mem hb
  rw [h.births, List.mem_range] at there
  obtain rfl | rfl := own
  · exact ⟨_, rfl, there⟩
  · exact ⟨_, rfl, there⟩

theorem known_of_mem_streams (h : Stocked n l) {x : Stream} (has : x ∈ Paired.streams l) :
    Known l x := by
  obtain ⟨⟨e, he, hx⟩, -⟩ := mem_streams_iff.1 has
  exact h.streams e he x hx

theorem birth_session_lt (h : Stocked n l) {i : Nat} {q : PipedStream}
    (born : (some i, q) ∈ Paired.births l) : i < n.sessions.length := by
  obtain ⟨e, he, hb⟩ := List.mem_flatMap.1 born
  exact h.sessions e he i (Happening.session?_of_births hb)

theorem birth_unique (h : Stocked n l) {b b' : Option Nat × PipedStream}
    (hb : b ∈ Paired.births l) (hb' : b' ∈ Paired.births l) (same : b.2.pipe = b'.2.pipe) :
    b = b' := by
  have nodup : ((Paired.births l).map (·.2.pipe)).Nodup := h.births ▸ List.nodup_range
  exact List.inj_on_of_nodup_map nodup hb hb' same

/-- Nothing has happened on a session that is not there yet. -/
theorem nothing_beyond (h : Stocked n l) {i : Nat} (beyond : n.sessions.length ≤ i) (side : Half) :
    opened i side l = [] ∧ accepted i side l = [] ∧ sent i side l = [] ∧
      received i side l = [] := by
  have apart (e : Happening) (he : e ∈ l) : e.session? ≠ some i :=
    fun on => Nat.not_lt.2 beyond (h.sessions e he i on)
  simp only [opened, accepted, sent, received, List.flatMap_eq_nil_iff]
  exact ⟨fun e he => (Happening.apart_session (apart e he) side).1,
    fun e he => (Happening.apart_session (apart e he) side).2.1,
    fun e he => (Happening.apart_session (apart e he) side).2.2.1,
    fun e he => (Happening.apart_session (apart e he) side).2.2.2.1⟩

theorem not_wasClosed (h : Stocked n l) {i : Nat} (beyond : n.sessions.length ≤ i) :
    wasClosed i l = false := by
  rw [wasClosed, List.any_eq_false]
  intro e he
  have apart : e.session? ≠ some i := fun on => Nat.not_lt.2 beyond (h.sessions e he i on)
  rw [(Happening.apart_session apart .first).2.2.2.2]
  exact Bool.false_ne_true

theorem not_wasHurt (h : Stocked n l) {k : Nat} (beyond : n.pipes.length ≤ k) :
    wasHurt k l = false := by
  rw [wasHurt, List.any_eq_false]
  intro e he
  have apart : e.pipe? ≠ some k := fun on => Nat.not_lt.2 beyond (h.pipes e he k on)
  rw [(Happening.apart_pipe apart .first).2.2.2]
  exact Bool.false_ne_true

theorem known_of_opened (h : Stocked n l) {i : Nat} {side : Half} {x : Stream}
    (hx : x ∈ opened i side l) : Known l x := by
  obtain ⟨e, he, hx⟩ := List.mem_flatMap.1 hx
  exact h.streams e he x (Happening.opens_subset_streams hx)

theorem known_of_has (h : Stocked n l) {x : Stream} (has : Has n l x) : Known l x := by
  obtain has | ⟨i, side, -, waits⟩ := has
  · exact h.known_of_mem_streams has
  · exact h.queued i x waits

/-- What the program may do finds what it is about. -/
theorem finds (h : Stocked n l) {a : Act} (allowed : State.allows ⟨n, l⟩ a = true) : a.Finds n := by
  cases a with
  | openStream | accept | send | receive | close | leave =>
      exact h.session_lt (of_decide_eq_true allowed)
  | use | closeStream | drop =>
      exact h.pipe_lt (h.known_of_mem_streams (of_decide_eq_true allowed))
  | pairSockets | pairStreams | release => exact trivial

theorem bare_of_effect (h : Stocked n l) (effect : Effect (roots l) n a e n') : n'.Bare := by
  cases effect with
  | released => exact h.plain.release_rest.2
  | _ => exact ⟨h.bare.demuxers, h.bare.links, h.bare.streams, h.bare.sockets⟩

theorem sessions_of_effect (h : Stocked n l) (effect : Effect (roots l) n a e n') :
    n.sessions.length ≤ n'.sessions.length := by
  cases effect with
  | pairedSockets => exact List.length_append ▸ Nat.le_add_right _ _
  | opened | accepted | sent | received => exact Nat.le_of_eq List.length_set.symm
  | released =>
      refine Nat.le_of_eq ?_
      rw [h.plain.sessions_release, List.length_mapIdx]
  | _ => exact Nat.le_refl _

theorem session_of_effect (finds : a.Finds n) (effect : Effect r n a e n') {i : Nat}
    (on : e.session? = some i) : i < n'.sessions.length := by
  cases effect with
  | pairedSockets =>
      cases on
      exact List.length_append ▸ Nat.lt_succ_self _
  | opened | accepted | sent | received =>
      cases on
      exact Nat.lt_of_lt_of_eq finds List.length_set.symm
  | openFails | acceptWaits | acceptFails | sendFails | receiveWaits | receiveFails | closed
  | left =>
      cases on
      exact finds
  | _ => cases on

/-- A stream that comes to be has the next pipe. -/
theorem births_cases (h : Stocked n l) (effect : Effect (roots l) n a e n') :
    e.births = [] ∧ n'.pipes.length = n.pipes.length ∨
      ∃ b, e.births = [b] ∧ b.2.pipe = n.pipes.length ∧ b.2.half = .first ∧
        n'.pipes.length = n.pipes.length + 1 := by
  cases effect with
  | pairedStreams => exact .inr ⟨_, rfl, rfl, rfl, List.length_append⟩
  | opened => exact .inr ⟨_, rfl, rfl, rfl, List.length_append⟩
  | used => exact .inl ⟨rfl, List.length_set⟩
  | released =>
      refine .inl ⟨rfl, ?_⟩
      rw [h.plain.pipes_release, List.length_mapIdx]
  | _ => exact .inl ⟨rfl, rfl⟩

/-- What waits on sessions has waited before, or is the other end of a stream that comes to be. -/
theorem queued_cases (h : Stocked n l) (effect : Effect (roots l) n a e n') {i : Nat} {x : Stream}
    (hx : x ∈ n'.queued i) : x ∈ n.queued i ∨ ∃ b ∈ e.births, x = (Stream.piped b.2).peer := by
  cases effect with
  | pairedSockets =>
      rw [n.queued_withSession] at hx
      exact .inl hx
  | @opened j side s there unfired accompanied =>
      obtain old | ⟨rfl, half, waits⟩ := Network.mem_queued_setSession there hx
      · exact .inl old
      · simp only [Session.get_opened] at waits
        split at waits
        · refine (List.mem_append.1 waits).imp (fun old => ?_) fun new => ?_
          · exact (Network.mem_queued_iff there).2 ⟨half, old⟩
          · exact ⟨_, List.mem_singleton_self _, List.mem_singleton.1 new⟩
        · exact .inl ((Network.mem_queued_iff there).2 ⟨half, waits⟩)
  | @accepted j side s y rest there unfired waiting =>
      refine .inl (Network.queued_setSession_subset there (fun half z hz => ?_) i hx)
      simp only [Session.get_keepStreams] at hz
      split at hz
      · rename_i same
        rw [same, waiting]
        exact List.mem_cons_of_mem _ hz
      · exact hz
  | sent payload there unfired accompanied =>
      refine .inl (Network.queued_setSession_subset there (fun half => ?_) i hx)
      rw [Session.get_datagramSent]
      exact List.Subset.refl _
  | received there unfired waiting =>
      refine .inl (Network.queued_setSession_subset there (fun half => ?_) i hx)
      rw [Session.get_keepDatagrams]
      exact List.Subset.refl _
  | released =>
      rw [Network.queued, h.plain.sessions_release, List.getElem?_mapIdx, Option.map_map] at hx
      exact .inl hx
  | _ => exact .inl hx

/-- What the program gets it could accept before, or it is an end of a stream that comes to be. -/
theorem streams_cases (allowed : State.allows ⟨n, l⟩ a = true) (effect : Effect (roots l) n a e n')
    {x : Stream} (hx : x ∈ e.streams) :
    Has n l x ∨ ∃ b ∈ e.births, x = .piped b.2 ∨ x = (Stream.piped b.2).peer := by
  cases effect with
  | pairedStreams =>
      refine .inr ⟨_, List.mem_singleton_self _, ?_⟩
      exact (List.mem_cons.1 hx).imp_right List.mem_singleton.1
  | opened => exact .inr ⟨_, List.mem_singleton_self _, .inl (List.mem_singleton.1 hx)⟩
  | @accepted i side s y rest there unfired waiting =>
      obtain rfl := List.mem_singleton.1 hx
      refine .inl (.inr ⟨i, side, of_decide_eq_true allowed, ?_⟩)
      exact (Network.mem_queued_iff there).2 ⟨side, waiting ▸ List.mem_cons_self⟩
  | _ => cases hx

theorem step (h : Stocked n l) (allowed : State.allows ⟨n, l⟩ a = true)
    (effect : Effect (roots l) n a e n') : Stocked n' (l ++ [e]) := by
  have finds := h.finds allowed
  have births := h.births_cases effect
  have born {b : Option Nat × PipedStream} {x : Stream} (hb : b ∈ e.births)
      (own : x = .piped b.2 ∨ x = (Stream.piped b.2).peer) : Known (l ++ [e]) x := by
    rw [Known, births_concat]
    exact ⟨b, List.mem_append_right _ hb, own⟩
  refine ⟨h.bare_of_effect effect, ?_, ?_, ?_, ?_, ?_, ?_⟩
  · intro e' he' i on
    obtain old | new := List.mem_append.1 he'
    · exact Nat.lt_of_lt_of_le (h.sessions e' old i on) (h.sessions_of_effect effect)
    · exact session_of_effect finds effect (List.mem_singleton.1 new ▸ on)
  · intro e' he' k on
    have less : k < n.pipes.length := by
      obtain old | new := List.mem_append.1 he'
      · exact h.pipes e' old k on
      · rw [List.mem_singleton.1 new, effect.pipe?_eq] at on
        exact finds.pipe_lt on
    obtain ⟨-, same⟩ | ⟨-, -, -, -, more⟩ := births
    · exact same ▸ less
    · exact more ▸ Nat.lt_succ_of_lt less
  · rw [births_concat, List.map_append, h.births]
    obtain ⟨none_born, same⟩ | ⟨b, born, place, -, more⟩ := births
    · rw [none_born, same]
      exact List.append_nil _
    · rw [born, more, List.range_succ, ← place]
      rfl
  · intro b hb
    rw [births_concat] at hb
    obtain old | new := List.mem_append.1 hb
    · exact h.first b old
    · obtain ⟨none_born, -⟩ | ⟨b', born, -, half, -⟩ := births
      · rw [none_born] at new
        cases new
      · rw [born] at new
        rw [List.mem_singleton.1 new, half]
  · intro e' he' x hx
    obtain old | new := List.mem_append.1 he'
    · exact (h.streams e' old x hx).concat e
    · obtain has | ⟨b, hb, own⟩ := streams_cases allowed effect (List.mem_singleton.1 new ▸ hx)
      · exact (h.known_of_has has).concat e
      · exact born hb own
  · intro i x hx
    obtain old | ⟨b, hb, own⟩ := h.queued_cases effect hx
    · exact (h.queued i x old).concat e
    · exact born hb (.inr own)

/-- Of the streams that there were, the program gets no end that it did not have or could accept. -/
theorem has_of_effect (h : Stocked n l) (allowed : State.allows ⟨n, l⟩ a = true)
    (effect : Effect (roots l) n a e n') {x : Stream} (has : Has n' (l ++ [e]) x) :
    Has n l x ∨ x.pipe? = some n.pipes.length := by
  have place {b : Option Nat × PipedStream} (hb : b ∈ e.births)
      (own : x = .piped b.2 ∨ x = (Stream.piped b.2).peer) : x.pipe? = some n.pipes.length := by
    obtain ⟨none_born, -⟩ | ⟨b', born, place, -⟩ := h.births_cases effect
    · rw [none_born] at hb
      cases hb
    · rw [born] at hb
      rw [← place, ← List.mem_singleton.1 hb]
      obtain rfl | rfl := own <;> rfl
  obtain has | ⟨i, side, has, waits⟩ := has
  · obtain ⟨⟨e', he', hx⟩, stays⟩ := mem_streams_iff.1 has
    obtain old | new := List.mem_append.1 he'
    · refine .inl (.inl (mem_streams_iff.2 ⟨⟨e', old, hx⟩, fun e he => ?_⟩))
      exact stays e (List.mem_append_left _ he)
    · obtain has | ⟨b, hb, own⟩ := streams_cases allowed effect (List.mem_singleton.1 new ▸ hx)
      · exact .inl has
      · exact .inr (place hb own)
  · obtain old | ⟨b, hb, own⟩ := h.queued_cases effect waits
    · refine .inl (.inr ⟨i, side, effect.fresh.mem_sockets ?_ has, old⟩)
      exact Network.lt_of_mem_queued old
    · exact .inr (place hb (.inr own))

end Stocked

theorem stocked_start : Stocked .empty [] where
  bare := ⟨rfl, rfl, rfl, rfl⟩
  sessions _ he := absurd he List.not_mem_nil
  pipes _ he := absurd he List.not_mem_nil
  births := rfl
  first _ hb := absurd hb List.not_mem_nil
  streams _ he := absurd he List.not_mem_nil
  queued _ _ hx := absurd hx List.not_mem_nil

/-- An act that the program may do has one of the effects. -/
theorem Stocked.act_cases {s : State} (h : Stocked s.network s.history) (a : Act) :
    s.act a = s ∨ ∃ e n', s.allows a = true ∧ Effect (roots s.history) s.network a e n' ∧
      s.act a = ⟨n', s.history ++ [e]⟩ := by
  cases allowed : s.allows a with
  | false => exact .inl (if_neg (Bool.eq_false_iff.1 allowed))
  | true => exact .inr ⟨_, _, rfl, a.effect _ (h.finds allowed), if_pos allowed⟩

theorem stocked_run (acts : List Act) :
    Stocked (start.run acts).network (start.run acts).history := by
  induction acts using List.reverseRecOn with
  | nil => exact stocked_start
  | append_singleton acts a ih =>
      rw [State.run_concat]
      obtain same | ⟨e, n', allowed, effect, same⟩ := ih.act_cases a
      · rwa [same]
      · rw [same]
        exact ih.step allowed effect

/-- What holds at first and is kept by each effect holds after each run. -/
theorem run_induct {P : Network → List Happening → Prop} (first : P .empty [])
    (step : ∀ {n l a e n'}, Stocked n l → P n l → State.allows ⟨n, l⟩ a = true →
      Effect (roots l) n a e n' → P n' (l ++ [e])) (acts : List Act) :
    P (start.run acts).network (start.run acts).history := by
  induction acts using List.reverseRecOn with
  | nil => exact first
  | append_singleton acts a ih =>
      rw [State.run_concat]
      obtain same | ⟨e, n', allowed, effect, same⟩ := (stocked_run acts).act_cases a
      · rwa [same]
      · rw [same]
        exact step (stocked_run acts) ih allowed effect

end

end Paired

end TransportStack
