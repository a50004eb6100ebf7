import TransportStack.Proofs.Guarding.Operations
import TransportStack.Proofs.Tunnel.Releasing

/-!
The program uses the streams that it holds. An operation on a stream touches the pipe beneath it and
nothing else, and its failure fires the signal of that stream alone.
-/

namespace TransportStack.Tunnel

open Scenario (ByteOp)

variable {address : String} {p : Parameters} {N k : Nat} {f : FanIn Socket Stream} {t : Tunnel}

/-- An operation on the bytes of a stream leaves the network as it is, or changes the pipe of the
stream without giving it up; after that it fires the signal of the stream if it has failed. -/
theorem perform_cases (q : PipedStream) (op : ByteOp) (n : Network) :
    let r := op.perform (Network.bytes (.piped q)) n
    r.2 = n ∨ ∃ pipe : Pipe, pipe.released = (n.pipes[q.pipe]?.getD (.empty 0)).released ∧
      let touched := { n with pipes := n.pipes.set q.pipe pipe }
      r.2 = touched ∨ (∃ e, r.1 = some (.failed e)) ∧ r.2 = touched.fire q.signal := by
  intro r
  cases fired : n.isFired q.signal with
  | true =>
      exact .inl (congrArg Prod.snd
        (ByteStream.perform_guarded_of_fired (Network.guard q.signal) _ op fired))
  | false =>
      have performed := ByteStream.perform_guarded_of_unfired (Network.guard q.signal)
        (Network.pipeBytes q.pipe q.half) op fired
      rw [Network.pipeBytes, ByteStream.perform_within] at performed
      refine .inr ⟨(op.perform (Pipe.stream q.half) (n.pipes[q.pipe]?.getD (.empty 0))).2, ?_, ?_⟩
      · cases op <;> rfl
      · by_cases fails : op.Fails (op.perform (Pipe.stream q.half)
            (n.pipes[q.pipe]?.getD (.empty 0))).1
        · refine .inr ⟨?_, (congrArg Prod.snd performed).trans (if_pos fails)⟩
          obtain ⟨e, failed⟩ := ByteOp.exists_of_fails fails
          exact ⟨e, (congrArg Prod.fst performed).trans failed⟩
        · exact .inl ((congrArg Prod.snd performed).trans (if_neg fails))

theorem perform_eq (t : Tunnel) (s : Stream) (op : ByteOp) :
    let r := op.perform (Network.bytes s) t.network
    ∃ ended, t.perform s op = { t with network := r.2, ended := ended } ∧
      (ended = t.ended ∨ ended = s.pipe?.toList ++ t.ended) ∧
      ((∃ e, r.1 = some (.failed e)) → ended = s.pipe?.toList ++ t.ended) := by
  intro r
  unfold Tunnel.perform
  split
  · rename_i e n performed
    have same : r = (some (.failed e), n) := performed
    exact ⟨_, by rw [same], .inr rfl, fun _ => rfl⟩
  · rename_i result n other performed
    have same : r = (result, n) := performed
    refine ⟨_, by rw [same], .inl rfl, ?_⟩
    rintro ⟨e, failed⟩
    rw [same] at failed
    exact (other e failed).elim

namespace Sound

theorem withEnded (h : Sound address p N k f t) {ended : List Nat} (more : t.ended ⊆ ended) :
    Sound address p N k f { t with ended := ended } := by
  refine { h with
    fired := ?fired
    session := fun j s hs => (h.session j s hs).mono (Nat.le_refl k) (Nat.le_refl _) Iff.rfl
    places := fun i hi alive => h.places i hi fun old => alive (more old)
    intact := fun i q hq released => more (h.intact i q hq released) }
  case fired =>
    intro s hs
    obtain session | ⟨i, hi, old, same⟩ := h.fired s hs
    · exact .inl session
    · exact .inr ⟨i, hi, more old, same⟩

theorem fire (h : Sound address p N k f t) {i : Nat} (hi : i < k) (ended : i ∈ t.ended) :
    Sound address p N k f { t with network := t.network.fire (streamSignal N i) } := by
  have closed_iff (j : Nat) : sessionSignal N j ∈
      (t.network.signals.fire (streamSignal N i)).fired ↔ Closed N t j := by
    constructor
    · intro fired
      obtain new | old := Signals.mem_fired_fire fired
      · exact absurd new.symm (streamSignal_ne_sessionSignal N i j)
      · exact old
    · exact fun old => Signals.fired_subset_fire _ old
  refine { h with
    signals := (Signals.count_fire _).trans h.signals
    fired := ?fired
    served := fun j hj => (h.served j hj).imp_right (closed_iff j).2
    resigned := fun j closed => h.resigned j ((closed_iff j).1 closed)
    session := fun j s hs =>
      (h.session j s hs).mono (Nat.le_refl k) (Nat.le_refl _) (closed_iff j) }
  case fired =>
    intro s hs
    obtain rfl | old := Signals.mem_fired_fire hs
    · exact .inr ⟨i, hi, ended, rfl⟩
    · exact h.fired s old

theorem touch (h : Sound address p N k f t) {i : Nat} {pipe : Pipe}
    (kept : pipe.released = (t.network.pipes[i]?.getD (.empty 0)).released) :
    Sound address p N k f
      { t with network := { t.network with pipes := t.network.pipes.set i pipe } } := by
  refine { h with
    pipes := List.length_set.trans h.pipes
    session := fun j s hs => (h.session j s hs).mono (Nat.le_refl k) (Nat.le_refl _) Iff.rfl
    intact := ?intact }
  case intact =>
    intro i' q hq released
    change (t.network.pipes.set i pipe)[i']? = some q at hq
    by_cases same : i = i'
    · subst same
      have within : i < t.network.pipes.length := by
        have := (List.getElem?_eq_some_iff.1 hq).1
        rwa [List.length_set] at this
      rw [List.getElem?_set_self within] at hq
      cases hq
      rw [List.getElem?_eq_getElem within, Option.getD_some] at kept
      exact h.intact i _ (List.getElem?_eq_getElem within) (kept.symm.trans released)
    · rw [List.getElem?_set_ne same] at hq
      exact h.intact i' q hq released

theorem perform (h : Sound address p N k f t) {s : Stream} (held : s ∈ t.held) (op : ByteOp) :
    Sound address p N k f (t.perform s op) ∧ Frame (.perform s op) t (t.perform s op) ∧
      (t.perform s op).network.sessions = t.network.sessions := by
  obtain ⟨i, hi, side, he⟩ := h.held s held
  obtain ⟨q, rfl, rfl, -, signal⟩ := he.piped
  obtain ⟨ended, performed, which, failed⟩ := t.perform_eq (.piped q) op
  have grown : t.ended ⊆ ended := by
    obtain rfl | rfl := which
    · exact fun _ old => old
    · exact fun _ old => List.mem_cons_of_mem _ old
  have sound := h.withEnded grown
  have others (i : Nat) (hi : i ∈ ended) : i ∈ t.ended ∨ (Act.perform (.piped q) op).Uses i := by
    obtain rfl | rfl := which
    · exact .inl hi
    · obtain rfl | old := List.mem_cons.1 hi
      · exact .inr rfl
      · exact .inl old
  have apart (pipe : Pipe) (i : Nat) (unused : ¬(Act.perform (.piped q) op).Uses i) :
      (t.network.pipes.set q.pipe pipe)[i]? = t.network.pipes[i]? :=
    List.getElem?_set_ne fun same => unused (congrArg some same)
  rw [performed]
  obtain same | ⟨pipe, kept, same | ⟨failure, same⟩⟩ := perform_cases q op t.network <;> rw [same]
  · exact ⟨sound, ⟨List.prefix_rfl, others, fun _ _ _ _ => rfl⟩, rfl⟩
  · exact ⟨sound.touch kept, ⟨List.prefix_rfl, others, fun i _ _ => apart pipe i⟩, rfl⟩
  · have own : q.pipe ∈ ended := by
      rw [failed failure]
      exact List.mem_cons_self
    rw [signal]
    have fired := (sound.touch kept).fire hi own
    exact ⟨fired, ⟨List.prefix_rfl, others, fun i _ _ => apart pipe i⟩, rfl⟩

theorem close (h : Sound address p N k f t) {s : Stream} (held : s ∈ t.held) :
    Sound address p N k f (t.close s) ∧ Frame (.close s) t (t.close s) ∧
      (t.close s).network.sessions = t.network.sessions := by
  obtain ⟨i, hi, side, he⟩ := h.held s held
  obtain ⟨q, rfl, rfl, -, signal⟩ := he.piped
  have grown : t.ended ⊆ q.pipe :: t.ended := fun _ old => List.mem_cons_of_mem _ old
  have sound := h.withEnded grown
  have closed := sound.fire hi List.mem_cons_self
  rw [← signal] at closed
  refine ⟨closed, ⟨List.prefix_rfl, ?_, fun _ _ _ _ => rfl⟩, rfl⟩
  intro i hi
  obtain rfl | old := List.mem_cons.1 hi
  · exact .inr rfl
  · exact .inl old

theorem drop (h : Sound address p N k f t) {s : Stream} (held : s ∈ t.held) :
    Sound address p N k f (t.drop s) ∧ Frame (.drop s) t (t.drop s) ∧
      (t.drop s).network.sessions = t.network.sessions := by
  obtain ⟨i, hi, side, he⟩ := h.held s held
  obtain ⟨q, rfl, rfl, -, signal⟩ := he.piped
  have grown : t.ended ⊆ q.pipe :: t.ended := fun _ old => List.mem_cons_of_mem _ old
  have sound := h.withEnded grown
  have kept {i : Nat} {side : Half} {x : Stream} (he : IsEnd N i side x) (other : i ≠ q.pipe)
      (hx : x ∈ t.held) : x ∈ t.held.erase (.piped q) := by
    refine (List.mem_erase_of_ne ?_).2 hx
    rintro rfl
    obtain ⟨q', same, rfl, -, -⟩ := he.piped
    cases same
    exact other rfl
  refine ⟨?_, ⟨List.prefix_rfl, ?_, fun _ _ _ _ => rfl⟩, rfl⟩
  · refine { sound with
      session := fun j s hs => (sound.session j s hs).mono (Nat.le_refl k) (Nat.le_refl _) Iff.rfl
      held := fun x hx => h.held x (List.mem_of_mem_erase hx)
      places := ?places }
    case places =>
      intro i hi alive
      obtain ⟨⟨x, hx, first⟩, y, second, hy⟩ := sound.places i hi alive
      have other : i ≠ q.pipe := fun same => alive (same ▸ List.mem_cons_self)
      exact ⟨⟨x, kept first other hx, first⟩, y, second, hy.imp_left (kept second other)⟩
  · intro i hi
    obtain rfl | old := List.mem_cons.1 hi
    · exact .inr rfl
    · exact .inl old

end Sound

end TransportStack.Tunnel
