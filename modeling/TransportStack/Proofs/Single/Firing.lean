import TransportStack.Proofs.Guarding.Operations
import TransportStack.Proofs.Network.Held
import TransportStack.Proofs.Shutdown.Proceeding

/-!
Operations that make nothing and only fire signals: closing streams, operations on their bytes, and
releases. Each of them says which signals it can fire. The sockets without multiplexing, the links of
their streams and the demultiplexed listeners stay as they are.
-/

namespace TransportStack

open Scenario (ByteOp ByteResult)

namespace Network

/-- What an operation leaves as it was that makes nothing and fires only signals of a kind. -/
structure Fires (cause : Signal → Prop) (n n' : Network) : Prop where
  count : n'.signals.count = n.signals.count
  fired : n.signals.fired ⊆ n'.signals.fired
  causes : ∀ f ∈ n'.signals.fired, f ∈ n.signals.fired ∨ cause f
  dialed : n'.dialed = n.dialed
  accepted : n'.accepted = n.accepted
  demuxers : n'.demuxers = n.demuxers
  links : n'.links = n.links

namespace Fires

variable {cause cause' : Signal → Prop} {n n₁ n' : Network}

/-- What only concerns the rest of the network. -/
theorem of_same (signals : n'.signals = n.signals) (dialed : n'.dialed = n.dialed)
    (accepted : n'.accepted = n.accepted) (demuxers : n'.demuxers = n.demuxers)
    (links : n'.links = n.links) : Fires cause n n' where
  count := by rw [signals]
  fired := by
    rw [signals]
    exact List.Subset.refl _
  causes f hf := by
    rw [signals] at hf
    exact .inl hf
  dialed := dialed
  accepted := accepted
  demuxers := demuxers
  links := links

theorem refl (n : Network) : Fires cause n n := .of_same rfl rfl rfl rfl rfl

theorem trans (h : Fires cause n n₁) (h' : Fires cause n₁ n') : Fires cause n n' where
  count := h'.count.trans h.count
  fired := List.Subset.trans h.fired h'.fired
  causes f hf := (h'.causes f hf).elim (h.causes f) .inr
  dialed := h'.dialed.trans h.dialed
  accepted := h'.accepted.trans h.accepted
  demuxers := h'.demuxers.trans h.demuxers
  links := h'.links.trans h.links

theorem weaken (h : Fires cause n n') (weaker : ∀ f, cause f → cause' f) : Fires cause' n n' :=
  { h with causes := fun f hf => (h.causes f hf).imp_right (weaker f) }

theorem fire {s : Signal} (allowed : cause s) : Fires cause n (n.fire s) where
  count := Signals.count_fire s
  fired := Signals.fired_subset_fire s
  causes f hf := by
    obtain rfl | old := Signals.mem_fired_fire hf
    · exact .inr allowed
    · exact .inl old
  dialed := rfl
  accepted := rfl
  demuxers := rfl
  links := rfl

theorem isFired (h : Fires cause n n') {s : Signal} (fired : n.isFired s = true) :
    n'.isFired s = true :=
  isFired_mono h.fired fired

end Fires

theorem isFired_fire_self (n : Network) (s : Signal) : (n.fire s).isFired s = true :=
  Signals.isFired_fire_self s

/-- Closing a stream fires its signals, and no others. -/
theorem closeStream_firing (x : Stream) (n : Network) :
    Fires (· ∈ x.signals) n (closeStream x n) ∧
      ∀ s ∈ x.signals, (closeStream x n).isFired s = true := by
  induction x generalizing n with
  | piped _ | recorded _ _ _ =>
      refine ⟨.fire List.mem_cons_self, fun s hs => ?_⟩
      rw [List.mem_singleton.1 hs]
      exact n.isFired_fire_self _
  | single inner signal socket? ih =>
      obtain ⟨fires, all⟩ := ih (n.fire signal)
      have first : Fires (· ∈ (Stream.single inner signal socket?).signals) n (n.fire signal) :=
        .fire List.mem_cons_self
      refine ⟨first.trans (fires.weaken fun _ hf => List.mem_cons_of_mem _ hf), fun s hs => ?_⟩
      obtain rfl | inside := List.mem_cons.1 hs
      · exact fires.isFired (n.isFired_fire_self s)
      · exact all s inside

/-- An operation on a stream that is tied to a signal fires what it fires on the stream inside, and
the signal if and only if it fails to read or to write. -/
theorem guarded_firing {inside : Signal → Prop} {b : ByteStream Network} {op : ByteOp} {n : Network}
    (fires : Fires inside n (op.perform b n).2) (signal : Signal) :
    let r := op.perform (b.guarded (guard signal)) n
    Fires (fun f => inside f ∨ f = signal ∧ op.Fails r.1) n r.2 ∧
      (op.Fails r.1 → r.2.isFired signal = true) := by
  cases fired : n.isFired signal with
  | true =>
      rw [b.perform_guarded_of_fired (guard signal) op fired]
      exact ⟨.refl n, fun _ => fired⟩
  | false =>
      rw [b.perform_guarded_of_unfired (guard signal) op fired]
      by_cases fails : op.Fails (op.perform b n).1
      · simp only [if_pos fails]
        exact ⟨(fires.weaken fun _ => .inl).trans (.fire (.inr ⟨rfl, fails⟩)),
          fun _ => isFired_fire_self _ signal⟩
      · simp only [if_neg fails]
        exact ⟨fires.weaken fun _ => .inl, fun failed => absurd failed fails⟩

/-- An operation on the bytes of a stream fires no signals but those of the stream. -/
theorem perform_firing (x : Stream) (op : ByteOp) (n : Network) :
    Fires (· ∈ x.signals) n (op.perform (bytes x) n).2 := by
  have own {inside : Signal → Prop} {b : ByteStream Network} (signal : Signal)
      (fires : Fires inside n (op.perform b n).2) :
      Fires (fun f => f = signal ∨ inside f) n (op.perform (b.guarded (guard signal)) n).2 :=
    (guarded_firing fires signal).1.weaken fun _ hf => hf.elim .inr fun hf => .inl hf.1
  induction x with
  | piped s =>
      have idle : Fires (fun _ => False) n (op.perform (pipeBytes s.pipe s.half) n).2 := by
        cases op <;> exact .of_same rfl rfl rfl rfl rfl
      exact (own s.signal idle).weaken fun _ hf => List.mem_singleton.2 (hf.resolve_right id)
  | single inner signal socket? ih => exact (own signal ih).weaken fun _ => List.mem_cons.2
  | recorded remote number signal =>
      have idle : Fires (fun _ => False) n (op.perform idleBytes n).2 := by
        cases op <;> exact .of_same rfl rfl rfl rfl rfl
      exact (own signal idle).weaken fun _ hf => List.mem_singleton.2 (hf.resolve_right id)

/-- Releasing fires the signals of the single streams released, and those of demultiplexed
listeners. -/
theorem releaseAll_firing (loose : List Holding) (n : Network) :
    Fires (fun f => .single f ∈ loose ∨ ∃ d ∈ n.demuxers, d.shutdown = f) n
        (loose.foldl releaseOne n) ∧
      ∀ s, .single s ∈ loose → (loose.foldl releaseOne n).isFired s = true := by
  induction loose generalizing n with
  | nil => exact ⟨.refl n, fun _ hs => absurd hs List.not_mem_nil⟩
  | cons x xs ih =>
      have first : Fires (fun f => .single f ∈ x :: xs ∨ ∃ d ∈ n.demuxers, d.shutdown = f) n
          (n.releaseOne x) := by
        cases x with
        | single s => exact .fire (.inl List.mem_cons_self)
        | demuxer i =>
            rw [releaseOne]
            cases hd : n.demuxers[i]? with
            | none => exact .refl n
            | some d => exact .fire (.inr ⟨d, List.mem_of_getElem? hd, rfl⟩)
        | _ => exact .of_same rfl rfl rfl rfl rfl
      obtain ⟨fires, all⟩ := ih (n.releaseOne x)
      rw [first.demuxers] at fires
      refine ⟨first.trans (fires.weaken fun _ hf => hf.imp_left (List.mem_cons_of_mem x)),
        fun s hs => ?_⟩
      obtain rfl | later := List.mem_cons.1 hs
      · exact fires.isFired (n.isFired_fire_self s)
      · exact all s later

/-- A release fires the signals of all single streams that nobody holds, and those of demultiplexed
listeners. -/
theorem release_firing {n n' : Network} {roots : List Holding}
    (released : n.release? roots = some n') :
    Fires (fun f => (∃ l ∈ n.links, l.1 = f ∧ .single f ∉ n.held roots) ∨
        ∃ d ∈ n.demuxers, d.shutdown = f) n n' ∧
      ∀ l ∈ n.links, .single l.1 ∉ n.held roots → n'.isFired l.1 = true := by
  obtain ⟨fires, all⟩ :=
    releaseAll_firing (n.unreleased.filter fun x => !(n.held roots).contains x) n
  rw [← n.release?_getD roots, released, Option.getD_some] at fires all
  have loose_iff (s : Signal) : .single s ∈ (n.unreleased.filter
      fun x => !(n.held roots).contains x) ↔ .single s ∈ n.unreleased ∧ .single s ∉ n.held roots := by
    rw [List.mem_filter, Bool.not_eq_true', List.contains_eq_mem, decide_eq_false_iff_not]
  refine ⟨fires.weaken fun f hf => hf.imp_left fun loose => ?_, fun l hl unheld => ?_⟩
  · obtain ⟨unreleased, unheld⟩ := (loose_iff f).1 loose
    obtain ⟨l, hl, rfl⟩ : n.Unreleased (.single f) := unreleased_of_mem unreleased
    exact ⟨l, hl, rfl, unheld⟩
  · cases fired : n.isFired l.1 with
    | true => exact fires.isFired fired
    | false =>
        refine all l.1 ((loose_iff l.1).2 ⟨?_, unheld⟩)
        simp only [unreleased, List.mem_append, List.mem_map, List.mem_filter]
        exact .inl (.inl (.inl (.inl (.inr ⟨l, ⟨hl, by simp [fired]⟩, rfl⟩))))

end Network

end TransportStack
