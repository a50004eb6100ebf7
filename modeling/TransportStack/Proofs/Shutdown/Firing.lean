import TransportStack.Proofs.Guarding.Operations
import TransportStack.Proofs.Network.Held
import TransportStack.Proofs.Shutdown.Making

/-!
Which signals the other operations fire: operations on bytes and closing streams and sockets those of
connections and their streams, closing listeners those of listeners, and a release those of single
streams and demultiplexed listeners that nobody holds.
-/

namespace TransportStack

open Scenario (ByteOp)

variable {ρ : List Role}

/-- The signals that close connections and streams. -/
def Signal.IsOrdinary (ρ : List Role) (s : Signal) : Prop :=
  s.HasRole ρ .plain ∨ s.HasRole ρ .single

namespace Network

/-- An operation that makes no signal, and fires only some. -/
def FiresOnly (P : Signal → Prop) (ρ : List Role) (n n' : Network) : Prop :=
  n'.Fits ρ ∧ n.Proceeds P n'

variable {P Q : Signal → Prop} {n n₁ n' : Network}

theorem Proceeds.weaken (h : n.Proceeds P n') (weaker : ∀ f, P f → Q f) : n.Proceeds Q n' :=
  { h with causes := fun f hf => (h.causes f hf).imp_right (weaker f) }

/-- An operation that fires nothing. -/
theorem Proceeds.of_silent (h : n.Proceeds (fun _ => False) n') : n.Proceeds P n' :=
  h.weaken fun _ => False.elim

namespace FiresOnly

theorem refl (h : n.Fits ρ) : FiresOnly P ρ n n := ⟨h, .refl n⟩

theorem trans (h : FiresOnly P ρ n n₁) (h' : FiresOnly P ρ n₁ n') : FiresOnly P ρ n n' :=
  ⟨h'.1, h.2.trans h'.2⟩

theorem weaken (h : FiresOnly P ρ n n') (weaker : ∀ f, P f → Q f) : FiresOnly Q ρ n n' :=
  ⟨h.1, h.2.weaken weaker⟩

theorem fire (h : n.Fits ρ) {s : Signal} (cause : P s) : FiresOnly P ρ n (n.fire s) := by
  refine ⟨{ h with count := (Signals.count_fire s).trans h.count }, ?_⟩
  have same : n.Proceeds P n := .refl n
  exact {
    listeners := same.listeners
    fired := Signals.fired_subset_fire s
    causes := fun f hf => by
      obtain rfl | old := Signals.mem_fired_fire hf
      · exact .inr cause
      · exact .inl old
    demuxers := same.demuxers
    gathered := fun i d hd => .inl (List.getElem?_eq_some_iff.1 hd).1 }

end FiresOnly

section

variable (h : n.Fits ρ)

include h

theorem fires_closeStream {s : Stream} (fits : s.Fits ρ) :
    FiresOnly (Signal.IsOrdinary ρ) ρ n (closeStream s n) := by
  induction s generalizing n with
  | piped s => exact .fire h (.inl (Signal.IsPlain.hasRole fits))
  | single inner signal socket? ih =>
      obtain ⟨role, inside, -⟩ := fits
      have first : FiresOnly (Signal.IsOrdinary ρ) ρ n (n.fire signal) := .fire h (.inr role)
      exact first.trans (ih first.1 inside)
  | recorded remote number signal => exact .fire h (.inl (Signal.IsPlain.hasRole fits))

theorem fires_closeSocket (s : Socket) :
    FiresOnly (Signal.IsOrdinary ρ) ρ n (closeSocket s n) := by
  cases s with
  | session i side =>
      rw [closeSocket]
      cases hs : n.sessions[i]? with
      | none => exact .refl h
      | some s => exact .fire h (.inl (h.session s (List.mem_of_getElem? hs)).1.hasRole)
  | dialed i =>
      rw [closeSocket]
      cases hs : n.dialed[i]? with
      | none => exact .refl h
      | some s => exact .fire h (.inl (h.dialed s (List.mem_of_getElem? hs)).hasRole)
  | accepted i =>
      rw [closeSocket]
      cases hs : n.accepted[i]? with
      | none => exact .refl h
      | some s =>
          obtain ⟨role, waiting⟩ := h.accepted s (List.mem_of_getElem? hs)
          have fired : FiresOnly (Signal.IsOrdinary ρ) ρ n (n.fire s.signal) :=
            .fire h (.inr role)
          let n' : Network :=
            { n.fire s.signal with accepted := n.accepted.set i { s with stream? := none } }
          have taken : FiresOnly (Signal.IsOrdinary ρ) ρ (n.fire s.signal) n' := by
            refine ⟨{ fired.1 with accepted := fun t ht => ?_ }, .of_same rfl rfl rfl rfl⟩
            obtain old | new := List.mem_or_eq_of_mem_set ht
            · exact h.accepted t old
            · rw [new]
              exact ⟨role, nofun⟩
          simp only
          cases hx : s.stream? with
          | none => exact fired.trans taken
          | some x => exact (fired.trans taken).trans (fires_closeStream taken.1 (waiting x hx).1)
  | recorded i =>
      rw [closeSocket]
      cases hs : n.recorded[i]? with
      | none => exact .refl h
      | some s => exact .fire h (.inl (h.recorded s (List.mem_of_getElem? hs)).hasRole)

end

/-- The signals that closing a listener fires: its own, and those of the demultiplexed listeners that
it has inside. -/
def ClosesWith (ρ : List Role) (inside : List Holding) (f : Signal) : Prop :=
  f.HasRole ρ .listening ∨ ∃ i, f.HasRole ρ (.shutdown i) ∧ .demuxer i ∈ inside

mutual

theorem fires_closeStreamListener {n : Network} (h : n.Fits ρ) {l : StreamListener}
    (fits : l.Fits ρ n.outline) :
    FiresOnly (ClosesWith ρ l.holdings) ρ n (closeStreamListener l n) :=
  match l with
  | .memory i => by
      rw [closeStreamListener]
      cases hb : n.streams.bindings[i]? with
      | none => exact ⟨{ h with }, .of_same rfl rfl rfl rfl⟩
      | some b =>
          have first : FiresOnly (ClosesWith ρ (StreamListener.memory i).holdings) ρ n
              (n.fire b.signal) := .fire h (.inl (h.streamBinding b (List.mem_of_getElem? hb)).1)
          exact first.trans ⟨{ first.1 with }, .of_same rfl rfl rfl rfl⟩
  | .gathered i shutdown inner => by
      have role := (h.outline i _ fits.1).1
      have first : FiresOnly (ClosesWith ρ (StreamListener.gathered i shutdown inner).holdings) ρ n
          (n.fire shutdown) := .fire h (.inr ⟨i, role, List.mem_cons_self⟩)
      have rest := fires_closeMuxListener first.1 (l := inner) fits.2
      exact first.trans (rest.weaken fun f =>
        .imp_right fun ⟨j, role, inside⟩ => ⟨j, role, List.mem_cons_of_mem _ inside⟩)
  | .idle _ => .fire h (.inl fits)

theorem fires_closeMuxListener {n : Network} (h : n.Fits ρ) {l : MuxListener}
    (fits : l.Fits ρ n.outline) :
    FiresOnly (ClosesWith ρ l.holdings) ρ n (closeMuxListener l n) :=
  match l with
  | .memory i => by
      rw [closeMuxListener]
      cases hb : n.sockets.bindings[i]? with
      | none => exact ⟨{ h with }, .of_same rfl rfl rfl rfl⟩
      | some b =>
          have first : FiresOnly (ClosesWith ρ (MuxListener.memory i).holdings) ρ n
              (n.fire b.signal) := .fire h (.inl (h.socketBinding b (List.mem_of_getElem? hb)))
          exact first.trans ⟨{ first.1 with }, .of_same rfl rfl rfl rfl⟩
  | .single inner => fires_closeStreamListener h (l := inner) fits
  | .idle _ => .fire h (.inl fits)

end

mutual

theorem pipes_closeStreamListener (l : StreamListener) (n : Network) :
    (closeStreamListener l n).pipes = n.pipes :=
  match l with
  | .memory i => by
      rw [closeStreamListener]
      cases n.streams.bindings[i]? <;> rfl
  | .gathered _ shutdown inner => pipes_closeMuxListener inner (n.fire shutdown)
  | .idle _ => rfl

theorem pipes_closeMuxListener (l : MuxListener) (n : Network) :
    (closeMuxListener l n).pipes = n.pipes :=
  match l with
  | .memory i => by
      rw [closeMuxListener]
      cases n.sockets.bindings[i]? <;> rfl
  | .single inner => pipes_closeStreamListener inner n
  | .idle _ => rfl

end

/-- An operation on a stream that is tied to a signal leaves the network as it is, or as the stream
inside leaves it, and then fires the signal or not. -/
theorem perform_guarded (signal : Signal) (b : ByteStream Network) (op : ByteOp) (n : Network) :
    let n' := (op.perform (b.guarded (guard signal)) n).2
    n' = n ∨ n' = (op.perform b n).2 ∨ n' = (op.perform b n).2.fire signal := by
  cases fired : n.isFired signal with
  | true => exact .inl (congrArg Prod.snd (b.perform_guarded_of_fired (guard signal) op fired))
  | false =>
      right
      have after := congrArg Prod.snd (b.perform_guarded_of_unfired (guard signal) op fired)
      by_cases fails : op.Fails (op.perform b n).1
      · exact .inr (after.trans (if_pos fails))
      · exact .inl (after.trans (if_neg fails))

section

variable (h : n.Fits ρ)

include h

theorem FiresOnly.guarded {signal : Signal} {b : ByteStream Network} {op : ByteOp}
    (inside : FiresOnly P ρ n (op.perform b n).2) (cause : P signal) :
    FiresOnly P ρ n (op.perform (b.guarded (guard signal)) n).2 := by
  obtain same | same | same := perform_guarded signal b op n
  · rw [same]
    exact .refl h
  · rw [same]
    exact inside
  · rw [same]
    exact inside.trans (.fire inside.1 cause)

theorem fires_perform {s : Stream} (fits : s.Fits ρ) (op : ByteOp) :
    FiresOnly (Signal.IsOrdinary ρ) ρ n (op.perform (bytes s) n).2 := by
  induction s with
  | piped s =>
      refine .guarded h ?_ (.inl (Signal.IsPlain.hasRole fits))
      cases op <;> exact ⟨{ h with }, .of_same rfl rfl rfl rfl⟩
  | single inner signal socket? ih =>
      obtain ⟨role, inside, -⟩ := fits
      exact .guarded h (ih inside) (.inr role)
  | recorded remote number signal =>
      refine .guarded h ?_ (.inl (Signal.IsPlain.hasRole fits))
      cases op <;> exact .refl h

theorem fires_linkStep {n' : Network} (step : n.linkStep? = some n') :
    FiresOnly (Signal.IsOrdinary ρ) ρ n n' := by
  simp only [linkStep?, Option.bind_eq_bind, Option.bind_eq_some_iff] at step
  obtain ⟨link, found, fired⟩ := step
  cases fired
  exact .fire h (.inr (h.link link (List.mem_of_find?_eq_some found)))

end

/-- The signals that a release fires: those of single streams and of demultiplexed listeners that
nobody holds. -/
def LetGo (ρ : List Role) (held : List Holding) (f : Signal) : Prop :=
  f.HasRole ρ .single ∧ .single f ∉ held ∨ ∃ i, f.HasRole ρ (.shutdown i) ∧ .demuxer i ∉ held

theorem fires_releaseOne {held : List Holding} {x : Holding} (h : n.Fits ρ) (unheld : x ∉ held)
    (single : ∀ s, x = .single s → s.HasRole ρ .single) :
    FiresOnly (LetGo ρ held) ρ n (n.releaseOne x) := by
  cases x with
  | pipeHalf i side => exact ⟨{ h with }, .of_same rfl rfl rfl rfl⟩
  | single s => exact .fire h (.inl ⟨single s rfl, unheld⟩)
  | sessionHalf i side =>
      refine ⟨{ h with session := fun s hs => ?_ }, .of_same rfl rfl rfl rfl⟩
      obtain ⟨s', hs', rfl | rfl⟩ := mem_modify hs
      · exact h.session s hs'
      · obtain ⟨plain, waiting⟩ := h.session s' hs'
        have same (side' : Half) : ((s'.release side).halves.get side').incoming =
            (s'.halves.get side').incoming := by cases side <;> cases side' <;> rfl
        refine ⟨plain, fun side' x hx => ?_⟩
        rw [same] at hx
        exact waiting side' x hx
  | streamBinding i =>
      refine ⟨{ h with streamBinding := fun b hb => ?_ },
        .of_same rfl (n.streams.signal?_drop i) rfl rfl⟩
      obtain ⟨b', hb', signal, inbox⟩ := Exchange.mem_drop hb
      rw [signal, inbox]
      exact h.streamBinding b' hb'
  | socketBinding i =>
      refine ⟨{ h with socketBinding := fun b hb => ?_ },
        .of_same rfl rfl (n.sockets.signal?_drop i) rfl⟩
      obtain ⟨b', hb', signal, -⟩ := Exchange.mem_drop hb
      rw [signal]
      exact h.socketBinding b' hb'
  | demuxer i =>
      rw [releaseOne]
      cases hd : n.demuxers[i]? with
      | none => exact .refl h
      | some d =>
          have known : n.outline[i]? = some (d.shutdown, d.listener) := by simp [outline, hd]
          exact .fire h (.inr ⟨i, (h.outline i _ known).1, unheld⟩)
  | dialed i => exact .refl h
  | accepted i => exact .refl h
  | rotation i => exact .refl h

theorem fires_release {roots : List Holding} (h : n.Fits ρ) (step : n.release? roots = some n') :
    FiresOnly (LetGo ρ (n.held roots)) ρ n n' := by
  obtain ⟨loose, -, unheld, rfl⟩ := release?_eq_some step
  have single : ∀ x ∈ loose, ∀ s, x = .single s → s.HasRole ρ .single := by
    rintro _ hx s rfl
    obtain ⟨link, hl, rfl⟩ : n.Unreleased (.single s) := unreleased_of_mem (unheld _ hx).1
    exact h.link link hl
  have away : ∀ x ∈ loose, x ∉ n.held roots := fun x hx => (unheld x hx).2
  clear unheld step
  generalize n.held roots = held at away ⊢
  induction loose generalizing n with
  | nil => exact .refl h
  | cons x xs ih =>
      have first := fires_releaseOne h (away x List.mem_cons_self) (single x List.mem_cons_self)
      exact first.trans (ih first.1 (fun y hy => single y (List.mem_cons_of_mem _ hy))
        fun y hy => away y (List.mem_cons_of_mem _ hy))

/-- A release leaves a pipe alone whose halves are both held. -/
theorem pipe_release {roots : List Holding} {i : Nat} (step : n.release? roots = some n')
    (held : ∀ side, .pipeHalf i side ∈ n.held roots) : n'.pipes[i]? = n.pipes[i]? := by
  obtain ⟨loose, -, unheld, rfl⟩ := release?_eq_some step
  have away : ∀ side, .pipeHalf i side ∉ loose := fun side hx => (unheld _ hx).2 (held side)
  clear unheld step held
  induction loose generalizing n with
  | nil => rfl
  | cons x xs ih =>
      have one : (n.releaseOne x).pipes[i]? = n.pipes[i]? := by
        cases x with
        | pipeHalf j side =>
            refine List.getElem?_modify_ne _ _ fun same => ?_
            exact away side (same ▸ List.mem_cons_self)
        | demuxer j =>
            rw [releaseOne]
            split <;> rfl
        | _ => rfl
      exact (ih fun side hx => away side (List.mem_cons_of_mem _ hx)).trans one

end Network

end TransportStack
