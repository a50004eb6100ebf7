import TransportStack.Network.Construct
import TransportStack.Proofs.Network.Sessions

/-!
What can come of following a producer. Whatever goes wrong then, the configuration is not to blame,
and nothing is asked that is asked while a chain is built.
-/

namespace TransportStack

/-- Whether an entry is that of a call while a chain is built. -/
def LogEntry.isBuild : LogEntry → Bool
  | build .. => true
  | run .. | opened .. => false

namespace Network

/-- An operation that comes to `r` on a network has no fault of the configuration, and has written
down nothing that is written down while chains are built. -/
structure Ran {α : Type} (n : Network) (r : Except TransportError α × Network) : Prop where
  fault (e : TransportError) : r.1 = .error e → e.isConfiguration = false
  log : ∃ notes, r.2.rehearsal.log = n.rehearsal.log ++ notes ∧ ∀ e ∈ notes, e.isBuild = false

/-- An operation that belongs to the following of producers. -/
def Runs {α : Type} (x : Net α) : Prop := ∀ n : Network, n.Ran (x n)

variable {α β : Type} {n n' : Network}

theorem Ran.of_ok {a : α} (same : n'.rehearsal = n.rehearsal) :
    n.Ran ((.ok a, n') : Except TransportError α × Network) :=
  ⟨nofun, [], by rw [same, List.append_nil], nofun⟩

theorem Ran.of_error {e : TransportError} (blameless : e.isConfiguration = false)
    (same : n'.rehearsal = n.rehearsal) :
    n.Ran ((.error e, n') : Except TransportError α × Network) :=
  ⟨fun _ h => by cases h; exact blameless, [], by rw [same, List.append_nil], nofun⟩

theorem Ran.after {r : Except TransportError α × Network} {s : Except TransportError β × Network}
    (first : n.Ran s) (next : s.2.Ran r) : n.Ran r := by
  obtain ⟨notes, log, none_builds⟩ := first.log
  obtain ⟨notes', log', none_builds'⟩ := next.log
  refine ⟨next.fault, notes ++ notes', by rw [log', log, List.append_assoc], fun e he => ?_⟩
  exact (List.mem_append.1 he).elim (none_builds e) (none_builds' e)

theorem runs_pure (a : α) : Runs (pure a : Net α) := fun _ => .of_ok rfl

theorem runs_throw {e : TransportError} (blameless : e.isConfiguration = false) :
    Runs (throw e : Net α) := fun _ => .of_error blameless rfl

theorem runs_ofExcept {r : Except TransportError α}
    (blameless : ∀ e, r = .error e → e.isConfiguration = false) : Runs (ofExcept r) :=
  fun _ => ⟨blameless, [], (List.append_nil _).symm, nofun⟩

theorem runs_get : Runs (get : Net Network) := fun _ => .of_ok rfl

theorem runs_modifyGet {f : Network → α × Network}
    (same : ∀ n, (f n).2.rehearsal = n.rehearsal) : Runs (modifyGet f : Net α) :=
  fun n => .of_ok (same n)

theorem runs_modify {f : Network → Network} (same : ∀ n, (f n).rehearsal = n.rehearsal) :
    Runs (modify f : Net PUnit) := fun n => .of_ok (same n)

theorem Runs.bind {x : Net α} {f : α → Net β} (hx : Runs x) (hf : ∀ a, Runs (f a)) :
    Runs (x >>= f) := by
  intro n
  have first := hx n
  rcases hr : x n with ⟨e | a, n'⟩
  · rw [bind_of_error hr]
    rw [hr] at first
    exact ⟨fun e' h => first.fault e' (by cases h; rfl), first.log⟩
  · rw [bind_of_ok hr]
    rw [hr] at first
    exact first.after (hf a n')

theorem Runs.map {x : Net α} (hx : Runs x) (f : α → β) : Runs (f <$> x) := by
  rw [map_eq_pure_bind]
  exact hx.bind fun a => runs_pure (f a)

section

variable {τ : Type} (x : Exchange τ) (address : String) {e : TransportError}

theorem blameless_of_reach (refused : x.reach address = .error e) :
    e.isConfiguration = false := by
  unfold Exchange.reach at refused
  split at refused
  · cases refused
  · cases refused
    rfl

theorem blameless_of_bind {signal : Signal} (refused : x.bind address signal = .error e) :
    e.isConfiguration = false := by
  unfold Exchange.bind at refused
  split at refused
  · cases refused
    rfl
  · cases refused

theorem blameless_of_send {i : Nat} {item : τ} (refused : x.send address i item = .error e) :
    e.isConfiguration = false := by
  unfold Exchange.send at refused
  split at refused
  · cases refused
  · cases refused
    rfl

end

theorem runs_dialStream (d : MemoryDial) : Runs (dialStream d) := by
  refine Runs.bind runs_get fun n => Runs.bind (runs_ofExcept ?_) fun binding => ?_
  · exact fun _ => blameless_of_reach n.streams d.address
  · refine Runs.bind (runs_modifyGet fun _ => rfl) fun client => ?_
    refine Runs.bind (runs_modifyGet fun _ => rfl) fun signal => ?_
    refine Runs.bind (runs_modifyGet fun _ => rfl) fun pipe => Runs.bind runs_get fun n => ?_
    refine Runs.bind (runs_ofExcept ?_) fun streams => ?_
    · exact fun _ => blameless_of_send n.streams d.address
    exact Runs.bind (runs_modify fun _ => rfl) fun _ => runs_pure _

theorem runs_dialSession (d : MemoryDial) : Runs (dialSession d) := by
  refine Runs.bind runs_get fun n => Runs.bind (runs_ofExcept ?_) fun binding => ?_
  · exact fun _ => blameless_of_reach n.sockets d.address
  · refine Runs.bind (runs_modifyGet fun _ => rfl) fun client => ?_
    refine Runs.bind (runs_modifyGet fun _ => rfl) fun session => Runs.bind runs_get fun n => ?_
    refine Runs.bind (runs_ofExcept ?_) fun sockets => ?_
    · exact fun _ => blameless_of_send n.sockets d.address
    exact Runs.bind (runs_modify fun _ => rfl) fun _ => runs_pure _

theorem runs_openOnSession (i : Nat) (h : Half) : Runs (openOnSession i h) := by
  unfold openOnSession
  refine Runs.bind runs_get fun n => ?_
  split
  · exact runs_throw rfl
  · rename_i s hs
    by_cases late : (n.isFired s.signal || s.isDeserted h) = true
    · rw [if_pos late]
      exact runs_throw rfl
    · rw [if_neg late]
      refine Runs.bind (runs_modifyGet fun _ => rfl) fun signal => ?_
      refine Runs.bind (runs_modifyGet fun _ => rfl) fun pair => ?_
      exact Runs.bind (runs_modify fun _ => rfl) fun _ => runs_pure _

theorem runs_wrap (inner : Stream) (signal : Signal) (socket? : Option Nat) :
    Runs (wrap inner signal socket?) :=
  Runs.bind (runs_modify fun _ => rfl) fun _ => runs_pure _

theorem runs_openOnDialed {run : Net Product} (hrun : Runs run) (i : Nat) :
    Runs (openOnDialed run i) := by
  unfold openOnDialed
  refine Runs.bind runs_get fun n => ?_
  split
  · exact runs_throw rfl
  · split
    · exact runs_throw rfl
    · refine Runs.bind hrun fun product => ?_
      split
      · refine Runs.bind (runs_modify fun _ => rfl) fun _ => ?_
        exact Runs.bind (runs_modifyGet fun _ => rfl) fun signal => runs_wrap _ _ _
      · exact runs_throw rfl

/-- An operation that writes down something else than a call while a chain is built. -/
theorem runs_note {f : Network → Network} {e : LogEntry} (other : e.isBuild = false)
    (noted : ∀ n, (f n).rehearsal = n.rehearsal.note e) : Runs (modify f : Net PUnit) := by
  refine fun n => ⟨nofun, [e], ?_, fun e' he => ?_⟩
  · exact congrArg Rehearsal.log (noted n)
  · rw [List.mem_singleton.1 he]
    exact other

theorem runs_openOnRecorded (i : Nat) : Runs (openOnRecorded i) := by
  unfold openOnRecorded
  refine Runs.bind runs_get fun n => ?_
  split
  · exact runs_throw rfl
  · split
    · exact runs_throw rfl
    · refine Runs.bind (runs_modifyGet fun _ => rfl) fun signal => ?_
      refine Runs.bind (runs_note ?_ fun _ => rfl) fun _ => runs_pure _
      rfl

/-- Taking the stream of an accepted connection at once. -/
theorem ran_takeAccepted (i : Nat) (n : Network) : n.Ran (atOnce (takeAccepted i n)) := by
  unfold takeAccepted
  split
  · exact .of_error rfl rfl
  · split
    · exact .of_error rfl rfl
    · split
      · exact .of_error rfl rfl
      · rename_i socket _ _ _ inner _
        have wrapped := runs_wrap inner socket.signal none
          { n with accepted := n.accepted.set i { socket with stream? := none } }
        exact ⟨wrapped.fault, wrapped.log⟩

theorem ran_openWith {run : Net Product} (hrun : Runs run) (s : Socket) (n : Network) :
    n.Ran (atOnce (openWith run s n)) := by
  cases s with
  | session i h => exact runs_openOnSession i h n
  | dialed i => exact runs_openOnDialed hrun i n
  | accepted i => exact ran_takeAccepted i n
  | recorded i => exact runs_openOnRecorded i n

theorem runs_rotate (cell : Nat) {dial run : Net Product} (hdial : Runs dial) (hrun : Runs run) :
    Runs (rotate cell dial run) := by
  intro n
  have aside {r : Except TransportError Stream × Network} (cells : List (Rotation Socket))
      (ran : n.Ran r) : n.Ran (r.1, { r.2 with rotations := cells }) :=
    ⟨ran.fault, ran.log⟩
  simp only [rotate]
  split
  · exact .of_error rfl rfl
  · rename_i rotation _
    simp only [Rotation.call]
    split
    · rename_i s _
      exact aside _ (ran_openWith hrun s n)
    · have first := hdial n
      rcases dialed : dial n with ⟨e | product, n'⟩
      · rw [dialed] at first
        exact aside (r := (.error e, n')) _
          ⟨fun e' h => first.fault e' (by cases h; rfl), first.log⟩
      · rw [dialed] at first
        cases product with
        | muxed s => exact aside _ (first.after (ran_openWith hrun s n'))
        | packet _ | stream _ | streamListener _ | muxListener _ =>
            exact aside (r := (.error (misfit "dial"), n')) _
              (first.after (.of_error rfl rfl))

theorem runs_systemSocket (address : String) : Runs (systemSocket address : Net α) := by
  unfold systemSocket
  split <;> exact runs_throw rfl

theorem runs_rehearse (name : String) (c : Category) (side : Side) :
    Runs (rehearse name c side) := by
  refine fun n => ⟨fun e failed => ?_, [.run name c side], rfl, fun e he => ?_⟩
  · simp only [rehearse, Rehearsal.run] at failed
    split at failed
    · cases failed
      rfl
    · cases failed
  · rw [List.mem_singleton.1 he]
    rfl

theorem runs_newPacketSocket : Runs newPacketSocket :=
  Runs.bind (runs_modifyGet fun _ => rfl) fun _ => runs_pure _

theorem runs_newRecordedSocket (name : String) : Runs (newRecordedSocket name) := by
  refine Runs.bind (runs_modifyGet fun _ => rfl) fun signal => Runs.bind runs_get fun n => ?_
  exact Runs.bind (runs_modify fun _ => rfl) fun _ => runs_pure _

theorem runs_recordedDial (name : String) (c : Category) (input : Option Product) :
    Runs (recordedDial name c input) := by
  have stream : Runs (recordedDial.newStream name) :=
    Runs.bind (runs_modifyGet fun _ => rfl) fun _ => runs_pure _
  unfold recordedDial
  split
  · split
    · exact runs_pure _
    · exact runs_newPacketSocket.map _
  · exact runs_newPacketSocket.map _
  · exact (runs_newRecordedSocket name).map _
  · split
    · exact runs_pure _
    · exact stream
  · exact stream

theorem runs_recordedListen (c : Category) (input : Option Product) :
    Runs (recordedListen c input) := by
  have listener : Runs recordedListen.newListener :=
    Runs.bind (runs_modifyGet fun _ => rfl) fun _ => runs_pure _
  unfold recordedListen
  split
  · split
    · exact runs_pure _
    · exact runs_newPacketSocket.map _
  · exact runs_newPacketSocket.map _
  · exact Runs.bind (runs_modifyGet fun _ => rfl) fun _ => runs_pure _
  · split
    · exact runs_pure _
    · exact listener
  · exact listener

theorem runs_dial (q : Producer) : Runs (dial q) := by
  induction q using dial.induct with
  | case1 c address p => exact runs_systemSocket address
  | case2 c address p => exact runs_systemSocket address
  | case3 c address p => exact (runs_dialStream _).map _
  | case4 c address p => exact (runs_dialSession _).map _
  | case5 c address p name =>
      exact Runs.bind (runs_rehearse name c .dial) fun _ => runs_recordedDial name c none
  | case6 c address p => exact runs_throw rfl
  | case7 c p input =>
      rw [dial]
      refine Runs.bind (runs_modifyGet fun _ => rfl) fun signal => Runs.bind runs_get fun n => ?_
      exact Runs.bind (runs_modify fun _ => rfl) fun _ => runs_pure _
  | case8 c p input name ih =>
      rw [dial]
      refine Runs.bind (runs_rehearse name c .dial) fun _ => ?_
      exact Runs.bind ih fun x => runs_recordedDial name c (some x)
  | case9 c i p input plain unnamed =>
      rw [dial]
      · exact runs_throw rfl
      · exact plain
      · exact unnamed
  | case10 cell c p input ih inside =>
      rw [dial]
      exact Runs.bind (runs_rotate cell ih inside) fun _ => runs_pure _
  | case11 cell input _ ih =>
      rw [dial]
      · exact Runs.bind (runs_rotate cell ih (runs_throw rfl)) fun _ => runs_pure _
      · assumption
  | case12 capacity input => exact runs_throw rfl

theorem runs_gather (capacity : Nat) (l : MuxListener) : Runs (gather capacity l) := by
  unfold gather
  refine Runs.bind runs_get fun n => ?_
  split
  · exact runs_throw rfl
  · refine Runs.bind (runs_modifyGet fun _ => rfl) fun shutdown => ?_
    exact Runs.bind (runs_modify fun _ => rfl) fun _ => runs_pure _

theorem runs_listen (q : Producer) : Runs (listen q) := by
  induction q using listen.induct with
  | case1 c address p => exact runs_systemSocket address
  | case2 c address p => exact runs_systemSocket address
  | case3 c address p =>
      refine Runs.bind (runs_modifyGet fun _ => rfl) fun signal => Runs.bind runs_get fun n => ?_
      refine Runs.bind (runs_ofExcept fun _ => blameless_of_bind n.streams address) fun bound => ?_
      exact Runs.bind (runs_modify fun _ => rfl) fun _ => runs_pure _
  | case4 c address p =>
      refine Runs.bind (runs_modifyGet fun _ => rfl) fun signal => Runs.bind runs_get fun n => ?_
      refine Runs.bind (runs_ofExcept fun _ => blameless_of_bind n.sockets address) fun bound => ?_
      exact Runs.bind (runs_modify fun _ => rfl) fun _ => runs_pure _
  | case5 c address p name =>
      exact Runs.bind (runs_rehearse name c .listen) fun _ => runs_recordedListen c none
  | case6 c address p => exact runs_throw rfl
  | case7 c p input ih =>
      rw [listen]
      refine Runs.bind ih fun x => ?_
      split
      · exact runs_pure _
      · exact runs_throw rfl
  | case8 c p input name ih =>
      rw [listen]
      refine Runs.bind (runs_rehearse name c .listen) fun _ => ?_
      exact Runs.bind ih fun x => runs_recordedListen c (some x)
  | case9 c i p input plain unnamed =>
      rw [listen]
      · exact runs_throw rfl
      · exact plain
      · exact unnamed
  | case10 capacity input ih =>
      rw [listen]
      refine Runs.bind ih fun x => ?_
      split
      · exact (runs_gather capacity _).map _
      · exact runs_throw rfl
  | case11 cell input => exact runs_throw rfl

/-- Following a producer has no fault of the configuration and asks nothing that is asked while
chains are built. -/
theorem runs_follow (side : Side) (q : Producer) : Runs (follow side q) := by
  cases side with
  | dial => exact runs_dial q
  | listen => exact runs_listen q

end Network

end TransportStack
