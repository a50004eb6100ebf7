import Mathlib.Data.Nat.ModEq
import TransportStack.Proofs.Network.Held
import TransportStack.Proofs.Network.Sessions
import TransportStack.Proofs.Signals
import TransportStack.Proofs.Tunnel.Runs

/-!
What holds between a dialer and a listener of sessions after all acts. Signals are made in a fixed
order, so the number of a session or of a call tells its signal. A session is served by the worker
of its own number until it is closed, which happens only after it was abandoned.
-/

namespace TransportStack.Tunnel

/-- The number of sessions after `k` calls, when each takes `N` streams. -/
def sessionsAfter (N k : Nat) : Nat := (k + N - 1) / N

def sessionSignal (N j : Nat) : Signal := ⟨2 + j * (N + 1), []⟩

def streamSignal (N i : Nat) : Signal := ⟨3 + i + i / N, (sessionSignal N (i / N)).lineage⟩

theorem sessionSignal_inj {N j j' : Nat} (h : sessionSignal N j = sessionSignal N j') : j = j' := by
  have same : 2 + j * (N + 1) = 2 + j' * (N + 1) := congrArg Signal.number h
  exact Nat.eq_of_mul_eq_mul_right (Nat.succ_pos N) (Nat.add_left_cancel same)

theorem streamSignal_inj {N i i' : Nat} (h : streamSignal N i = streamSignal N i') : i = i' := by
  have same : 3 + i + i / N = 3 + i' + i' / N := congrArg Signal.number h
  obtain less | eq | more := Nat.lt_trichotomy i i'
  · have := Nat.div_le_div_right (c := N) (Nat.le_of_lt less)
    omega
  · exact eq
  · have := Nat.div_le_div_right (c := N) (Nat.le_of_lt more)
    omega

theorem streamSignal_ne_sessionSignal (N i j : Nat) : streamSignal N i ≠ sessionSignal N j :=
  fun h => nomatch congrArg Signal.ancestors h

theorem sessionsAfter_zero {N : Nat} (positive : 0 < N) : sessionsAfter N 0 = 0 :=
  Nat.div_eq_of_lt (by omega)

theorem sessionsAfter_succ {N : Nat} (positive : 0 < N) (k : Nat) :
    sessionsAfter N (k + 1) = k / N + 1 := by
  rw [sessionsAfter, ← Nat.add_div_right k positive]
  congr 1
  omega

theorem sessionsAfter_of_mod_eq_zero {N k : Nat} (positive : 0 < N) (h : k % N = 0) :
    sessionsAfter N k = k / N := by
  cases k with
  | zero => rw [sessionsAfter_zero positive, Nat.zero_div]
  | succ k => rw [sessionsAfter_succ positive, Nat.succ_div_of_mod_eq_zero h]

theorem sessionsAfter_of_mod_ne_zero {N k : Nat} (positive : 0 < N) (h : k % N ≠ 0) :
    sessionsAfter N k = k / N + 1 := by
  cases k with
  | zero => exact absurd (Nat.zero_mod N) h
  | succ k => rw [sessionsAfter_succ positive, Nat.succ_div_of_mod_ne_zero h]

theorem lt_sessionsAfter_iff {N : Nat} (positive : 0 < N) (j k : Nat) :
    j < sessionsAfter N k ↔ j * N < k := by
  rw [sessionsAfter, ← Nat.succ_le_iff, Nat.le_div_iff_mul_le positive, Nat.succ_mul]
  omega

/-- An end of the stream of a call. -/
structure IsEnd (N pipe : Nat) (half : Half) (s : Stream) : Prop where
  piped : ∃ q, s = .piped q ∧ q.pipe = pipe ∧ q.half = half ∧ q.signal = streamSignal N pipe

def Closed (N : Nat) (t : Tunnel) (j : Nat) : Prop :=
  sessionSignal N j ∈ t.network.signals.fired

/-- What holds of a session by its number. The first half is the one at the dialer. -/
structure SessionSound (N k : Nat) (t : Tunnel) (j : Nat) (s : Session Stream) : Prop where
  signal : s.signal = sessionSignal N j
  abandoned : s.halves.first.released = true → j + 1 < t.network.sessions.length
  left : s.halves.second.released = true → Closed N t j
  /-- Only a session that was abandoned and has nothing left to accept is closed. -/
  closed : Closed N t j → s.halves.first.released = true ∧ s.halves.second.incoming = []
  incoming : ∀ x ∈ s.halves.second.incoming, ∃ i < k, IsEnd N i .second x

/-- Where the second end of the stream of a call is: with the program, in the line of the listener,
or on its session. -/
def Somewhere (N : Nat) (t : Tunnel) (f : FanIn Socket Stream) (i : Nat) : Prop :=
  ∃ x, IsEnd N i .second x ∧ (x ∈ t.held ∨ x ∈ f.line ∨
    ∃ (j : Nat) (s : Session Stream), t.network.sessions[j]? = some s ∧
      x ∈ s.halves.second.incoming)

/-- The sessions from a number on, as the listener gets them. -/
def unassigned (count sessions : Nat) : List Socket :=
  (List.range' count (sessions - count)).map fun j => .session j .second

theorem unassigned_succ {count sessions : Nat} (h : count ≤ sessions) :
    unassigned count (sessions + 1) = unassigned count sessions ++ [.session sessions .second] := by
  rw [unassigned, Nat.sub_add_comm h, List.range'_concat, Nat.one_mul, Nat.add_sub_cancel' h,
    List.map_append]
  rfl

theorem unassigned_of_lt {count sessions : Nat} (h : count < sessions) :
    unassigned count sessions = .session count .second :: unassigned (count + 1) sessions := by
  have more : sessions - count = sessions - (count + 1) + 1 := by omega
  rw [unassigned, more, List.range'_succ, List.map_cons, unassigned]

theorem unassigned_of_le {count sessions : Nat} (h : sessions ≤ count) :
    unassigned count sessions = [] := by
  rw [unassigned, Nat.sub_eq_zero_of_le h]
  rfl

theorem mem_unassigned {count sessions j : Nat} (counted : ¬j < count) (within : j < sessions) :
    .session j .second ∈ unassigned count sessions :=
  List.mem_map_of_mem (List.mem_range'_1.2 (by omega))

/-- What holds after `k` calls of the dialer, with the queue and the tasks of the listener. -/
structure Sound (address : String) (p : Parameters) (N k : Nat) (f : FanIn Socket Stream)
    (t : Tunnel) : Prop where
  dialer : t.dialer = .rotating 0 (.bound .addrSolution .memoryMux address p)
  listener : t.listener = .gathered 0 shutdown (.memory 0)
  links : t.network.links = []
  streams : t.network.streams = .empty
  demuxers : t.network.demuxers = [⟨f, .memory 0, shutdown⟩]
  rotations : ∃ calls, calls % N = k % N ∧ t.network.rotations = [⟨N,
    if t.network.sessions.length = 0 then none
    else some (.session (t.network.sessions.length - 1) .first), calls⟩]
  /-- The sessions that no worker has yet wait at the listener. -/
  sockets : t.network.sockets = listening address (unassigned f.count t.network.sessions.length)
  pipes : t.network.pipes.length = k
  signals : t.network.signals.count = 2 + k + t.network.sessions.length
  fired : ∀ s ∈ t.network.signals.fired,
    (∃ j < t.network.sessions.length, s = sessionSignal N j) ∨
      ∃ i < k, i ∈ t.ended ∧ s = streamSignal N i
  orderly : f.Orderly
  accepting : f.accepting = true
  count : f.count ≤ t.network.sessions.length
  workers : ∀ x ∈ f.workers, x.2 = .session x.1 .second
  served : ∀ j < f.count, f.AtWork j ∨ Closed N t j
  resigned : ∀ j, Closed N t j → j < f.count ∧ ¬f.AtWork j
  session : ∀ j s, t.network.sessions[j]? = some s → SessionSound N k t j s
  held : ∀ x ∈ t.held, ∃ i < k, ∃ h, IsEnd N i h x
  line : ∀ x ∈ f.line, ∃ i < k, IsEnd N i .second x
  calls : t.dialed.length = k
  dialed : ∀ i x, t.dialed[i]? = some x → IsEnd N i .first x
  places : ∀ i < k, i ∉ t.ended → (∃ x ∈ t.held, IsEnd N i .first x) ∧ Somewhere N t f i
  intact : ∀ i q, t.network.pipes[i]? = some q → q.released = true → i ∈ t.ended

theorem sound_start (address : String) (p : Parameters) (limit capacity : Nat) :
    Sound address p (max limit 1) 0 (.start capacity) (start address p limit capacity) where
  dialer := rfl
  listener := rfl
  links := rfl
  streams := rfl
  demuxers := rfl
  rotations := ⟨0, rfl, rfl⟩
  sockets := rfl
  pipes := rfl
  signals := rfl
  fired _ h := nomatch h
  orderly := FanIn.orderly_start capacity
  accepting := rfl
  count := Nat.le_refl 0
  workers _ h := nomatch h
  served _ h := absurd h (Nat.not_lt_zero _)
  resigned _ h := nomatch h
  session _ _ h := nomatch h
  held _ h := nomatch h
  line _ h := nomatch h
  calls := rfl
  dialed _ _ h := nomatch h
  places _ h := absurd h (Nat.not_lt_zero _)
  intact _ _ h := nomatch h

namespace Sound

variable {address : String} {p : Parameters} {N k : Nat} {f : FanIn Socket Stream} {t : Tunnel}

theorem unshut (h : Sound address p N k f t) : t.network.isFired shutdown = false := by
  rw [← Bool.not_eq_true]
  intro shut
  rw [Network.isFired, show shutdown = ⟨1, (Signal.mk 0 []).lineage⟩ from rfl,
    Signals.isFired_child_iff, Signals.isFired_root_iff] at shut
  obtain shut | shut := shut <;> obtain ⟨j, -, same⟩ | ⟨i, -, -, same⟩ := h.fired _ shut
  · exact nomatch congrArg Signal.ancestors same
  · have := congrArg Signal.number same
    simp only [streamSignal] at this
    generalize i / N = j at this
    omega
  · have := congrArg Signal.number same
    simp only [sessionSignal] at this
    omega
  · exact nomatch congrArg Signal.ancestors same

theorem unclosed (h : Sound address p N k f t) : t.network.isFired ⟨0, []⟩ = false := by
  rw [← Bool.not_eq_true]
  intro fired
  have parent : t.network.isFired shutdown = true := by
    rw [Network.isFired, show shutdown = ⟨1, (Signal.mk 0 []).lineage⟩ from rfl,
      Signals.isFired_child_iff]
    exact .inr fired
  rw [h.unshut] at parent
  cases parent

theorem isFired_sessionSignal (t : Tunnel) (N j : Nat) :
    t.network.isFired (sessionSignal N j) = true ↔ Closed N t j :=
  Signals.isFired_root_iff _

/-- The stream of a call is closed when it was closed itself or with its session. -/
theorem isFired_streamSignal (h : Sound address p N k f t) {i : Nat} (alive : i ∉ t.ended) :
    t.network.isFired (streamSignal N i) = true ↔ Closed N t (i / N) := by
  rw [Network.isFired, streamSignal, Signals.isFired_child_iff]
  constructor
  · rintro (own | closed)
    · obtain ⟨j, -, same⟩ | ⟨i', -, ended, same⟩ := h.fired _ own
      · exact absurd same (streamSignal_ne_sessionSignal N i j)
      · rw [streamSignal_inj (N := N) same] at alive
        exact absurd ended alive
    · exact (isFired_sessionSignal t N (i / N)).1 closed
  · intro closed
    exact .inr ((isFired_sessionSignal t N (i / N)).2 closed)

theorem not_closed_of_atWork (h : Sound address p N k f t) {j : Nat} (working : f.AtWork j) :
    ¬Closed N t j := fun closed => (h.resigned j closed).2 working

end Sound

end TransportStack.Tunnel
