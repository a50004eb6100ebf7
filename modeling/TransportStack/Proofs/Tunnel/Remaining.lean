import TransportStack.Proofs.Tunnel.Sound

/-!
How much the tasks of the listener and the release of what nobody holds have left to do: sessions to
be given to workers, workers to end, streams to accept, and halves to release.
-/

namespace TransportStack

section

variable {α : Type} {size : α → Nat} {m : α → α}

theorem sum_map_modify_le (shrinks : ∀ x, size (m x) ≤ size x) (xs : List α) (i : Nat) :
    ((xs.modify i m).map size).sum ≤ (xs.map size).sum := by
  induction xs generalizing i with
  | nil => simp
  | cons x xs ih =>
      cases i with
      | zero => simpa using shrinks x
      | succ i => simpa using ih i

theorem sum_map_modify_lt {xs : List α} {i : Nat} {x : α} (hx : xs[i]? = some x)
    (shrinks : size (m x) < size x) : ((xs.modify i m).map size).sum < (xs.map size).sum := by
  induction xs generalizing i with
  | nil => cases hx
  | cons y xs ih =>
      cases i with
      | zero =>
          cases hx
          simpa using shrinks
      | succ i => simpa using ih hx

end

def Pipe.remaining (q : Pipe) : Nat := (!q.released).toNat

def Session.remaining (s : Session Stream) : Nat :=
  s.halves.second.incoming.length + (!s.halves.first.released).toNat +
    (!s.halves.second.released).toNat

theorem Session.remaining_release (s : Session Stream) (side : Half) :
    (s.release side).remaining + (!(s.halves.get side).released).toNat = s.remaining := by
  cases side with
  | first => exact Nat.add_right_comm _ _ _
  | second => rfl

namespace Network

variable (n : Network)

/-- What is left to do on the sessions and pipes. -/
def remaining : Nat := (n.sessions.map Session.remaining).sum + (n.pipes.map Pipe.remaining).sum

theorem remaining_releaseOne_le (x : Holding) : (n.releaseOne x).remaining ≤ n.remaining := by
  cases x with
  | pipeHalf i side =>
      refine Nat.add_le_add_left (sum_map_modify_le (fun q => ?_) n.pipes i) _
      exact Nat.zero_le q.remaining
  | sessionHalf j side =>
      refine Nat.add_le_add_right (sum_map_modify_le (fun s => ?_) n.sessions j) _
      rw [← s.remaining_release side]
      exact Nat.le_add_right _ _
  | demuxer i =>
      rw [releaseOne]
      split <;> exact Nat.le_refl _
  | _ => exact Nat.le_refl _

theorem remaining_releaseAll_le (loose : List Holding) :
    (loose.foldl releaseOne n).remaining ≤ n.remaining := by
  induction loose generalizing n with
  | nil => exact Nat.le_refl _
  | cons x xs ih => exact Nat.le_trans (ih (n.releaseOne x)) (n.remaining_releaseOne_le x)

variable {n}

theorem remaining_release_pipeHalf_lt {i : Nat} {side : Half}
    (there : n.Unreleased (.pipeHalf i side)) :
    (n.releaseOne (.pipeHalf i side)).remaining < n.remaining := by
  obtain ⟨q, hq, unreleased⟩ := there
  refine Nat.add_lt_add_left (sum_map_modify_lt hq ?_) _
  rw [Pipe.remaining, Pipe.remaining, unreleased]
  exact Nat.zero_lt_one

theorem remaining_release_sessionHalf_lt {j : Nat} {side : Half}
    (there : n.Unreleased (.sessionHalf j side)) :
    (n.releaseOne (.sessionHalf j side)).remaining < n.remaining := by
  obtain ⟨s, hs, unreleased⟩ := there
  refine Nat.add_lt_add_right (sum_map_modify_lt hs ?_) _
  rw [← s.remaining_release side, unreleased]
  exact Nat.lt_succ_self _

end Network

namespace FanIn

variable {f : FanIn Socket Stream} {n : Network}

/-- What the tasks of the listener and the releases have left to do. A session that no worker has
yet counts twice, since its worker has to end too. -/
def remaining (f : FanIn Socket Stream) (n : Network) : Nat :=
  2 * (n.sessions.length - f.count) + f.workers.length + n.remaining

theorem remaining_assign_lt (c : Socket) (waiting : f.count < n.sessions.length) :
    (f.assign c).remaining n < f.remaining n := by
  simp only [remaining, assign, List.length_append, List.length_singleton]
  omega

theorem remaining_offer (f : FanIn Socket Stream) (worker : Nat) (x : Stream) (n : Network) :
    (f.offer worker x).remaining n = f.remaining n := by
  obtain ⟨workers, count, -⟩ := f.workers_of_offer worker x
  rw [remaining, remaining, workers, count]

theorem remaining_receive_lt (f : FanIn Socket Stream) {j : Nat} {s : Session Stream}
    (hs : n.sessions[j]? = some s) {x : Stream} {rest : List Stream}
    (waiting : s.halves.second.incoming = x :: rest) :
    let sessions := n.sessions.set j (s.modify .second fun a => { a with incoming := rest })
    f.remaining { n with sessions := sessions } < f.remaining n := by
  intro sessions
  have less : (sessions.map Session.remaining).sum < (n.sessions.map Session.remaining).sum := by
    simp only [sessions, List.set_eq_modify]
    refine sum_map_modify_lt hs ?_
    rw [Session.remaining, Session.remaining, waiting]
    simp [Session.modify, Halves.modify]
  have same : sessions.length = n.sessions.length := List.length_set
  simp only [remaining, Network.remaining, same]
  omega

theorem remaining_leave_lt {worker : Nat} (working : f.AtWork worker) :
    (f.leave worker).remaining n < f.remaining n := by
  obtain ⟨x, hx, rfl⟩ := working
  have fewer : (f.leave x.1).workers.length < f.workers.length :=
    List.length_filter_lt_length_iff_exists.2 ⟨x, hx, by simp⟩
  have count : (f.leave x.1).count = f.count := rfl
  rw [remaining, remaining, count]
  omega

end FanIn

end TransportStack
