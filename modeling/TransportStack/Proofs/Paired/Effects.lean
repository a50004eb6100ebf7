import TransportStack.Proofs.Guarding.Operations
import TransportStack.Proofs.Memory.Boards
import TransportStack.Proofs.Paired.Acts

/-!
What an act does, in cases: each way in which it can end, with what it finds and what it leaves.
-/

namespace TransportStack

open Scenario (ByteOp ByteResult)

@[simp] theorem Half.other_other (h : Half) : h.other.other = h := by cases h <;> rfl

@[simp] theorem Half.other_inj {h side : Half} : h.other = side.other ↔ h = side := by
  cases h <;> cases side <;> simp [other]

theorem Half.eq_other_of_ne {h side : Half} (apart : side ≠ h) : side = h.other := by
  cases h <;> cases side <;> first | rfl | exact absurd rfl apart

theorem Halves.get_modify {α : Type} (p : Halves α) (h side : Half) (f : α → α) :
    (p.modify h f).get side = if side = h then f (p.get side) else p.get side := by
  cases h <;> cases side <;> rfl

namespace Session

variable {τ : Type} (s : Session τ) (h side : Half)

/-- A session with other streams waiting for a half of it. -/
def keepStreams (rest : List τ) : Session τ := s.modify h fun a => { a with incoming := rest }

def keepDatagrams (rest : List (List UInt8)) : Session τ :=
  s.modify h fun a => { a with datagrams := rest }

def datagramSent (payload : List UInt8) : Session τ :=
  s.modify h.other fun a => { a with datagrams := a.datagrams ++ [payload] }

theorem get_keepStreams (rest : List τ) : (s.keepStreams h rest).halves.get side =
    { s.halves.get side with
      incoming := if side = h then rest else (s.halves.get side).incoming } := by
  cases h <;> cases side <;> rfl

theorem get_keepDatagrams (rest : List (List UInt8)) : (s.keepDatagrams h rest).halves.get side =
    { s.halves.get side with
      datagrams := if side = h then rest else (s.halves.get side).datagrams } := by
  cases h <;> cases side <;> rfl

theorem get_datagramSent (payload : List UInt8) : (s.datagramSent h payload).halves.get side =
    { s.halves.get side with
      datagrams := if side = h.other then (s.halves.get side).datagrams ++ [payload]
        else (s.halves.get side).datagrams } := by
  cases h <;> cases side <;> rfl

theorem get_opened (x : τ) : (s.opened h x).halves.get side =
    { s.halves.get side with
      next := if side = h then (s.halves.get side).next + 2 else (s.halves.get side).next
      incoming := if side = h.other then (s.halves.get side).incoming ++ [x]
        else (s.halves.get side).incoming } := by
  cases h <;> cases side <;> rfl

end Session

namespace Network

variable (n : Network)

def setSession (i : Nat) (s : Session Stream) : Network :=
  { n with sessions := n.sessions.set i s }

def withSession (capacity : Nat) (dialing accepting : Address) (dial? : Option MemoryDial) :
    Network :=
  { n.withSignal with
    sessions := n.sessions ++ [.start capacity (n.nextSignal []) dialing accepting dial?] }

/-- The network with one pipe more, and a signal for the stream on it. -/
def withPipe (capacity : Nat) : Network :=
  { n.withSignal with pipes := n.pipes ++ [.empty capacity] }

/-- The first end of the stream that is made next without a session. -/
def nextPaired (number : UInt64) (first second : Address) : PipedStream :=
  ⟨n.pipes.length, .first, n.nextSignal [], number, first, second, none⟩

def setPipe (k : Nat) (p : Pipe) : Network := { n with pipes := n.pipes.set k p }

end Network

namespace Paired

/-- What an act finds, what comes of it, and what it leaves. -/
inductive Effect (roots : List Holding) (n : Network) : Act → Happening → Network → Prop
  | pairedSockets (capacity : Nat) (dialing accepting : Address) (dial? : Option MemoryDial) :
      Effect roots n (.pairSockets capacity dialing accepting dial?)
        (.pairedSockets capacity n.sessions.length)
        (n.withSession capacity dialing accepting dial?)
  | pairedStreams (capacity : Nat) (number : UInt64) (first second : Address) :
      Effect roots n (.pairStreams capacity number first second)
        (.pairedStreams capacity (.piped (n.nextPaired number first second))
          (Stream.piped (n.nextPaired number first second)).peer)
        (n.withPipe capacity)
  | opened {i : Nat} {h : Half} {s : Session Stream} (there : n.sessions[i]? = some s)
      (unfired : n.isFired s.signal = false) (accompanied : s.isDeserted h = false) :
      Effect roots n (.openStream i h) (.opened i h (.ok (n.nextStream s h .first)))
        (n.afterOpen i s h)
  | openFails {i : Nat} {h : Half} {s : Session Stream} (there : n.sessions[i]? = some s)
      (late : n.isFired s.signal = true ∨ s.isDeserted h = true) :
      Effect roots n (.openStream i h) (.opened i h (.error .closed)) n
  | accepted {i : Nat} {h : Half} {s : Session Stream} {x : Stream} {rest : List Stream}
      (there : n.sessions[i]? = some s) (unfired : n.isFired s.signal = false)
      (waiting : (s.halves.get h).incoming = x :: rest) :
      Effect roots n (.accept i h) (.accepted i h (.ready x))
        (n.setSession i (s.keepStreams h rest))
  | acceptWaits {i : Nat} {h : Half} {s : Session Stream} (there : n.sessions[i]? = some s)
      (unfired : n.isFired s.signal = false) (accompanied : s.isDeserted h = false)
      (none_waits : (s.halves.get h).incoming = []) :
      Effect roots n (.accept i h) (.accepted i h .pending) n
  | acceptFails {i : Nat} {h : Half} {s : Session Stream} (there : n.sessions[i]? = some s)
      (late : n.isFired s.signal = true ∨ (s.halves.get h).incoming = [] ∧ s.isDeserted h = true) :
      Effect roots n (.accept i h) (.accepted i h (.failed .closed)) n
  | sent {i : Nat} {h : Half} {s : Session Stream} (payload : List UInt8)
      (there : n.sessions[i]? = some s) (unfired : n.isFired s.signal = false)
      (accompanied : s.isDeserted h = false) :
      Effect roots n (.send i h payload) (.sent i h payload (.ok ()))
        (n.setSession i (s.datagramSent h payload))
  | sendFails {i : Nat} {h : Half} {s : Session Stream} (payload : List UInt8)
      (there : n.sessions[i]? = some s)
      (late : n.isFired s.signal = true ∨ s.isDeserted h = true) :
      Effect roots n (.send i h payload) (.sent i h payload (.error .closed)) n
  | received {i : Nat} {h : Half} {s : Session Stream} {payload : List UInt8}
      {rest : List (List UInt8)} (there : n.sessions[i]? = some s)
      (unfired : n.isFired s.signal = false)
      (waiting : (s.halves.get h).datagrams = payload :: rest) :
      Effect roots n (.receive i h) (.received i h (.ready payload))
        (n.setSession i (s.keepDatagrams h rest))
  | receiveWaits {i : Nat} {h : Half} {s : Session Stream} (there : n.sessions[i]? = some s)
      (unfired : n.isFired s.signal = false) (accompanied : s.isDeserted h = false)
      (none_waits : (s.halves.get h).datagrams = []) :
      Effect roots n (.receive i h) (.received i h .pending) n
  | receiveFails {i : Nat} {h : Half} {s : Session Stream} (there : n.sessions[i]? = some s)
      (late : n.isFired s.signal = true ∨ (s.halves.get h).datagrams = [] ∧ s.isDeserted h = true) :
      Effect roots n (.receive i h) (.received i h (.failed .closed)) n
  | closed {i : Nat} {s : Session Stream} (h : Half) (there : n.sessions[i]? = some s) :
      Effect roots n (.close i h) (.closed i h) (n.fire s.signal)
  | left (i : Nat) (h : Half) : Effect roots n (.leave i h) (.left i h) n
  | usedLate {q : PipedStream} (op : ByteOp) (fired : n.isFired q.signal = true) :
      Effect roots n (.use (.piped q) op) (.used (.piped q) op (some op.afterClose)) n
  | used {q : PipedStream} {op : ByteOp} {p p' : Pipe} {answer : Option ByteResult}
      (there : n.pipes[q.pipe]? = some p) (unfired : n.isFired q.signal = false)
      (done : op.perform (Pipe.stream q.half) p = (answer, p'))
      (sane : ∀ e, answer ≠ some (.failed e)) :
      Effect roots n (.use (.piped q) op) (.used (.piped q) op answer) (n.setPipe q.pipe p')
  | broken {q : PipedStream} {p : Pipe} (payload : List UInt8)
      (there : n.pipes[q.pipe]? = some p) (unfired : n.isFired q.signal = false)
      (ended : (p.lanes.get q.half).ended = true) :
      Effect roots n (.use (.piped q) (.write payload))
        (.used (.piped q) (.write payload) (some (.failed (.ofKind .brokenPipe))))
        (n.fire q.signal)
  | closedStream (q : PipedStream) :
      Effect roots n (.closeStream (.piped q)) (.closedStream (.piped q)) (n.fire q.signal)
  | dropped (x : Stream) : Effect roots n (.drop x) (.dropped x) n
  | released : Effect roots n .release .released ((n.release? roots).getD n)

end Paired

namespace Lane

variable (l : Lane)

theorem read_cases (count : Nat) :
    (count = 0 ∧ l.read count = (.ready [], l)) ∨
      (0 < count ∧ l.held = [] ∧ l.ended = true ∧ l.read count = (.ready [], l)) ∨
      (0 < count ∧ l.held = [] ∧ l.ended = false ∧ l.read count = (.pending, l)) ∨
      (0 < count ∧ l.held ≠ [] ∧
        l.read count = (.ready (l.held.take count), { l with held := l.held.drop count })) := by
  cases count with
  | zero => exact .inl ⟨rfl, rfl⟩
  | succ count =>
      have positive := Nat.succ_pos count
      obtain ⟨capacity, held, ended⟩ := l
      cases held with
      | cons b bs => exact .inr (.inr (.inr ⟨positive, List.cons_ne_nil b bs, rfl⟩))
      | nil =>
          cases ended with
          | true => exact .inr (.inl ⟨positive, rfl, rfl, rfl⟩)
          | false => exact .inr (.inr (.inl ⟨positive, rfl, rfl, rfl⟩))

theorem write_cases (bytes : List UInt8) :
    let taken := bytes.take (l.capacity - l.held.length)
    (l.ended = true ∧ l.write bytes = (.failed (.ofKind .brokenPipe), l)) ∨
      (l.ended = false ∧ bytes ≠ [] ∧ taken = [] ∧ l.write bytes = (.pending, l)) ∨
      (l.ended = false ∧
        l.write bytes = (.ready taken.length, { l with held := l.held ++ taken })) := by
  intro taken
  obtain ⟨capacity, held, ended⟩ := l
  cases ended with
  | true => exact .inl ⟨rfl, rfl⟩
  | false =>
      right
      cases bytes with
      | nil =>
          right
          simp [taken, write]
      | cons b bs =>
          by_cases full : capacity - held.length = 0
          · refine .inl ⟨rfl, List.cons_ne_nil b bs, ?_, by simp [write, full]⟩
            exact List.take_eq_nil_iff.2 (.inl full)
          · exact .inr ⟨rfl, by simp [write, full, taken]⟩

end Lane

namespace Pipe

variable (p : Pipe) (h : Half)

theorem modify_self : (p.modify h fun _ => p.lanes.get h) = p := by cases h <;> rfl

theorem perform_read_cases (count : Nat) :
    let lane := p.lanes.get h.other
    let r := (ByteOp.read count).perform (Pipe.stream h) p
    (count = 0 ∧ r = (some (.data []), p)) ∨
      (0 < count ∧ lane.held = [] ∧ lane.ended = true ∧ r = (some (.data []), p)) ∨
      (0 < count ∧ lane.held = [] ∧ lane.ended = false ∧ r = (none, p)) ∨
      (0 < count ∧ lane.held ≠ [] ∧ r = (some (.data (lane.held.take count)),
        p.modify h.other fun _ => { lane with held := lane.held.drop count })) := by
  intro lane r
  have performed : r = ByteOp.perform.result .data ((lane.read count).1,
    p.modify h.other fun _ => (lane.read count).2) := rfl
  have kept : (p.modify h.other fun _ => lane) = p := p.modify_self h.other
  obtain ⟨zero, same⟩ | ⟨positive, nothing, ended, same⟩ | ⟨positive, nothing, going, same⟩ |
      ⟨positive, something, same⟩ := lane.read_cases count <;>
    rw [same] at performed
  · exact .inl ⟨zero, performed.trans (congrArg _ kept)⟩
  · exact .inr (.inl ⟨positive, nothing, ended, performed.trans (congrArg _ kept)⟩)
  · exact .inr (.inr (.inl ⟨positive, nothing, going, performed.trans (congrArg _ kept)⟩))
  · exact .inr (.inr (.inr ⟨positive, something, performed⟩))

theorem perform_write_cases (payload : List UInt8) :
    let lane := p.lanes.get h
    let taken := payload.take (lane.capacity - lane.held.length)
    let r := (ByteOp.write payload).perform (Pipe.stream h) p
    (lane.ended = true ∧ r = (some (.failed (.ofKind .brokenPipe)), p)) ∨
      (lane.ended = false ∧ payload ≠ [] ∧ taken = [] ∧ r = (none, p)) ∨
      (lane.ended = false ∧ r = (some (.written taken.length),
        p.modify h fun _ => { lane with held := lane.held ++ taken })) := by
  intro lane taken r
  have performed : r = ByteOp.perform.result .written ((lane.write payload).1,
    p.modify h fun _ => (lane.write payload).2) := rfl
  have kept : (p.modify h fun _ => lane) = p := p.modify_self h
  obtain ⟨ended, same⟩ | ⟨going, more, full, same⟩ | ⟨going, same⟩ := lane.write_cases payload <;>
    rw [same] at performed
  · exact .inl ⟨ended, performed.trans (congrArg _ kept)⟩
  · exact .inr (.inl ⟨going, more, full, performed.trans (congrArg _ kept)⟩)
  · exact .inr (.inr ⟨going, performed⟩)

end Pipe

namespace Session

variable {τ α : Type} {s : Session τ} {g : Signals} {h : Half} {waiting : List α}
  {keep : List α → Session τ}

theorem receive_takes (unfired : g.isFired s.signal = false) {x : α} {rest : List α}
    (some_waits : waiting = x :: rest) : s.receive g h waiting keep = (.ready x, keep rest) := by
  simp [receive, unfired, some_waits]

theorem receive_waits (unfired : g.isFired s.signal = false) (accompanied : s.isDeserted h = false)
    (none_waits : waiting = []) : s.receive g h waiting keep = (.pending, s) := by
  simp [receive, unfired, accompanied, none_waits]

theorem receive_fails
    (late : g.isFired s.signal = true ∨ waiting = [] ∧ s.isDeserted h = true) :
    s.receive g h waiting keep = (.failed .closed, s) := by
  obtain fired | ⟨none_waits, deserted⟩ := late
  · simp [receive, fired]
  · simp [receive, none_waits, deserted]

end Session

namespace Network

variable {n : Network} {i : Nat} {h : Half} {s : Session Stream}

theorem openOnSession_fails (there : n.sessions[i]? = some s)
    (late : n.isFired s.signal = true ∨ s.isDeserted h = true) :
    openOnSession i h n = (.error .closed, n) := by
  have got : (get : Net Network) n = (.ok n, n) := rfl
  have late : (n.isFired s.signal || s.isDeserted h) = true := by simpa using late
  simp only [openOnSession, bind, ExceptT.bind, ExceptT.mk, StateT.bind, got, ExceptT.bindCont,
    there, late]
  rfl

theorem setSession_self (there : n.sessions[i]? = some s) : n.setSession i s = n := by
  obtain ⟨less, rfl⟩ := List.getElem?_eq_some_iff.1 there
  rw [setSession, List.set_getElem_self]

theorem setPipe_self {k : Nat} {p : Pipe} (there : n.pipes[k]? = some p) : n.setPipe k p = n := by
  obtain ⟨less, rfl⟩ := List.getElem?_eq_some_iff.1 there
  rw [setPipe, List.set_getElem_self]

theorem acceptStream_session (there : n.sessions[i]? = some s) :
    acceptStream (.session i h) n =
      ((s.acceptStream n.signals h).1, n.setSession i (s.acceptStream n.signals h).2) := by
  simp only [acceptStream, there]
  rfl

theorem receiveDatagram_session (there : n.sessions[i]? = some s) :
    receiveDatagram (.session i h) n =
      ((s.receiveDatagram n.signals h).1, n.setSession i (s.receiveDatagram n.signals h).2) := by
  simp only [receiveDatagram, there]
  rfl

theorem sendDatagram_session (payload : List UInt8) (there : n.sessions[i]? = some s) :
    sendDatagram (.session i h) payload n =
      match s.sendDatagram n.signals h payload with
      | .ok s => (.ok (), n.setSession i s)
      | .error e => (.error e, n) := by
  have got : (get : Net Network) n = (.ok n, n) := rfl
  simp only [sendDatagram, bind, ExceptT.bind, ExceptT.mk, StateT.bind, got, ExceptT.bindCont,
    there]
  cases s.sendDatagram n.signals h payload <;> rfl

section

variable {q : PipedStream} {op : ByteOp} {p p' : Pipe}

theorem use_late (fired : n.isFired q.signal = true) :
    op.perform (bytes (.piped q)) n = (some op.afterClose, n) :=
  ByteStream.perform_guarded_of_fired (guard q.signal) _ op fired

theorem perform_pipeBytes (there : n.pipes[q.pipe]? = some p) :
    op.perform (pipeBytes q.pipe q.half) n =
      ((op.perform (Pipe.stream q.half) p).1,
        n.setPipe q.pipe (op.perform (Pipe.stream q.half) p).2) := by
  rw [pipeBytes, ByteStream.perform_within, there]
  rfl

theorem use_unfired (there : n.pipes[q.pipe]? = some p) (unfired : n.isFired q.signal = false)
    {answer : Option ByteResult} (done : op.perform (Pipe.stream q.half) p = (answer, p'))
    (sane : ∀ e, answer ≠ some (.failed e)) :
    op.perform (bytes (.piped q)) n = (answer, n.setPipe q.pipe p') := by
  have performed := ByteStream.perform_guarded_of_unfired (guard q.signal)
    (pipeBytes q.pipe q.half) op unfired
  rw [perform_pipeBytes there, done] at performed
  refine performed.trans ?_
  rw [if_neg fun fails => ?_]
  obtain ⟨e, failed⟩ := ByteOp.exists_of_fails fails
  exact sane e failed

theorem use_broken (payload : List UInt8) (there : n.pipes[q.pipe]? = some p)
    (unfired : n.isFired q.signal = false) (ended : (p.lanes.get q.half).ended = true) :
    (ByteOp.write payload).perform (bytes (.piped q)) n =
      (some (.failed (.ofKind .brokenPipe)), n.fire q.signal) := by
  have refused : p.write q.half payload = (.failed (.ofKind .brokenPipe), p) := by
    simp only [Pipe.write, Lane.write, ended, if_true, Pipe.modify]
    congr 2
    cases q.half <;> rfl
  have inside : (ByteOp.write payload).perform (Pipe.stream q.half) p =
      (some (.failed (.ofKind .brokenPipe)), p) :=
    congrArg (ByteOp.perform.result .written) refused
  have performed := ByteStream.perform_guarded_of_unfired (guard q.signal)
    (pipeBytes q.pipe q.half) (.write payload) unfired
  rw [perform_pipeBytes there, inside, setPipe_self there] at performed
  exact performed.trans (congrArg _ (if_pos trivial))

end

end Network

namespace Paired

variable {roots : List Holding} {n n' : Network} {a : Act} {e : Happening}

theorem Effect.perform_eq (effect : Effect roots n a e n') : a.perform roots n = (e, n') := by
  cases effect with
  | pairedSockets capacity dialing accepting dial? => rfl
  | pairedStreams capacity number first second => rfl
  | opened there unfired accompanied =>
      rw [Act.perform, Network.openOnSession_eq there unfired accompanied]
  | openFails there late => rw [Act.perform, Network.openOnSession_fails there late]
  | accepted there unfired waiting =>
      rw [Act.perform, Network.acceptStream_session there, Session.acceptStream,
        Session.receive_takes unfired waiting]
      rfl
  | acceptWaits there unfired accompanied none_waits =>
      rw [Act.perform, Network.acceptStream_session there, Session.acceptStream,
        Session.receive_waits unfired accompanied none_waits, Network.setSession_self there]
  | acceptFails there late =>
      rw [Act.perform, Network.acceptStream_session there, Session.acceptStream,
        Session.receive_fails late, Network.setSession_self there]
  | sent payload there unfired accompanied =>
      simp only [Act.perform, Network.sendDatagram_session payload there, Session.sendDatagram,
        show n.signals.isFired _ = false from unfired, accompanied]
      rfl
  | sendFails payload there late =>
      have late : (n.signals.isFired _ || _) = true := Bool.or_eq_true_iff.2 late
      simp only [Act.perform, Network.sendDatagram_session payload there, Session.sendDatagram,
        late, if_true]
  | received there unfired waiting =>
      rw [Act.perform, Network.receiveDatagram_session there, Session.receiveDatagram,
        Session.receive_takes unfired waiting]
      rfl
  | receiveWaits there unfired accompanied none_waits =>
      rw [Act.perform, Network.receiveDatagram_session there, Session.receiveDatagram,
        Session.receive_waits unfired accompanied none_waits, Network.setSession_self there]
  | receiveFails there late =>
      rw [Act.perform, Network.receiveDatagram_session there, Session.receiveDatagram,
        Session.receive_fails late, Network.setSession_self there]
  | closed h there => simp only [Act.perform, Network.closeSocket, there]
  | left i h => rfl
  | usedLate op fired => rw [Act.perform, Network.use_late fired]
  | used there unfired done sane => rw [Act.perform, Network.use_unfired there unfired done sane]
  | broken payload there unfired ended =>
      rw [Act.perform, Network.use_broken payload there unfired ended]
  | closedStream q => rfl
  | dropped x => rfl
  | released => rfl

theorem State.history_act {s : State}
    (effect : Effect (Paired.roots s.history) s.network a e n') (allowed : s.allows a = true) :
    (s.act a).history = s.history ++ [e] := by
  rw [State.act, if_pos allowed, effect.perform_eq]

/-- Whether what an act is about is there. -/
def Act.Finds (n : Network) : Act → Prop
  | openStream i _ | accept i _ | send i _ _ | receive i _ | close i _ | leave i _ =>
      i < n.sessions.length
  | use x _ | closeStream x | drop x => ∃ q, x = .piped q ∧ q.pipe < n.pipes.length
  | pairSockets .. | pairStreams .. | release => True

/-- Of the operations on a pipe only writing fails, and only after the end. -/
theorem ended_of_failed {op : ByteOp} {h : Half} {p : Pipe} {cause : IoError}
    (failed : (op.perform (Pipe.stream h) p).1 = some (.failed cause)) :
    ∃ payload, op = .write payload ∧ (p.lanes.get h).ended = true := by
  cases op with
  | read count =>
      obtain ⟨-, same⟩ | ⟨-, -, -, same⟩ | ⟨-, -, -, same⟩ | ⟨-, -, same⟩ :=
        p.perform_read_cases h count
      all_goals
        rw [same] at failed
        cases failed
  | write payload =>
      obtain ⟨ended, -⟩ | ⟨-, -, -, same⟩ | ⟨-, same⟩ := p.perform_write_cases h payload
      · exact ⟨payload, rfl, ended⟩
      all_goals
        rw [same] at failed
        cases failed
  | flush => cases failed
  | shutdown => cases failed

theorem Act.effect (roots : List Holding) (finds : a.Finds n) :
    Effect roots n a (a.perform roots n).1 (a.perform roots n).2 := by
  suffices ended : ∃ e n', Effect roots n a e n' by
    obtain ⟨e, n', effect⟩ := ended
    rw [effect.perform_eq]
    exact effect
  cases a with
  | pairSockets capacity dialing accepting dial? =>
      exact ⟨_, _, .pairedSockets capacity dialing accepting dial?⟩
  | pairStreams capacity number first second =>
      exact ⟨_, _, .pairedStreams capacity number first second⟩
  | openStream i h =>
      have there := List.getElem?_eq_getElem finds
      by_cases late : n.isFired n.sessions[i].signal = true ∨ n.sessions[i].isDeserted h = true
      · exact ⟨_, _, .openFails there late⟩
      · rw [not_or, Bool.not_eq_true, Bool.not_eq_true] at late
        exact ⟨_, _, .opened there late.1 late.2⟩
  | accept i h =>
      have there := List.getElem?_eq_getElem finds
      cases fired : n.isFired n.sessions[i].signal with
      | true => exact ⟨_, _, .acceptFails there (.inl fired)⟩
      | false =>
          cases waiting : (n.sessions[i].halves.get h).incoming with
          | cons x rest => exact ⟨_, _, .accepted there fired waiting⟩
          | nil =>
              cases deserted : n.sessions[i].isDeserted h with
              | true => exact ⟨_, _, .acceptFails there (.inr ⟨waiting, deserted⟩)⟩
              | false => exact ⟨_, _, .acceptWaits there fired deserted waiting⟩
  | send i h payload =>
      have there := List.getElem?_eq_getElem finds
      by_cases late : n.isFired n.sessions[i].signal = true ∨ n.sessions[i].isDeserted h = true
      · exact ⟨_, _, .sendFails payload there late⟩
      · rw [not_or, Bool.not_eq_true, Bool.not_eq_true] at late
        exact ⟨_, _, .sent payload there late.1 late.2⟩
  | receive i h =>
      have there := List.getElem?_eq_getElem finds
      cases fired : n.isFired n.sessions[i].signal with
      | true => exact ⟨_, _, .receiveFails there (.inl fired)⟩
      | false =>
          cases waiting : (n.sessions[i].halves.get h).datagrams with
          | cons payload rest => exact ⟨_, _, .received there fired waiting⟩
          | nil =>
              cases deserted : n.sessions[i].isDeserted h with
              | true => exact ⟨_, _, .receiveFails there (.inr ⟨waiting, deserted⟩)⟩
              | false => exact ⟨_, _, .receiveWaits there fired deserted waiting⟩
  | close i h => exact ⟨_, _, .closed h (List.getElem?_eq_getElem finds)⟩
  | leave i h => exact ⟨_, _, .left i h⟩
  | use x op =>
      obtain ⟨q, rfl, less⟩ := finds
      have there := List.getElem?_eq_getElem less
      cases fired : n.isFired q.signal with
      | true => exact ⟨_, _, .usedLate op fired⟩
      | false =>
          by_cases failed : ∃ cause,
              (op.perform (Pipe.stream q.half) n.pipes[q.pipe]).1 = some (.failed cause)
          · obtain ⟨cause, failed⟩ := failed
            obtain ⟨payload, rfl, ended⟩ := ended_of_failed failed
            exact ⟨_, _, .broken payload there fired ended⟩
          · exact ⟨_, _, .used there fired rfl (not_exists.1 failed)⟩
  | closeStream x =>
      obtain ⟨q, rfl, -⟩ := finds
      exact ⟨_, _, .closedStream q⟩
  | drop x => exact ⟨_, _, .dropped x⟩
  | release => exact ⟨_, _, .released⟩

end Paired

end TransportStack
