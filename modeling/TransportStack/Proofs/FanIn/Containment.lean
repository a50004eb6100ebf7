import TransportStack.Proofs.FanIn.Backpressure
import TransportStack.Proofs.FanIn.Beside
import TransportStack.Proofs.FanIn.Retold
import TransportStack.Proofs.Network.Apart

/-!
A connection that fails. Its worker closes it and leaves, and that is all: from then on everything
else goes on as it does where the connection gives nothing any more.
-/

namespace TransportStack.FanIn

variable {ω κ σ : Type}

/-- Whether a caller takes a stream. -/
def Move.isCall : Move ω → Bool
  | .accept _ => true
  | .elsewhere _ | .acceptConnection | .stopAccepting | .acceptStream _ | .offer _ | .giveUp _ =>
      false

theorem queue_of_take? {f f' : FanIn κ σ} {s : σ} (h : f.take? = some (s, f')) :
    ∃ rest more, f.queue = s :: rest ∧ f'.queue = rest ++ more := by
  unfold take? at h
  split at h
  · cases h
  · rename_i head rest queued
    cases h
    cases f.parked with
    | nil => exact ⟨rest, [], queued, (List.append_nil rest).symm⟩
    | cons q qs => exact ⟨rest, [q.2], queued, rfl⟩

namespace Gathering

/-- The streams that nobody can lose any more: those that callers got, and those in the queue. -/
def settled (g : Gathering ω κ σ) : List (Arrival σ) := g.returned.map Prod.snd ++ g.fan.queue

section

variable (p : Supply ω κ σ) (g : Gathering ω κ σ)

/-- Streams are settled in one order, and stay so. -/
theorem settled_prefix_move (m : Move ω) : g.settled <+: (g.move p m).settled := by
  cases m with
  | elsewhere w => exact List.prefix_rfl
  | acceptConnection | stopAccepting | acceptStream k | giveUp k =>
      simp only [Gathering.move, acceptConnection, stopAccepting, acceptStream, giveUp]
      repeat' split
      all_goals exact List.prefix_rfl
  | offer k =>
      simp only [Gathering.move, offer]
      split
      · simp only [settled, FanIn.offer]
        split
        · rw [← List.append_assoc]
          exact List.prefix_append _ _
        · exact List.prefix_rfl
      · exact List.prefix_rfl
  | accept caller =>
      simp only [Gathering.move, accept]
      split
      · rename_i a fan taken
        obtain ⟨rest, more, queued, left⟩ := queue_of_take? taken
        simp only [settled, queued, left, List.map_append, List.map_cons, List.map_nil,
          List.append_assoc, List.singleton_append]
        rw [← List.cons_append, ← List.append_assoc]
        exact List.prefix_append _ _
      · exact List.prefix_rfl

theorem returned_le_move (m : Move ω) : g.returned.length ≤ (g.move p m).returned.length := by
  cases m with
  | elsewhere w => exact Nat.le_refl _
  | acceptConnection | stopAccepting | acceptStream k | giveUp k | offer k =>
      simp only [Gathering.move, acceptConnection, stopAccepting, acceptStream, giveUp, offer]
      repeat' split
      all_goals exact Nat.le_refl _
  | accept caller =>
      simp only [Gathering.move, accept]
      split
      · simp
      · exact Nat.le_refl _

/-- A caller gets a stream as long as there is one in the queue. -/
theorem le_returned_accept (caller : Nat) :
    min (g.returned.length + 1) g.settled.length ≤ (g.accept caller).returned.length := by
  cases taken : g.fan.take? with
  | none =>
      have empty : g.fan.queue = [] := by
        unfold take? at taken
        split at taken
        · assumption
        · cases taken
      simp [accept, taken, settled, empty]
  | some r =>
      simp only [accept, taken, List.length_append, List.length_singleton]
      exact Nat.min_le_left _ _

theorem settled_prefix_run (moves : List (Move ω)) : g.settled <+: (g.run p moves).settled := by
  induction moves generalizing g with
  | nil => exact List.prefix_rfl
  | cons m moves ih => exact (g.settled_prefix_move p m).trans (ih (g.move p m))

theorem le_returned_run (moves : List (Move ω)) :
    min (g.returned.length + moves.countP Move.isCall) g.settled.length ≤
      (g.run p moves).returned.length := by
  induction moves generalizing g with
  | nil => exact Nat.min_le_left _ _
  | cons m moves ih =>
      have later := ih (g.move p m)
      have fewer := g.returned_le_move p m
      have longer := (g.settled_prefix_move p m).length_le
      have shown : (g.move p m).returned.length ≤ (g.move p m).settled.length := by
        simp [settled]
      change _ ≤ ((g.move p m).run p moves).returned.length
      cases m with
      | accept caller =>
          have got := g.le_returned_accept caller
          simp only [List.countP_cons, Move.isCall, if_true]
          simp only [Gathering.move] at later fewer longer shown ⊢
          omega
      | elsewhere _ | acceptConnection | stopAccepting | acceptStream _ | offer _ | giveUp _ =>
          simp only [List.countP_cons, Move.isCall, Bool.false_eq_true, if_false, Nat.add_zero]
          omega

/-- What is settled comes out, as soon as there have been enough calls. -/
theorem take_settled_prefix_run (moves : List (Move ω)) :
    g.settled.take (g.returned.length + moves.countP Move.isCall) <+:
      (g.run p moves).returned.map Prod.snd := by
  refine List.prefix_of_prefix_length_le
    ((List.take_prefix _ _).trans (g.settled_prefix_run p moves)) (List.prefix_append _ _) ?_
  rw [List.length_take, List.length_map]
  exact g.le_returned_run p moves

end

section

variable {p : Supply ω κ σ} {c : κ} {others : κ → Prop} {alike : ω → ω → Prop}
  {f g : Gathering ω κ σ} {k : Nat}

/-- A connection without a worker stays closed. -/
theorem isClosed_move (lasting : p.Lasting c others) (beside : ∀ x ∈ g.fan.workers, others x.2)
    (closed : p.isClosed c g.world = true) {m : Move ω}
    (elsewhere : ∀ w, m = .elsewhere w → p.isClosed c w = true) :
    p.isClosed c (g.move p m).world = true := by
  cases m with
  | elsewhere w => exact elsewhere w rfl
  | acceptConnection =>
      have later := lasting.acceptConnection closed
      simp only [Gathering.move, acceptConnection]
      split
      · split
        · exact closed
        · rename_i found
          rwa [found] at later
        · rename_i found
          rw [found] at later
          exact lasting.shut later
      · exact closed
  | acceptStream j =>
      simp only [Gathering.move, acceptStream]
      split
      · rename_i d working _
        have other : others d := beside _ (mem_of_connection? working)
        have later := lasting.acceptStream other closed
        split
        · exact closed
        · rename_i found
          rwa [found] at later
        · rename_i found
          rw [found] at later
          simp only
          split
          · exact later
          · exact lasting.close other later
      · exact closed
  | stopAccepting | giveUp j | offer j | accept caller =>
      simp only [Gathering.move, stopAccepting, giveUp, offer, accept]
      split <;> exact closed

theorem Beside.isClosed_run (isolates : p.Isolates c others alike)
    (h : Beside c others alike k f g) (sound : g.Sound) {moves moves' : List (Move ω)}
    (same : List.Forall₂ (Move.Alike alike) moves moves') (closed : p.isClosed c f.world = true)
    (elsewhere : ∀ w, .elsewhere w ∈ moves → p.isClosed c w = true) :
    p.isClosed c (f.run p moves).world = true := by
  induction same generalizing f g with
  | nil => exact closed
  | cons first _ ih =>
      refine ih (h.move isolates sound first) (sound.move p _) ?_
        fun w hw => elsewhere w (List.mem_cons_of_mem _ hw)
      refine isClosed_move isolates.lasting h.workers closed ?_
      rintro w rfl
      exact elsewhere w List.mem_cons_self

theorem Beside.accepted_run (isolates : p.Isolates c others alike)
    (h : Beside c others alike k f g) (sound : g.Sound) {moves moves' : List (Move ω)}
    (same : List.Forall₂ (Move.Alike alike) moves moves') :
    ofWorker k (f.run p moves).accepted = ofWorker k f.accepted := by
  induction same generalizing f g with
  | nil => rfl
  | cons first _ ih =>
      refine (ih (h.move isolates sound first) (sound.move p _)).trans ?_
      exact accepted_move_of_still p (acceptStream_of_not_atWork h.not_atWork) _

/-- Callers are told the same on both sides. -/
theorem Beside.accept_eq (isolates : p.Isolates c others alike)
    (h : Beside c others alike k f g) :
    (f.plain.accept p f.world).1 = (g.plain.accept p g.world).1 := by
  obtain ⟨w, rfl, alike_world, idle⟩ := h.eq_without
  have plain : (g.without k w).plain = g.plain.leave k := map_leave _ _ k
  have free : g.plain.isParked k = false := (isParked_map _ _ k).trans idle.unparked
  rw [FanIn.accept, FanIn.accept, plain, take?_leave free, world_without,
    isolates.isShut alike_world]
  split
  · rfl
  · cases g.plain.take? <;> rfl

/-- The only failure that a call can return is that the listener is closed. -/
theorem closed_of_accept_failed {e : TransportError}
    (failed : (g.plain.accept p g.world).1 = .failed e) :
    e = .closed ∧ p.isShut g.world = true := by
  obtain ⟨shut, same⟩ | ⟨-, -, same⟩ | ⟨-, s, fan, -, same⟩ := accept_cases p g.plain g.world
  all_goals rw [same] at failed
  · cases failed
    exact ⟨rfl, shut⟩
  · cases failed
  · cases failed

/-- What a worker has accepted and does not hold any more is settled, as long as it is at work. -/
theorem Sound.settled_of_free (h : g.Sound) (working : g.fan.AtWork k)
    (free : g.isBusy k = false) : ofWorker k g.settled = ofWorker k g.accepted := by
  have holds_nothing := h.held_of_free free
  rw [held, ofWorker_append, List.append_eq_nil_iff] at holds_nothing
  rw [h.shares k, h.clean k working, holds_nothing.2, kept, FanIn.line, ← List.append_assoc,
    ofWorker_append, holds_nothing.1]
  simp only [List.append_nil]
  rfl

theorem Sound.settled_prefix (h : g.Sound) (k : Nat) :
    ofWorker k g.settled <+: ofWorker k g.accepted := by
  rw [h.shares k, kept, FanIn.line, ← List.append_assoc, ofWorker_append, List.append_assoc,
    List.append_assoc]
  exact List.prefix_append _ _

/-- A worker that fails to accept a stream leaves, and its connection is closed. -/
theorem acceptStream_of_failed {e : TransportError} {w₁ : ω}
    (working : g.fan.connection? k = some c) (free : g.isBusy k = false)
    (failed : p.acceptStream c g.world = (.failed e, w₁)) :
    g.acceptStream p k = g.without k (if p.isClosed c w₁ then w₁ else p.close c w₁) := by
  rw [acceptStream, working, free]
  simp only [failed, Poll.failed]
  rfl

/-- Beside a listener whose worker has failed is the one where the connection is quiet. -/
theorem Beside.of_failed (isolates : p.Isolates c others alike) (sound : g.Sound)
    {e : TransportError} {w₁ w' : ω} (working : g.fan.connection? k = some c)
    (free : g.isBusy k = false) (failed : p.acceptStream c g.world = (.failed e, w₁))
    (beside : ∀ x ∈ g.fan.workers, x.1 ≠ k → others x.2) (same : alike g.world w') :
    Beside c others alike k (g.acceptStream p k) { g with world := w' } := by
  obtain ⟨unparked, empty_handed⟩ := isBusy_eq_false_iff.1 free
  obtain ⟨x, hx, number⟩ := atWork_of_connection? working
  rw [acceptStream_of_failed working free failed]
  refine ⟨rfl, ?_, unparked, empty_handed, number ▸ sound.orderly.counted x hx, ?_, beside⟩
  · have later := isolates.fails same failed
    rw [world_without]
    split
    · exact later
    · exact isolates.closes later
  · intro y hy other
    have found : g.fan.connection? y.1 = some y.2 := connection?_of_mem sound.orderly.distinct hy
    rw [other, working] at found
    exact (Option.some.inj found).symm

end

/-- What a worker that fails to accept a stream does, where `w₁` is the world that its attempt has
left: it leaves, and its connection is closed, by the worker if it was not. -/
structure Resigns (p : Supply ω κ σ) (c : κ) (k : Nat) (w₁ : ω) (g h : Gathering ω κ σ) : Prop where
  left : h = g.without k (if p.isClosed c w₁ then w₁ else p.close c w₁)
  closed : p.isClosed c h.world = true
  unshut : p.isShut h.world = p.isShut g.world
  accepting : h.fan.accepting = g.fan.accepting

/-- What some moves have come to after a worker has failed in `g`, compared to `q`, where the same
moves were made and the connection is quiet instead. All streams are at the same places, so that
callers are told the same, and are never told of the failure. -/
structure Contains (p : Supply ω κ σ) (c : κ) (others : κ → Prop) (k : Nat) (g : Gathering ω κ σ)
    (moves : List (Move ω)) (f q : Gathering ω κ σ) : Prop where
  same : f = q.without k f.world
  queue : f.fan.queue = q.fan.queue
  parked : f.fan.parked = q.fan.parked
  isShut : p.isShut f.world = p.isShut q.world
  isClosed : ∀ d, others d → p.isClosed d f.world = p.isClosed d q.world
  answer : (f.plain.accept p f.world).1 = (q.plain.accept p q.world).1
  failing : ∀ e, (f.plain.accept p f.world).1 = .failed e → e = .closed ∧ p.isShut f.world = true
  ended : ¬f.fan.AtWork k
  /-- No more streams of the connection come, and those that were accepted on it come out. -/
  accepted : ofWorker k f.accepted = ofWorker k g.accepted
  settled : ofWorker k f.settled = ofWorker k g.accepted
  /-- What was in the queue comes out first. -/
  returned : g.settled.take (g.returned.length + moves.countP Move.isCall) <+:
    f.returned.map Prod.snd
  stays : (∀ w, .elsewhere w ∈ moves → p.isClosed c w = true) → p.isClosed c f.world = true

/-- A connection that fails affects only itself. In every state, a worker that fails to accept a
stream leaves, and nothing else is any different from then on. -/
theorem failure_is_contained {p : Supply ω κ σ} {c : κ} {others : κ → Prop} {alike : ω → ω → Prop}
    (isolates : p.Isolates c others alike) (capacity : Nat) (w₀ : ω) (before : List (Move ω))
    {k : Nat} {e : TransportError} {w₁ w' : ω} :
    let g := (start capacity w₀ : Gathering ω κ σ).run p before
    g.fan.connection? k = some c → g.isBusy k = false →
    p.acceptStream c g.world = (.failed e, w₁) →
    (∀ x ∈ g.fan.workers, x.1 ≠ k → others x.2) → alike g.world w' →
    let h := g.move p (.acceptStream k)
    Resigns p c k w₁ g h ∧
    ∀ moves moves', List.Forall₂ (Move.Alike alike) moves moves' →
      Contains p c others k g moves (h.run p moves)
        (({ g with world := w' } : Gathering ω κ σ).run p (.acceptStream k :: moves')) := by
  intro g working free failed beside same h
  have sound : g.Sound := (sound_start capacity w₀).run p before
  have start : Beside c others alike k h { g with world := w' } :=
    .of_failed isolates sound working free failed beside same
  have left : h = g.without k (if p.isClosed c w₁ then w₁ else p.close c w₁) :=
    acceptStream_of_failed working free failed
  have closed : p.isClosed c h.world = true := by
    rw [left, world_without]
    split
    · assumption
    · exact isolates.fires w₁
  refine ⟨⟨left, closed, ?_, ?_⟩, ?_⟩
  · rw [isolates.isShut start.world, isolates.isShut same]
  · rw [left, fan_without, accepting_leave]
  intro moves moves' run
  let f := h.run p moves
  let q := ({ g with world := w' } : Gathering ω κ σ).run p (.acceptStream k :: moves')
  have still : ({ g with world := w' } : Gathering ω κ σ).move p (.acceptStream k) =
      { g with world := w' } := start.idle.acceptStream isolates start.world
  have later : Beside c others alike k f q := by
    change Beside c others alike k _ ((Gathering.move p _ (.acceptStream k)).run p moves')
    rw [still]
    exact start.run isolates (sound.elsewhere w') run
  have same_accepted : ofWorker k f.accepted = ofWorker k g.accepted := by
    rw [start.accepted_run isolates (sound.elsewhere w') run, left]
    rfl
  have same_settled : h.settled = g.settled := by rw [left]; rfl
  have same_returned : h.returned.length = g.returned.length := by rw [left]; rfl
  change Contains p c others k g moves f q
  constructor
  case same => exact later.same
  case queue =>
    rw [later.same]
    rfl
  case parked => rw [later.same, fan_without, leave_of_free later.idle.unparked]
  case isShut => exact isolates.isShut later.world
  case isClosed => exact fun d other => isolates.isClosed other later.world
  case answer => exact later.accept_eq isolates
  case failing => exact fun _ => closed_of_accept_failed
  case ended => exact later.not_atWork
  case accepted => exact same_accepted
  case settled =>
    -- What was accepted is settled when the worker fails, and nothing more is accepted.
    have all_settled := sound.settled_of_free (atWork_of_connection? working) free
    have sound' : f.Sound := (sound.move p (.acceptStream k)).run p moves
    have at_most := sound'.settled_prefix k
    have at_least : ofWorker k h.settled <+: ofWorker k f.settled :=
      (settled_prefix_run p h moves).filter _
    rw [same_settled, all_settled] at at_least
    rw [same_accepted] at at_most
    exact (at_least.eq_of_length_le at_most.length_le).symm
  case returned =>
    rw [← same_settled, ← same_returned]
    exact take_settled_prefix_run p h moves
  case stays => exact start.isClosed_run isolates (sound.elsewhere w') run closed

/-- A listener with two sessions. Nothing arrives on the first one, and a stream on the second. -/
def twoSessions (inbox : List Socket) (first : Session Stream) : Network :=
  { Network.empty with
    signals := ⟨5, []⟩
    sessions := [first,
      (Session.start 8 ⟨2, []⟩ (.empty "peer") (.empty "server") none).sendStream .first
        (.recorded (.empty "peer") 1 ⟨3, []⟩)]
    sockets := ⟨[⟨"server", inbox, ⟨0, []⟩, true⟩], .empty, fun _ h => absurd h List.not_mem_nil⟩ }

def quietSession : Session Stream := .start 8 ⟨1, []⟩ (.empty "peer") (.empty "server") none

theorem twoSessions_alike : Network.AlikeBut 0 ⟨4, [0]⟩ 0 ⟨1, []⟩
    (twoSessions [] (quietSession.release .first)) (twoSessions [] quietSession) := by
  constructor
  case fired => exact fun _ _ => rfl
  case unfired => rfl
  case shutdown => exact ⟨by decide, by decide⟩
  case sockets => rfl
  case listener =>
    intro s found
    cases found
    decide
  case arrivals => nofun
  case session => exact ⟨_, rfl, rfl⟩
  case quiet => exact ⟨_, rfl, rfl, rfl, rfl⟩
  case sessions =>
    intro j other
    obtain _ | j := j
    · exact absurd rfl other
    · rfl
  case apart =>
    intro j s other there
    obtain _ | _ | j := j
    · exact absurd rfl other
    · cases there
      exact ⟨by decide, by decide⟩
    · cases there

/-- The peer of the first session is dropped, and its worker fails. The stream of the second session
is handed out as if nothing had happened. -/
theorem failure_is_contained_deserted :
    let p := Network.supply (Network.acceptOnMuxListener (.memory 0)) ⟨4, [0]⟩
    let g := (start 2 (twoSessions [.session 0 .second, .session 1 .second] quietSession)).run p
      [.acceptConnection, .acceptConnection,
        .elsewhere (twoSessions [] (quietSession.release .first))]
    let h := g.move p (.acceptStream 0)
    let f := h.run p [.acceptStream 1, .offer 1, .accept 7]
    let q := Gathering.run p { g with world := twoSessions [] quietSession }
      [.acceptStream 0, .acceptStream 1, .offer 1, .accept 7]
    p.isClosed (.session 0 .second) g.world = false ∧
      p.isClosed (.session 0 .second) h.world = true ∧ p.isShut h.world = p.isShut g.world ∧
      f = q.without 0 f.world ∧ f.returned.map (fun a => (a.1, a.2.stream.number)) = [(7, 1)] ∧
      p.isClosed (.session 1 .second) f.world = p.isClosed (.session 1 .second) q.world := by
  intro p g h f q
  have beside : ∀ x ∈ g.fan.workers, x.1 ≠ 0 → Network.BesideSession 0 x.2 := by
    intro x hx other
    obtain rfl | rfl : x = (0, .session 0 .second) ∨ x = (1, .session 1 .second) := by
      simpa using (show x ∈ [(0, .session 0 .second), (1, .session 1 .second)] from hx)
    · exact absurd rfl other
    · exact ⟨1, Nat.one_ne_zero, rfl⟩
  obtain ⟨resigns, later⟩ := failure_is_contained
    (Network.isolates_session 0 0 ⟨4, [0]⟩ ⟨1, []⟩) 2
    (twoSessions [.session 0 .second, .session 1 .second] quietSession)
    [.acceptConnection, .acceptConnection,
      .elsewhere (twoSessions [] (quietSession.release .first))] (k := 0)
    rfl rfl rfl beside twoSessions_alike
  have contains := later [.acceptStream 1, .offer 1, .accept 7] _
    (.cons (.acceptStream 1) (.cons (.offer 1) (.cons (.accept 7) .nil)))
  have handed : f.returned.map (fun a => (a.1, a.2.stream.number)) = [(7, 1)] := by
    decide +kernel
  exact ⟨rfl, resigns.closed, resigns.unshut, contains.same, handed,
    contains.isClosed _ ⟨1, Nat.one_ne_zero, rfl⟩⟩

end Gathering

end TransportStack.FanIn
