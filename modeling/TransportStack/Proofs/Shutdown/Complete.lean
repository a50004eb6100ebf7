import TransportStack.Proofs.Shutdown.Spared

/-!
A demultiplexed listener shuts down for a reason, and completely. After any acts, in any order, it
refuses a call only when its shutdown signal has fired, and the signal fires only when the listener
is closed, given up, fails to accept, or is fed by a listener that has closed. From then on all calls
are refused, nothing enters the queue, and a task ends when it looks at the network next. The streams
that were handed out stay as they are.
-/

namespace TransportStack

open Network

mutual

/-- A listener and the listeners for streams inside it. -/
def StreamListener.parts : StreamListener → List StreamListener
  | .memory i => [.memory i]
  | .gathered i shutdown inner => .gathered i shutdown inner :: inner.parts
  | .idle signal => [.idle signal]

def MuxListener.parts : MuxListener → List StreamListener
  | .single inner => inner.parts
  | .memory _ | .idle _ => []

end

def Product.listeners : Product → List StreamListener
  | streamListener l => l.parts
  | muxListener l => l.parts
  | packet _ | stream _ | muxed _ => []

/-- What hands out the streams of a demultiplexed listener. -/
def Demuxer.front (i : Nat) (d : Demuxer) : StreamListener := .gathered i d.shutdown d.listener

namespace Program

/-- The listeners for streams that the program or a task holds. -/
def listeners (p : Program) : List StreamListener :=
  p.products.flatMap Product.listeners ++ p.network.demuxers.flatMap fun d => d.listener.parts

end Program

/-- What shuts a demultiplexed listener down: it is closed, nobody holds it, or it fails to accept a
connection. -/
def Act.ShutsDown (p : Program) (i : Nat) : Act → Prop
  | .use place .close => p.Encloses place i
  | .release others => .demuxer i ∉ p.network.held (p.roots ++ others)
  | .acceptor j fault? => j = i ∧ p.network.FailsToAccept i fault?
  | _ => False

/-- What has become of a demultiplexed listener that had shut down, after some acts. -/
structure Network.ShutSince (n : Network) (i : Nat) (d : Demuxer) (acts : List Act) : Prop where
  fired : n.isFired d.shutdown = true
  refuses : acceptOnStreamListener (d.front i) n = (.failed .closed, n)
  demuxer : ∃ fan : FanIn Socket Stream, n.demuxers[i]? = some { d with fan := fan } ∧
    fan.queue = d.fan.queue ∧
    (∀ k, fan.AtWork k ↔ d.fan.AtWork k ∧ ∀ fault?, .worker i k fault? ∉ acts) ∧
    (fan.accepting = true ↔ d.fan.accepting = true ∧ ∀ fault?, .acceptor i fault? ∉ acts)

section

variable {ρ : List Role} {outline : List (Signal × MuxListener)}

mutual

theorem StreamListener.Fits.parts {l : StreamListener} (h : l.Fits ρ outline) :
    ∀ part ∈ l.parts, part.Fits ρ outline :=
  match l with
  | .memory _ => fun _ hp => (List.mem_singleton.1 hp) ▸ h
  | .gathered i shutdown inner => fun part hp => by
      obtain rfl | inside := List.mem_cons.1 hp
      · exact h
      · exact h.2.parts part inside
  | .idle _ => fun _ hp => (List.mem_singleton.1 hp) ▸ h

theorem MuxListener.Fits.parts {l : MuxListener} (h : l.Fits ρ outline) :
    ∀ part ∈ l.parts, part.Fits ρ outline :=
  match l with
  | .single inner => StreamListener.Fits.parts (l := inner) h
  | .memory _ => fun _ hp => nomatch hp
  | .idle _ => fun _ hp => nomatch hp

end

theorem Product.Fits.listeners {x : Product} (h : x.Fits ρ outline) :
    ∀ part ∈ x.listeners, part.Fits ρ outline := by
  cases x with
  | streamListener l => exact StreamListener.Fits.parts h
  | muxListener l => exact MuxListener.Fits.parts h
  | packet _ | stream _ | muxed _ => exact nofun

end

section

variable (a : Act) (i k : Nat) (f : FanIn Socket Stream)

theorem Act.queue_stops : (a.stops i f).queue = f.queue := by
  cases a with
  | acceptor j fault? =>
      rw [stops]
      split <;> rfl
  | worker j k fault? =>
      rw [stops]
      split <;> rfl
  | _ => rfl

theorem Act.atWork_stops_iff :
    (a.stops i f).AtWork k ↔ f.AtWork k ∧ ∀ fault?, a ≠ .worker i k fault? := by
  cases a with
  | worker j k' fault? =>
      rw [stops]
      split
      · rename_i here
        rw [FanIn.atWork_leave_iff]
        simp [here, eq_comm]
      · rename_i other
        simp [other]
  | acceptor j fault? =>
      rw [stops]
      split <;> simp [FanIn.stopAccepting, FanIn.AtWork]
  | _ => simp [stops]

theorem Act.accepting_stops_iff :
    (a.stops i f).accepting = true ↔ f.accepting = true ∧ ∀ fault?, a ≠ .acceptor i fault? := by
  cases a with
  | acceptor j fault? =>
      rw [stops]
      split
      · rename_i here
        simp [here, FanIn.stopAccepting]
      · rename_i other
        simp [other]
  | worker j k' fault? =>
      rw [stops]
      split <;> simp [FanIn.leave]
  | _ => simp [stops]

end

namespace Network

variable {n : Network} {i : Nat} {d : Demuxer} (hd : n.demuxers[i]? = some d)

include hd

theorem withFan_self : n.withFan i d d.fan = n := by
  obtain ⟨within, rfl⟩ := List.getElem?_eq_some_iff.1 hd
  have same : n.demuxers.set i { n.demuxers[i] with fan := n.demuxers[i].fan } = n.demuxers :=
    List.set_getElem_self within
  rw [withFan, same]

theorem accept_front : acceptOnStreamListener (d.front i) n =
    ((d.fan.accept (supply (fun n => (.pending, n)) d.shutdown) n).1,
      n.withFan i d (d.fan.accept (supply (fun n => (.pending, n)) d.shutdown) n).2) := by
  simp [acceptOnStreamListener, Demuxer.front, hd, withFan]

/-- A listener that has shut down refuses all calls, whatever its queue holds. -/
theorem accept_front_fired (fired : n.isFired d.shutdown = true) :
    acceptOnStreamListener (d.front i) n = (.failed .closed, n) := by
  have refused : d.fan.accept (supply (fun n => (.pending, n)) d.shutdown) n =
      (.failed .closed, d.fan) := if_pos fired
  rw [accept_front hd, refused, withFan_self hd]

theorem accept_front_failed {e : TransportError}
    (failed : (acceptOnStreamListener (d.front i) n).1 = .failed e) :
    e = .closed ∧ n.isFired d.shutdown = true := by
  rw [accept_front hd] at failed
  obtain ⟨shut, same⟩ | ⟨-, -, same⟩ | ⟨-, s, fan, -, same⟩ :=
    d.fan.accept_cases (supply (fun n => (.pending, n)) d.shutdown) n
  · rw [same] at failed
    cases failed
    exact ⟨rfl, shut⟩
  · rw [same] at failed
    cases failed
  · rw [same] at failed
    cases failed

/-- A call that closes the listener returns when all tasks have ended. -/
theorem closing_front_iff (result : Except TransportError Unit) :
    closingStreamListener (d.front i) n = .done result ↔
      closingMuxListener d.listener n = .done result ∧ d.fan.tasks = 0 := by
  rw [Demuxer.front, closingStreamListener, hd]
  cases closingMuxListener d.listener n with
  | pending => simp
  | done r =>
      simp only [FanIn.closing, FanIn.isQuiet, beq_iff_eq, Poll.done.injEq]
      split <;> simp_all

end Network

/-- Each act leaves a listener that has shut down as it is, or ends one of its tasks. -/
theorem Network.ShutSince.act {ρ : List Role} {p p' : Program} {i : Nat} {d : Demuxer}
    {acts : List Act} (since : p.network.ShutSince i d acts) {a : Act}
    (follows : Program.Follows ρ p a p') : p'.network.ShutSince i d (acts ++ [a]) := by
  obtain ⟨fired, -, fan, hd, queue, working, accepting⟩ := since
  obtain ⟨fan', hd', stops⟩ := follows.demuxers i _ hd
  obtain rfl := stops fired
  have fired' := isFired_mono follows.fired fired
  have refuses := accept_front_fired hd' fired'
  refine ⟨fired', refuses, _, hd', (a.queue_stops i fan).trans queue, fun k => ?_, ?_⟩
  · rw [a.atWork_stops_iff, working k]
    simp only [List.mem_append, List.mem_singleton, not_or, forall_and, and_assoc, ne_eq,
      eq_comm (a := a)]
  · rw [a.accepting_stops_iff, accepting]
    simp only [List.mem_append, List.mem_singleton, not_or, forall_and, and_assoc, ne_eq,
      eq_comm (a := a)]

namespace Program

variable {ρ : List Role} {p : Program}

section

variable (h : p.Sound ρ) {i : Nat} {d : Demuxer} (hd : p.network.demuxers[i]? = some d)

include h hd

theorem Sound.eq_front {shutdown : Signal} {inner : MuxListener}
    (there : .gathered i shutdown inner ∈ p.listeners) : .gathered i shutdown inner = d.front i := by
  have known : p.network.outline[i]? = some (d.shutdown, d.listener) := by simp [outline, hd]
  have fits : (StreamListener.gathered i shutdown inner).Fits ρ p.network.outline := by
    obtain there | there := List.mem_append.1 there
    · obtain ⟨x, hx, inside⟩ := List.mem_flatMap.1 there
      exact (h.products x hx).listeners _ inside
    · obtain ⟨e, he, inside⟩ := List.mem_flatMap.1 there
      obtain ⟨j, hj⟩ := List.mem_iff_getElem?.1 he
      have known : p.network.outline[j]? = some (e.shutdown, e.listener) := by simp [outline, hj]
      exact (h.fits.outline j _ known).2.parts _ inside
  cases known.symm.trans fits.1
  rfl

theorem Sound.isFired_iff : p.network.isFired d.shutdown = true ↔
    d.shutdown ∈ p.network.signals.fired ∨ p.network.isMuxListenerClosed d.listener = true := by
  obtain ⟨parent, hp, above⟩ := h.rooted d (List.mem_of_getElem? hd)
  have child : d.shutdown = ⟨d.shutdown.number, parent.lineage⟩ := by rw [← above]
  have closed : p.network.isMuxListenerClosed d.listener = p.network.isFired parent := by
    simp [isMuxListenerClosed, hp]
  rw [closed, child]
  exact Signals.isFired_child_iff _ _

/-- No task, and so no stream that a task has in hand. -/
theorem Sound.inHand_of_quiet (quiet : d.fan.tasks = 0) : ∀ q ∈ p.inHand, q.demuxer ≠ i := by
  rintro q hq rfl
  obtain ⟨x, hx, -⟩ := h.inHand_atWork hd hq rfl
  have none_works : d.fan.workers = [] := by
    rw [FanIn.tasks, Nat.add_eq_zero_iff] at quiet
    exact List.eq_nil_of_length_eq_zero quiet.1
  rw [none_works] at hx
  exact absurd hx List.not_mem_nil

theorem Sound.shutSince (fired : p.network.isFired d.shutdown = true) (later : List Act) :
    (p.run later).network.ShutSince i d later := by
  induction later using List.reverseRecOn with
  | nil => exact ⟨fired, accept_front_fired hd fired, d.fan, hd, rfl, by simp, by simp⟩
  | append_singleton later a since =>
      obtain ⟨ρ', sound⟩ := h.run later
      obtain ⟨ρ₁, -, follows⟩ := sound.act a
      rw [run_concat]
      exact since.act follows

end

end Program

theorem Act.Causes.shutsDown {ρ : List Role} {p : Program} {a : Act} {i : Nat} {f : Signal}
    (h : a.Causes ρ p f) (role : f.HasRole ρ (.shutdown i)) : a.ShutsDown p i := by
  have only {j : Nat} (role' : f.HasRole ρ (.shutdown j)) : j = i := by
    cases Option.some.inj (role'.symm.trans role)
    rfl
  have unordinary : ¬f.IsOrdinary ρ := by
    rintro (plain | single)
    · exact nomatch plain.symm.trans role
    · exact nomatch single.symm.trans role
  have inside {x : List Holding} (cause : ClosesWith ρ x f) : .demuxer i ∈ x := by
    obtain listening | ⟨j, role', there⟩ := cause
    · exact nomatch listening.symm.trans role
    · exact only role' ▸ there
  cases a with
  | use place u =>
      obtain ⟨x, hx, cause⟩ := h
      cases u with
      | close =>
          refine ⟨x, hx, ?_⟩
          cases x with
          | streamListener l => exact inside cause
          | muxListener l => exact inside cause
          | packet _ | stream _ | muxed _ => exact absurd cause unordinary
      | _ => exact absurd cause unordinary
  | link => exact absurd h unordinary
  | release others =>
      obtain ⟨single, -⟩ | ⟨j, role', unheld⟩ := h
      · exact nomatch single.symm.trans role
      · exact only role' ▸ unheld
  | acceptor j fault? =>
      obtain rfl := only h.1
      exact ⟨rfl, h.2⟩
  | worker j k fault? => exact absurd h.1 unordinary
  | _ => exact h.elim

namespace Program

/-- The life of a demultiplexed listener in a program that some acts have led to. It shuts down for
a reason of its own or with the listener that feeds it, and then completely. -/
structure GatheredLife (p₀ : Program) (acts : List Act) (p : Program) (i : Nat) (d : Demuxer) :
    Prop where
  /-- It is the same listener wherever it is held. -/
  same : ∀ shutdown inner, .gathered i shutdown inner ∈ p.listeners →
    .gathered i shutdown inner = d.front i
  failing : ∀ e, (acceptOnStreamListener (d.front i) p.network).1 = .failed e →
    e = .closed ∧ p.network.isFired d.shutdown = true
  /-- The queue has no more senders. -/
  senderless : d.fan.accepting = false → p.network.isFired d.shutdown = true
  fired_iff : p.network.isFired d.shutdown = true ↔
    d.shutdown ∈ p.network.signals.fired ∨ p.network.isMuxListenerClosed d.listener = true
  cause : d.shutdown ∈ p.network.signals.fired →
    p₀.FiredBy acts d.shutdown fun a p => a.ShutsDown p i
  since : p.network.isFired d.shutdown = true →
    ∀ later, (p.run later).network.ShutSince i d later
  closing_iff : ∀ result, closingStreamListener (d.front i) p.network = .done result ↔
    closingMuxListener d.listener p.network = .done result ∧ d.fan.tasks = 0
  quiet : d.fan.tasks = 0 → ∀ q ∈ p.inHand, q.demuxer ≠ i
  /-- What it has handed out is no part of it. -/
  spares : ∀ a s, a.IsPartOf p i → p.Has s →
    (∀ g ∈ s.signals, (p.act a).network.isFired g = p.network.isFired g) ∧
      ∀ j side, .pipeHalf j side ∈ s.holdings →
        (∀ others, a = .release others →
          .pipeHalf j side.other ∈ p.network.held (p.roots ++ others)) →
        (p.act a).network.pipes[j]? = p.network.pipes[j]?

/-- So it is with every demultiplexed listener, on whatever it listens, after any acts. -/
theorem shuts_down_completely (r : Rehearsal) (acts : List Act) {i : Nat} {d : Demuxer}
    (hd : ((start r).run acts).network.demuxers[i]? = some d) :
    (start r).GatheredLife acts ((start r).run acts) i d := by
  obtain ⟨ρ, sound, caused⟩ := sound_run r acts
  constructor
  case same => exact fun _ _ there => sound.eq_front hd there
  case failing => exact fun e failed => accept_front_failed hd failed
  case senderless => exact sound.accepting d (List.mem_of_getElem? hd)
  case fired_iff => exact sound.isFired_iff hd
  case cause =>
    intro own
    obtain ⟨before, a, after, same, unfired, fired, cause⟩ := caused d.shutdown own
    have known : ((start r).run acts).network.outline[i]? = some (d.shutdown, d.listener) := by
      simp [outline, hd]
    have role := (sound.fits.outline i _ known).1
    exact ⟨before, a, after, same, unfired, fired, cause.shutsDown role⟩
  case since => exact fun fired later => sound.shutSince hd fired later
  case closing_iff => exact closing_front_iff hd
  case quiet => exact sound.inHand_of_quiet hd
  case spares =>
    exact fun a s part has =>
      ⟨fun g hg => sound.spares part has hg, fun j side own other => part.pipe has own other⟩

/-- Two streams arrive on a connection. One is accepted, and the listener closes while the other one
waits in the queue. -/
def shutting : List Act :=
  [.follow .listen (.gathering 4 (.bound .packetSolution .memoryMux "here" .empty)),
    .follow .dial (.bound .packetSolution .memoryMux "here" .empty), .acceptor 0 none,
    .use 1 .openStream, .worker 0 0 none, .worker 0 0 none, .use 0 .accept, .use 1 .openStream,
    .worker 0 0 none, .worker 0 0 none, .use 0 .close]

/-- Both tasks are there when the listener closes. What is in the queue never comes out. -/
theorem shuts_down_completely_shutting :
    ∃ d, ((start .empty).run shutting).network.demuxers[0]? = some d ∧
      d.fan.queue.length = 1 ∧ d.fan.tasks = 2 ∧
      (start .empty).FiredBy shutting d.shutdown (fun a p => a.ShutsDown p 0) ∧
      ∀ later, (((start .empty).run shutting).run later).network.ShutSince 0 d later := by
  obtain ⟨d, hd, queue, tasks, own, fired⟩ :
      ∃ d, ((start .empty).run shutting).network.demuxers[0]? = some d ∧
        d.fan.queue.length = 1 ∧ d.fan.tasks = 2 ∧
        d.shutdown ∈ ((start .empty).run shutting).network.signals.fired ∧
        ((start .empty).run shutting).network.isFired d.shutdown = true :=
    ⟨_, rfl, by decide, by decide, by decide, by decide⟩
  have life := shuts_down_completely .empty shutting hd
  exact ⟨d, hd, queue, tasks, life.cause own, life.since fired⟩

end Program

end TransportStack
