import TransportStack.Proofs.Redial.Fresh
import TransportStack.Proofs.Redial.Running

/-!
Dialing again is honest. A thing says that it can be dialed again just when it can, and which things
can depends on how they were got and never changes. What was dialed within the program is dialed
again at whatever listens at its address now; a stream of a socket that dials is dialed again by
opening another stream on that socket.
-/

namespace TransportStack

open Network

/-- The other end of the pipe of a stream that was dialed, as the listener gets it. -/
def PipedStream.peer (s : PipedStream) : PipedStream :=
  ⟨s.pipe, s.half.other, s.signal, s.number, s.remoteAddress, s.localAddress, none⟩

namespace Network

/-- A listener at an address can be reached, and gets something. -/
structure Routes {τ : Type} (x : Exchange τ) (address : String) (i : Nat) (item : τ)
    (x' : Exchange τ) : Prop where
  listener : ∃ b, x.bindings[i]? = some b ∧ b.address = address
  delivered : x' = x.deliver i item

/-- What dialing a stream again within the program comes to. The listener that can be reached at the
address now gets the other end of a new pipe; if there is none, then the connection is refused. -/
structure RedialsStream (n : Network) (s : PipedStream) (d : MemoryDial) : Prop where
  refused : n.streams.table.get? d.address = none →
    redialStream (.piped s) n = (.error (Exchange.refused d.address), n)
  reaches : ∀ i, n.streams.table.get? d.address = some i → ∃ t n',
    redialStream (.piped s) n = (.ok (.piped t), n') ∧
      Routes n.streams d.address i (.piped t.peer) n'.streams ∧
      t.dial? = some d ∧ n'.isFired t.signal = false ∧ t.signal.Unrelated s.signal

/-- A socket is open, and no signal closes both it and another one. -/
def OpenBeside (n : Network) (t s : Socket) : Prop :=
  ∃ g h, n.socketSignal? t = some g ∧ n.socketSignal? s = some h ∧ n.isFired g = false ∧
    g.Unrelated h

/-- The same of a session. -/
structure RedialsSession (n : Network) (s : Socket) (d : MemoryDial) : Prop where
  refused : n.sockets.table.get? d.address = none →
    redialSocket s n = (.error (Exchange.refused d.address), n)
  reaches : ∀ i, n.sockets.table.get? d.address = some i → ∃ j n',
    redialSocket s n = (.ok (.session j .first), n') ∧
      Routes n.sockets d.address i (.session j .second) n'.sockets ∧
      n'.memoryDial? (.session j .first) = some d ∧ n'.OpenBeside (.session j .first) s

/-- Dialing a stream of a socket that dials again opens one more stream on that socket. -/
structure RedialsSingle (n : Network) (i : Nat) (cell : DialedSocket)
    (r : Except TransportError Stream × Network) : Prop where
  opens : openStream (.dialed i) n = (.done r.1, r.2)
  closed : n.isFired cell.signal = true → r = (.error .closed, n)
  failed : n.isFired cell.signal = false → ∀ e n₁, dial cell.dialer n = (.error e, n₁) →
    r = (.error e, n₁)
  /-- The new stream closes with the socket. -/
  dialed : n.isFired cell.signal = false → ∀ x n₁, dial cell.dialer n = (.ok (.stream x), n₁) →
    ∃ g n', r = (.ok (.single x g (some i)), n') ∧ g.ancestors = cell.signal.lineage ∧
      n'.isFired g = false
  /-- The dialers of chains yield streams. -/
  unfit : n.isFired cell.signal = false → ∀ x n₁, dial cell.dialer n = (.ok x, n₁) →
    (∀ s, x ≠ .stream s) → r = (.error (misfit "dial"), n₁)

end Network

namespace Program

/-- What a program can dial again, and what comes of it. -/
structure RedialsHonestly (p : Program) : Prop where
  /-- Those that cannot be dialed again say so, and only those, in whatever state they are. -/
  stream_iff : ∀ s, (redialStream s p.network).1 = .error .redialNotSupported ↔
    s.canRedial = false
  socket_iff : ∀ s, (redialSocket s p.network).1 = .error .redialNotSupported ↔
    p.network.canRedial s = false
  /-- Whether what an act yields can be dialed again depends on the act, and never changes. -/
  settled : ∀ a, ∀ x ∈ p.got a, ∀ more,
    x.canRedial ((p.act a).run more).network = a.redialable p (p.act a).network
  /-- What is dialed keeps where it was dialed to. -/
  dialed_stream : ∀ c address q, ∀ x ∈ p.got (.follow .dial (.bound c .memory address q)),
    ∃ s, x = .stream (.piped s) ∧ s.dial? = some ⟨address, Implementation.bufferOf q⟩
  dialed_session : ∀ c address q, ∀ x ∈ p.got (.follow .dial (.bound c .memoryMux address q)),
    ∃ i, x = .muxed (.session i .first) ∧ ∀ more,
      ((p.act (.follow .dial (.bound c .memoryMux address q))).run more).network.memoryDial?
        (.session i .first) = some ⟨address, Implementation.bufferOf q⟩
  dialed_socket : ∀ c q input, ∀ x ∈ p.got (.follow .dial (.onTop c .nomux q input)),
    ∃ i g, x = .muxed (.dialed i) ∧ ∀ more,
      ((p.act (.follow .dial (.onTop c .nomux q input))).run more).network.outlets[i]? =
        some (input, g)
  /-- A stream of a socket that dials keeps the socket. -/
  handed_out : ∀ place i u, p.products[place]? = some (.muxed (.dialed i)) →
    u = .openStream ∨ u = .accept → ∀ x ∈ p.got (.use place u),
      ∃ inner g, x = .stream (.single inner g (some i))
  /-- It does not matter whether the stream or the session is still open. -/
  stream : ∀ s d, .stream (.piped s) ∈ p.products → s.dial? = some d →
    p.network.RedialsStream s d
  session : ∀ s d, p.network.memoryDial? s = some d → p.network.RedialsSession s d
  /-- Dialing a socket again that dials makes a new one for the same dialer. -/
  socket : ∀ i, .muxed (.dialed i) ∈ p.products → ∃ dialer g j n',
    p.network.outlets[i]? = some (dialer, g) ∧
      redialSocket (.dialed i) p.network = (.ok (.dialed j), n') ∧
      (∃ g', n'.outlets[j]? = some (dialer, g')) ∧ n'.OpenBeside (.dialed j) (.dialed i)
  single : ∀ inner g i, .stream (.single inner g (some i)) ∈ p.products →
    ∃ cell, p.network.dialed[i]? = some cell ∧
      p.network.RedialsSingle i cell (redialStream (.single inner g (some i)) p.network)

section

variable {p : Program} {ρ : List Role} (sound : p.Sound ρ) (made : p.network.Made)

include sound made

theorem Sound.redialsStream {s : PipedStream} {d : MemoryDial} (h : p.InOrder)
    (held : .stream (.piped s) ∈ p.products) (dialed : s.dial? = some d) :
    p.network.RedialsStream s d := by
  have again : redialStream (.piped s) = dialStream d := by rw [redialStream, dialed]
  refine ⟨fun missing => ?_, fun i found => ?_⟩
  · rw [again, dialStream_refused (Redial.reach_of_none missing)]
  · rw [again, dialStream_eq (Redial.reach_of_some found)]
    have plain : s.signal.IsPlain ρ := sound.products _ held
    obtain ⟨unfired, unrelated⟩ := sound.next_unrelated made plain
    exact ⟨_, _, rfl, ⟨h.network.streams.routes _ i found, rfl⟩, rfl, unfired, unrelated⟩

theorem Sound.redialsSession {s : Socket} {d : MemoryDial} (h : p.InOrder)
    (dialed : p.network.memoryDial? s = some d) : p.network.RedialsSession s d := by
  refine ⟨fun missing => ?_, fun k found => ?_⟩
  · rw [Redial.redialSocket_memory dialed, dialSession_refused (Redial.reach_of_none missing)]
  · rw [Redial.redialSocket_memory dialed, dialSession_eq (Redial.reach_of_some found)]
    obtain ⟨i, g, rfl, there⟩ := memoryDial?_eq_some dialed
    obtain ⟨retains, new⟩ := Redial.retains_afterDial p.network d k
    obtain ⟨unfired, unrelated⟩ := sound.next_unrelated made (sound.fits.origin there)
    refine ⟨_, _, rfl, ⟨h.network.sockets.routes _ k found, rfl⟩, ?_, _, g, ?_, ?_, unfired,
      unrelated⟩
    · rw [memoryDial?_first, new]
      rfl
    · rw [socketSignal?_session, new]
      rfl
    · rw [socketSignal?_session, retains.origin there]
      rfl

theorem Sound.redialsSocket {i : Nat} (h : p.InOrder) (held : .muxed (.dialed i) ∈ p.products) :
    ∃ dialer g j n', p.network.outlets[i]? = some (dialer, g) ∧
      redialSocket (.dialed i) p.network = (.ok (.dialed j), n') ∧
      (∃ g', n'.outlets[j]? = some (dialer, g')) ∧ n'.OpenBeside (.dialed j) (.dialed i) := by
  obtain ⟨cell, there, known⟩ := outlets_cell (h.products _ held)
  have new := Redial.outlet_withSocket p.network cell.dialer
  have retains := (Redial.flagged_withSocket p.network cell.dialer).1
  obtain ⟨unfired, unrelated⟩ :=
    sound.next_unrelated made (sound.fits.dialed cell (List.mem_of_getElem? there))
  refine ⟨cell.dialer, cell.signal, _, _, known, Single.redialSocket_eq there, ⟨_, new⟩, _, _, ?_,
    ?_, unfired, unrelated⟩
  · rw [socketSignal?_dialed, new]
    rfl
  · rw [socketSignal?_dialed, retains.outlet known]
    rfl

theorem Sound.redialsSingle {inner : Stream} {g : Signal} {i : Nat} (h : p.InOrder)
    (held : .stream (.single inner g (some i)) ∈ p.products) :
    ∃ cell, p.network.dialed[i]? = some cell ∧
      p.network.RedialsSingle i cell (redialStream (.single inner g (some i)) p.network) := by
  obtain ⟨cell, there, -⟩ := outlets_cell (h.products _ held)
  have again : redialStream (.single inner g (some i)) p.network = dialAgain i p.network := rfl
  refine ⟨cell, there, ?_⟩
  rw [again]
  exact {
    opens := rfl
    closed := dialAgain_closed there
    failed := fun unfired e n₁ dialed => by
      rw [dialAgain_open there unfired, bind_of_error dialed]
    dialed := fun unfired x n₁ dialed => by
      rw [dialAgain_open there unfired, bind_of_ok dialed, Single.arrive_stream]
      exact ⟨_, _, rfl, rfl, sound.next_unfired made unfired dialed⟩
    unfit := fun unfired x n₁ dialed unfit => by
      rw [dialAgain_open there unfired, bind_of_ok dialed]
      cases x with
      | stream s => exact absurd rfl (unfit s)
      | packet _ | muxed _ | streamListener _ | muxListener _ => rfl }

end

/-- Whatever has happened, all things tell the truth about whether they can be dialed again, and are
dialed again where they were dialed before. -/
theorem redialing_is_honest (r : Rehearsal) (acts : List Act) :
    ((start r).run acts).RedialsHonestly := by
  obtain ⟨ρ, sound, made⟩ := made_run r acts
  have h : ((start r).run acts).InOrder := ((inOrder_start r).run acts).2
  exact {
    stream_iff := Redial.redialStream_supported_iff h.network
    socket_iff := Redial.redialSocket_supported_iff h.network
    settled := fun a x hx more => h.got_flagged hx more
    dialed_stream := fun c address q x hx => got_dialed_stream hx
    dialed_session := fun c address q x hx => h.got_dialed_session hx
    dialed_socket := fun c q input x hx => h.got_dialed_socket hx
    handed_out := fun place i u held asks x hx => got_handed_out held asks hx
    stream := fun s d held dialed => sound.redialsStream made h held dialed
    session := fun s d dialed => sound.redialsSession made h dialed
    socket := fun i held => sound.redialsSocket made h held
    single := fun inner g i held => sound.redialsSingle made h held }

/-- A stream was closed, and so was the listener that had its other end. Dialing it again reaches
the next listener at the address. -/
theorem redialing_is_honest_rebound :
    let here : Producer := .bound .streamConn .memory "here" .empty
    let p := (start .empty).run
      [.follow .listen here, .follow .dial here, .use 1 .close, .use 0 .close, .follow .listen here]
    ∃ s t n', .stream (.piped s) ∈ p.products ∧ p.network.isFired s.signal = true ∧
      redialStream (.piped s) p.network = (.ok (.piped t), n') ∧
      Routes p.network.streams "here" 1 (.piped t.peer) n'.streams ∧
      n'.isFired t.signal = false := by
  intro here p
  obtain ⟨s, held, dialed, closed⟩ : ∃ s, .stream (.piped s) ∈ p.products ∧
      s.dial? = some ⟨"here", Implementation.standardBuffer⟩ ∧ p.network.isFired s.signal = true :=
    ⟨_, List.mem_cons_of_mem _ List.mem_cons_self, rfl, rfl⟩
  have honest := (redialing_is_honest .empty
    [.follow .listen here, .follow .dial here, .use 1 .close, .use 0 .close,
      .follow .listen here]).stream s _ held dialed
  obtain ⟨t, n', redialed, routes, -, unfired, -⟩ := honest.reaches 1 rfl
  exact ⟨s, t, n', held, closed, redialed, routes, unfired⟩

end Program

end TransportStack
