import TransportStack.Network.Release

/-!
What dialing sessions and opening streams on them does to the network, as one equation for each
operation, and the two parts of a call of a demultiplexed dialer. A stream has a pipe beneath it,
and the stream at the other end is its peer.
-/

namespace TransportStack

/-- A change of one element keeps what it leaves alone. -/
theorem map_getElem?_modify {α β : Type} {f : α → α} {g : α → β} (keeps : ∀ a, g (f a) = g a)
    (xs : List α) (i j : Nat) : (xs.modify i f)[j]?.map g = xs[j]?.map g := by
  rw [List.getElem?_modify, Option.map_eq_map, Option.map_map]
  refine Option.map_congr fun a _ => ?_
  by_cases same : i = j
  · simp [same, keeps]
  · simp [same]

def Stream.pipe? : Stream → Option Nat
  | piped s => some s.pipe
  | single inner _ _ => inner.pipe?
  | recorded .. => none

/-- The other end of a stream of a session. -/
def Stream.peer : Stream → Stream
  | piped s =>
      piped { s with
        half := s.half.other
        localAddress := s.remoteAddress
        remoteAddress := s.localAddress }
  | s => s

def Session.opened {τ : Type} (s : Session τ) (h : Half) (peer : τ) : Session τ :=
  (s.takeNumber h).2.sendStream h peer

namespace Network

def nextSignal (n : Network) (ancestors : List Nat) : Signal := ⟨n.signals.count, ancestors⟩

/-- An end of the stream that a half of a session opens next; the half keeps the first end. -/
def nextStream (n : Network) (s : Session Stream) (h side : Half) : Stream :=
  let number := (s.takeNumber h).1
  let own := Address.muxed (s.halves.get h).address number
  let other := Address.muxed (s.halves.get h.other).address number
  match side with
  | .first =>
      .piped ⟨n.pipes.length, .first, n.nextSignal s.signal.lineage, number, own, other, none⟩
  | .second =>
      .piped ⟨n.pipes.length, .second, n.nextSignal s.signal.lineage, number, other, own, none⟩

def afterOpen (n : Network) (i : Nat) (s : Session Stream) (h : Half) : Network :=
  { n with
    signals := { n.signals with count := n.signals.count + 1 }
    pipes := n.pipes ++ [.empty s.capacity]
    sessions := n.sessions.set i (s.opened h (n.nextStream s h .second)) }

def nextSession (n : Network) (d : MemoryDial) : Session Stream :=
  .start d.capacity (n.nextSignal []) (n.newClient Implementation.memoryMuxName).1
    (serverAddress Implementation.memoryMuxName d.address) (some d)

def afterDial (n : Network) (d : MemoryDial) (binding : Nat) : Network :=
  { n with
    identities := n.identities + 1
    signals := { n.signals with count := n.signals.count + 1 }
    sessions := n.sessions ++ [n.nextSession d]
    sockets := n.sockets.deliver binding (.session n.sessions.length .second) }

/-- The streams that wait on a session for its accepting half. -/
def incoming (n : Network) (i : Nat) : List Stream :=
  (n.sessions[i]?.map fun s => s.halves.second.incoming).getD []

theorem incoming_eq {n : Network} {i : Nat} {s : Session Stream} (hs : n.sessions[i]? = some s) :
    n.incoming i = s.halves.second.incoming := by
  rw [incoming, hs]
  rfl

theorem incoming_set {n : Network} {i : Nat} {s s' : Session Stream}
    (hs : n.sessions[i]? = some s) (j : Nat) :
    { n with sessions := n.sessions.set i s' }.incoming j =
      if i = j then s'.halves.second.incoming else n.incoming j := by
  split
  · rename_i same
    subst same
    exact incoming_eq (List.getElem?_set_self (List.getElem?_eq_some_iff.1 hs).1)
  · rename_i other
    rw [incoming, List.getElem?_set_ne other, incoming]

theorem incoming_congr {n n' : Network} (same : n'.sessions = n.sessions) :
    n'.incoming = n.incoming := by
  funext i
  rw [incoming, same, incoming]

theorem incoming_releaseOne (n : Network) (x : Holding) :
    (n.releaseOne x).incoming = n.incoming := by
  cases x with
  | sessionHalf i side =>
      funext j
      change (((n.sessions.modify i fun s => s.release side)[j]?).map _).getD [] = _
      rw [map_getElem?_modify fun s => ?_, incoming]
      cases side <;> rfl
  | demuxer i =>
      rw [releaseOne]
      split <;> rfl
  | _ => rfl

theorem incoming_releaseAll (n : Network) (loose : List Holding) :
    (loose.foldl releaseOne n).incoming = n.incoming := by
  induction loose generalizing n with
  | nil => rfl
  | cons x xs ih => exact (ih (n.releaseOne x)).trans (n.incoming_releaseOne x)

theorem incoming_afterDial (n : Network) (d : MemoryDial) (binding j : Nat) :
    (n.afterDial d binding).incoming j = n.incoming j := by
  change (((n.sessions ++ [n.nextSession d])[j]?).map _).getD [] = _
  rw [incoming, List.getElem?_append]
  split
  · rfl
  · rename_i beyond
    rw [List.getElem?_eq_none (Nat.le_of_not_lt beyond)]
    cases j - n.sessions.length <;> rfl

theorem openOnSession_eq {n : Network} {i : Nat} {h : Half} {s : Session Stream}
    (hs : n.sessions[i]? = some s) (unfired : n.isFired s.signal = false)
    (accompanied : s.isDeserted h = false) :
    openOnSession i h n = (.ok (n.nextStream s h .first), n.afterOpen i s h) := by
  have got : (get : Net Network) n = (.ok n, n) := rfl
  simp only [openOnSession, bind, ExceptT.bind, ExceptT.mk, StateT.bind, got, ExceptT.bindCont, hs,
    unfired, accompanied, Bool.or_self]
  cases h <;> rfl

theorem get_bind {α : Type} (f : Network → Net α) (n : Network) : (get >>= f) n = f n n := rfl

theorem dialSession_eq {n : Network} {d : MemoryDial} {binding : Nat}
    (reached : n.sockets.reach d.address = .ok binding) :
    dialSession d n = (.ok (.session n.sessions.length .first), n.afterDial d binding) := by
  let before := { n.afterDial d binding with sockets := n.sockets }
  have sent := Exchange.send_of_reach reached (.session n.sessions.length .second)
  have reduced : dialSession d n = (do
      let sockets ← ofExcept (n.sockets.send d.address binding (.session n.sessions.length .second))
      modify fun n => { n with sockets := sockets }
      return .session n.sessions.length .first : Net Socket) before := by
    rw [dialSession, get_bind, reached]
    rfl
  rw [reduced, sent]
  rfl

theorem bind_of_ok {α β : Type} {x : Net α} {n n' : Network} {a : α} (h : x n = (.ok a, n'))
    (f : α → Net β) : (x >>= f) n = f a n' := by
  simp only [bind, ExceptT.bind, ExceptT.mk, StateT.bind, h, ExceptT.bindCont]

theorem bind_of_error {α β : Type} {x : Net α} {n n' : Network} {e : TransportError}
    (h : x n = (.error e, n')) (f : α → Net β) : (x >>= f) n = (.error e, n') := by
  simp only [bind, ExceptT.bind, ExceptT.mk, StateT.bind, h, ExceptT.bindCont]
  rfl

theorem dialSession_refused {n : Network} {d : MemoryDial} {e : TransportError}
    (refused : n.sockets.reach d.address = .error e) : dialSession d n = (.error e, n) := by
  have failed : ofExcept (.error e : Except TransportError Nat) n = (.error e, n) := rfl
  rw [dialSession, get_bind, refused, bind_of_error failed]

/-- Opening a stream on a socket that dials, and is there and open. -/
theorem openOnDialed_eq {run : Net Product} {n : Network} {i : Nat} {s : DialedSocket}
    (hs : n.dialed[i]? = some s) (unfired : n.isFired s.signal = false) :
    openOnDialed run i n = (do
      match ← run with
      | .stream inner =>
          modify fun n => { n with
            dialed := n.dialed.modify i fun s => { s with remote? := some inner.remoteAddress } }
          let signal ← modifyGet (·.newChild s.signal)
          wrap inner signal (some i)
      | _ => throw (misfit "dial") : Net Stream) n := by
  rw [openOnDialed, get_bind]
  simp only [hs, unfired]
  rfl

theorem openOnDialed_closed {run : Net Product} {n : Network} {i : Nat} {s : DialedSocket}
    (hs : n.dialed[i]? = some s) (fired : n.isFired s.signal = true) :
    openOnDialed run i n = (.error .closed, n) := by
  rw [openOnDialed, get_bind]
  simp only [hs, fired]
  rfl

theorem dialAgain_eq {n : Network} {i : Nat} {s : DialedSocket} (hs : n.dialed[i]? = some s) :
    dialAgain i n = openOnDialed (dial s.dialer) i n := by
  rw [dialAgain, get_bind]
  simp only [hs]

/-- What opening a stream on a session does has nothing to do with the demultiplexed dialers. -/
private theorem openOnSession_withRotations (i : Nat) (h : Half) (n : Network)
    (rotations : List (Rotation Socket)) :
    let r := openOnSession i h n
    r.2.rotations = n.rotations ∧
      openOnSession i h { n with rotations := rotations } =
        (r.1, { r.2 with rotations := rotations }) := by
  have got (n : Network) : (get : Net Network) n = (.ok n, n) := rfl
  simp only [openOnSession, bind, ExceptT.bind, ExceptT.mk, StateT.bind, got, ExceptT.bindCont]
  cases n.sessions[i]? with
  | none => exact ⟨rfl, rfl⟩
  | some s =>
      have same : { n with rotations := rotations }.isFired s.signal = n.isFired s.signal := rfl
      simp only [same]
      cases n.isFired s.signal || s.isDeserted h <;> exact ⟨rfl, rfl⟩

/-- The first part of a call of a demultiplexed dialer, which leaves it with a connection. -/
def takeTurn (cell : Nat) (dial : Net Product) : Net Socket := fun n =>
  match n.rotations[cell]? with
  | none => (.error .closed, n)
  | some r =>
      let r := r.begin
      match r.reusable? fun c => n.isClosed c with
      | some c => (.ok c, { n with rotations := n.rotations.set cell r })
      | none =>
          match dial n with
          | (.ok (.muxed c), n) => (.ok c, { n with rotations := n.rotations.set cell (r.hold c) })
          | (.ok _, n) =>
              (.error (misfit "dial"), { n with rotations := n.rotations.set cell r.finish })
          | (.error e, n) => (.error e, { n with rotations := n.rotations.set cell r.finish })

/-- The second part of a call of a demultiplexed dialer, which opens its stream. -/
def openInTurn (cell : Nat) (run : Net Product) (c : Socket) : Net Stream := fun n =>
  let (r, n) := atOnce (openWith run c n)
  (r, { n with rotations := n.rotations.modify cell Rotation.finish })

section

variable {n : Network} {cell : Nat} {r : Rotation Socket}

/-- A call that opens its stream on a session is its two parts, one after the other. -/
theorem rotate_eq {dial : Net Product} {n' : Network} {i : Nat} {h : Half}
    (taken : takeTurn cell dial n = (.ok (.session i h), n')) (run : Net Product) :
    rotate cell dial run n = openInTurn cell run (.session i h) n' := by
  have finished (rs : List (Rotation Socket)) (r : Rotation Socket) :
      (rs.set cell r).modify cell Rotation.finish = rs.set cell r.finish := by
    refine List.ext_getElem? fun i => ?_
    rw [List.getElem?_modify, List.getElem?_set, List.getElem?_set]
    by_cases same : cell = i
    · simp only [if_pos same]
      split <;> rfl
    · simp only [if_neg same, id_map']
  have opened (n : Network) (r : Rotation Socket) :
      let o := openOnSession i h n
      openInTurn cell run (.session i h) { n with rotations := n.rotations.set cell r } =
        (o.1, { o.2 with rotations := o.2.rotations.set cell r.finish }) := by
    intro o
    obtain ⟨same, moved⟩ := openOnSession_withRotations i h n (n.rotations.set cell r)
    simp only [openInTurn, openWith, openWith.finished, atOnce, moved, finished]
    rw [← same]
  unfold takeTurn at taken
  simp only [rotate]
  cases hr : n.rotations[cell]? with
  | none =>
      rw [hr] at taken
      cases taken
  | some r =>
      simp only [hr] at taken
      simp only [Rotation.call]
      cases at_hand : r.begin.reusable? fun c => n.isClosed c with
      | some c =>
          simp only [at_hand] at taken
          cases taken
          rw [opened]
          rfl
      | none =>
          simp only [at_hand] at taken
          generalize dial n = dialed at taken ⊢
          obtain ⟨e | product, n₁⟩ := dialed
          · cases taken
          · cases product with
            | muxed c =>
                cases taken
                rw [opened]
                rfl
            | packet _ | stream _ | streamListener _ | muxListener _ => cases taken

theorem takeTurn_reused (hr : n.rotations[cell]? = some r) {dial : Net Product} {c : Socket}
    (at_hand : r.begin.reusable? (fun c => n.isClosed c) = some c) :
    takeTurn cell dial n = (.ok c, { n with rotations := n.rotations.set cell r.begin }) := by
  simp only [takeTurn, hr, at_hand]

theorem takeTurn_dialed (hr : n.rotations[cell]? = some r) {c : Category} {address : String}
    {p : Parameters} (none_at_hand : r.begin.reusable? (fun c => n.isClosed c) = none)
    {binding : Nat} (reached : n.sockets.reach address = .ok binding) :
    let d : MemoryDial := ⟨address, Implementation.bufferOf p⟩
    let s : Socket := .session n.sessions.length .first
    takeTurn cell (dial (.bound c .memoryMux address p)) n = (.ok s,
      { n.afterDial d binding with rotations := n.rotations.set cell (r.begin.hold s) }) := by
  intro d s
  have composed : dial (.bound c .memoryMux address p) n =
      (Product.muxed <$> dialSession d : Net Product) n := rfl
  have dialed : dial (.bound c .memoryMux address p) n =
      (.ok (.muxed s), n.afterDial d binding) := by
    rw [composed]
    simp only [Functor.map, ExceptT.map, ExceptT.mk, bind, StateT.bind,
      dialSession_eq (d := d) reached]
    rfl
  simp only [takeTurn, hr, none_at_hand, dialed]
  rfl

theorem openInTurn_eq {i : Nat} {h : Half} {s : Session Stream} (hs : n.sessions[i]? = some s)
    (unfired : n.isFired s.signal = false) (accompanied : s.isDeserted h = false)
    (run : Net Product) :
    openInTurn cell run (.session i h) n = (.ok (n.nextStream s h .first),
      { n.afterOpen i s h with rotations := n.rotations.modify cell Rotation.finish }) := by
  simp only [openInTurn, openWith, openOnSession_eq hs unfired accompanied]
  rfl

/-- Dialing with a demultiplexed dialer of sessions is its two parts. -/
theorem dial_eq {c : Category} {address : String} {p : Parameters} {n' : Network} {i : Nat}
    {h : Half}
    (taken : takeTurn cell (dial (.bound c .memoryMux address p)) n = (.ok (.session i h), n'))
    {s : Stream} {n'' : Network}
    (opened : openInTurn cell (throw .closed) (.session i h) n' = (.ok s, n'')) :
    dial (.rotating cell (.bound c .memoryMux address p)) n = (.ok (.stream s), n'') := by
  have reduced : dial (.rotating cell (.bound c .memoryMux address p)) n =
      (do return .stream (← rotate cell (dial (.bound c .memoryMux address p)) (throw .closed)) :
        Net Product) n := rfl
  rw [reduced]
  simp only [bind, ExceptT.bind, ExceptT.mk, StateT.bind, rotate_eq taken, opened]
  rfl

end

end Network

end TransportStack
