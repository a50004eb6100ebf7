import Mathlib.Logic.Function.Basic
import TransportStack.Proofs.Network.Sessions

/-!
The two exchanges of the network, one for streams and one for sockets, seen in the same way, and
what each operation on the listeners within the program does to them. Of an exchange, three things
count: what the table has at an address, the signal of a listener, and what waits for it.
-/

namespace TransportStack

variable {τ υ : Type}

theorem mem_modify {α : Type} {xs : List α} {i : Nat} {f : α → α} {b : α}
    (hb : b ∈ xs.modify i f) : ∃ a ∈ xs, b = a ∨ b = f a := by
  obtain ⟨j, hj⟩ := List.mem_iff_getElem?.1 hb
  rw [List.getElem?_modify] at hj
  obtain ⟨a, ha, rfl⟩ := Option.map_eq_some_iff.1 hj
  refine ⟨a, List.mem_of_getElem? ha, ?_⟩
  by_cases same : i = j
  · exact .inr (if_pos same)
  · exact .inl (if_neg same)

def Binding.map (f : τ → υ) (b : Binding τ) : Binding υ :=
  ⟨b.address, b.inbox.map f, b.signal, b.live⟩

namespace Exchange

def map (f : τ → υ) (x : Exchange τ) : Exchange υ where
  bindings := x.bindings.map (Binding.map f)
  table := x.table
  live e he := by
    obtain ⟨b, hb, live⟩ := x.live e he
    exact ⟨b.map f, by rw [List.getElem?_map, hb]; rfl, live⟩

def signal? (x : Exchange τ) (i : Nat) : Option Signal := x.bindings[i]?.map (·.signal)

def inbox (x : Exchange τ) (i : Nat) : List τ := (x.bindings[i]?.map (·.inbox)).getD []

section

variable (f : τ → υ) (x : Exchange τ)

theorem modify_map {i : Nat} {g : Binding τ → Binding τ} {g' : Binding υ → Binding υ}
    (comm : ∀ b, g' (b.map f) = (g b).map f) :
    (x.map f).bindings.modify i g' = (x.bindings.modify i g).map (Binding.map f) := by
  refine List.ext_getElem? fun j => ?_
  simp only [map, List.getElem?_map, List.getElem?_modify]
  by_cases same : i = j
  · cases x.bindings[j]? <;> simp [same, comm]
  · simp [same]

theorem modifyInbox_map (i : Nat) {g : List τ → List τ} {g' : List υ → List υ}
    (comm : ∀ waiting, g' (waiting.map f) = (g waiting).map f) :
    (x.map f).modifyInbox i g' = (x.modifyInbox i g).map f :=
  Exchange.ext (x.modify_map f fun b => by simp [Binding.map, comm]) rfl

theorem deliver_map (i : Nat) (item : τ) :
    (x.map f).deliver i (f item) = (x.deliver i item).map f :=
  x.modifyInbox_map f i fun waiting => by simp

theorem drop_map (i : Nat) : (x.map f).drop i = (x.drop i).map f :=
  Exchange.ext (x.modify_map f fun _ => rfl) rfl

theorem accept_map (g : Signals) (i : Nat) :
    (x.map f).accept g i = ((x.accept g i).1.map f, (x.accept g i).2.map f) := by
  have there : (x.map f).bindings[i]? = x.bindings[i]?.map (Binding.map f) := List.getElem?_map
  simp only [accept, there]
  cases x.bindings[i]? with
  | none => rfl
  | some b =>
      change (if g.isFired b.signal then _ else _) = _
      by_cases fired : g.isFired b.signal = true
      · simp [fired, Poll.map, Poll.failed, Except.map]
      · obtain ⟨address, inbox, signal, live⟩ := b
        cases inbox with
        | nil => simp [fired, Binding.map, Poll.map]
        | cons item rest =>
            have taken : (x.map f).modifyInbox i (fun _ => rest.map f) =
                (x.modifyInbox i fun _ => rest).map f := x.modifyInbox_map f i fun _ => rfl
            simp [fired, Binding.map, Poll.map, Poll.ready, Except.map, taken]

end

section

variable (x : Exchange τ)

theorem signal?_isSome_iff {i : Nat} : (x.signal? i).isSome ↔ i < x.bindings.length := by
  simp [signal?]

theorem getElem?_modifyInbox (i : Nat) (g : List τ → List τ) (j : Nat) :
    (x.modifyInbox i g).bindings[j]? =
      x.bindings[j]?.map fun b => if i = j then { b with inbox := g b.inbox } else b :=
  List.getElem?_modify ..

theorem signal?_modifyInbox (i : Nat) (g : List τ → List τ) :
    (x.modifyInbox i g).signal? = x.signal? := by
  funext j
  rw [signal?, signal?, modifyInbox, map_getElem?_modify]
  exact fun _ => rfl

theorem inbox_modifyInbox {i : Nat} (there : i < x.bindings.length) (g : List τ → List τ)
    (j : Nat) : (x.modifyInbox i g).inbox j = if j = i then g (x.inbox i) else x.inbox j := by
  simp only [inbox, getElem?_modifyInbox]
  by_cases same : j = i
  · subst same
    simp [List.getElem?_eq_getElem there]
  · simp [same, Ne.symm same]

variable {x} in
theorem mem_modifyInbox {i : Nat} {g : List τ → List τ} {b : Binding τ}
    (hb : b ∈ (x.modifyInbox i g).bindings) :
    ∃ b' ∈ x.bindings, b.signal = b'.signal ∧ (b.inbox = b'.inbox ∨ b.inbox = g b'.inbox) := by
  obtain ⟨b', hb', rfl | rfl⟩ := mem_modify hb
  · exact ⟨b, hb', rfl, .inl rfl⟩
  · exact ⟨b', hb', rfl, .inr rfl⟩

variable {x} in
theorem mem_drop {i : Nat} {b : Binding τ} (hb : b ∈ (x.drop i).bindings) :
    ∃ b' ∈ x.bindings, b.signal = b'.signal ∧ b.inbox = b'.inbox := by
  obtain ⟨b', hb', rfl | rfl⟩ := mem_modify hb
  · exact ⟨b, hb', rfl, rfl⟩
  · exact ⟨b', hb', rfl, rfl⟩

theorem signal?_drop (i : Nat) : (x.drop i).signal? = x.signal? := by
  funext j
  rw [signal?, signal?, drop, map_getElem?_modify]
  exact fun _ => rfl

theorem inbox_drop (i : Nat) : (x.drop i).inbox = x.inbox := by
  funext j
  rw [inbox, inbox, drop, map_getElem?_modify]
  exact fun _ => rfl

variable {x} in
theorem bind_occupied {address : String} (found : x.table.contains address = true)
    (signal : Signal) : x.bind address signal = .error (occupied address) := by
  rw [bind, if_pos found]

variable {x} in
theorem bind_vacant {address : String} (vacant : x.table.contains address = false)
    (signal : Signal) :
    x.bind address signal = .ok (x.bindings.length, x.listening address signal) := by
  rw [bind, if_neg (Bool.eq_false_iff.1 vacant)]

theorem signal?_listening (address : String) (signal : Signal) (i : Nat) :
    (x.listening address signal).signal? i =
      if i = x.bindings.length then some signal else x.signal? i := by
  simp only [signal?, listening, List.getElem?_append, List.getElem?_singleton]
  split
  · rw [if_neg (by omega)]
  · split
    · rw [if_pos (by omega)]
      rfl
    · rw [if_neg (by omega), List.getElem?_eq_none (by omega)]

theorem inbox_listening (address : String) (signal : Signal) :
    (x.listening address signal).inbox = x.inbox := by
  funext i
  simp only [inbox, listening, List.getElem?_append, List.getElem?_singleton]
  split
  · rfl
  · rw [List.getElem?_eq_none (l := x.bindings) (by omega)]
    split <;> rfl

/-- Accepting at a listener that is there fails, has to wait, or takes the first of what waits. -/
theorem accept_cases (g : Signals) {i : Nat} {signal : Signal}
    (found : x.signal? i = some signal) :
    (g.isFired signal = true ∧ x.accept g i = (.failed .closed, x)) ∨
      (g.isFired signal = false ∧ x.inbox i = [] ∧ x.accept g i = (.pending, x)) ∨
      (g.isFired signal = false ∧ ∃ item rest x', x.inbox i = item :: rest ∧
        x.accept g i = (.ready item, x') ∧ x'.table = x.table ∧ x'.signal? = x.signal? ∧
        ∀ j, x'.inbox j = if j = i then rest else x.inbox j) := by
  obtain ⟨⟨address, inbox, signal, live⟩, hb, rfl⟩ := Option.map_eq_some_iff.1 found
  have waiting : x.inbox i = inbox := by
    rw [Exchange.inbox, hb]
    rfl
  cases fired : g.isFired signal with
  | true => exact .inl ⟨rfl, by simp [accept, hb, fired]⟩
  | false =>
      cases inbox with
      | nil => exact .inr (.inl ⟨rfl, waiting, by simp [accept, hb, fired]⟩)
      | cons item rest =>
          have taken : x.accept g i = (.ready item, x.modifyInbox i fun _ => rest) := by
            simp [accept, hb, fired]
          exact .inr (.inr ⟨rfl, item, rest, _, waiting, taken, rfl, x.signal?_modifyInbox i _,
            x.inbox_modifyInbox (List.getElem?_eq_some_iff.1 hb).1 _⟩)

end

end Exchange

/-- One of the two exchanges. -/
inductive Board
  | streams | sockets
  deriving DecidableEq, Repr

namespace Board

def implementation : Board → Implementation
  | streams => .memory
  | sockets => .memoryMux

def listener : Board → Nat → Product
  | streams, i => .streamListener (.memory i)
  | sockets, i => .muxListener (.memory i)

def holding : Board → Nat → Holding
  | streams, i => .streamBinding i
  | sockets, i => .socketBinding i

end Board

/-- The other half of what a dial yields, which waits for the listener. -/
def Product.serverHalf : Product → Product
  | stream (.piped s) =>
      .stream (.piped { s with
        half := s.half.other
        localAddress := s.remoteAddress
        remoteAddress := s.localAddress
        dial? := none })
  | muxed (.session i h) => .muxed (.session i h.other)
  | p => p

/-- The pipe or session of one half of a connection. -/
def Product.place? : Product → Option (Board × Nat)
  | stream (.piped s) => some (.streams, s.pipe)
  | muxed (.session i _) => some (.sockets, i)
  | _ => none

namespace Network

variable (n : Network) (b : Board)

def exchange : Board → Exchange Product
  | .streams => n.streams.map .stream
  | .sockets => n.sockets.map .muxed

/-- How many pipes or sessions there are. -/
def made : Board → Nat
  | .streams => n.pipes.length
  | .sockets => n.sessions.length

def closeListener (i : Nat) : Network :=
  match b with
  | .streams => closeStreamListener (.memory i) n
  | .sockets => closeMuxListener (.memory i) n

def acceptOn (i : Nat) : Poll TransportError Product × Network :=
  match b with
  | .streams =>
      let (r, n) := acceptOnStreamListener (.memory i) n
      (r.map .stream, n)
  | .sockets =>
      let (r, n) := acceptOnMuxListener (.memory i) n
      (r.map .muxed, n)

theorem exchange_eq_update {n' : Network} {x : Exchange Product} (own : n'.exchange b = x)
    (other : ∀ b', b' ≠ b → n'.exchange b' = n.exchange b') :
    n'.exchange = Function.update n.exchange b x := by
  funext b'
  by_cases same : b' = b
  · subst same
    rw [own, Function.update_self]
  · rw [other b' same, Function.update_of_ne same]

theorem exchange_closeListener (i : Nat) :
    (n.closeListener b i).exchange = Function.update n.exchange b ((n.exchange b).unbind i) := by
  have streams (s : Option Signal) : (n.fire? s).streams = n.streams := by cases s <;> rfl
  have sockets (s : Option Signal) : (n.fire? s).sockets = n.sockets := by cases s <;> rfl
  refine n.exchange_eq_update b ?_ fun b' other => ?_
  · cases b <;> simp only [closeListener, closeStreamListener, closeMuxListener, exchange] <;>
      first | rw [streams] | rw [sockets]
    all_goals rfl
  · cases b <;> cases b' <;> first | exact absurd rfl other | skip
    · simp only [closeListener, closeStreamListener, exchange, sockets]
    · simp only [closeListener, closeMuxListener, exchange, streams]

theorem signals_closeListener {i : Nat} {s : Signal} (found : (n.exchange b).signal? i = some s) :
    (n.closeListener b i).signals = n.signals.fire s := by
  cases b with
  | streams =>
      have inside : n.streams.bindings[i]?.map (·.signal) = some s := by
        simpa [exchange, Exchange.signal?, Exchange.map, Binding.map] using found
      simp only [closeListener, closeStreamListener, inside]
      rfl
  | sockets =>
      have inside : n.sockets.bindings[i]?.map (·.signal) = some s := by
        simpa [exchange, Exchange.signal?, Exchange.map, Binding.map] using found
      simp only [closeListener, closeMuxListener, inside]
      rfl

theorem made_closeListener (i : Nat) : (n.closeListener b i).made = n.made := by
  have fired (s : Option Signal) : (n.fire? s).made = n.made := by
    funext b
    cases s <;> cases b <;> rfl
  cases b with
  | streams => exact fired (n.streams.bindings[i]?.map (·.signal))
  | sockets => exact fired (n.sockets.bindings[i]?.map (·.signal))

theorem exchange_releaseOne (i : Nat) :
    (n.releaseOne (b.holding i)).exchange =
      Function.update n.exchange b ((n.exchange b).drop i) := by
  refine n.exchange_eq_update b ?_ fun b' other => ?_
  · cases b <;> exact (Exchange.drop_map _ _ i).symm
  · cases b <;> cases b' <;> first | exact absurd rfl other | rfl

/-- Accepting changes one exchange and nothing else that counts here. -/
theorem acceptOn_eq (i : Nat) :
    let accepted := (n.exchange b).accept n.signals i
    (n.acceptOn b i).1 = accepted.1 ∧
      (n.acceptOn b i).2.exchange = Function.update n.exchange b accepted.2 ∧
      (n.acceptOn b i).2.signals = n.signals ∧ (n.acceptOn b i).2.made = n.made := by
  intro accepted
  cases b with
  | streams =>
      have mapped : accepted = ((n.streams.accept n.signals i).1.map .stream,
          (n.streams.accept n.signals i).2.map .stream) :=
        n.streams.accept_map Product.stream n.signals i
      rw [mapped]
      refine ⟨rfl, n.exchange_eq_update .streams rfl fun b' other => ?_, rfl, ?_⟩
      · cases b' <;> first | exact absurd rfl other | rfl
      · funext b'
        cases b' <;> rfl
  | sockets =>
      have mapped : accepted = ((n.sockets.accept n.signals i).1.map .muxed,
          (n.sockets.accept n.signals i).2.map .muxed) :=
        n.sockets.accept_map Product.muxed n.signals i
      rw [mapped]
      refine ⟨rfl, n.exchange_eq_update .sockets rfl fun b' other => ?_, rfl, ?_⟩
      · cases b' <;> first | exact absurd rfl other | rfl
      · funext b'
        cases b' <;> rfl

/-- The network with one signal more. -/
def withSignal : Network := { n with signals := { n.signals with count := n.signals.count + 1 } }

/-- The network with one listener more. -/
def listening (address : String) : Network :=
  match b with
  | .streams => { n.withSignal with streams := n.streams.listening address (n.nextSignal []) }
  | .sockets => { n.withSignal with sockets := n.sockets.listening address (n.nextSignal []) }

section

variable {n b} {address : String} (c : Category) (p : Parameters)

private theorem listen_streams :
    listen (.bound c .memory address p) n = (do
      let bound ← ofExcept (n.streams.bind address (n.nextSignal []))
      modify fun n => { n with streams := bound.2 }
      return .streamListener (.memory bound.1) : Net Product) n.withSignal :=
  rfl

private theorem listen_sockets :
    listen (.bound c .memoryMux address p) n = (do
      let bound ← ofExcept (n.sockets.bind address (n.nextSignal []))
      modify fun n => { n with sockets := bound.2 }
      return .muxListener (.memory bound.1) : Net Product) n.withSignal :=
  rfl

theorem listen_occupied (found : (n.exchange b).table.contains address = true) :
    listen (.bound c b.implementation address p) n =
      (.error (Exchange.occupied address), n.withSignal) := by
  cases b with
  | streams =>
      rw [Board.implementation, listen_streams, Exchange.bind_occupied (x := n.streams) found]
      rfl
  | sockets =>
      rw [Board.implementation, listen_sockets, Exchange.bind_occupied (x := n.sockets) found]
      rfl

theorem listen_vacant (vacant : (n.exchange b).table.contains address = false) :
    listen (.bound c b.implementation address p) n =
      (.ok (b.listener (n.exchange b).bindings.length), n.listening b address) := by
  cases b with
  | streams =>
      rw [Board.implementation, listen_streams, Exchange.bind_vacant (x := n.streams) vacant,
        exchange, Exchange.map, List.length_map]
      rfl
  | sockets =>
      rw [Board.implementation, listen_sockets, Exchange.bind_vacant (x := n.sockets) vacant,
        exchange, Exchange.map, List.length_map]
      rfl

theorem exchange_listening (address : String) :
    (n.listening b address).exchange =
      Function.update n.exchange b ((n.exchange b).listening address (n.nextSignal [])) := by
  refine n.exchange_eq_update b ?_ fun b' other => ?_
  · cases b <;> simp [exchange, listening, Exchange.map, Exchange.listening, Binding.map]
  · cases b <;> cases b' <;> first | exact absurd rfl other | rfl

/-- The stream that dialing yields next. -/
def nextDialed (n : Network) (d : MemoryDial) : PipedStream where
  pipe := n.pipes.length
  half := .first
  signal := n.nextSignal []
  number := 0
  localAddress := (n.newClient Implementation.memoryName).1
  remoteAddress := serverAddress Implementation.memoryName d.address
  dial? := some d

def afterDialStream (n : Network) (d : MemoryDial) (i : Nat) : Network :=
  let s := n.nextDialed d
  { n.withSignal with
    identities := n.identities + 1
    pipes := n.pipes ++ [.empty d.capacity]
    streams := n.streams.deliver i
      (.piped ⟨s.pipe, .second, s.signal, 0, s.remoteAddress, s.localAddress, none⟩) }

theorem dialStream_eq {d : MemoryDial} {i : Nat} (reached : n.streams.reach d.address = .ok i) :
    dialStream d n = (.ok (.piped (n.nextDialed d)), n.afterDialStream d i) := by
  let s := n.nextDialed d
  let peer : Stream := .piped ⟨s.pipe, .second, s.signal, 0, s.remoteAddress, s.localAddress, none⟩
  let before := { n.afterDialStream d i with streams := n.streams }
  have sent := Exchange.send_of_reach reached peer
  have reduced : dialStream d n = (do
      let streams ← ofExcept (n.streams.send d.address i peer)
      modify fun n => { n with streams := streams }
      return .piped s : Net Stream) before := by
    rw [dialStream, get_bind, reached]
    rfl
  rw [reduced, sent]
  rfl

theorem dialStream_refused {d : MemoryDial} {e : TransportError}
    (refused : n.streams.reach d.address = .error e) : dialStream d n = (.error e, n) := by
  have failed : ofExcept (.error e : Except TransportError Nat) n = (.error e, n) := rfl
  rw [dialStream, get_bind, refused, bind_of_error failed]

theorem dial_streams :
    let d : MemoryDial := ⟨address, Implementation.bufferOf p⟩
    dial (.bound c .memory address p) n =
      match n.streams.reach address with
      | .error e => (.error e, n)
      | .ok i => (.ok (.stream (.piped (n.nextDialed d))), n.afterDialStream d i) := by
  intro d
  have composed : dial (.bound c .memory address p) n =
      (Product.stream <$> dialStream d : Net Product) n := rfl
  rw [composed, map_eq_pure_bind]
  cases reached : n.streams.reach address with
  | error e =>
      rw [bind_of_error (dialStream_refused (d := d) reached)]
  | ok i =>
      rw [bind_of_ok (dialStream_eq (d := d) reached)]
      rfl

theorem dial_sockets :
    let d : MemoryDial := ⟨address, Implementation.bufferOf p⟩
    dial (.bound c .memoryMux address p) n =
      match n.sockets.reach address with
      | .error e => (.error e, n)
      | .ok i => (.ok (.muxed (.session n.sessions.length .first)), n.afterDial d i) := by
  intro d
  have composed : dial (.bound c .memoryMux address p) n =
      (Product.muxed <$> dialSession d : Net Product) n := rfl
  rw [composed, map_eq_pure_bind]
  cases reached : n.sockets.reach address with
  | error e =>
      rw [bind_of_error (dialSession_refused (d := d) reached)]
  | ok i =>
      rw [bind_of_ok (dialSession_eq (d := d) reached)]
      rfl

theorem dial_refused (missing : (n.exchange b).table.get? address = none) :
    dial (.bound c b.implementation address p) n = (.error (Exchange.refused address), n) := by
  cases b with
  | streams =>
      have refused : n.streams.reach address = .error (Exchange.refused address) := by
        rw [Exchange.reach, show n.streams.table.get? address = none from missing]
      rw [Board.implementation, dial_streams, refused]
  | sockets =>
      have refused : n.sockets.reach address = .error (Exchange.refused address) := by
        rw [Exchange.reach, show n.sockets.table.get? address = none from missing]
      rw [Board.implementation, dial_sockets, refused]

/-- A dial that reaches a listener makes one connection, and its other half is all that changes on
the exchanges. -/
theorem dial_reached {i : Nat} (found : (n.exchange b).table.get? address = some i) :
    ∃ client n', dial (.bound c b.implementation address p) n = (.ok client, n') ∧
      n'.exchange = Function.update n.exchange b ((n.exchange b).deliver i client.serverHalf) ∧
      n'.signals = n.withSignal.signals ∧ client.place? = some (b, n.made b) ∧
      n'.made = Function.update n.made b (n.made b + 1) := by
  cases b with
  | streams =>
      have reached : n.streams.reach address = .ok i := by
        rw [Exchange.reach, show n.streams.table.get? address = some i from found]
      rw [Board.implementation, dial_streams, reached]
      refine ⟨_, _, rfl, n.exchange_eq_update .streams ?_ fun b' other => ?_, rfl, rfl, ?_⟩
      · exact (Exchange.deliver_map Product.stream n.streams i _).symm
      · cases b' <;> first | exact absurd rfl other | rfl
      · funext b'
        cases b' <;> simp [made, afterDialStream, withSignal]
  | sockets =>
      have reached : n.sockets.reach address = .ok i := by
        rw [Exchange.reach, show n.sockets.table.get? address = some i from found]
      rw [Board.implementation, dial_sockets, reached]
      refine ⟨_, _, rfl, n.exchange_eq_update .sockets ?_ fun b' other => ?_, rfl, rfl, ?_⟩
      · exact (Exchange.deliver_map Product.muxed n.sockets i _).symm
      · cases b' <;> first | exact absurd rfl other | rfl
      · funext b'
        cases b' <;> simp [made, afterDial]

end

end Network

end TransportStack
