import TransportStack.Network.Dial

/-!
Listening: following the producers of a chain on the listening side, accepting, and closing
listeners.
-/

namespace TransportStack

mutual

def StreamListener.address (n : Network) : StreamListener → Address
  | .memory i => Network.serverAddress Implementation.memoryName (bound n i)
  | .gathered _ _ inner => inner.address n
  | .idle _ => .empty "mocks"
where
  bound (n : Network) (i : Nat) : String := (n.streams.bindings[i]?.map (·.address)).getD ""

def MuxListener.address (n : Network) : MuxListener → Address
  | .memory i => Network.serverAddress Implementation.memoryMuxName (bound n i)
  | .single inner => inner.address n
  | .idle _ => .empty "mockl"
where
  bound (n : Network) (i : Nat) : String := (n.sockets.bindings[i]?.map (·.address)).getD ""

end

def StreamListener.signal? (n : Network) : StreamListener → Option Signal
  | .memory i => n.streams.bindings[i]?.map (·.signal)
  | .gathered _ shutdown _ => some shutdown
  | .idle signal => some signal

def MuxListener.signal? (n : Network) : MuxListener → Option Signal
  | .memory i => n.sockets.bindings[i]?.map (·.signal)
  | .single inner => inner.signal? n
  | .idle signal => some signal

namespace Network

def fire? (n : Network) (s : Option Signal) : Network :=
  match s with
  | some s => n.fire s
  | none => n

def isStreamListenerClosed (n : Network) (l : StreamListener) : Bool :=
  ((l.signal? n).map n.isFired).getD true

def isMuxListenerClosed (n : Network) (l : MuxListener) : Bool :=
  ((l.signal? n).map n.isFired).getD true

mutual

def closeStreamListener : StreamListener → Network → Network
  | .memory i, n =>
      let n := n.fire? (n.streams.bindings[i]?.map (·.signal))
      { n with streams := n.streams.unbind i }
  | .gathered _ shutdown inner, n => closeMuxListener inner (n.fire shutdown)
  | .idle signal, n => n.fire signal

def closeMuxListener : MuxListener → Network → Network
  | .memory i, n =>
      let n := n.fire? (n.sockets.bindings[i]?.map (·.signal))
      { n with sockets := n.sockets.unbind i }
  | .single inner, n => closeStreamListener inner n
  | .idle signal, n => n.fire signal

end

/-- Makes all listeners within the program unreachable. They keep what was routed to them. -/
def clearListeners (n : Network) : Network :=
  { n with streams := n.streams.clear, sockets := n.sockets.clear }

mutual

/-- Closing a listener for streams, once it has been told to close: the tasks on it have to end. -/
def closingStreamListener : StreamListener → Network → Poll TransportError Unit
  | .memory _, _ | .idle _, _ => .ready ()
  | .gathered i _ inner, n =>
      match closingMuxListener inner n, n.demuxers[i]? with
      | .done r, some d => d.fan.closing r
      | .done r, none => .done r
      | .pending, _ => .pending

def closingMuxListener : MuxListener → Network → Poll TransportError Unit
  | .memory _, _ | .idle _, _ => .ready ()
  | .single inner, n => closingStreamListener inner n

end

/-- Presents a connection as a socket for its one stream. -/
def present (s : Stream) (n : Network) : Socket × Network :=
  let (signal, n) := n.newChild s.signal
  (.accepted n.accepted.length,
    { n with accepted := n.accepted ++ [⟨some s, signal, s.localAddress, s.remoteAddress⟩] })

def supply (accept : Network → Poll TransportError Socket × Network) (shutdown : Signal) :
    FanIn.Supply Network Socket Stream where
  isShut n := n.isFired shutdown
  shut n := n.fire shutdown
  acceptConnection := accept
  acceptStream := acceptStream
  isClosed s n := n.isClosed s
  close := closeSocket

def waitIdle {α : Type} (signal : Signal) (n : Network) : Poll TransportError α × Network :=
  (if n.isFired signal then .failed .closed else .pending, n)

def acceptOnStreamListener (l : StreamListener) (n : Network) :
    Poll TransportError Stream × Network :=
  match l with
  | .memory i =>
      let (r, streams) := n.streams.accept n.signals i
      (r, { n with streams := streams })
  | .gathered i shutdown _ =>
      match n.demuxers[i]? with
      | none => (.failed .closed, n)
      | some d =>
          let (r, fan) := d.fan.accept (supply (fun n => (.pending, n)) shutdown) n
          (r, { n with demuxers := n.demuxers.set i { d with fan := fan } })
  | .idle signal => waitIdle signal n

def acceptOnMuxListener (l : MuxListener) (n : Network) : Poll TransportError Socket × Network :=
  match l with
  | .memory i =>
      let (r, sockets) := n.sockets.accept n.signals i
      (r, { n with sockets := sockets })
  | .single inner =>
      match acceptOnStreamListener inner n with
      | (.done (.ok s), n) =>
          let (s, n) := present s n
          (.ready s, n)
      | (.done (.error e), n) => (.failed e, n)
      | (.pending, n) => (.pending, n)
  | .idle signal => waitIdle signal n

def gather (capacity : Nat) (l : MuxListener) : Net StreamListener := do
  let n ← get
  match l.signal? n with
  | none => throw .closed
  | some parent =>
      let shutdown ← modifyGet (·.newChild parent)
      modify fun n => { n with demuxers := n.demuxers ++ [⟨.start capacity, l, shutdown⟩] }
      return .gathered n.demuxers.length shutdown l

/-- What a recorded implementation yields on the listening side. -/
def recordedListen (c : Category) (input : Option Product) : Net Product :=
  match c.gives, input with
  | .packet, some p => if c = .packetObfuscator then pure p else .packet <$> newPacketSocket
  | .packet, none => .packet <$> newPacketSocket
  | .muxed, _ => return .muxListener (.idle (← modifyGet newRoot))
  | _, some p => if c = .streamObfuscator then pure p else newListener
  | _, none => newListener
where
  newListener : Net Product := return .streamListener (.idle (← modifyGet newRoot))

def listen : Producer → Net Product
  | .bound c i address _ =>
      match i with
      | .tcp | .udp => systemSocket address
      | .memory => do
          let signal ← modifyGet newRoot
          let (binding, streams) ← ofExcept ((← get).streams.bind address signal)
          modify fun n => { n with streams := streams }
          return .streamListener (.memory binding)
      | .memoryMux => do
          let signal ← modifyGet newRoot
          let (binding, sockets) ← ofExcept ((← get).sockets.bind address signal)
          modify fun n => { n with sockets := sockets }
          return .muxListener (.memory binding)
      | .recorded name => do
          rehearse name c .listen
          recordedListen c none
      | .nomux => throw (misfit "listen")
  | .onTop c i _ input =>
      match i with
      | .nomux => do
          match ← listen input with
          | .streamListener l => return .muxListener (.single l)
          | _ => throw (misfit "listen")
      | .recorded name => do
          rehearse name c .listen
          recordedListen c (some (← listen input))
      | _ => throw (misfit "listen")
  | .gathering capacity input => do
      match ← listen input with
      | .muxListener l => .streamListener <$> gather capacity l
      | _ => throw (misfit "listen")
  | .rotating _ _ => throw (misfit "listen")

def follow (side : Side) (p : Producer) : Net Product :=
  match side with
  | .dial => dial p
  | .listen => listen p

def demuxStep? (n : Network) (i : Nat) : Option Network := do
  let d ← n.demuxers[i]?
  let (fan, n) ← d.fan.step? (supply (acceptOnMuxListener d.listener) d.shutdown) n
  return { n with demuxers := n.demuxers.modify i fun d => { d with fan := fan } }

/-- A single stream whose connection is closed closes too. -/
def linkStep? (n : Network) : Option Network := do
  let link ← n.links.find? fun l => n.isFired l.2 && !n.isFired l.1
  return n.fire link.1

def step? (n : Network) : Option Network :=
  n.linkStep?.or ((List.range n.demuxers.length).findSome? n.demuxStep?)

/-- More steps than the network can take on its own: each object passes each demultiplexer once. -/
def patience (n : Network) : Nat :=
  let objects := n.signals.count + n.demuxers.length + 2
  4 * objects * objects

def advance (n : Network) : Network :=
  go n.patience n
where
  go : Nat → Network → Network
    | 0, n => n
    | k + 1, n =>
        match n.step? with
        | none => n
        | some n => go k n

end Network

end TransportStack
