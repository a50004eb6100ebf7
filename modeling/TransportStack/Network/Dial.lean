import TransportStack.Network.Traffic
import TransportStack.Net.IpReader

/-!
Dialing: following the producers of a chain on the dialing side, opening streams, and dialing again.

A call is the unit here. Opening a stream on a session takes a number and sends the other end to the
peer, and waits for nothing between the two, so no other call of the same thread comes between them.
Where calls of other threads do, every call still has a number of its own and sends the end that
belongs to its stream; what arrives is then in the order in which it was sent.
-/

namespace TransportStack.Network

def ofExcept {α : Type} (r : Except TransportError α) : Net α := fun n => (r, n)

/-- The failure of a part of a producer that is given something it cannot work with. Chains fit, so
that no producer of a chain fails like this. -/
def misfit (operation : String) : TransportError := .operationNotSupported operation

def dialStream (d : MemoryDial) : Net Stream := do
  let binding ← ofExcept ((← get).streams.reach d.address)
  let client ← modifyGet (·.newClient Implementation.memoryName)
  let server := serverAddress Implementation.memoryName d.address
  let signal ← modifyGet newRoot
  let pipe ← modifyGet (·.newPipe d.capacity)
  let peer := .piped ⟨pipe, .second, signal, 0, server, client, none⟩
  let streams ← ofExcept ((← get).streams.send d.address binding peer)
  modify fun n => { n with streams := streams }
  return .piped ⟨pipe, .first, signal, 0, client, server, some d⟩

def dialSession (d : MemoryDial) : Net Socket := do
  let binding ← ofExcept ((← get).sockets.reach d.address)
  let client ← modifyGet (·.newClient Implementation.memoryMuxName)
  let server := serverAddress Implementation.memoryMuxName d.address
  let session ← modifyGet (·.newSession d.capacity client server (some d))
  let sockets ← ofExcept ((← get).sockets.send d.address binding (.session session .second))
  modify fun n => { n with sockets := sockets }
  return .session session .first

def openOnSession (i : Nat) (h : Half) : Net Stream := do
  let n ← get
  match n.sessions[i]? with
  | none => throw .closed
  | some session =>
      if n.isFired session.signal || session.isDeserted h then throw .closed
      let (number, session) := session.takeNumber h
      let signal ← modifyGet (·.newChild session.signal)
      let (own, peer) ← modifyGet fun n =>
        n.pairStreams session.capacity signal number
          (.muxed (session.halves.get h).address number)
          (.muxed (session.halves.get h.other).address number)
      modify fun n => { n with sessions := n.sessions.set i (session.sendStream h peer) }
      return own

/-- Makes the stream of a connection the only stream of a socket. The new stream closes with the
connection. -/
def wrap (inner : Stream) (signal : Signal) (socket? : Option Nat) : Net Stream := do
  modify fun n => { n with links := n.links ++ [(signal, inner.signal)] }
  return .single inner signal socket?

def openOnDialed (run : Net Product) (i : Nat) : Net Stream := do
  let n ← get
  match n.dialed[i]? with
  | none => throw .closed
  | some socket =>
      if n.isFired socket.signal then throw .closed
      match ← run with
      | .stream inner =>
          modify fun n => { n with
            dialed := n.dialed.modify i fun s => { s with remote? := some inner.remoteAddress } }
          let signal ← modifyGet (·.newChild socket.signal)
          wrap inner signal (some i)
      | _ => throw (misfit "dial")

def openOnRecorded (i : Nat) : Net Stream := do
  let n ← get
  match n.recorded[i]? with
  | none => throw .closed
  | some socket =>
      if n.isFired socket.signal then throw .closed
      let number := socket.opened + 1
      let signal ← modifyGet newRoot
      modify fun n => { n with
        recorded := n.recorded.set i { socket with opened := number }
        rehearsal := n.rehearsal.note (.opened socket.name (i + 1) number) }
      return .recorded (.muxed (RecordedSocket.address i) number.toUInt64) number.toUInt64 signal

/-- Hands out the stream of an accepted connection. A later caller waits until the socket is
closed. -/
def takeAccepted (i : Nat) (n : Network) : Poll TransportError Stream × Network :=
  match n.accepted[i]? with
  | none => (.failed .closed, n)
  | some socket =>
      if n.isFired socket.signal then (.failed .closed, n)
      else
        match socket.stream? with
        | none => (.pending, n)
        | some inner =>
            let n := { n with accepted := n.accepted.set i { socket with stream? := none } }
            let (r, n) := wrap inner socket.signal none n
            (.done r, n)

def openWith (run : Net Product) (s : Socket) (n : Network) :
    Poll TransportError Stream × Network :=
  match s with
  | .session i h => finished (openOnSession i h n)
  | .dialed i => finished (openOnDialed run i n)
  | .accepted i => takeAccepted i n
  | .recorded i => finished (openOnRecorded i n)
where
  finished (r : Except TransportError Stream × Network) : Poll TransportError Stream × Network :=
    (.done r.1, r.2)

def atOnce (r : Poll TransportError Stream × Network) : Except TransportError Stream × Network :=
  match r with
  | (.done r, n) => (r, n)
  | (.pending, n) => (.error .closed, n)

/-- One call of a demultiplexed dialer, given how connections are dialed and how a socket that dials
a connection for every stream does so. -/
def rotate (cell : Nat) (dial run : Net Product) : Net Stream := fun n =>
  match n.rotations[cell]? with
  | none => (.error .closed, n)
  | some rotation =>
      let dialer : Rotation.Dialer Network Socket Stream :=
        { isClosed := fun s n => n.isClosed s
          dial := fun n =>
            match dial n with
            | (.ok (.muxed s), n) => (.ok s, n)
            | (.ok _, n) => (.error (misfit "dial"), n)
            | (.error e, n) => (.error e, n)
          openStream := fun s n => atOnce (openWith run s n) }
      let (r, rotation, n) := rotation.call dialer n
      (r, { n with rotations := n.rotations.set cell rotation })

/-- What can be said of an address before anything is sent: the system looks at the port first. -/
def checkAddress (address : String) : IoError :=
  if address.toList.contains ':' then
    match (Text.cutLast ':' address.toList).bind fun c =>
        Text.Width.port.readNat? (String.ofList c.2) with
    | some _ => .ofKind .unsupported
    | none => ⟨.invalidInput, some "invalid port value"⟩
  else ⟨.invalidInput, some "invalid socket address"⟩

/-- What comes of an address of the system. Only what is wrong with the text of the address can be
told; sockets of the system are out of reach. -/
def systemSocket {α : Type} (address : String) : Net α :=
  match SocketAddress.read? address with
  | some _ => throw (.io (.ofKind .unsupported))
  | none => throw (.io (checkAddress address))

def newPacketSocket : Net PacketSocket := do
  let signal ← modifyGet newRoot
  return ⟨signal, .empty "mockp", .empty "mockp"⟩

def newRecordedSocket (name : String) : Net Socket := do
  let signal ← modifyGet newRoot
  let i := (← get).recorded.length
  modify fun n => { n with recorded := n.recorded ++ [⟨name, signal, 0⟩] }
  return .recorded i

def rehearse (name : String) (c : Category) (side : Side) : Net Unit := fun n =>
  let (r, rehearsal) := n.rehearsal.run name c side
  (r, { n with rehearsal := rehearsal })

def recordedDial (name : String) (c : Category) (input : Option Product) : Net Product :=
  match c.gives, input with
  | .packet, some p => if c = .packetObfuscator then pure p else .packet <$> newPacketSocket
  | .packet, none => .packet <$> newPacketSocket
  | .muxed, _ => .muxed <$> newRecordedSocket name
  | _, some p => if c = .streamObfuscator then pure p else newStream
  | _, none => newStream
where
  newStream : Net Product := do
    let signal ← modifyGet newRoot
    return .stream (.recorded (.empty name) 0 signal)

def dial : Producer → Net Product
  | .bound c i address p =>
      match i with
      | .tcp | .udp => systemSocket address
      | .memory => .stream <$> dialStream ⟨address, Implementation.bufferOf p⟩
      | .memoryMux => .muxed <$> dialSession ⟨address, Implementation.bufferOf p⟩
      | .recorded name => do
          rehearse name c .dial
          recordedDial name c none
      | .nomux => throw (misfit "dial")
  | .onTop c i _ input =>
      match i with
      | .nomux => do
          let signal ← modifyGet newRoot
          let cell := (← get).dialed.length
          modify fun n => { n with dialed := n.dialed ++ [⟨input, signal, none⟩] }
          return .muxed (.dialed cell)
      | .recorded name => do
          rehearse name c .dial
          recordedDial name c (some (← dial input))
      | _ => throw (misfit "dial")
  | .rotating cell (.onTop c .nomux p input) => do
      return .stream (← rotate cell (dial (.onTop c .nomux p input)) (dial input))
  | .rotating cell input => do
      return .stream (← rotate cell (dial input) (throw .closed))
  | .gathering _ _ => throw (misfit "dial")

def dialAgain (i : Nat) : Net Stream := do
  match (← get).dialed[i]? with
  | none => throw .closed
  | some socket => openOnDialed (dial socket.dialer) i

def openStream (s : Socket) (n : Network) : Poll TransportError Stream × Network :=
  match s with
  | .dialed i =>
      let (r, n) := dialAgain i n
      (.done r, n)
  | s => openWith (throw .closed) s n

/-- Accepts a stream on a socket. Where the peer opens no streams, this is the same as opening
one. -/
def acceptStream (s : Socket) (n : Network) : Poll TransportError Stream × Network :=
  match s with
  | .session i h =>
      match n.sessions[i]? with
      | none => (.failed .closed, n)
      | some session =>
          let (r, session) := session.acceptStream n.signals h
          (r, { n with sessions := n.sessions.set i session })
  | .recorded _ => (if n.isClosed s then .failed .closed else .pending, n)
  | s => openStream s n

def redialStream : Stream → Net Stream
  | .piped s =>
      match s.dial? with
      | some d => dialStream d
      | none => throw .redialNotSupported
  | .single _ _ (some i) => dialAgain i
  | _ => throw .redialNotSupported

def redialSocket (s : Socket) : Net Socket := do
  let n ← get
  match s with
  | .dialed i =>
      match n.dialed[i]? with
      | none => throw .closed
      | some socket =>
          let signal ← modifyGet newRoot
          modify fun n => { n with dialed := n.dialed ++ [⟨socket.dialer, signal, none⟩] }
          return .dialed n.dialed.length
  | s =>
      match n.memoryDial? s with
      | some d => dialSession d
      | none => throw .redialNotSupported

end TransportStack.Network
