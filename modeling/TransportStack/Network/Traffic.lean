import TransportStack.Network

/-!
The bytes of streams, and closing.
-/

namespace TransportStack.Network

def guard (s : Signal) : ByteStream.Guard Network where
  isFired n := n.isFired s
  fire n := n.fire s

def pipeBytes (pipe : Nat) (half : Half) : ByteStream Network :=
  (Pipe.stream half).within (fun n => n.pipes[pipe]?.getD (.empty 0))
    fun n p => { n with pipes := n.pipes.set pipe p }

/-- The bytes of a stream without another end: nothing arrives, and everything is taken. -/
def idleBytes : ByteStream Network where
  read count n := (if count = 0 then .ready [] else .pending, n)
  write bytes n := (.ready bytes.length, n)
  flush n := (.ready (), n)
  shutdown n := (.ready (), n)

def bytes : Stream → ByteStream Network
  | .piped s => (pipeBytes s.pipe s.half).guarded (guard s.signal)
  | .single inner signal _ => (bytes inner).guarded (guard signal)
  | .recorded _ _ signal => idleBytes.guarded (guard signal)

/-- Closes a stream. A single stream closes the stream inside as well. -/
def closeStream : Stream → Network → Network
  | .piped s, n => n.fire s.signal
  | .single inner signal _, n => closeStream inner (n.fire signal)
  | .recorded _ _ signal, n => n.fire signal

/-- Closes a socket. A socket for one stream closes the connection if it still has it. -/
def closeSocket (s : Socket) (n : Network) : Network :=
  match s with
  | .session i _ =>
      match n.sessions[i]? with
      | some session => n.fire session.signal
      | none => n
  | .dialed i =>
      match n.dialed[i]? with
      | some socket => n.fire socket.signal
      | none => n
  | .accepted i =>
      match n.accepted[i]? with
      | some socket =>
          let n := { n.fire socket.signal with
            accepted := n.accepted.set i { socket with stream? := none } }
          match socket.stream? with
          | some stream => closeStream stream n
          | none => n
      | none => n
  | .recorded i =>
      match n.recorded[i]? with
      | some socket => n.fire socket.signal
      | none => n

def socketSignal? (n : Network) : Socket → Option Signal
  | .session i _ => n.sessions[i]?.map (·.signal)
  | .dialed i => n.dialed[i]?.map (·.signal)
  | .accepted i => n.accepted[i]?.map (·.signal)
  | .recorded i => n.recorded[i]?.map (·.signal)

def isClosed (n : Network) (s : Socket) : Bool :=
  ((n.socketSignal? s).map n.isFired).getD true

def localAddress (n : Network) : Socket → Address
  | .session i h => (n.sessions[i]?.map fun s => (s.halves.get h).address).getD (.empty "")
  | .dialed _ => .empty Implementation.nomuxName
  | .accepted i => (n.accepted[i]?.map (·.localAddress)).getD (.empty "")
  | .recorded i => RecordedSocket.address i

def remoteAddress (n : Network) : Socket → Address
  | .session i h => (n.sessions[i]?.map fun s => (s.halves.get h.other).address).getD (.empty "")
  | .dialed i => (n.dialed[i]?.map (·.remoteAddress)).getD (.empty "")
  | .accepted i => (n.accepted[i]?.map (·.remoteAddress)).getD (.empty "")
  | .recorded i => RecordedSocket.address i

def memoryDial? (n : Network) : Socket → Option MemoryDial
  | .session i .first => n.sessions[i]?.bind (·.dial?)
  | _ => none

def canRedial (n : Network) (s : Socket) : Bool :=
  match s with
  | .dialed _ => true
  | s => (n.memoryDial? s).isSome

def sendDatagram (s : Socket) (payload : List UInt8) : Net Unit := do
  match s with
  | .session i h =>
      let n ← get
      match n.sessions[i]? with
      | none => throw .closed
      | some session =>
          let session ← liftExcept (session.sendDatagram n.signals h payload)
          set { n with sessions := n.sessions.set i session }
  | _ => throw (.operationNotSupported "send_datagram")
where
  liftExcept {α : Type} (r : Except TransportError α) : Net α := fun n => (r, n)

def receiveDatagram (s : Socket) (n : Network) : Poll TransportError (List UInt8) × Network :=
  match s with
  | .session i h =>
      match n.sessions[i]? with
      | none => (.failed .closed, n)
      | some session =>
          let (r, session) := session.receiveDatagram n.signals h
          (r, { n with sessions := n.sessions.set i session })
  | _ => (.failed (.operationNotSupported "recv_datagram"), n)

end TransportStack.Network
