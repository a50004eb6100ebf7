import TransportStack.Scenario.GuardRun
import TransportStack.Scenario.Trial

/-!
Scripts: steps on things that are held under names. An operation that has to wait goes on while
later steps are taken, and its result can be asked for. A thing that no name, operation or other
thing holds any more is released.
-/

namespace TransportStack.Scenario

inductive Handle
  | product (product : Product)
  | producer (side : Side) (producer : Producer)

def Handle.holdings : Handle → List Holding
  | product p => p.holdings
  | producer _ p => p.holdings

def Handle.signal? (n : Network) : Handle → Option Signal
  | product (.packet s) => some s.signal
  | product (.stream s) => some s.signal
  | product (.muxed s) => n.socketSignal? s
  | product (.streamListener l) => l.signal? n
  | product (.muxListener l) => l.signal? n
  | producer .. => none

def Handle.isStream (s : Stream) : Handle → Bool
  | product (.stream t) => t == s
  | _ => false

inductive Waiting
  | acceptStream (listener : StreamListener)
  | acceptSocket (listener : MuxListener)
  | openOn (socket : Socket)
  | acceptOn (socket : Socket)
  | receive (socket : Socket)
  | perform (stream : Stream) (op : ByteOp)
  | closeStreams (listener : StreamListener)
  | closeSockets (listener : MuxListener)

/-- What an operation holds. An operation on the bytes of a stream does not hold the stream. -/
def Waiting.holdings : Waiting → List Holding
  | acceptStream l | closeStreams l => l.holdings
  | acceptSocket l | closeSockets l => l.holdings
  | openOn s | acceptOn s | receive s => s.holdings
  | perform .. => []

inductive Outcome
  | made (handle : Handle)
  | bytes (result : ByteResult)
  | failed (cause : TransportError)

def Outcome.holdings : Outcome → List Holding
  | made h => h.holdings
  | bytes _ | failed _ => []

def Outcome.ofExcept {α : Type} (f : α → Outcome) : Except TransportError α → Outcome
  | .ok a => f a
  | .error e => .failed e

def way (s : Stream) : Way := ⟨guards s, half? s⟩
where
  guards : Stream → List Place
    | .piped s => [.guard s.signal (some s.half)]
    | .single inner signal _ => .guard signal none :: guards inner
    | .recorded _ _ signal => [.guard signal none]
  half? : Stream → Option (Nat × Half)
    | .piped s => some (s.pipe, s.half)
    | .single inner _ _ => half? inner
    | .recorded .. => none

/-- The guards that an operation goes through. -/
def Waiting.passed (n : Network) : Waiting → List Place
  | perform s op => op.passed n.isFired (way s)
  | _ => []

def Waiting.places : Waiting → List Place
  | perform s op => op.places (way s)
  | _ => []

def Waiting.isWatching : Waiting → Bool
  | perform .. => true
  | _ => false

def Waiting.look (w : Waiting) (n : Network) : Option Outcome × Network :=
  match w with
  | acceptStream l => ended (fun s => .made (.product (.stream s))) (n.acceptOnStreamListener l)
  | acceptSocket l => ended (fun s => .made (.product (.muxed s))) (n.acceptOnMuxListener l)
  | openOn s => ended (fun s => .made (.product (.stream s))) (n.openStream s)
  | acceptOn s => ended (fun s => .made (.product (.stream s))) (n.acceptStream s)
  | receive s => ended (fun b => .bytes (.data b)) (Network.receiveDatagram s n)
  | perform s op =>
      let (r, n) := op.perform (Network.bytes s) n
      (r.map .bytes, n)
  | closeStreams l => ended (fun _ => .bytes .done) (Network.closingStreamListener l n, n)
  | closeSockets l => ended (fun _ => .bytes .done) (Network.closingMuxListener l n, n)
where
  ended {α : Type} (f : α → Outcome) (r : Poll TransportError α × Network) :
      Option Outcome × Network :=
    (match r.1 with
      | .pending => none
      | .done r => some (.ofExcept f r), r.2)

/-- A step of a script. The name of a step is that of what it makes and of its operation. -/
inductive ScriptStep
  | produce (side : Side) (kind : ChainKind) (scheme address : String) (parameters : Parameters)
      (options : ChainOptions)
  /-- Makes a producer and follows it once. -/
  | follow (side : Side) (kind : ChainKind) (scheme address : String) (parameters : Parameters)
      (options : ChainOptions)
  | dialUri (uri : String)
  | listenUri (uri : String)
  | call (on : String)
  | accept (on : String)
  | openOn (on : String)
  | acceptOn (on : String)
  | redial (on : String)
  | perform (on : String) (op : ByteOp)
  | send (on : String) (payload : List UInt8)
  | receive (on : String)
  | close (on : String)
  | info (on : String)
  | join (on : String)
  | drop (on : String)
  | clearListeners
  | sessionPair (first second : String) (capacity : Nat)
  | streamPair (first second : String) (capacity : Nat) (number : UInt64)

inductive Info
  | socket (localAddress remoteAddress : Address) (closed canRedial : Bool)
      (number : Option UInt64)
  | listener (address : Address) (closed : Bool)

inductive ScriptAnswer
  | made (handle : Handle)
  | bytes (result : ByteResult)
  | failed (cause : TransportError)
  | waits (name : String)
  | stillWaits
  | done
  | nothing
  | info (info : Info)
  | sameSession
  | noHandle (name : String)

structure ScriptRun where
  workshop : Workshop
  network : Network
  handles : Dict Handle
  /-- The producers that stay until the script ends. -/
  kept : List Producer
  waiting : List (String × Waiting)
  watch : Watch String
  finished : Results String Outcome

namespace ScriptRun

def roots (s : ScriptRun) : List Holding :=
  s.handles.entries.flatMap (fun e => e.2.holdings) ++ s.kept.flatMap Producer.holdings ++
    s.waiting.flatMap (fun w => w.2.holdings) ++ s.finished.flatMap (fun f => f.2.holdings)

def look (s : ScriptRun) (name : String) (w : Waiting) : ScriptRun :=
  match w.look s.network with
  | (none, n) =>
      { s with
        network := n
        watch := s.watch.come w.places name
        waiting := s.waiting ++ [(name, w)] }
  | (some r, n) =>
      { s with
        network := n
        watch := s.watch.clear (w.passed s.network)
        finished := s.finished ++ [(name, r)] }

/-- Whether an operation is one on the bytes of a stream that no name stands for any more. It waits
forever. -/
def isOrphan (s : ScriptRun) : Waiting → Bool
  | .perform t _ => !s.handles.entries.any fun e => e.2.isStream t
  | _ => false

def retry (s : ScriptRun) (w : String × Waiting) : ScriptRun :=
  let n := s.network
  let news := s.watch.news (Place.hasNews n.isFired fun i => n.pipes[i]?) w.1
  if s.isOrphan w.2 || w.2.isWatching && news.isEmpty then { s with waiting := s.waiting ++ [w] }
  else { s with watch := s.watch.clear news }.look w.1 w.2

/-- Lets the network and those who wait go on until everything waits and nothing is to be
released. -/
def settle (s : ScriptRun) : ScriptRun := go (s.network.patience + s.waiting.length + 1) s
where
  go : Nat → ScriptRun → ScriptRun
    | 0, s => s
    | k + 1, s =>
        let waiting := s.waiting
        let s := waiting.foldl retry { s with network := s.network.advance, waiting := [] }
        match s.network.release? s.roots with
        | some n => go k { s with network := n }
        | none => if s.waiting.length = waiting.length then s else go k s

def store (s : ScriptRun) (name : String) (h : Handle) : ScriptRun :=
  { s with handles := s.handles.insert name h }

def answer (s : ScriptRun) (name : String) : Outcome → ScriptAnswer × ScriptRun
  | .made h => (.made h, s.store name h)
  | .bytes r => (.bytes r, s)
  | .failed e => (.failed e, s)

def operate {α : Type} (s : ScriptRun) (op : Net α) : Except TransportError α × ScriptRun :=
  let (r, n) := op s.network
  (r, { s with network := n })

def make (s : ScriptRun) (name : String) (op : Net Handle) : ScriptAnswer × ScriptRun :=
  let (r, s) := s.operate op
  s.answer name (.ofExcept .made r)

def change (s : ScriptRun) (f : Network → Network) : ScriptAnswer × ScriptRun :=
  (.done, { s with network := f s.network })

def begin (s : ScriptRun) (name : String) (w : Waiting) : ScriptAnswer × ScriptRun :=
  let others := s.waiting.filter fun w => w.1 != name
  let s := settle (look { s with waiting := others } name w)
  match s.finished.take name with
  | (some r, finished) => { s with finished }.answer name r
  | (none, _) => (.waits name, s)

def infoOf? (n : Network) : Handle → Option Info
  | .product (.packet s) =>
      some (.socket s.localAddress s.remoteAddress (n.isFired s.signal) false none)
  | .product (.stream s) =>
      some (.socket s.localAddress s.remoteAddress (n.isFired s.signal) s.canRedial s.number)
  | .product (.muxed s) =>
      some (.socket (n.localAddress s) (n.remoteAddress s) (n.isClosed s) (n.canRedial s) none)
  | .product (.streamListener l) => some (.listener (l.address n) (n.isStreamListenerClosed l))
  | .product (.muxListener l) => some (.listener (l.address n) (n.isMuxListenerClosed l))
  | .producer .. => none

def closeHandle (n : Network) : Handle → Network
  | .product (.packet s) => n.fire s.signal
  | .product (.stream s) => Network.closeStream s n
  | .product (.muxed s) => Network.closeSocket s n
  | .product (.streamListener l) => Network.closeStreamListener l n
  | .product (.muxListener l) => Network.closeMuxListener l n
  | .producer .. => n

def stepOn (s : ScriptRun) (name on : String) (h : Handle) :
    ScriptStep → ScriptAnswer × ScriptRun
  | .call _ =>
      match h with
      | .producer side p => s.make name (Handle.product <$> Network.follow side p)
      | _ => (.noHandle on, s)
  | .accept _ =>
      match h with
      | .product (.streamListener l) => s.begin name (.acceptStream l)
      | .product (.muxListener l) => s.begin name (.acceptSocket l)
      | _ => (.noHandle on, s)
  | .openOn _ =>
      match h with
      | .product (.muxed m) => s.begin name (.openOn m)
      | _ => (.noHandle on, s)
  | .acceptOn _ =>
      match h with
      | .product (.muxed m) => s.begin name (.acceptOn m)
      | _ => (.noHandle on, s)
  | .redial _ =>
      match h with
      | .product (.stream t) =>
          s.make name ((fun t => .product (.stream t)) <$> Network.redialStream t)
      | .product (.muxed m) =>
          s.make name ((fun m => .product (.muxed m)) <$> Network.redialSocket m)
      | .product (.packet _) => (.failed .redialNotSupported, s)
      | _ => (.noHandle on, s)
  | .perform _ op =>
      match h with
      | .product (.stream t) => s.begin name (.perform t op)
      | _ => (.noHandle on, s)
  | .send _ payload =>
      match h with
      | .product (.muxed m) =>
          let (r, s) := s.operate (Network.sendDatagram m payload)
          (match r with
            | .ok () => .done
            | .error e => .failed e, s)
      | _ => (.noHandle on, s)
  | .receive _ =>
      match h with
      | .product (.muxed m) => s.begin name (.receive m)
      | _ => (.noHandle on, s)
  | .close _ =>
      let (_, s) := s.change fun n => closeHandle n h
      match h with
      | .product (.streamListener l) => s.begin name (.closeStreams l)
      | .product (.muxListener l) => s.begin name (.closeSockets l)
      | _ => (.done, s)
  | .info _ =>
      match infoOf? s.network h with
      | some i => (.info i, s)
      | none => (.noHandle on, s)
  | .drop _ => (.nothing, { s with handles := s.handles.erase on })
  | _ => (.noHandle on, s)

def subject? : ScriptStep → Option String
  | .call on | .accept on | .openOn on | .acceptOn on | .redial on | .perform on _ | .send on _
  | .receive on | .close on | .info on | .drop on => some on
  | _ => none

def stepAlone (s : ScriptRun) (name : String) : ScriptStep → ScriptAnswer × ScriptRun
  | .produce side kind scheme address p o =>
      s.make name (.producer side <$> Network.produce s.workshop kind side scheme address p o)
  | .follow side kind scheme address p o =>
      match s.operate (Network.produce s.workshop kind side scheme address p o) with
      | (.error e, s) => (.failed e, s)
      | (.ok p, s) =>
          { s with kept := s.kept ++ [p] }.make name (Handle.product <$> Network.follow side p)
  | .dialUri uri =>
      s.make name ((fun m => .product (.muxed m)) <$> Network.dialUri Uri.read s.workshop uri)
  | .listenUri uri =>
      s.make name ((fun l => .product (.muxListener l)) <$> Network.listenUri Uri.read s.workshop uri)
  | .join on =>
      match s.finished.take on with
      | (some r, finished) => { s with finished }.answer on r
      | (none, _) =>
          if s.waiting.any fun w => w.1 == on then (.stillWaits, s) else (.noHandle on, s)
  | .clearListeners =>
      let (_, s) := s.change Network.clearListeners
      (.nothing, s)
  | .sessionPair first second capacity =>
      let (i, n) := s.network.newSession capacity (.empty "client") (.empty "server") none
      (.sameSession,
        ({ s with network := n }.store first (.product (.muxed (.session i .first)))).store second
          (.product (.muxed (.session i .second))))
  | .streamPair first second capacity number =>
      let (signal, n) := s.network.newRoot
      let ((a, b), n) := n.pairStreams capacity signal number (.empty "a") (.empty "b")
      (.done, ({ s with network := n }.store first (.product (.stream a))).store second
        (.product (.stream b)))
  | _ => (.nothing, s)

def step (s : ScriptRun) (name : String) (step : ScriptStep) : ScriptAnswer × ScriptRun :=
  let (answer, s) :=
    match subject? step with
    | none => s.stepAlone name step
    | some on =>
        match s.handles.get? on with
        | some h => s.stepOn name on h step
        | none => (.noHandle on, s)
  (answer, s.settle)

def closed (s : ScriptRun) : List String :=
  (s.handles.entries.filter fun e =>
    ((e.2.signal? s.network).map s.network.isFired).getD false).map (·.1)

def start (w : Workshop) (n : Network) : ScriptRun := ⟨w, n, .empty, [], [], [], []⟩

/-- Takes all steps, each under its name. -/
def run (s : ScriptRun) : List (String × ScriptStep) → List (ScriptAnswer × List String)
  | [] => []
  | (name, step) :: steps =>
      let (answer, s) := s.step name step
      (answer, s.closed) :: s.run steps

end ScriptRun

end TransportStack.Scenario
