import TransportStack.Scenario.Trial

/-!
A chain under trial: steps that look at a chain, change the catalogue under it, build it and follow
what it builds.
-/

namespace TransportStack.Scenario

inductive ChainSource
  | scheme (text : String)
  | names (names : List String)
  | layers (layers : List (String × Nat))

inductive ChainStep
  | register (category : Category) (name : String)
  | unregister (category : Category) (name : String)
  | layers
  | hints
  | defaults
  | construct (side : Side) (address : String) (parameters : Parameters) (times : Nat)
  | create (side : Side) (scheme address : String) (parameters : Parameters) (times : Nat)
  | dialUri (uri : String)
  | listenUri (uri : String)

inductive ChainAnswer
  | changed (found : Bool)
  | layers (layers : List (Layer Implementation))
  | hints (hints : List (String × List ParameterHint))
  | defaults (names : DefaultNames)
  | failed (cause : TransportError)
  | report (report : TrialReport)
  | address (address : Address)
  | absent

structure ChainRun where
  workshop : Workshop
  chain? : Option (ChainKind × Chain Implementation)
  network : Network

namespace ChainRun

/-- Makes a chain. Layers that are given one by one do not have to fit. -/
def makeChain (k : Catalogue Implementation) (o : ChainOptions) :
    ChainSource → Except TransportError (Chain Implementation)
  | .scheme text => Chain.ofScheme k text o
  | .names names => Chain.ofNames k names o
  | .layers layers => do
      let layers ← layers.mapM fun l =>
        match Layer.resolve? k o.enableSolutions l.1 l.2 with
        | some layer => .ok layer
        | none => .error (.schemeNotSupported l.1)
      return ⟨layers, o.defaults⟩

def operate (s : ChainRun) (op : Net ChainAnswer) : ChainAnswer × List LogEntry × ChainRun :=
  let (r, log, n) := withLog op s.network
  (match r with
    | .ok a => a
    | .error e => .failed e, log, { s with network := n })

def change (s : ChainRun) (c : Category) (name : String)
    (f : Catalogue Implementation → Catalogue Implementation) :
    ChainAnswer × List LogEntry × ChainRun :=
  (.changed (s.workshop.catalogue.find? c name).isSome, [],
    { s with workshop := { s.workshop with catalogue := f s.workshop.catalogue } })

def step (s : ChainRun) : ChainStep → ChainAnswer × List LogEntry × ChainRun
  | .register c name => s.change c name fun k => k.register c name (.recorded name)
  | .unregister c name => s.change c name fun k => k.unregister c name
  | .layers => (onChain fun _ chain => .layers chain.layers, [], s)
  | .hints =>
      (onChain fun _ chain => .hints (chain.layers.map fun l =>
        (l.sectionName, l.implementation.hints l.category)), [], s)
  | .defaults => (onChain fun _ chain => .defaults chain.defaults, [], s)
  | .construct side address p times =>
      match s.chain? with
      | none => (.absent, [], s)
      | some (kind, chain) => s.operate do
          let r ← Network.construct s.workshop chain kind side address p
          let common := if kind = .generic then some p.common else none
          .report <$> tryResult side r common times
  | .create side scheme address p times => s.operate do
      let chain ← Network.ofExcept (Chain.ofScheme s.workshop.catalogue scheme .standard)
      let r ← Network.construct s.workshop chain .muxed side address p
      .report <$> tryResult side r none times
  | .dialUri uri => s.operate do
      let socket ← Network.dialUri Uri.read s.workshop uri
      let remote := (← get).remoteAddress socket
      modify fun n => settle n []
      return .address remote
  | .listenUri uri => s.operate do
      let listener ← Network.listenUri Uri.read s.workshop uri
      let address := listener.address (← get)
      modify fun n => settle n []
      return .address address
where
  onChain (f : ChainKind → Chain Implementation → ChainAnswer) : ChainAnswer :=
    match s.chain? with
    | some (kind, chain) => f kind chain
    | none => .absent

def run (s : ChainRun) : List ChainStep → List (ChainAnswer × List LogEntry)
  | [] => []
  | step :: steps =>
      let (answer, log, s) := s.step step
      (answer, log) :: s.run steps

end ChainRun

structure CastRun where
  workshop : Workshop
  names : DefaultNames
  side : Side
  available : Shape
  need : ChainKind
  address : String
  parameters : Parameters
  times : Nat

namespace CastRun

def baseCategory? : Shape → Option Category
  | .address => none
  | .packet => some .packetConn
  | .stream => some .streamConn
  | .muxed => some .addrSolution

def base (c : CastRun) : Except TransportError (Representation Implementation) :=
  match baseCategory? c.available with
  | none => .ok (.address c.address)
  | some category =>
      let i := Implementation.recorded "base"
      match refusals c.workshop.plan ⟨c.side, category, i, some c.address, c.parameters, none⟩ with
      | some e => .error e
      | none => .ok (.ofRecipe category (.bound category i c.address c.parameters))

/-- Converts what is available, and tries the result. -/
def run (c : CastRun) (n : Network) : Except TransportError TrialReport × List LogEntry :=
  let (r, log, _) := withLog (do
    let input ← Network.ofExcept c.base
    let site : BuildSite Implementation :=
      ⟨c.side, ⟨c.workshop.catalogue, c.names⟩, c.parameters, refusals c.workshop.plan⟩
    let r ← Network.carryOut (Chain.finish site c.need input)
    tryResult c.side r none c.times) n
  (r, log)

end CastRun

end TransportStack.Scenario
