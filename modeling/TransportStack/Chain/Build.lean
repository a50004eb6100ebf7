import TransportStack.Chain.Defaults
import TransportStack.Chain.Recipe

/-!
The steps that a build takes. A build keeps a record of its steps also when it fails, so that one
can tell what was asked of which implementation, and in which order.
-/

namespace TransportStack

structure Call (ι : Type) where
  side : Side
  category : Category
  implementation : ι
  /-- The address; only a transport gets one. -/
  address : Option String
  parameters : Parameters
  /-- The producer beneath; a transport gets none. -/
  input : Option (Recipe ι)

inductive BuildStep (ι : Type)
  | lookup (slot : DefaultSlot)
  | demultiplex (parameters : Parameters)
  | construct (call : Call ι)

structure Build (ι : Type) (α : Type) where
  steps : List (BuildStep ι)
  result : Except TransportError α

namespace Build

variable {ι α β : Type}

def pure (a : α) : Build ι α := ⟨[], .ok a⟩

def fail (e : TransportError) : Build ι α := ⟨[], .error e⟩

/-- One build after another; a failure ends both. -/
def bind (b : Build ι α) (f : α → Build ι β) : Build ι β :=
  match b.result with
  | .ok a => ⟨b.steps ++ (f a).steps, (f a).result⟩
  | .error e => ⟨b.steps, .error e⟩

instance : Monad (Build ι) where
  pure := pure
  bind := bind

def step (s : BuildStep ι) (a : α) : Build ι α := ⟨[s], .ok a⟩

def attempt (s : BuildStep ι) (r : Except TransportError α) : Build ι α := ⟨[s], r⟩

def calls (b : Build ι α) : List (Call ι) :=
  b.steps.filterMap fun s => match s with
    | .construct c => some c
    | _ => none

end Build

/-- What a build depends on: the side, the defaults, the common parameters that layers get which
are not named in the scheme, and which calls are refused. -/
structure BuildSite (ι : Type) where
  side : Side
  defaults : Defaults ι
  common : Parameters
  refuse : Call ι → Option TransportError

namespace BuildSite

variable {ι : Type}

/-- Makes a call, of which a recipe comes unless it is refused. -/
def ask (s : BuildSite ι) (call : Call ι) (made : Recipe ι) : Build ι (Recipe ι) :=
  .attempt (.construct call) (match s.refuse call with
    | some e => .error e
    | none => .ok made)

def default (s : BuildSite ι) (slot : DefaultSlot) : Build ι ι :=
  .attempt (.lookup slot) (s.defaults.find slot)

def demux (s : BuildSite ι) (input : Recipe ι) : Build ι (Recipe ι) :=
  .step (.demultiplex s.common) (.demux s.common input)

def toAddress : Representation ι → Build ι String
  | .address a => pure a
  | r => .fail (.invalidChainingResult .address r.shape)

end BuildSite

end TransportStack
