import TransportStack.Parameters.Values

/-!
Descriptions of the parameters that an implementation reads, and the settings that all chains
share.
-/

namespace TransportStack

inductive ParameterKind
  | integer | bool | duration | durationOrFalse | string | multiString
  deriving DecidableEq, Repr

def ParameterKind.name : ParameterKind → String
  | integer => "Integer"
  | bool => "Bool"
  | duration => "Duration"
  | durationOrFalse => "DurationOrFalse"
  | string => "String"
  | multiString => "MultiString"

structure ParameterHint where
  key : String
  description : String
  kind : ParameterKind
  fallback : String
  deriving DecidableEq, Repr

structure CommonSettings where
  dialTimeout : Duration
  keepalive : Option Duration
  peerProbe : Option Duration
  deriving DecidableEq, Repr

namespace CommonSettings

def timeoutKey : String := "timeout"

/-- The key of the keepalive period, which a word for false turns off. -/
def keepaliveKey : String := "keepalive"

/-- The key of the interval at which a dead peer is looked for. -/
def peerProbeKey : String := "dpd"

def standard : CommonSettings :=
  ⟨.ofSeconds 5, some (.ofSeconds 15), none⟩

def ofParameters (p : Parameters) : CommonSettings where
  dialTimeout := p.duration timeoutKey (.ofSeconds 5)
  keepalive := p.durationOrDisabled keepaliveKey (.ofSeconds 15)
  peerProbe := (p.get? peerProbeKey).bind Duration.read?

def hints : List ParameterHint :=
  [⟨timeoutKey, "dial timeout", .duration, "5s"⟩,
    ⟨keepaliveKey, "keepalive period, or false to disable", .durationOrFalse, "15s"⟩,
    ⟨peerProbeKey, "dead peer detection interval", .duration, ""⟩]

end CommonSettings

end TransportStack
