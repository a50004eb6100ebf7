import TransportStack.Duration
import TransportStack.Layer.Shape

/-!
The causes of failure, and their messages.
-/

namespace TransportStack

inductive IoKind
  | notFound | permissionDenied | connectionRefused | connectionReset | connectionAborted
  | notConnected | addrInUse | addrNotAvailable | brokenPipe | alreadyExists | wouldBlock
  | invalidInput | invalidData | timedOut | writeZero | interrupted | unsupported | unexpectedEof
  | outOfMemory | other
  deriving DecidableEq, Repr

namespace IoKind

def all : List IoKind :=
  [notFound, permissionDenied, connectionRefused, connectionReset, connectionAborted,
    notConnected, addrInUse, addrNotAvailable, brokenPipe, alreadyExists, wouldBlock,
    invalidInput, invalidData, timedOut, writeZero, interrupted, unsupported, unexpectedEof,
    outOfMemory, other]

def name : IoKind → String
  | notFound => "NotFound"
  | permissionDenied => "PermissionDenied"
  | connectionRefused => "ConnectionRefused"
  | connectionReset => "ConnectionReset"
  | connectionAborted => "ConnectionAborted"
  | notConnected => "NotConnected"
  | addrInUse => "AddrInUse"
  | addrNotAvailable => "AddrNotAvailable"
  | brokenPipe => "BrokenPipe"
  | alreadyExists => "AlreadyExists"
  | wouldBlock => "WouldBlock"
  | invalidInput => "InvalidInput"
  | invalidData => "InvalidData"
  | timedOut => "TimedOut"
  | writeZero => "WriteZero"
  | interrupted => "Interrupted"
  | unsupported => "Unsupported"
  | unexpectedEof => "UnexpectedEof"
  | outOfMemory => "OutOfMemory"
  | other => "Other"

def text : IoKind → String
  | notFound => "entity not found"
  | permissionDenied => "permission denied"
  | connectionRefused => "connection refused"
  | connectionReset => "connection reset"
  | connectionAborted => "connection aborted"
  | notConnected => "not connected"
  | addrInUse => "address in use"
  | addrNotAvailable => "address not available"
  | brokenPipe => "broken pipe"
  | alreadyExists => "entity already exists"
  | wouldBlock => "operation would block"
  | invalidInput => "invalid input parameter"
  | invalidData => "invalid data"
  | timedOut => "timed out"
  | writeZero => "write zero"
  | interrupted => "operation interrupted"
  | unsupported => "unsupported"
  | unexpectedEof => "unexpected end of file"
  | outOfMemory => "out of memory"
  | other => "other error"

end IoKind

/-- A failure of input or output, with a text of its own or that of its kind. -/
structure IoError where
  kind : IoKind
  text? : Option String
  deriving DecidableEq, Repr

def IoError.ofKind (kind : IoKind) : IoError := ⟨kind, none⟩

def IoError.message (e : IoError) : String :=
  e.text?.getD e.kind.text

inductive UriError
  | relative | emptyHost | invalidPort | invalidDomainCharacter | invalidIpv6 | invalidIpv4
  | invalidDomainName
  deriving DecidableEq, Repr

def UriError.message : UriError → String
  | relative => "relative URL without a base"
  | emptyHost => "empty host"
  | invalidPort => "invalid port number"
  | invalidDomainCharacter => "invalid domain character"
  | invalidIpv6 => "invalid IPv6 address"
  | invalidIpv4 => "invalid IPv4 address"
  | invalidDomainName => "invalid international domain name"

inductive TransportError
  | schemeNotSupported (name : String)
  /-- Nothing leads from what there is to what is needed. -/
  | invalidChainingResult (need available : Shape)
  | incompatibleLayers (above below : String)
  | redialNotSupported
  | operationNotSupported (operation : String)
  | missingPart (part : String)
  | closed
  | timeout (limit : Duration)
  | invalidAddress (text : String)
  | invalidUri (fault : UriError)
  | io (error : IoError)
  deriving DecidableEq, Repr

namespace TransportError

def message : TransportError → String
  | schemeNotSupported name => "scheme not supported: " ++ name
  | invalidChainingResult need available =>
      "invalid chaining result: need " ++ need.text ++ ", have " ++ available.text
  | incompatibleLayers above below =>
      "incompatible chain of layers: " ++ above ++ " cannot sit on top of " ++ below
  | redialNotSupported => "redial not supported"
  | operationNotSupported operation => "operation not supported: " ++ operation
  | missingPart part => "missing part: " ++ part
  | closed => "use of closed network connection"
  | timeout limit => "operation timed out after " ++ limit.render
  | invalidAddress text => "invalid address: " ++ text
  | invalidUri fault => "invalid uri: " ++ fault.message
  | io error => "I/O error: " ++ error.message

def name : TransportError → String
  | schemeNotSupported _ => "SchemeNotSupported"
  | invalidChainingResult .. => "InvalidChainingResult"
  | incompatibleLayers .. => "IncompatibleLayers"
  | redialNotSupported => "RedialNotSupported"
  | operationNotSupported _ => "OpNotSupported"
  | missingPart _ => "MissingPart"
  | closed => "Closed"
  | timeout _ => "Timeout"
  | invalidAddress _ => "InvalidAddress"
  | invalidUri _ => "InvalidUri"
  | io error => "Io." ++ error.kind.name

/-- Whether a cause lies in the configuration, so that nothing has been dialed or bound. -/
def isConfiguration : TransportError → Bool
  | schemeNotSupported _ | invalidChainingResult .. | incompatibleLayers .. | missingPart _
  | invalidUri _ => true
  | _ => false

def isClosed : TransportError → Bool
  | closed => true
  | _ => false

/-- The cause as a failure of input or output, which keeps the message. -/
def toIo : TransportError → IoError
  | io error => error
  | closed => ⟨.notConnected, some closed.message⟩
  | timeout limit => ⟨.timedOut, some (timeout limit).message⟩
  | operationNotSupported operation =>
      ⟨.unsupported, some (operationNotSupported operation).message⟩
  | redialNotSupported => ⟨.unsupported, some redialNotSupported.message⟩
  | e => ⟨.other, some e.message⟩

end TransportError

end TransportStack
