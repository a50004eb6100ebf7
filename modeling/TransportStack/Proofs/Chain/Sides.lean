import TransportStack.Chain

/-!
One table for both sides of a chain. Here the side is a parameter of each conversion and of each
layer; dialing and listening, as they are written out, are the table at their sides. What does not
depend on the side is proved of the table.
-/

namespace TransportStack

namespace BuildSite

variable {ι : Type}

def bound (s : BuildSite ι) (c : Category) (i : ι) (address : String) (p : Parameters) :
    Build ι (Recipe ι) :=
  s.ask ⟨s.side, c, i, some address, p, none⟩ (.bound c i address p)

def onTop (s : BuildSite ι) (c : Category) (i : ι) (p : Parameters) (input : Recipe ι) :
    Build ι (Recipe ι) :=
  s.ask ⟨s.side, c, i, none, p, some input⟩ (.onTop c i p input)

def defaultBound (s : BuildSite ι) (slot : DefaultSlot) (address : String) :
    Build ι (Recipe ι) := do
  let i ← s.default slot
  s.bound slot.category i address s.common

def defaultOnTop (s : BuildSite ι) (slot : DefaultSlot) (input : Build ι (Recipe ι)) :
    Build ι (Recipe ι) := do
  let i ← s.default slot
  let r ← input
  s.onTop slot.category i s.common r

def toPacket (s : BuildSite ι) : Representation ι → Build ι (Recipe ι)
  | .packet r => pure r
  | .stream r => s.defaultOnTop .packetAdapter (pure r)
  | .muxed r => s.defaultOnTop .packetAdapter (s.demux r)
  | .address a => s.defaultBound .packetConn a

def toStream (s : BuildSite ι) : Representation ι → Build ι (Recipe ι)
  | .stream r => pure r
  | .muxed r => s.demux r
  | .packet r => s.defaultOnTop .streamAdapter (pure r)
  | .address a => s.defaultBound .streamConn a

def toMuxed (s : BuildSite ι) : Representation ι → Build ι (Recipe ι)
  | .muxed r => pure r
  | .stream r => s.defaultOnTop .streamSolution (pure r)
  | .packet r => s.defaultOnTop .packetSolution (pure r)
  | .address _ => .fail (.invalidChainingResult .muxed .address)

/-- A layer is put on top of what it takes, and comes to what its category gives. -/
def apply (s : BuildSite ι) (c : Category) (i : ι) (p : Parameters) (input : Representation ι) :
    Build ι (Representation ι) :=
  match c.takes with
  | .address => do
      let a ← toAddress input
      let r ← s.bound c i a p
      pure (.ofRecipe c r)
  | .packet => do
      let r ← s.toPacket input
      let r ← s.onTop c i p r
      pure (.ofRecipe c r)
  | .stream | .muxed => do
      let r ← s.toStream input
      let r ← s.onTop c i p r
      pure (.ofRecipe c r)

section

variable (d : Defaults ι) (common : Parameters) (refuse : Call ι → Option TransportError)
  (c : Category) (i : ι) (p : Parameters) (r : Representation ι)

theorem packetDialer_eq :
    packetDialer ⟨.dial, d, common, refuse⟩ r = toPacket ⟨.dial, d, common, refuse⟩ r := by
  cases r <;> rfl

theorem streamDialer_eq :
    streamDialer ⟨.dial, d, common, refuse⟩ r = toStream ⟨.dial, d, common, refuse⟩ r := by
  cases r <;> rfl

theorem muxedDialer_eq :
    muxedDialer ⟨.dial, d, common, refuse⟩ r = toMuxed ⟨.dial, d, common, refuse⟩ r := by
  cases r <;> rfl

theorem packetListener_eq :
    packetListener ⟨.listen, d, common, refuse⟩ r = toPacket ⟨.listen, d, common, refuse⟩ r := by
  cases r <;> rfl

theorem streamListener_eq :
    streamListener ⟨.listen, d, common, refuse⟩ r = toStream ⟨.listen, d, common, refuse⟩ r := by
  cases r <;> rfl

theorem muxedListener_eq :
    muxedListener ⟨.listen, d, common, refuse⟩ r = toMuxed ⟨.listen, d, common, refuse⟩ r := by
  cases r <;> rfl

theorem dialLayer_eq :
    dialLayer ⟨.dial, d, common, refuse⟩ c i p r = apply ⟨.dial, d, common, refuse⟩ c i p r := by
  cases c <;> simp only [dialLayer, packetDialer_eq, streamDialer_eq] <;> rfl

theorem listenLayer_eq :
    listenLayer ⟨.listen, d, common, refuse⟩ c i p r =
      apply ⟨.listen, d, common, refuse⟩ c i p r := by
  cases c <;> simp only [listenLayer, packetListener_eq, streamListener_eq] <;> rfl

end

end BuildSite

namespace Chain

variable {ι : Type} (s : BuildSite ι)

@[simp] theorem applyLayers_nil (p : Parameters) (r : Representation ι) :
    applyLayers s p [] r = pure r := by
  obtain ⟨side, _⟩ := s
  cases side <;> rfl

theorem applyLayers_cons (p : Parameters) (l : Layer ι) (ls : List (Layer ι))
    (r : Representation ι) :
    applyLayers s p (l :: ls) r =
      s.apply l.category l.implementation (p.seenBy l.sectionName) r >>= fun r =>
        applyLayers s p ls r := by
  obtain ⟨side, d, common, refuse⟩ := s
  cases side with
  | dial =>
      rw [← BuildSite.dialLayer_eq]
      rfl
  | listen =>
      rw [← BuildSite.listenLayer_eq]
      rfl

@[simp] theorem finish_generic (r : Representation ι) : finish s .generic r = pure r := by
  obtain ⟨side, _⟩ := s
  cases side <;> rfl

theorem finish_packet (r : Representation ι) :
    finish s .packet r = do return .packet (← s.toPacket r) := by
  obtain ⟨side, d, common, refuse⟩ := s
  cases side with
  | dial => rw [← BuildSite.packetDialer_eq]; rfl
  | listen => rw [← BuildSite.packetListener_eq]; rfl

theorem finish_stream (r : Representation ι) :
    finish s .stream r = do return .stream (← s.toStream r) := by
  obtain ⟨side, d, common, refuse⟩ := s
  cases side with
  | dial => rw [← BuildSite.streamDialer_eq]; rfl
  | listen => rw [← BuildSite.streamListener_eq]; rfl

theorem finish_muxed (r : Representation ι) :
    finish s .muxed r = do return .muxed (← s.toMuxed r) := by
  obtain ⟨side, d, common, refuse⟩ := s
  cases side with
  | dial => rw [← BuildSite.muxedDialer_eq]; rfl
  | listen => rw [← BuildSite.muxedListener_eq]; rfl

end Chain

end TransportStack
