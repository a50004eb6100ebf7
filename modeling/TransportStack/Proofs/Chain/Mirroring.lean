import TransportStack.Proofs.Chain.Plan

/-!
The two sides of a chain. Listening is dialing in a mirror: as long as the implementations that are
asked come to the same on both sides, the same ones are asked with the same addresses and
parameters, the same defaults are put in, and the demultiplexers stand at the same places. The sides
are written out apart, so each conversion, each category of layers, the pass through the layers and
the end of a chain of the one side is compared with its counterpart on the other.
-/

namespace TransportStack

variable {ι α β : Type}

/-- The same call on a given side. -/
def Call.on (side : Side) (c : Call ι) : Call ι := { c with side := side }

def BuildStep.on (side : Side) : BuildStep ι → BuildStep ι
  | lookup slot => .lookup slot
  | demultiplex p => .demultiplex p
  | construct c => .construct (c.on side)

namespace Build

/-- The same build with its calls on a given side. -/
def on (side : Side) (b : Build ι α) : Build ι α := ⟨b.steps.map (BuildStep.on side), b.result⟩

/-- Each call of a build comes to the same when it is made on a given side. -/
def Agrees (refuse : Call ι → Option TransportError) (side : Side) (b : Build ι α) : Prop :=
  ∀ call ∈ b.calls, refuse (call.on side) = refuse call

/-- The second build is the first one on a given side, if the calls of the first one agree. -/
def Mirrors (refuse : Call ι → Option TransportError) (side : Side) (b b' : Build ι α) : Prop :=
  b.Agrees refuse side → b' = b.on side

theorem on_on (side side' : Side) (b : Build ι α) : (b.on side).on side' = b.on side' := by
  simp only [on, List.map_map]
  congr 2
  funext s
  cases s <;> rfl

theorem on_eq_self {side : Side} {b : Build ι α} (own : ∀ call ∈ b.calls, call.side = side) :
    b.on side = b := by
  have same : b.steps.map (BuildStep.on side) = b.steps.map id := by
    refine List.map_congr_left fun s hs => ?_
    cases s with
    | lookup slot => rfl
    | demultiplex p => rfl
    | construct c =>
        rw [← own c (mem_calls_iff.2 hs)]
        rfl
  rw [on, same, List.map_id]

variable {refuse : Call ι → Option TransportError} {side : Side}

theorem mirrors_pure (a : α) : Mirrors refuse side (Pure.pure a : Build ι α) (Pure.pure a) :=
  fun _ => rfl

theorem mirrors_fail (e : TransportError) : Mirrors refuse side (fail e : Build ι α) (fail e) :=
  fun _ => rfl

theorem Mirrors.bind {b b' : Build ι α} {f f' : α → Build ι β} (hb : Mirrors refuse side b b')
    (hf : ∀ a, Mirrors refuse side (f a) (f' a)) :
    Mirrors refuse side (b >>= f) (b' >>= f') := by
  intro agrees
  cases hr : b.result with
  | error e =>
      rw [Agrees, calls_bind_of_error hr] at agrees
      have mirrored := hb agrees
      have hr' : b'.result = .error e := by rw [mirrored, ← hr, on]
      rw [bind_of_error hr, bind_of_error hr', mirrored]
      rfl
  | ok a =>
      rw [Agrees, calls_bind_of_ok hr] at agrees
      have mirrored := hb fun call hc => agrees call (List.mem_append_left _ hc)
      have onward := hf a fun call hc => agrees call (List.mem_append_right _ hc)
      have hr' : b'.result = .ok a := by rw [mirrored, ← hr, on]
      rw [bind_of_ok hr, bind_of_ok hr', mirrored, onward]
      simp only [on, List.map_append]

theorem Mirrors.map {b b' : Build ι α} (h : Mirrors refuse side b b') (f : α → β) :
    Mirrors refuse side (b >>= fun a => Pure.pure (f a)) (b' >>= fun a => Pure.pure (f a)) :=
  h.bind fun a => mirrors_pure (f a)

end Build

namespace BuildSite

variable (s : BuildSite ι)

/-- The same site on the listening side. -/
def mirror : BuildSite ι := { s with side := .listen }

abbrev Mirrors {α : Type} (b b' : Build ι α) : Prop := Build.Mirrors s.refuse .listen b b'

theorem mirrors_ask (call : Call ι) (made : Recipe ι) :
    s.Mirrors (s.ask call made) (s.mirror.ask (call.on .listen) made) := by
  intro agrees
  have same : s.refuse (call.on .listen) = s.refuse call :=
    agrees call (List.mem_singleton_self _)
  simp only [ask, mirror, same]
  rfl

theorem mirrors_bound (c : Category) (i : ι) (address : String) (p : Parameters) :
    s.Mirrors (s.dialBound c i address p) (s.mirror.listenBound c i address p) :=
  s.mirrors_ask ⟨.dial, c, i, some address, p, none⟩ _

theorem mirrors_onTop (c : Category) (i : ι) (p : Parameters) (input : Recipe ι) :
    s.Mirrors (s.dialOnTop c i p input) (s.mirror.listenOnTop c i p input) :=
  s.mirrors_ask ⟨.dial, c, i, none, p, some input⟩ _

theorem mirrors_default (slot : DefaultSlot) :
    s.Mirrors (s.default slot) (s.mirror.default slot) :=
  fun _ => rfl

theorem mirrors_demux (input : Recipe ι) : s.Mirrors (s.demux input) (s.mirror.demux input) :=
  fun _ => rfl

theorem mirrors_packet (r : Representation ι) :
    s.Mirrors (s.packetDialer r) (s.mirror.packetListener r) := by
  cases r with
  | packet r => exact Build.mirrors_pure r
  | stream r => exact (s.mirrors_default .packetAdapter).bind fun i => s.mirrors_onTop _ i _ r
  | muxed r =>
      exact (s.mirrors_default .packetAdapter).bind fun i =>
        (s.mirrors_demux r).bind fun r => s.mirrors_onTop _ i _ r
  | address a => exact (s.mirrors_default .packetConn).bind fun i => s.mirrors_bound _ i a _

theorem mirrors_stream (r : Representation ι) :
    s.Mirrors (s.streamDialer r) (s.mirror.streamListener r) := by
  cases r with
  | stream r => exact Build.mirrors_pure r
  | muxed r => exact s.mirrors_demux r
  | packet r => exact (s.mirrors_default .streamAdapter).bind fun i => s.mirrors_onTop _ i _ r
  | address a => exact (s.mirrors_default .streamConn).bind fun i => s.mirrors_bound _ i a _

theorem mirrors_muxed (r : Representation ι) :
    s.Mirrors (s.muxedDialer r) (s.mirror.muxedListener r) := by
  cases r with
  | muxed r => exact Build.mirrors_pure r
  | stream r => exact (s.mirrors_default .streamSolution).bind fun i => s.mirrors_onTop _ i _ r
  | packet r => exact (s.mirrors_default .packetSolution).bind fun i => s.mirrors_onTop _ i _ r
  | address a => exact Build.mirrors_fail _

theorem mirrors_toAddress (r : Representation ι) :
    s.Mirrors (toAddress r) (toAddress r) := by
  cases r with
  | address a => exact Build.mirrors_pure a
  | packet r | stream r | muxed r => exact Build.mirrors_fail _

theorem mirrors_layer (c : Category) (i : ι) (p : Parameters) (r : Representation ι) :
    s.Mirrors (s.dialLayer c i p r) (s.mirror.listenLayer c i p r) := by
  cases c with
  | packetAdapter | streamObfuscator | streamSolution =>
      exact (s.mirrors_stream r).bind fun r => (s.mirrors_onTop _ i p r).map _
  | streamAdapter | packetObfuscator | packetSolution =>
      exact (s.mirrors_packet r).bind fun r => (s.mirrors_onTop _ i p r).map _
  | streamConn | packetConn | addrSolution =>
      exact (s.mirrors_toAddress r).bind fun a => (s.mirrors_bound _ i a p).map _

end BuildSite

namespace Chain

variable (s : BuildSite ι)

theorem mirrors_layers (p : Parameters) (ls : List (Layer ι)) (r : Representation ι) :
    s.Mirrors (dialLayers s p ls r) (listenLayers s.mirror p ls r) := by
  induction ls generalizing r with
  | nil => exact Build.mirrors_pure r
  | cons l ls ih =>
      exact (s.mirrors_layer l.category l.implementation _ r).bind fun r => ih r

theorem mirrors_finish (kind : ChainKind) (r : Representation ι) :
    s.Mirrors (finishDialer s kind r) (finishListener s.mirror kind r) := by
  cases kind with
  | generic => exact Build.mirrors_pure r
  | packet => exact (s.mirrors_packet r).map _
  | stream => exact (s.mirrors_stream r).map _
  | muxed => exact (s.mirrors_muxed r).map _

/-- All calls of a build are made on its side. -/
theorem side_of_mem_calls (c : Chain ι) (kind : ChainKind) (k : Catalogue ι)
    (refuse : Call ι → Option TransportError) (side : Side) (address : String) (p : Parameters) :
    ∀ call ∈ (c.buildFor kind k refuse side address p).calls, call.side = side := by
  intro call made
  obtain ⟨i, place⟩ := List.mem_iff_getElem?.1 (Build.mem_calls_iff.1 made)
  obtain ⟨item, -, meets⟩ := (c.keeps_buildFor p kind k refuse side address).meets_of_getElem? place
  cases meets with
  | default _ _ own | layer _ _ own => exact own

/-- Where the calls that dialing makes come to the same on the listening side, listening takes the
steps of dialing one by one, each call on the other side, and ends in the same recipe or the same
failure. This holds of all layers, checked or not, and for each kind of producer. -/
theorem listening_mirrors_dialing (c : Chain ι) (kind : ChainKind) (k : Catalogue ι)
    (refuse : Call ι → Option TransportError) (address : String) (p : Parameters)
    (together : ∀ call ∈ (c.buildFor kind k refuse .dial address p).calls,
      refuse (call.on .listen) = refuse call) :
    let dialed := c.buildFor kind k refuse .dial address p
    let listened := c.buildFor kind k refuse .listen address p
    listened.steps = dialed.steps.map (BuildStep.on .listen) ∧
      dialed.steps = listened.steps.map (BuildStep.on .dial) ∧
      listened.result = dialed.result ∧
      (∀ call ∈ dialed.calls, call.side = .dial) ∧
        ∀ call ∈ listened.calls, call.side = .listen := by
  intro dialed listened
  let s := c.site k refuse .dial p
  have dialing := c.side_of_mem_calls kind k refuse .dial address p
  have mirrored : listened = dialed.on .listen :=
    ((mirrors_layers s p c.layers (.address address)).bind
      fun r => mirrors_finish s kind r) together
  have back : dialed = listened.on .dial := by
    rw [mirrored, Build.on_on, Build.on_eq_self dialing]
  refine ⟨congrArg Build.steps mirrored, congrArg Build.steps back, ?_, dialing,
    c.side_of_mem_calls kind k refuse .listen address p⟩
  rw [mirrored]
  rfl

/-- An obfuscator of streams on a multiplexer, for packets. The adapter on top, which refuses both
sides, is asked after a demultiplexer was put in. -/
theorem listening_mirrors_dialing_wsmux_tls :
    let k := ((Catalogue.new.register .addrSolution "wsmux" 0).register .streamObfuscator "tls"
      1).register .packetAdapter "spos" 2
    let c : Chain Nat :=
      ⟨[⟨"wsmux", .addrSolution, 0, 0⟩, ⟨"tls", .streamObfuscator, 1, 0⟩], .standard⟩
    let refuse : Call Nat → Option TransportError :=
      fun call => if call.category = .packetAdapter then some .closed else none
    let dialed := c.buildFor .packet k refuse .dial "here" .empty
    let listened := c.buildFor .packet k refuse .listen "here" .empty
    (∀ call ∈ dialed.calls, refuse (call.on .listen) = refuse call) ∧
      listened.steps = dialed.steps.map (BuildStep.on .listen) ∧
      listened.calls.map (fun call => (call.side, call.implementation)) =
        [(.listen, 0), (.listen, 1), (.listen, 2)] ∧
      listened.steps.length = 5 ∧ ∃ e, listened.result = .error e ∧ dialed.result = .error e := by
  intro k c refuse dialed listened
  have together : ∀ call ∈ dialed.calls, refuse (call.on .listen) = refuse call := fun _ _ => rfl
  obtain ⟨steps, -, result, -⟩ :=
    c.listening_mirrors_dialing .packet k refuse "here" .empty together
  exact ⟨together, steps, rfl, rfl, .closed, rfl, result.symm.trans rfl⟩

end Chain

end TransportStack
