import TransportStack.Proofs.Chain.Steps

/-!
What a conversion puts in. One table says which default leads from what there is to what is needed;
the conversions of a build, and so the layers of a chain, look up exactly the defaults of the table.
The table also gives the implementations that a chain asks if nothing fails.
-/

namespace TransportStack

/-- The default that leads from what there is to what is needed. Nothing leads to an address, and a
demultiplexer alone leads from multiplexed connections to streams. -/
def Shape.bridge? (available need : Shape) : Option DefaultSlot :=
  match need, available with
  | .packet, .stream | .packet, .muxed => some .packetAdapter
  | .packet, .address => some .packetConn
  | .stream, .packet => some .streamAdapter
  | .stream, .address => some .streamConn
  | .muxed, .stream => some .streamSolution
  | .muxed, .packet => some .packetSolution
  | .packet, .packet | .stream, .stream | .stream, .muxed | .muxed, .muxed | .muxed, .address
  | .address, _ => none

def ChainKind.shape? : ChainKind → Option Shape
  | generic => none
  | packet => some .packet
  | stream => some .stream
  | muxed => some .muxed

def ChainKind.bridge? (kind : ChainKind) (available : Shape) : Option DefaultSlot :=
  kind.shape?.bind available.bridge?

theorem Category.takes_ne_muxed (c : Category) : c.takes ≠ .muxed := by
  cases c <;> decide

theorem Category.gives_ne_address (c : Category) : c.gives ≠ .address := by
  cases c <;> decide

theorem Representation.shape_ofRecipe {ι : Type} (c : Category) (r : Recipe ι) :
    (ofRecipe c r).shape = c.gives := by
  have h := c.gives_ne_address
  unfold ofRecipe
  cases hc : c.gives with
  | address => exact absurd hc h
  | packet | stream | muxed => rfl

abbrev Part (ι : Type) := Category × ι × Parameters

def Call.part {ι : Type} (c : Call ι) : Part ι := (c.category, c.implementation, c.parameters)

namespace Build

variable {ι α β : Type}

def parts (b : Build ι α) : List (Part ι) := b.calls.map Call.part

/-- The parts asked for are those of a plan, up to where the build fails. -/
structure Follows (b : Build ι α) (plan : List (Part ι)) : Prop where
  isPrefix : b.parts <+: plan
  complete : ∀ a, b.result = .ok a → b.parts = plan

/-- The build does not fail for want of something that leads to what is needed. -/
def Fits (b : Build ι α) : Prop :=
  ∀ need available, b.result ≠ .error (.invalidChainingResult need available)

theorem follows_pure (a : α) : (Pure.pure a : Build ι α).Follows [] :=
  ⟨List.nil_prefix, fun _ _ => rfl⟩

theorem follows_fail (e : TransportError) (plan : List (Part ι)) :
    (fail e : Build ι α).Follows plan :=
  ⟨List.nil_prefix, fun _ h => nomatch h⟩

theorem Follows.bind {b : Build ι α} {plan rest : List (Part ι)} (hb : b.Follows plan)
    {f : α → Build ι β} (hf : ∀ a, b.result = .ok a → (f a).Follows rest) :
    (b >>= f).Follows (plan ++ rest) := by
  cases hr : b.result with
  | error e =>
      have hp : (b >>= f).parts = b.parts := by simp only [parts, calls_bind_of_error hr]
      refine ⟨?_, ?_⟩
      · rw [hp]
        exact hb.isPrefix.trans (List.prefix_append _ _)
      · intro c hc
        rw [bind_of_error hr] at hc
        cases hc
  | ok a =>
      have hp : (b >>= f).parts = plan ++ (f a).parts := by
        simp only [parts, calls_bind_of_ok hr, List.map_append]
        rw [← hb.complete a hr]
        rfl
      refine ⟨?_, ?_⟩
      · rw [hp]
        exact (List.prefix_append_right_inj plan).2 (hf a hr).isPrefix
      · intro c hc
        rw [bind_of_ok hr] at hc
        rw [hp, (hf a hr).complete c hc]

theorem fits_pure (a : α) : (Pure.pure a : Build ι α).Fits := fun _ _ h => nomatch h

theorem Fits.bind {b : Build ι α} (hb : b.Fits) {f : α → Build ι β}
    (hf : ∀ a, b.result = .ok a → (f a).Fits) : (b >>= f).Fits := by
  intro need available h
  obtain h | ⟨a, ha, h⟩ := bind_result_error h
  · exact hb need available h
  · exact hf a ha need available h

end Build

namespace BuildSite

variable {ι : Type} (s : BuildSite ι)

/-- No implementation fails for want of something that leads to what is needed. -/
def Honest : Prop :=
  ∀ c need available, s.refuse c ≠ some (.invalidChainingResult need available)

def defaultParts (slot : DefaultSlot) : List (Part ι) :=
  match s.defaults.find slot with
  | .ok i => [(slot.category, i, s.common)]
  | .error _ => []

@[simp] theorem lookups_bound (c : Category) (i : ι) (a : String) (p : Parameters) :
    (s.bound c i a p).lookups = [] := rfl

@[simp] theorem lookups_onTop (c : Category) (i : ι) (p : Parameters) (r : Recipe ι) :
    (s.onTop c i p r).lookups = [] := rfl

@[simp] theorem lookups_demux (r : Recipe ι) : (s.demux r).lookups = [] := rfl

theorem follows_bound (c : Category) (i : ι) (a : String) (p : Parameters) :
    (s.bound c i a p).Follows [(c, i, p)] :=
  ⟨List.prefix_rfl, fun _ _ => rfl⟩

theorem follows_onTop (c : Category) (i : ι) (p : Parameters) (r : Recipe ι) :
    (s.onTop c i p r).Follows [(c, i, p)] :=
  ⟨List.prefix_rfl, fun _ _ => rfl⟩

theorem follows_demux (r : Recipe ι) : (s.demux r).Follows [] :=
  ⟨List.prefix_rfl, fun _ _ => rfl⟩

theorem follows_default (slot : DefaultSlot) : (s.default slot).Follows [] :=
  ⟨List.prefix_rfl, fun _ _ => rfl⟩

variable {s}

theorem Honest.fits_ask (h : s.Honest) (call : Call ι) (made : Recipe ι) :
    (s.ask call made).Fits := by
  intro need available hr
  simp only [ask, Build.attempt] at hr
  split at hr
  · rename_i e he
    cases hr
    exact h _ _ _ he
  · cases hr

theorem Honest.fits_bound (h : s.Honest) (c : Category) (i : ι) (a : String) (p : Parameters) :
    (s.bound c i a p).Fits :=
  h.fits_ask _ _

theorem Honest.fits_onTop (h : s.Honest) (c : Category) (i : ι) (p : Parameters)
    (r : Recipe ι) : (s.onTop c i p r).Fits :=
  h.fits_ask _ _

variable (s)

theorem fits_demux (r : Recipe ι) : (s.demux r).Fits := fun _ _ h => nomatch h

theorem fits_default (slot : DefaultSlot) : (s.default slot).Fits := by
  intro need available h
  simp only [default, Build.attempt, Defaults.find] at h
  split at h <;> cases h

theorem lookups_defaultBound (slot : DefaultSlot) (a : String) :
    (s.defaultBound slot a).lookups = [slot] :=
  Build.lookups_bind_of_nil fun i _ => s.lookups_bound slot.category i a s.common

theorem lookups_defaultOnTop (slot : DefaultSlot) {input : Build ι (Recipe ι)}
    (h : input.lookups = []) : (s.defaultOnTop slot input).lookups = [slot] := by
  apply Build.lookups_bind_of_nil
  intro i _
  rw [Build.lookups_bind_of_nil fun r _ => s.lookups_onTop slot.category i s.common r, h]

theorem lookups_toPacket (r : Representation ι) :
    (s.toPacket r).lookups = (r.shape.bridge? .packet).toList := by
  cases r with
  | address a => exact s.lookups_defaultBound .packetConn a
  | packet r => rfl
  | stream r => exact s.lookups_defaultOnTop .packetAdapter rfl
  | muxed r => exact s.lookups_defaultOnTop .packetAdapter (s.lookups_demux r)

theorem lookups_toStream (r : Representation ι) :
    (s.toStream r).lookups = (r.shape.bridge? .stream).toList := by
  cases r with
  | address a => exact s.lookups_defaultBound .streamConn a
  | packet r => exact s.lookups_defaultOnTop .streamAdapter rfl
  | stream r => rfl
  | muxed r => exact s.lookups_demux r

theorem lookups_toMuxed (r : Representation ι) :
    (s.toMuxed r).lookups = (r.shape.bridge? .muxed).toList := by
  cases r with
  | address a => rfl
  | packet r => exact s.lookups_defaultOnTop .packetSolution rfl
  | stream r => exact s.lookups_defaultOnTop .streamSolution rfl
  | muxed r => rfl

theorem follows_of_default {α : Type} (slot : DefaultSlot) {f : ι → Build ι α}
    (h : ∀ i, (f i).Follows [(slot.category, i, s.common)]) :
    (s.default slot >>= f).Follows (s.defaultParts slot) := by
  change (s.default slot >>= f).Follows ([] ++ s.defaultParts slot)
  apply (s.follows_default slot).bind
  intro i hi
  have found : s.defaultParts slot = [(slot.category, i, s.common)] := by
    simp only [defaultParts, show s.defaults.find slot = .ok i from hi]
  rw [found]
  exact h i

theorem follows_defaultBound (slot : DefaultSlot) (a : String) :
    (s.defaultBound slot a).Follows (s.defaultParts slot) :=
  s.follows_of_default slot fun i => s.follows_bound slot.category i a s.common

theorem follows_defaultOnTop (slot : DefaultSlot) {input : Build ι (Recipe ι)}
    (h : input.Follows []) : (s.defaultOnTop slot input).Follows (s.defaultParts slot) :=
  s.follows_of_default slot fun i =>
    h.bind fun r _ => s.follows_onTop slot.category i s.common r

def bridgeParts (available need : Shape) : List (Part ι) :=
  match available.bridge? need with
  | some slot => s.defaultParts slot
  | none => []

theorem follows_toPacket (r : Representation ι) :
    (s.toPacket r).Follows (s.bridgeParts r.shape .packet) := by
  cases r with
  | address a => exact s.follows_defaultBound .packetConn a
  | packet r => exact Build.follows_pure r
  | stream r => exact s.follows_defaultOnTop .packetAdapter (Build.follows_pure r)
  | muxed r => exact s.follows_defaultOnTop .packetAdapter (s.follows_demux r)

theorem follows_toStream (r : Representation ι) :
    (s.toStream r).Follows (s.bridgeParts r.shape .stream) := by
  cases r with
  | address a => exact s.follows_defaultBound .streamConn a
  | packet r => exact s.follows_defaultOnTop .streamAdapter (Build.follows_pure r)
  | stream r => exact Build.follows_pure r
  | muxed r => exact s.follows_demux r

variable {s}

theorem Honest.fits_defaultBound (h : s.Honest) (slot : DefaultSlot) (a : String) :
    (s.defaultBound slot a).Fits :=
  (s.fits_default slot).bind fun i _ => h.fits_bound slot.category i a s.common

theorem Honest.fits_defaultOnTop (h : s.Honest) (slot : DefaultSlot)
    {input : Build ι (Recipe ι)} (hi : input.Fits) : (s.defaultOnTop slot input).Fits :=
  (s.fits_default slot).bind fun i _ => hi.bind fun r _ => h.fits_onTop slot.category i s.common r

theorem Honest.fits_toPacket (h : s.Honest) (r : Representation ι) : (s.toPacket r).Fits := by
  cases r with
  | address a => exact h.fits_defaultBound .packetConn a
  | packet r => exact Build.fits_pure r
  | stream r => exact h.fits_defaultOnTop .packetAdapter (Build.fits_pure r)
  | muxed r => exact h.fits_defaultOnTop .packetAdapter (s.fits_demux r)

theorem Honest.fits_toStream (h : s.Honest) (r : Representation ι) : (s.toStream r).Fits := by
  cases r with
  | address a => exact h.fits_defaultBound .streamConn a
  | packet r => exact h.fits_defaultOnTop .streamAdapter (Build.fits_pure r)
  | stream r => exact Build.fits_pure r
  | muxed r => exact s.fits_demux r

theorem Honest.fits_toMuxed (h : s.Honest) {r : Representation ι} (hr : r.shape ≠ .address) :
    (s.toMuxed r).Fits := by
  cases r with
  | address a => exact absurd rfl hr
  | packet r => exact h.fits_defaultOnTop .packetSolution (Build.fits_pure r)
  | stream r => exact h.fits_defaultOnTop .streamSolution (Build.fits_pure r)
  | muxed r => exact Build.fits_pure r

variable (s)

theorem lookups_toAddress (r : Representation ι) : (toAddress r).lookups = [] := by
  cases r <;> rfl

theorem follows_toAddress (r : Representation ι) : (toAddress r).Follows [] := by
  cases r with
  | address a => exact Build.follows_pure a
  | packet r | stream r | muxed r => exact Build.follows_fail _ []

private theorem lookups_keep {b : Build ι (Recipe ι)} (c : Category) (h : b.lookups = []) :
    (b >>= fun r => Pure.pure (Representation.ofRecipe c r)).lookups = [] := by
  rw [Build.lookups_bind_of_nil fun _ _ => rfl, h]

private theorem follows_keep {b : Build ι (Recipe ι)} (c : Category) {plan : List (Part ι)}
    (h : b.Follows plan) :
    (b >>= fun r => Pure.pure (Representation.ofRecipe c r)).Follows plan := by
  simpa only [List.append_nil] using h.bind fun r _ =>
    Build.follows_pure (Representation.ofRecipe c r)

theorem lookups_apply (c : Category) (i : ι) (p : Parameters) (r : Representation ι) :
    (s.apply c i p r).lookups = (r.shape.bridge? c.takes).toList := by
  have h := c.takes_ne_muxed
  unfold apply
  cases hc : c.takes with
  | address =>
      rw [Build.lookups_bind_of_nil fun a _ => lookups_keep c (s.lookups_bound c i a p)]
      exact lookups_toAddress r
  | packet =>
      rw [Build.lookups_bind_of_nil fun r _ => lookups_keep c (s.lookups_onTop c i p r)]
      exact s.lookups_toPacket r
  | stream =>
      rw [Build.lookups_bind_of_nil fun r _ => lookups_keep c (s.lookups_onTop c i p r)]
      exact s.lookups_toStream r
  | muxed => exact absurd hc h

/-- Putting a layer on top asks for the default between it and what there is, and for the layer. -/
theorem follows_apply (c : Category) (i : ι) (p : Parameters) (r : Representation ι) :
    (s.apply c i p r).Follows (s.bridgeParts r.shape c.takes ++ [(c, i, p)]) := by
  have h := c.takes_ne_muxed
  unfold apply
  cases hc : c.takes with
  | address =>
      exact (follows_toAddress r).bind fun a _ => follows_keep c (s.follows_bound c i a p)
  | packet => exact (s.follows_toPacket r).bind fun r _ => follows_keep c (s.follows_onTop c i p r)
  | stream => exact (s.follows_toStream r).bind fun r _ => follows_keep c (s.follows_onTop c i p r)
  | muxed => exact absurd hc h

theorem shape_of_apply {c : Category} {i : ι} {p : Parameters} {r r' : Representation ι}
    (h : (s.apply c i p r).result = .ok r') : r'.shape = c.gives := by
  have kept {α : Type} {b : Build ι α} {f : α → Build ι (Recipe ι)}
      (h : (b >>= fun a => f a >>= fun r => Pure.pure (Representation.ofRecipe c r)).result =
        .ok r') : r'.shape = c.gives := by
    obtain ⟨a, _, h⟩ := Build.bind_result_ok h
    obtain ⟨r, _, h⟩ := Build.bind_result_ok h
    cases h
    exact Representation.shape_ofRecipe c r
  unfold apply at h
  split at h <;> exact kept h

/-- Only a transport that is put on top of something else than an address does not fit. -/
theorem Honest.fits_apply {s : BuildSite ι} (h : s.Honest) {c : Category} (i : ι)
    (p : Parameters) {r : Representation ι} (hr : c.takes = .address → r.shape = .address) :
    (s.apply c i p r).Fits := by
  unfold apply
  cases hc : c.takes with
  | address =>
      cases r with
      | address a =>
          exact (Build.fits_pure a).bind fun a _ =>
            (h.fits_bound c i a p).bind fun r _ => Build.fits_pure _
      | packet r | stream r | muxed r => exact absurd (hr hc) (by simp [Representation.shape])
  | packet =>
      exact (h.fits_toPacket r).bind fun r _ =>
        (h.fits_onTop c i p r).bind fun r _ => Build.fits_pure _
  | stream | muxed =>
      exact (h.fits_toStream r).bind fun r _ =>
        (h.fits_onTop c i p r).bind fun r _ => Build.fits_pure _

end BuildSite

end TransportStack
