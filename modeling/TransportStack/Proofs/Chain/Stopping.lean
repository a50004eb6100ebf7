import TransportStack.Proofs.Chain.Plan

/-!
How a build goes on, and how it stops. What there is grows step by step: each call is made on what
all steps before it have made, and the lowest one on the address. A step that fails is the last one,
and its failure is that of the build. So a build that fails takes the first steps of the build in
which nothing fails, up to the one that fails.
-/

namespace TransportStack

variable {ι α β : Type}

/-- What there is after a step, given what there was before; nothing as long as there is only the
address. -/
def BuildStep.make (before : Option (Recipe ι)) : BuildStep ι → Option (Recipe ι)
  | lookup _ => before
  | demultiplex p => before.map (.demux p)
  | construct c => some c.recipe

def made (before : Option (Recipe ι)) (steps : List (BuildStep ι)) : Option (Recipe ι) :=
  steps.foldl BuildStep.make before

/-- A call is made on all that there is. Transports alone get the address, and nothing is beneath
them. -/
structure Call.RestsOn (address : String) (before : Option (Recipe ι)) (c : Call ι) : Prop where
  input : c.input = before
  address : c.address = if c.category.isTransport then some address else none
  bottom : before = none ↔ c.category.isTransport = true

/-- An intermediate result is what has been made, or the address. -/
def Representation.Holds (address : String) (r : Representation ι) (made : Option (Recipe ι)) :
    Prop :=
  match r with
  | .address a => a = address ∧ made = none
  | .packet r | .stream r | .muxed r => made = some r

/-- How a step fails at a site, if it does. -/
def BuildSite.failure? (s : BuildSite ι) : BuildStep ι → Option TransportError
  | .lookup slot =>
      match s.defaults.find slot with
      | .ok _ => none
      | .error e => some e
  | .demultiplex _ => none
  | .construct c => s.refuse c

theorem made_append (before : Option (Recipe ι)) (steps rest : List (BuildStep ι)) :
    made before (steps ++ rest) = made (made before steps) rest :=
  List.foldl_append

/-- A step of two builds that follow each other, with what was done before it. -/
theorem step_cases {steps rest : List (BuildStep ι)} {i : Nat} {step : BuildStep ι}
    (taken : (steps ++ rest)[i]? = some step) :
    steps[i]? = some step ∧ (steps ++ rest).take i = steps.take i ∨
      ∃ j, i = steps.length + j ∧ rest[j]? = some step ∧
        (steps ++ rest).take i = steps ++ rest.take j := by
  obtain early | late := Nat.lt_or_ge i steps.length
  · rw [List.getElem?_append_left early] at taken
    exact .inl ⟨taken, List.take_append_of_le_length (Nat.le_of_lt early)⟩
  · obtain ⟨j, rfl⟩ := Nat.exists_eq_add_of_le late
    rw [List.getElem?_append_right late, Nat.add_sub_cancel_left] at taken
    exact .inr ⟨j, rfl, taken, List.take_length_add_append j⟩

private theorem getLast?_append_of_fails {s : BuildSite ι} (steps : List (BuildStep ι))
    {rest : List (BuildStep ι)} {e : TransportError}
    (failed : rest.getLast?.bind s.failure? = some e) :
    (steps ++ rest).getLast?.bind s.failure? = some e := by
  obtain ⟨step, last, fails⟩ := Option.bind_eq_some_iff.1 failed
  rw [List.getLast?_append, last]
  exact fails

namespace Build

/-- A build that starts with what there is: its calls rest on what is there when they are made, a
step that fails is the last one, and nothing else makes the build fail but that nothing leads to
what is needed. -/
structure Goes (s : BuildSite ι) (address : String) (before : Option (Recipe ι))
    (good : α → Option (Recipe ι) → Prop) (b : Build ι α) : Prop where
  rests : ∀ i (call : Call ι), b.steps[i]? = some (.construct call) →
    call.RestsOn address (made before (b.steps.take i))
  last : ∀ i step e, b.steps[i]? = some step → s.failure? step = some e →
    i + 1 = b.steps.length ∧ b.result = .error e
  cause : ∀ e, b.result = .error e → b.steps.getLast?.bind s.failure? = some e ∨
    (∃ need available, e = .invalidChainingResult need available) ∧
      ∀ step ∈ b.steps, s.failure? step = none
  result : ∀ a, b.result = .ok a → good a (made before b.steps)

/-- A build is another one, or stops at a step of the other one that fails. -/
def Precedes (s : BuildSite ι) (b b' : Build ι α) : Prop :=
  b' = b ∨ ∃ e, b.result = .error e ∧ b.steps.getLast?.bind s.failure? = some e ∧
    b.steps <+: b'.steps

section

variable {s : BuildSite ι} {address : String} {before : Option (Recipe ι)}
  {good : α → Option (Recipe ι) → Prop} {good' : β → Option (Recipe ι) → Prop}

theorem goes_pure {a : α} (h : good a before) :
    (Pure.pure a : Build ι α).Goes s address before good where
  rests _ _ h := nomatch h
  last _ _ _ h := nomatch h
  cause _ h := nomatch h
  result _ h := by
    cases h
    exact ‹good a before›

theorem goes_misfit (need available : Shape) :
    (fail (.invalidChainingResult need available) : Build ι α).Goes s address before good where
  rests _ _ h := nomatch h
  last _ _ _ h := nomatch h
  cause e h := by
    cases h
    exact .inr ⟨⟨need, available, rfl⟩, fun _ h => nomatch h⟩
  result _ h := nomatch h

theorem goes_attempt {step : BuildStep ι} {r : Except TransportError α}
    (rests : ∀ call, step = .construct call → call.RestsOn address before)
    (fails : ∀ e, s.failure? step = some e ↔ r = .error e)
    (ok : ∀ a, r = .ok a → good a (step.make before)) :
    (attempt step r).Goes s address before good where
  rests i call taken := by
    cases i with
    | zero => exact rests call (Option.some.inj taken)
    | succ i => cases taken
  last i st e taken failed := by
    cases i with
    | zero =>
        cases taken
        exact ⟨rfl, (fails e).1 failed⟩
    | succ i => cases taken
  cause e failed := .inl ((fails e).2 failed)
  result a made := ok a made

/-- No step of a build that ends well fails. -/
theorem Goes.none_fails {b : Build ι α} (hb : b.Goes s address before good) {a : α}
    (well : b.result = .ok a) : ∀ step ∈ b.steps, s.failure? step = none := by
  intro step hs
  obtain ⟨i, taken⟩ := List.mem_iff_getElem?.1 hs
  cases failed : s.failure? step with
  | none => rfl
  | some e => cases well.symm.trans (hb.last i step e taken failed).2

theorem Goes.bind {b : Build ι α} (hb : b.Goes s address before good) {f : α → Build ι β}
    (hf : ∀ a m, good a m → (f a).Goes s address m good') :
    (b >>= f).Goes s address before good' := by
  cases hr : b.result with
  | error e =>
      rw [bind_of_error hr]
      refine ⟨hb.rests, fun i step e' taken failed => ?_, fun e' same => ?_, fun _ h => nomatch h⟩
      · obtain ⟨place, result⟩ := hb.last i step e' taken failed
        cases hr.symm.trans result
        exact ⟨place, rfl⟩
      · cases same
        exact hb.cause e hr
  | ok a =>
      have on := hf a _ (hb.result a hr)
      have well := hb.none_fails hr
      rw [bind_of_ok hr]
      refine ⟨fun i call taken => ?_, fun i step e taken failed => ?_, fun e same => ?_,
        fun c same => ?_⟩
      · obtain ⟨taken, before⟩ | ⟨j, -, taken, before⟩ := step_cases taken
        · exact before ▸ hb.rests i call taken
        · rw [before, made_append]
          exact on.rests j call taken
      · obtain ⟨taken, -⟩ | ⟨j, rfl, taken, -⟩ := step_cases taken
        · cases (well step (List.mem_of_getElem? taken)).symm.trans failed
        · obtain ⟨place, result⟩ := on.last j step e taken failed
          exact ⟨by rw [List.length_append, ← place, Nat.add_assoc], result⟩
      · obtain failed | ⟨misfit, none_fails⟩ := on.cause e same
        · exact .inl (getLast?_append_of_fails _ failed)
        · refine .inr ⟨misfit, fun step hs => ?_⟩
          exact (List.mem_append.1 hs).elim (well step) (none_fails step)
      · rw [made_append]
        exact on.result c same

theorem Goes.map {b : Build ι α} (hb : b.Goes s address before good) {f : α → β}
    (hf : ∀ a m, good a m → good' (f a) m) :
    (b >>= fun a => Pure.pure (f a)).Goes s address before good' :=
  hb.bind fun a m h => goes_pure (hf a m h)

theorem precedes_refl (b : Build ι α) : b.Precedes s b := .inl rfl

theorem Precedes.bind {b b' : Build ι α} (hb : b.Precedes s b') {f f' : α → Build ι β}
    (hf : ∀ a, (f a).Precedes s (f' a)) : (b >>= f).Precedes s (b' >>= f') := by
  obtain rfl | ⟨e, result, failed, first⟩ := hb
  · cases hr : b'.result with
    | error e => exact .inl (by rw [bind_of_error hr, bind_of_error hr])
    | ok a =>
        rw [bind_of_ok hr, bind_of_ok hr]
        obtain same | ⟨e, result, failed, first⟩ := hf a
        · exact .inl (by rw [same])
        · exact .inr ⟨e, result, getLast?_append_of_fails _ failed,
            (List.prefix_append_right_inj _).2 first⟩
  · rw [bind_of_error result]
    exact .inr ⟨e, rfl, failed, first.trans (steps_prefix_bind _ _)⟩

theorem Precedes.map {b b' : Build ι α} (hb : b.Precedes s b') (f : α → β) :
    (b >>= fun a => Pure.pure (f a)).Precedes s (b' >>= fun a => Pure.pure (f a)) :=
  hb.bind fun _ => precedes_refl _

theorem Precedes.steps_prefix {b b' : Build ι α} (h : b.Precedes s b') : b.steps <+: b'.steps := by
  obtain rfl | ⟨-, -, -, first⟩ := h
  · exact List.prefix_rfl
  · exact first

end

end Build

namespace BuildSite

/-- A site at which no more fails than at another one, and nothing else is different. -/
structure Eases (s s' : BuildSite ι) : Prop where
  side : s'.side = s.side
  common : s'.common = s.common
  finds : ∀ slot i, s.defaults.find slot = .ok i → s'.defaults.find slot = .ok i
  admits : ∀ call, s.refuse call = none → s'.refuse call = none

section

variable (s : BuildSite ι) (address : String)

/-- What is made on what there is, where the steps of a site may fail. -/
abbrev Goes (before : Option (Recipe ι)) (good : α → Option (Recipe ι) → Prop) (b : Build ι α) :
    Prop :=
  b.Goes s address before good

abbrev isMade (r : Recipe ι) (made : Option (Recipe ι)) : Prop := made = some r

theorem goes_default (slot : DefaultSlot) (before : Option (Recipe ι)) :
    s.Goes address before (fun _ m => m = before) (s.default slot) := by
  refine Build.goes_attempt (fun _ h => nomatch h) (fun e => ?_) fun _ _ => rfl
  simp only [failure?]
  cases s.defaults.find slot <;> simp

theorem goes_demux (r : Recipe ι) : s.Goes address (some r) isMade (s.demux r) :=
  Build.goes_attempt (fun _ h => nomatch h) (fun _ => ⟨nofun, nofun⟩) fun a h => by
    cases h
    rfl

theorem goes_construct {call : Call ι} {before : Option (Recipe ι)}
    (rests : call.RestsOn address before) : s.Goes address before isMade (s.construct call) := by
  refine Build.goes_attempt (fun _ same => ?_) (fun e => ?_) fun r made => ?_
  · cases same
    exact rests
  · simp only [failure?]
    split <;> simp_all
  · split at made
    · cases made
    · cases made
      rfl

theorem goes_bound {c : Category} (transport : c.isTransport = true) (i : ι) (p : Parameters) :
    s.Goes address none isMade (s.bound c i address p) :=
  s.goes_construct address ⟨rfl, (if_pos transport).symm, by simp [transport]⟩

theorem goes_onTop {c : Category} (upper : c.isTransport = false) (i : ι) (p : Parameters)
    (r : Recipe ι) : s.Goes address (some r) isMade (s.onTop c i p r) :=
  s.goes_construct address ⟨rfl, (if_neg (by simp [upper])).symm, by simp [upper]⟩

theorem goes_defaultBound {slot : DefaultSlot} (transport : slot.category.isTransport = true) :
    s.Goes address none isMade (s.defaultBound slot address) :=
  (s.goes_default address slot none).bind fun i _ same => by
    rw [same]
    exact s.goes_bound address transport i s.common

theorem goes_defaultOnTop {slot : DefaultSlot} (upper : slot.category.isTransport = false)
    {before : Option (Recipe ι)} {input : Build ι (Recipe ι)}
    (h : s.Goes address before isMade input) :
    s.Goes address before isMade (s.defaultOnTop slot input) :=
  (s.goes_default address slot before).bind fun i _ same => by
    rw [same]
    exact h.bind fun r _ made => by
      rw [made]
      exact s.goes_onTop address upper i s.common r

variable {address} {r : Representation ι} {before : Option (Recipe ι)}

theorem goes_toPacket (h : r.Holds address before) :
    s.Goes address before isMade (s.toPacket r) := by
  cases r with
  | address a =>
      obtain ⟨rfl, rfl⟩ := h
      exact s.goes_defaultBound a rfl
  | packet r => exact Build.goes_pure h
  | stream r => exact s.goes_defaultOnTop address rfl (Build.goes_pure h)
  | muxed r =>
      cases h
      exact s.goes_defaultOnTop address rfl (s.goes_demux address r)

theorem goes_toStream (h : r.Holds address before) :
    s.Goes address before isMade (s.toStream r) := by
  cases r with
  | address a =>
      obtain ⟨rfl, rfl⟩ := h
      exact s.goes_defaultBound a rfl
  | packet r => exact s.goes_defaultOnTop address rfl (Build.goes_pure h)
  | stream r => exact Build.goes_pure h
  | muxed r =>
      cases h
      exact s.goes_demux address r

theorem goes_toMuxed (h : r.Holds address before) :
    s.Goes address before isMade (s.toMuxed r) := by
  cases r with
  | address a => exact Build.goes_misfit _ _
  | packet r => exact s.goes_defaultOnTop address rfl (Build.goes_pure h)
  | stream r => exact s.goes_defaultOnTop address rfl (Build.goes_pure h)
  | muxed r => exact Build.goes_pure h

theorem goes_toAddress (h : r.Holds address before) :
    s.Goes address before (fun a m => a = address ∧ m = none) (toAddress r) := by
  cases r with
  | address a => exact Build.goes_pure h
  | packet r | stream r | muxed r => exact Build.goes_misfit _ _

private theorem holds_ofRecipe (c : Category) (r : Recipe ι) (m : Option (Recipe ι))
    (made : m = some r) : (Representation.ofRecipe c r).Holds address m := by
  unfold Representation.ofRecipe
  cases c.gives <;> exact made

theorem goes_apply (c : Category) (i : ι) (p : Parameters) (h : r.Holds address before) :
    s.Goes address before (Representation.Holds address) (s.apply c i p r) := by
  have upper (takes : c.takes ≠ .address) : c.isTransport = false := by
    simpa [Category.isTransport] using takes
  unfold apply
  cases takes : c.takes with
  | address =>
      refine (s.goes_toAddress h).bind fun a m same => ?_
      obtain ⟨rfl, rfl⟩ := same
      have transport : c.isTransport = true := by simp [Category.isTransport, takes]
      exact (s.goes_bound a transport i p).map (holds_ofRecipe c)
  | packet =>
      refine (s.goes_toPacket h).bind fun r m made => ?_
      rw [made]
      exact (s.goes_onTop address (upper (by simp [takes])) i p r).map (holds_ofRecipe c)
  | stream | muxed =>
      refine (s.goes_toStream h).bind fun r m made => ?_
      rw [made]
      exact (s.goes_onTop address (upper (by simp [takes])) i p r).map (holds_ofRecipe c)

end

section

variable {s s' : BuildSite ι} (eases : s.Eases s')

include eases

theorem precedes_default (slot : DefaultSlot) :
    (s.default slot).Precedes s (s'.default slot) := by
  cases found : s.defaults.find slot with
  | ok i => exact .inl (by simp only [default, found, eases.finds slot i found])
  | error e =>
      refine .inr ⟨e, found, ?_, List.prefix_rfl⟩
      simp [default, Build.attempt, failure?, found]

theorem precedes_demux (r : Recipe ι) : (s.demux r).Precedes s (s'.demux r) :=
  .inl (by simp only [demux, eases.common])

theorem precedes_construct (call : Call ι) :
    (s.construct call).Precedes s (s'.construct call) := by
  simp only [construct, ask]
  cases refused : s.refuse call with
  | none => exact .inl (by rw [eases.admits _ refused])
  | some e =>
      refine .inr ⟨e, rfl, ?_, List.prefix_rfl⟩
      simp [Build.attempt, failure?, refused]

theorem precedes_bound (c : Category) (i : ι) (address : String) (p : Parameters) :
    (s.bound c i address p).Precedes s (s'.bound c i address p) := by
  rw [bound_eq, bound_eq, eases.side]
  exact precedes_construct eases _

theorem precedes_onTop (c : Category) (i : ι) (p : Parameters) (r : Recipe ι) :
    (s.onTop c i p r).Precedes s (s'.onTop c i p r) := by
  rw [onTop_eq, onTop_eq, eases.side]
  exact precedes_construct eases _

theorem precedes_defaultBound (slot : DefaultSlot) (address : String) :
    (s.defaultBound slot address).Precedes s (s'.defaultBound slot address) :=
  (precedes_default eases slot).bind fun i => by
    rw [eases.common]
    exact precedes_bound eases slot.category i address s.common

theorem precedes_defaultOnTop (slot : DefaultSlot) {input input' : Build ι (Recipe ι)}
    (h : input.Precedes s input') :
    (s.defaultOnTop slot input).Precedes s (s'.defaultOnTop slot input') :=
  (precedes_default eases slot).bind fun i => h.bind fun r => by
    rw [eases.common]
    exact precedes_onTop eases slot.category i s.common r

theorem precedes_toPacket (r : Representation ι) :
    (s.toPacket r).Precedes s (s'.toPacket r) := by
  cases r with
  | address a => exact precedes_defaultBound eases .packetConn a
  | packet r => exact Build.precedes_refl _
  | stream r => exact precedes_defaultOnTop eases .packetAdapter (Build.precedes_refl _)
  | muxed r => exact precedes_defaultOnTop eases .packetAdapter (precedes_demux eases r)

theorem precedes_toStream (r : Representation ι) :
    (s.toStream r).Precedes s (s'.toStream r) := by
  cases r with
  | address a => exact precedes_defaultBound eases .streamConn a
  | packet r => exact precedes_defaultOnTop eases .streamAdapter (Build.precedes_refl _)
  | stream r => exact Build.precedes_refl _
  | muxed r => exact precedes_demux eases r

theorem precedes_toMuxed (r : Representation ι) :
    (s.toMuxed r).Precedes s (s'.toMuxed r) := by
  cases r with
  | address a => exact Build.precedes_refl _
  | packet r => exact precedes_defaultOnTop eases .packetSolution (Build.precedes_refl _)
  | stream r => exact precedes_defaultOnTop eases .streamSolution (Build.precedes_refl _)
  | muxed r => exact Build.precedes_refl _

theorem precedes_apply (c : Category) (i : ι) (p : Parameters) (r : Representation ι) :
    (s.apply c i p r).Precedes s (s'.apply c i p r) := by
  unfold apply
  cases c.takes with
  | address =>
      exact (Build.precedes_refl (toAddress r)).bind fun a =>
        (precedes_bound eases c i a p).map _
  | packet =>
      exact (precedes_toPacket eases r).bind fun r => (precedes_onTop eases c i p r).map _
  | stream | muxed =>
      exact (precedes_toStream eases r).bind fun r => (precedes_onTop eases c i p r).map _

end

end BuildSite

namespace Chain

section

variable (s : BuildSite ι) {address : String}

theorem goes_applyLayers (p : Parameters) (ls : List (Layer ι)) {r : Representation ι}
    {before : Option (Recipe ι)} (h : r.Holds address before) :
    s.Goes address before (Representation.Holds address) (applyLayers s p ls r) := by
  induction ls generalizing r before with
  | nil =>
      rw [applyLayers_nil]
      exact Build.goes_pure h
  | cons l ls ih =>
      rw [applyLayers_cons]
      exact (s.goes_apply l.category l.implementation _ h).bind fun r m h => ih h

theorem goes_finish (kind : ChainKind) {r : Representation ι} {before : Option (Recipe ι)}
    (h : r.Holds address before) :
    s.Goes address before (Representation.Holds address) (finish s kind r) := by
  cases kind with
  | generic => rw [finish_generic]; exact Build.goes_pure h
  | packet => rw [finish_packet]; exact (s.goes_toPacket h).map fun _ _ made => made
  | stream => rw [finish_stream]; exact (s.goes_toStream h).map fun _ _ made => made
  | muxed => rw [finish_muxed]; exact (s.goes_toMuxed h).map fun _ _ made => made

theorem goes_buildFor (c : Chain ι) (kind : ChainKind) (k : Catalogue ι)
    (refuse : Call ι → Option TransportError) (side : Side) (address : String) (p : Parameters) :
    (c.site k refuse side p).Goes address none (Representation.Holds address)
      (c.buildFor kind k refuse side address p) := by
  have start : (Representation.address address : Representation ι).Holds address none := ⟨rfl, rfl⟩
  exact (goes_applyLayers _ p c.layers start).bind fun r m h => goes_finish _ kind h

variable {s} {s' : BuildSite ι} (eases : s.Eases s')

include eases

theorem precedes_applyLayers (p : Parameters) (ls : List (Layer ι)) (r : Representation ι) :
    (applyLayers s p ls r).Precedes s (applyLayers s' p ls r) := by
  induction ls generalizing r with
  | nil =>
      rw [applyLayers_nil, applyLayers_nil]
      exact Build.precedes_refl _
  | cons l ls ih =>
      rw [applyLayers_cons, applyLayers_cons]
      exact (BuildSite.precedes_apply eases l.category l.implementation _ r).bind fun r => ih r

theorem precedes_finish (kind : ChainKind) (r : Representation ι) :
    (finish s kind r).Precedes s (finish s' kind r) := by
  cases kind with
  | generic =>
      rw [finish_generic, finish_generic]
      exact Build.precedes_refl _
  | packet =>
      rw [finish_packet, finish_packet]
      exact (BuildSite.precedes_toPacket eases r).map _
  | stream =>
      rw [finish_stream, finish_stream]
      exact (BuildSite.precedes_toStream eases r).map _
  | muxed =>
      rw [finish_muxed, finish_muxed]
      exact (BuildSite.precedes_toMuxed eases r).map _

end

/-- Each layer is asked once at most, from the bottom up, with the parameters of its section, and
what is put in gets the common ones. A call is made on what all steps before it have made. A step
that fails is the last one, whatever the build is for, and the build fails with it; so the steps of a
build that fails are the first ones of the same build when nothing fails. -/
theorem failing_build_stops (c : Chain ι) (kind : ChainKind) (k : Catalogue ι)
    (refuse : Call ι → Option TransportError) (side : Side) (address : String) (p : Parameters) :
    let s := c.site k refuse side p
    let b := c.buildFor kind k refuse side address p
    (c.plan kind).filterMap Planned.layer? = c.layers ∧
      s.Keeps p b (c.plan kind) ∧
      (∀ i (call : Call ι), b.steps[i]? = some (.construct call) →
        call.RestsOn address (made none (b.steps.take i))) ∧
      (∀ r, b.result = .ok r → r.Holds address (made none b.steps)) ∧
      (∀ i step e, b.steps[i]? = some step → s.failure? step = some e →
        i + 1 = b.steps.length ∧ b.result = .error e) ∧
      (∀ e, b.result = .error e → b.steps.getLast?.bind s.failure? = some e ∨
        (∃ need available, e = .invalidChainingResult need available) ∧
          ∀ step ∈ b.steps, s.failure? step = none) ∧
      ∀ k' : Catalogue ι,
        (∀ slot i, (Defaults.mk k c.defaults).find slot = .ok i →
          (Defaults.mk k' c.defaults).find slot = .ok i) →
        let b' := c.buildFor kind k' (fun _ => none) side address p
        b.steps <+: b'.steps ∧ ((∀ step ∈ b.steps, s.failure? step = none) → b' = b) := by
  intro s b
  have goes : s.Goes address none (Representation.Holds address) b :=
    c.goes_buildFor kind k refuse side address p
  refine ⟨layers_planFrom _ _ _, c.keeps_buildFor p kind k refuse side address, goes.rests,
    goes.result, goes.last, goes.cause, ?_⟩
  intro k' finds b'
  let s' := c.site k' (fun _ => none) side p
  have eases : s.Eases s' := ⟨rfl, rfl, finds, fun _ _ => rfl⟩
  have precedes : b.Precedes s b' :=
    (precedes_applyLayers eases p c.layers (.address address)).bind
      fun r => precedes_finish eases kind r
  refine ⟨precedes.steps_prefix, fun none_fails => ?_⟩
  obtain same | ⟨e, -, failed, -⟩ := precedes
  · exact same
  · obtain ⟨step, last, fails⟩ := Option.bind_eq_some_iff.1 failed
    cases (none_fails step (List.mem_of_getLast? last)).symm.trans fails

end Chain

end TransportStack
