import Mathlib.Data.List.Forall2
import TransportStack.Proofs.Chain.Bridge

/-!
All steps of a build in the order in which they are due: for each layer those of the conversion
beneath it and then its own, at last those of the final conversion. The parameters and the address
have no part in the plan, so the steps of two builds of one chain can be compared one by one. A
build takes the steps of its plan until it fails.
-/

namespace TransportStack

inductive Planned (ι : Type)
  | lookup (slot : DefaultSlot)
  | demultiplex
  | default (slot : DefaultSlot)
  | layer (l : Layer ι)

def Planned.layer? {ι : Type} : Planned ι → Option (Layer ι)
  | layer l => some l
  | lookup _ | demultiplex | default _ => none

/-- What is due for a conversion. The default is looked up before anything else happens. -/
def Shape.conversion {ι : Type} (available need : Shape) : List (Planned ι) :=
  match available.bridge? need, available with
  | some slot, .muxed => [.lookup slot, .demultiplex, .default slot]
  | some slot, _ => [.lookup slot, .default slot]
  | none, .muxed => if need = .stream then [.demultiplex] else []
  | none, _ => []

namespace Chain

variable {ι : Type}

def planFrom (kind : ChainKind) : Shape → List (Layer ι) → List (Planned ι)
  | available, [] => (kind.shape?.map available.conversion).getD []
  | available, l :: ls =>
      available.conversion l.category.takes ++ .layer l :: planFrom kind l.category.gives ls

def plan (c : Chain ι) (kind : ChainKind) : List (Planned ι) := planFrom kind .address c.layers

private theorem layers_conversion (available need : Shape) :
    (available.conversion need : List (Planned ι)).filterMap Planned.layer? = [] := by
  cases available <;> cases need <;> rfl

/-- Each layer has one step of its own. -/
theorem layers_planFrom (kind : ChainKind) (available : Shape) (ls : List (Layer ι)) :
    (planFrom kind available ls).filterMap Planned.layer? = ls := by
  induction ls generalizing available with
  | nil =>
      cases kind with
      | generic => rfl
      | packet | stream | muxed => exact layers_conversion available _
  | cons l ls ih =>
      rw [planFrom, List.filterMap_append, layers_conversion, List.nil_append]
      exact congrArg _ (ih _)

end Chain

/-- Whether a step is the planned one at a site, where the layers see their parts of the
parameters. -/
inductive Planned.Meets {ι : Type} (s : BuildSite ι) (p : Parameters) :
    Planned ι → BuildStep ι → Prop
  | lookup (slot : DefaultSlot) : Meets s p (.lookup slot) (.lookup slot)
  | demultiplex : Meets s p .demultiplex (.demultiplex s.common)
  | default (slot : DefaultSlot) (call : Call ι) (side : call.side = s.side)
      (category : call.category = slot.category)
      (found : s.defaults.find slot = .ok call.implementation)
      (parameters : call.parameters = s.common) : Meets s p (.default slot) (.construct call)
  | layer (l : Layer ι) (call : Call ι) (side : call.side = s.side)
      (category : call.category = l.category)
      (implementation : call.implementation = l.implementation)
      (parameters : call.parameters = p.seenBy l.sectionName) :
      Meets s p (.layer l) (.construct call)

namespace Build

variable {ι π α β : Type} {meets : π → BuildStep ι → Prop}

/-- The steps of a build are those that are planned, all of them unless it fails. -/
def Keeps (b : Build ι α) (meets : π → BuildStep ι → Prop) (plan : List π) : Prop :=
  ∃ done, done <+: plan ∧ List.Forall₂ meets done b.steps ∧ ∀ a, b.result = .ok a → done = plan

theorem keeps_pure (a : α) : (Pure.pure a : Build ι α).Keeps meets [] :=
  ⟨[], List.prefix_rfl, .nil, fun _ _ => rfl⟩

theorem keeps_fail (e : TransportError) (plan : List π) :
    (fail e : Build ι α).Keeps meets plan :=
  ⟨[], List.nil_prefix, .nil, fun _ h => nomatch h⟩

theorem keeps_attempt {item : π} {s : BuildStep ι} (h : meets item s)
    (r : Except TransportError α) : (attempt s r).Keeps meets [item] :=
  ⟨[item], List.prefix_rfl, .cons h .nil, fun _ _ => rfl⟩

theorem Keeps.bind {b : Build ι α} {plan rest : List π} (hb : b.Keeps meets plan)
    {f : α → Build ι β} (hf : ∀ a, b.result = .ok a → (f a).Keeps meets rest) :
    (b >>= f).Keeps meets (plan ++ rest) := by
  obtain ⟨done, within, kept, all⟩ := hb
  cases hr : b.result with
  | error e =>
      rw [bind_of_error hr]
      exact ⟨done, within.trans (List.prefix_append _ _), kept, fun _ h => nomatch h⟩
  | ok a =>
      obtain ⟨done', within', kept', all'⟩ := hf a hr
      rw [bind_of_ok hr, ← all a hr]
      refine ⟨done ++ done', (List.prefix_append_right_inj done).2 within', ?_, fun c hc => ?_⟩
      · exact List.rel_append kept kept'
      · rw [all' c hc]

theorem Keeps.map {b : Build ι α} {plan : List π} (h : b.Keeps meets plan) (f : α → β) :
    (b >>= fun a => Pure.pure (f a)).Keeps meets plan := by
  simpa only [List.append_nil] using h.bind fun a _ => keeps_pure (f a)

/-- Each step is the planned one of the same place. -/
theorem Keeps.meets_of_getElem? {b : Build ι α} {plan : List π} (h : b.Keeps meets plan) {i : Nat}
    {s : BuildStep ι} (hs : b.steps[i]? = some s) :
    ∃ item, plan[i]? = some item ∧ meets item s := by
  obtain ⟨done, ⟨rest, rfl⟩, kept, -⟩ := h
  obtain ⟨within, rfl⟩ := List.getElem?_eq_some_iff.1 hs
  have within' : i < done.length := kept.length_eq ▸ within
  refine ⟨done[i], ?_, kept.get within' within⟩
  rw [List.getElem?_append_left within', List.getElem?_eq_getElem within']

end Build

namespace BuildSite

variable {ι : Type} (s : BuildSite ι) (p : Parameters)

abbrev Keeps {α : Type} (b : Build ι α) (plan : List (Planned ι)) : Prop :=
  b.Keeps (Planned.Meets s p) plan

theorem keeps_default (slot : DefaultSlot) : s.Keeps p (s.default slot) [.lookup slot] :=
  Build.keeps_attempt (.lookup slot) _

theorem keeps_demux (r : Recipe ι) : s.Keeps p (s.demux r) [.demultiplex] :=
  Build.keeps_attempt .demultiplex _

theorem keeps_defaultBound (slot : DefaultSlot) (a : String) :
    s.Keeps p (s.defaultBound slot a) [.lookup slot, .default slot] :=
  (s.keeps_default p slot).bind fun i found =>
    Build.keeps_attempt (.default slot ⟨_, _, i, _, _, _⟩ rfl rfl found rfl) _

theorem keeps_defaultOnTop (slot : DefaultSlot) {input : Build ι (Recipe ι)}
    {plan : List (Planned ι)} (h : s.Keeps p input plan) :
    s.Keeps p (s.defaultOnTop slot input) (.lookup slot :: plan ++ [.default slot]) :=
  (s.keeps_default p slot).bind fun i found =>
    h.bind fun _ _ => Build.keeps_attempt (.default slot ⟨_, _, i, _, _, _⟩ rfl rfl found rfl) _

theorem keeps_toPacket (r : Representation ι) :
    s.Keeps p (s.toPacket r) (r.shape.conversion .packet) := by
  cases r with
  | address a => exact s.keeps_defaultBound p .packetConn a
  | packet r => exact Build.keeps_pure r
  | stream r => exact s.keeps_defaultOnTop p .packetAdapter (Build.keeps_pure r)
  | muxed r => exact s.keeps_defaultOnTop p .packetAdapter (s.keeps_demux p r)

theorem keeps_toStream (r : Representation ι) :
    s.Keeps p (s.toStream r) (r.shape.conversion .stream) := by
  cases r with
  | address a => exact s.keeps_defaultBound p .streamConn a
  | packet r => exact s.keeps_defaultOnTop p .streamAdapter (Build.keeps_pure r)
  | stream r => exact Build.keeps_pure r
  | muxed r => exact s.keeps_demux p r

theorem keeps_toMuxed (r : Representation ι) :
    s.Keeps p (s.toMuxed r) (r.shape.conversion .muxed) := by
  cases r with
  | address a => exact Build.keeps_fail _ _
  | packet r => exact s.keeps_defaultOnTop p .packetSolution (Build.keeps_pure r)
  | stream r => exact s.keeps_defaultOnTop p .streamSolution (Build.keeps_pure r)
  | muxed r => exact Build.keeps_pure r

theorem keeps_toAddress (r : Representation ι) :
    s.Keeps p (toAddress r) (r.shape.conversion .address) := by
  cases r with
  | address a => exact Build.keeps_pure a
  | packet r | stream r | muxed r => exact Build.keeps_fail _ _

/-- Putting a layer on top takes the steps of a conversion and one of the layer. -/
theorem keeps_apply (l : Layer ι) (r : Representation ι) :
    s.Keeps p (s.apply l.category l.implementation (p.seenBy l.sectionName) r)
      (r.shape.conversion l.category.takes ++ [.layer l]) := by
  have own (a : Option String) (input : Option (Recipe ι))
      (result : Except TransportError (Recipe ι)) :
      s.Keeps p (Build.attempt (.construct ⟨s.side, l.category, l.implementation, a,
        p.seenBy l.sectionName, input⟩) result >>= fun r =>
          Pure.pure (Representation.ofRecipe l.category r)) [.layer l] :=
    (Build.keeps_attempt (.layer l _ rfl rfl rfl rfl) result).map _
  have not_muxed := l.category.takes_ne_muxed
  unfold apply
  cases takes : l.category.takes with
  | address => exact (s.keeps_toAddress p r).bind fun a _ => own _ _ _
  | packet => exact (s.keeps_toPacket p r).bind fun r _ => own _ _ _
  | stream => exact (s.keeps_toStream p r).bind fun r _ => own _ _ _
  | muxed => exact absurd takes not_muxed

end BuildSite

namespace Chain

variable {ι : Type} (s : BuildSite ι) (p : Parameters)

theorem keeps_finish (kind : ChainKind) (r : Representation ι) :
    s.Keeps p (finish s kind r) (planFrom kind r.shape []) := by
  cases kind with
  | generic => rw [finish_generic]; exact Build.keeps_pure r
  | packet => rw [finish_packet]; exact (s.keeps_toPacket p r).map _
  | stream => rw [finish_stream]; exact (s.keeps_toStream p r).map _
  | muxed => rw [finish_muxed]; exact (s.keeps_toMuxed p r).map _

/-- Above any intermediate result the remaining layers and the final conversion take the steps that
are planned from its shape on. -/
theorem keeps_applyLayers (kind : ChainKind) (ls : List (Layer ι)) (r : Representation ι) :
    s.Keeps p (applyLayers s p ls r >>= finish s kind) (planFrom kind r.shape ls) := by
  induction ls generalizing r with
  | nil =>
      rw [applyLayers_nil, pure_bind]
      exact keeps_finish s p kind r
  | cons l ls ih =>
      rw [applyLayers_cons, bind_assoc, planFrom, ← List.singleton_append, ← List.append_assoc]
      refine (s.keeps_apply p l r).bind fun r' applied => ?_
      rw [← s.shape_of_apply applied]
      exact ih r'

theorem keeps_buildFor (c : Chain ι) (kind : ChainKind) (k : Catalogue ι)
    (refuse : Call ι → Option TransportError) (side : Side) (address : String) :
    (c.site k refuse side p).Keeps p (c.buildFor kind k refuse side address p) (c.plan kind) :=
  keeps_applyLayers _ p kind c.layers (.address address)

end Chain

end TransportStack
