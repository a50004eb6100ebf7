import TransportStack.Proofs.Chain.Lookups
import TransportStack.Proofs.Chain.Resolved

/-!
Chains whose neighbours were checked. The matrix of neighbours and the conversions agree: between
two layers that may be neighbours nothing is put in but demultiplexers, so only the bottom and the
top of such a chain can need a default, and such a chain never fails for want of one that leads from
what there is to what is needed.
-/

namespace TransportStack

theorem Category.bridge?_of_acceptsBelow {above below : Category}
    (h : above.mask.acceptsBelow below.mask = true) :
    above.isTransport = false ∧ below.gives.bridge? above.takes = none := by
  revert h
  cases above <;> cases below <;> decide

namespace Chain

variable {ι : Type}

/-- Layers that lie on what there is and on each other without a default, and without a transport
among them. -/
def Stacked : Shape → List (Layer ι) → Prop
  | _, [] => True
  | available, l :: ls =>
      (l.category.isTransport = false ∧ available.bridge? l.category.takes = none) ∧
        Stacked l.category.gives ls

theorem stacked_of_checkNeighbours {bottom : Layer ι} {rest : List (Layer ι)}
    (h : Layer.checkNeighbours (bottom :: rest) = .ok ()) : Stacked bottom.category.gives rest := by
  induction rest generalizing bottom with
  | nil => trivial
  | cons above rest ih =>
      unfold Layer.checkNeighbours at h
      split at h
      · rename_i fits
        exact ⟨Category.bridge?_of_acceptsBelow fits, ih h⟩
      · cases h

/-- A resolved chain with checked neighbours has a bottom, and the other layers are stacked on
it. -/
theorem stacked_of_resolve {k : Catalogue ι} {withSolutions : Bool} {names : List String}
    {layers : List (Layer ι)} (h : Layer.resolve k withSolutions true names = .ok layers) :
    ∃ bottom rest, layers = bottom :: rest ∧ Stacked bottom.category.gives rest := by
  obtain ⟨some_names, _, found, checked⟩ := Layer.resolve_eq_ok_iff.1 h
  have same := (Layer.isFor_of_resolveNames found).length_eq
  cases layers with
  | nil => exact absurd (List.eq_nil_of_length_eq_zero same) some_names
  | cons bottom rest => exact ⟨bottom, rest, rfl, stacked_of_checkNeighbours (checked rfl)⟩

def ownPart (p : Parameters) (l : Layer ι) : Part ι :=
  (l.category, l.implementation, p.seenBy l.sectionName)

section

variable (s : BuildSite ι) (p : Parameters)

theorem lookups_of_stacked {ls : List (Layer ι)} {r : Representation ι}
    (h : Stacked r.shape ls) : (applyLayers s p ls r).lookups = [] := by
  induction ls generalizing r with
  | nil => rw [applyLayers_nil]; rfl
  | cons l ls ih =>
      rw [applyLayers_cons, Build.lookups_bind_of_nil, s.lookups_apply, h.1.2]
      · rfl
      · intro r' hr'
        apply ih
        rw [s.shape_of_apply hr']
        exact h.2

theorem follows_of_stacked {ls : List (Layer ι)} {r : Representation ι}
    (h : Stacked r.shape ls) : (applyLayers s p ls r).Follows (ls.map (ownPart p)) := by
  induction ls generalizing r with
  | nil => rw [applyLayers_nil]; exact Build.follows_pure r
  | cons l ls ih =>
      have first := s.follows_apply l.category l.implementation (p.seenBy l.sectionName) r
      simp only [BuildSite.bridgeParts, h.1.2, List.nil_append] at first
      rw [applyLayers_cons]
      refine first.bind fun r' hr' => ih ?_
      rw [s.shape_of_apply hr']
      exact h.2

variable {s}

theorem fits_of_stacked (honest : s.Honest) {ls : List (Layer ι)} {r : Representation ι}
    (h : Stacked r.shape ls) : (applyLayers s p ls r).Fits := by
  induction ls generalizing r with
  | nil => rw [applyLayers_nil]; exact Build.fits_pure r
  | cons l ls ih =>
      have noTransport : l.category.takes ≠ .address := by
        simpa only [Category.isTransport, beq_eq_false_iff_ne] using h.1.1
      have first := honest.fits_apply l.implementation (p.seenBy l.sectionName) (r := r)
        fun ht => absurd ht noTransport
      rw [applyLayers_cons]
      refine first.bind fun r' hr' => ih ?_
      rw [s.shape_of_apply hr']
      exact h.2

theorem fits_finish (honest : s.Honest) (kind : ChainKind) {r : Representation ι}
    (h : r.shape ≠ .address) : (finish s kind r).Fits := by
  cases kind with
  | generic =>
      rw [finish_generic]
      exact Build.fits_pure r
  | packet =>
      rw [finish_packet]
      exact (honest.fits_toPacket r).bind fun _ _ => Build.fits_pure _
  | stream =>
      rw [finish_stream]
      exact (honest.fits_toStream r).bind fun _ _ => Build.fits_pure _
  | muxed =>
      rw [finish_muxed]
      exact (honest.fits_toMuxed h).bind fun _ _ => Build.fits_pure _

end

theorem topShape_ne_address {available : Shape} (h : available ≠ .address)
    (ls : List (Layer ι)) : topShape available ls ≠ .address := by
  induction ls generalizing available with
  | nil => exact h
  | cons l ls ih => exact ih l.category.gives_ne_address

theorem lookups_first (s : BuildSite ι) (c : Category) (i : ι) (p : Parameters) (a : String) :
    (s.apply c i p (.address a)).lookups.map BuildStep.lookup <+:
      (s.apply c i p (.address a)).steps := by
  have bound (slot : DefaultSlot) : [BuildStep.lookup slot] <+: (s.defaultBound slot a).steps :=
    Build.steps_prefix_bind (s.default slot) _
  rw [s.lookups_apply]
  unfold BuildSite.apply
  cases c.takes with
  | address | muxed => exact List.nil_prefix
  | packet => exact (bound .packetConn).trans (Build.steps_prefix_bind _ _)
  | stream => exact (bound .streamConn).trans (Build.steps_prefix_bind _ _)

/-- A chain with checked neighbours needs no default between its layers. It looks up one beneath its
bottom exactly when the bottom is no transport, and a chain for one kind of producer at most one
more, on top; other defaults do not matter. Such a chain never fails for want of something that
leads from what there is to what is needed. -/
theorem enforced_chain_defaults (known : Catalogue ι) (withSolutions : Bool)
    (names : List String) (layers : List (Layer ι))
    (resolved : Layer.resolve known withSolutions true names = .ok layers)
    (d : DefaultNames) (k : Catalogue ι) (refuse : Call ι → Option TransportError)
    (honest : ∀ c need available, refuse c ≠ some (.invalidChainingResult need available))
    (side : Side) (address : String) (p : Parameters) :
    ∃ bottom, layers.head? = some bottom ∧
      let chain : Chain ι := ⟨layers, d⟩
      let built := chain.build k refuse side address p
      built.Fits ∧
      built.lookups =
        (if bottom.category.isTransport then []
        else if bottom.category.takes = .stream then [.streamConn] else [.packetConn]) ∧
      built.lookups.map BuildStep.lookup <+: built.steps ∧
      built.parts <+: built.lookups.flatMap (chain.site k refuse side p).defaultParts ++
        layers.map (ownPart p) ∧
      ∀ kind, let typed := chain.buildFor kind k refuse side address p
        typed.Fits ∧
        (∃ top, typed.steps = built.steps ++ top ∧
          (top.filterMap BuildStep.lookup?).length ≤ 1) ∧
        ∀ (k' : Catalogue ι) (d' : DefaultNames),
          (∀ slot ∈ typed.lookups, (Defaults.mk k d).find slot = (Defaults.mk k' d').find slot) →
          (Chain.mk layers d').buildFor kind k' refuse side address p = typed := by
  obtain ⟨bottom, rest, rfl, stacked⟩ := stacked_of_resolve resolved
  refine ⟨bottom, rfl, ?_⟩
  intro chain built
  let s : BuildSite ι := chain.site k refuse side p
  have honest : s.Honest := honest
  -- What the bottom makes has the shape on which the other layers are stacked.
  have upper {r : Representation ι}
      (hr : (s.apply bottom.category bottom.implementation (p.seenBy bottom.sectionName)
        (.address address)).result = .ok r) : Stacked r.shape rest := by
    rw [s.shape_of_apply hr]
    exact stacked
  have floor : (s.apply bottom.category bottom.implementation (p.seenBy bottom.sectionName)
      (.address address)).lookups = (Shape.address.bridge? bottom.category.takes).toList :=
    s.lookups_apply _ _ _ _
  have layered : built = s.apply bottom.category bottom.implementation
      (p.seenBy bottom.sectionName) (.address address) >>= applyLayers s p rest :=
    applyLayers_cons s p bottom rest (.address address)
  have lookups : built.lookups = (Shape.address.bridge? bottom.category.takes).toList := by
    rw [← floor, layered]
    exact Build.lookups_bind_of_nil fun r hr => lookups_of_stacked s p (upper hr)
  have fits : built.Fits := by
    rw [layered]
    exact (honest.fits_apply bottom.implementation _ fun _ => rfl).bind
      fun r hr => fits_of_stacked p honest (upper hr)
  have follows : built.Follows
      (s.bridgeParts .address bottom.category.takes ++ [ownPart p bottom] ++
        rest.map (ownPart p)) := by
    rw [layered]
    exact (s.follows_apply _ _ _ _).bind fun r hr => follows_of_stacked s p (upper hr)
  have parts : s.bridgeParts .address bottom.category.takes =
      built.lookups.flatMap s.defaultParts := by
    rw [lookups, BuildSite.bridgeParts]
    cases Shape.address.bridge? bottom.category.takes <;> simp
  refine ⟨fits, ?_, ?_, ?_, ?_⟩
  · rw [lookups]
    cases bottom.category <;> rfl
  · rw [lookups, ← floor, layered]
    exact (lookups_first s _ _ _ _).trans (Build.steps_prefix_bind _ _)
  · rw [← parts]
    simpa only [List.append_assoc, List.singleton_append, List.map_cons] using follows.isPrefix
  · intro kind typed
    refine ⟨?_, ?_, fun k' d' => buildFor_congr _ d d' kind k k' refuse side address p⟩
    · refine fits.bind fun r hr => fits_finish honest kind ?_
      rw [shape_of_applyLayers s p (bottom :: rest) hr]
      exact topShape_ne_address bottom.category.gives_ne_address rest
    · have joined : typed = (built >>= finish s kind) := rfl
      cases hb : built.result with
      | error e =>
          refine ⟨[], ?_, Nat.zero_le 1⟩
          rw [joined, Build.bind_of_error hb, List.append_nil]
      | ok r =>
          refine ⟨(finish s kind r).steps, ?_, ?_⟩
          · rw [joined, Build.bind_of_ok hb]
          · change (finish s kind r).lookups.length ≤ 1
            rw [lookups_finish]
            cases kind.bridge? r.shape <;> simp

/-- A chain of an obfuscator of streams with an adapter to packets on it, dialed on the default
transport of streams. -/
theorem enforced_chain_defaults_tls_spos :
    let k := (Catalogue.new.register .streamObfuscator "tls" ()).register .packetAdapter "spos" ()
    let layers : List (Layer Unit) :=
      [⟨"tls", .streamObfuscator, (), 0⟩, ⟨"spos", .packetAdapter, (), 0⟩]
    Layer.resolve k true true ["tls", "spos"] = .ok layers ∧
      (∀ c need available, (fun _ : Call Unit => none) c ≠
        some (TransportError.invalidChainingResult need available)) ∧
      ((Chain.mk layers .standard).build k (fun _ => none) .dial "here" .empty).lookups =
        [.streamConn] := by
  intro k layers
  have resolved : Layer.resolve k true true ["tls", "spos"] = .ok layers := rfl
  have honest : ∀ c need available, (fun _ : Call Unit => none) c ≠
      some (TransportError.invalidChainingResult need available) := fun _ _ _ h => nomatch h
  refine ⟨resolved, honest, ?_⟩
  obtain ⟨bottom, first, _, lookups, _⟩ := enforced_chain_defaults k true ["tls", "spos"] layers
    resolved .standard k (fun _ => none) honest .dial "here" .empty
  cases first
  exact lookups

end Chain

end TransportStack
