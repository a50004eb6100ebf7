import TransportStack.Proofs.Chain.Lookups

/-!
Chains whose neighbours nobody has checked, where every default is there and no implementation
refuses. Something then leads from whatever there is to packets and to streams, and nothing leads
back to an address. So a build fails exactly when there is a transport above the bottom, and it fails
at the lowest one.
-/

namespace TransportStack

namespace Build

variable {ι α β : Type}

def Succeeds (b : Build ι α) : Prop := ∃ a, b.result = .ok a

theorem succeeds_pure (a : α) : (Pure.pure a : Build ι α).Succeeds := ⟨a, rfl⟩

theorem Succeeds.bind {b : Build ι α} (hb : b.Succeeds) {f : α → Build ι β}
    (hf : ∀ a, (f a).Succeeds) : (b >>= f).Succeeds := by
  obtain ⟨a, ha⟩ := hb
  obtain ⟨c, hc⟩ := hf a
  exact ⟨c, by rw [bind_of_ok ha, hc]⟩

theorem Succeeds.map {b : Build ι α} (hb : b.Succeeds) (f : α → β) :
    (b >>= fun a => Pure.pure (f a)).Succeeds :=
  hb.bind fun a => succeeds_pure (f a)

end Build

namespace BuildSite

variable {ι : Type}

/-- Every default can be found, and no call is refused. -/
structure Provides (s : BuildSite ι) : Prop where
  finds : ∀ slot, ∃ i, s.defaults.find slot = .ok i
  admits : ∀ call, s.refuse call = none

namespace Provides

variable {s : BuildSite ι} (h : s.Provides)

include h

theorem default (slot : DefaultSlot) : (s.default slot).Succeeds := h.finds slot

theorem construct (call : Call ι) : (s.construct call).Succeeds :=
  ⟨call.recipe, by simp only [BuildSite.construct, ask, Build.attempt, h.admits]⟩

theorem bound (c : Category) (i : ι) (address : String) (p : Parameters) :
    (s.bound c i address p).Succeeds := by
  rw [bound_eq]
  exact h.construct _

theorem onTop (c : Category) (i : ι) (p : Parameters) (r : Recipe ι) :
    (s.onTop c i p r).Succeeds := by
  rw [onTop_eq]
  exact h.construct _

theorem defaultBound (slot : DefaultSlot) (address : String) :
    (s.defaultBound slot address).Succeeds :=
  (h.default slot).bind fun i => h.bound slot.category i address s.common

theorem defaultOnTop (slot : DefaultSlot) {input : Build ι (Recipe ι)} (hi : input.Succeeds) :
    (s.defaultOnTop slot input).Succeeds :=
  (h.default slot).bind fun i => hi.bind fun r => h.onTop slot.category i s.common r

theorem toPacket (r : Representation ι) : (s.toPacket r).Succeeds := by
  cases r with
  | address a => exact h.defaultBound .packetConn a
  | packet r => exact Build.succeeds_pure r
  | stream r => exact h.defaultOnTop .packetAdapter (Build.succeeds_pure r)
  | muxed r => exact h.defaultOnTop .packetAdapter ⟨_, rfl⟩

theorem toStream (r : Representation ι) : (s.toStream r).Succeeds := by
  cases r with
  | address a => exact h.defaultBound .streamConn a
  | packet r => exact h.defaultOnTop .streamAdapter (Build.succeeds_pure r)
  | stream r => exact Build.succeeds_pure r
  | muxed r => exact ⟨_, rfl⟩

theorem toMuxed {r : Representation ι} (made : r.shape ≠ .address) : (s.toMuxed r).Succeeds := by
  cases r with
  | address a => exact absurd rfl made
  | packet r => exact h.defaultOnTop .packetSolution (Build.succeeds_pure r)
  | stream r => exact h.defaultOnTop .streamSolution (Build.succeeds_pure r)
  | muxed r => exact Build.succeeds_pure r

/-- Only a transport cannot be put on everything. -/
theorem apply {c : Category} (i : ι) (p : Parameters) {r : Representation ι}
    (fits : c.isTransport = false ∨ r.shape = .address) : (s.apply c i p r).Succeeds := by
  unfold BuildSite.apply
  cases takes : c.takes with
  | address =>
      have unmade : r.shape = .address := by simpa [Category.isTransport, takes] using fits
      obtain ⟨a, rfl⟩ : ∃ a, r = .address a := by
        cases r with
        | address a => exact ⟨a, rfl⟩
        | packet r | stream r | muxed r => cases unmade
      exact (Build.succeeds_pure a).bind fun a => (h.bound c i a p).map _
  | packet => exact (h.toPacket r).bind fun r => (h.onTop c i p r).map _
  | stream | muxed => exact (h.toStream r).bind fun r => (h.onTop c i p r).map _

end Provides

/-- A transport cannot be put on anything but the address. -/
theorem result_apply_transport (s : BuildSite ι) {c : Category} (transport : c.isTransport = true)
    (i : ι) (p : Parameters) {r : Representation ι} (made : r.shape ≠ .address) :
    (s.apply c i p r).result = .error (.invalidChainingResult .address r.shape) := by
  have takes : c.takes = .address := by simpa [Category.isTransport] using transport
  simp only [apply, takes]
  cases r with
  | address a => exact absurd rfl made
  | packet r | stream r | muxed r => rfl

end BuildSite

namespace Chain

variable {ι : Type}

/-- The lowest transport above the bottom of a chain, and the layer directly beneath it. -/
def IsLowestTransport (layers : List (Layer ι)) (below l : Layer ι) : Prop :=
  ∃ beneath above, layers = beneath ++ below :: l :: above ∧ l.category.isTransport = true ∧
    ∀ l' ∈ (beneath ++ [below]).tail, l'.category.isTransport = false

theorem IsLowestTransport.isTransport {layers : List (Layer ι)} {below l : Layer ι}
    (lowest : IsLowestTransport layers below l) : l.category.isTransport = true := by
  obtain ⟨-, -, -, transport, -⟩ := lowest
  exact transport

theorem IsLowestTransport.mem_tail {layers : List (Layer ι)} {below l : Layer ι}
    (lowest : IsLowestTransport layers below l) : l ∈ layers.tail := by
  obtain ⟨beneath, above, rfl, -, -⟩ := lowest
  cases beneath <;> simp

theorem exists_isLowestTransport {layers : List (Layer ι)}
    (some_transport : ∃ l ∈ layers.tail, l.category.isTransport = true) :
    ∃ below l, IsLowestTransport layers below l := by
  cases layers with
  | nil =>
      obtain ⟨l, hl, -⟩ := some_transport
      cases hl
  | cons bottom rest =>
      rw [List.tail_cons] at some_transport
      have found : (rest.find? fun l => l.category.isTransport).isSome = true :=
        List.find?_isSome.2 some_transport
      obtain ⟨l, found⟩ := Option.isSome_iff_exists.1 found
      obtain ⟨transport, beneath, above, rfl, none_beneath⟩ := List.find?_eq_some_iff_append.1 found
      have none_beneath : ∀ l' ∈ beneath, l'.category.isTransport = false := by
        simpa using none_beneath
      obtain rfl | ⟨lower, below, rfl⟩ := List.eq_nil_or_concat beneath
      · exact ⟨bottom, l, [], above, rfl, transport, none_beneath⟩
      · refine ⟨below, l, bottom :: lower, above, by simp [List.concat_eq_append], transport, ?_⟩
        simpa [List.concat_eq_append] using none_beneath

theorem topShape_concat (available : Shape) (ls : List (Layer ι)) (l : Layer ι) :
    topShape available (ls ++ [l]) = l.category.gives := by
  induction ls generalizing available with
  | nil => rfl
  | cons l' ls ih => exact ih l'.category.gives

section

variable {s : BuildSite ι} (h : s.Provides) (p : Parameters)

include h

theorem succeeds_applyLayers {ls : List (Layer ι)}
    (upper : ∀ l ∈ ls, l.category.isTransport = false) (r : Representation ι) :
    (applyLayers s p ls r).Succeeds := by
  induction ls generalizing r with
  | nil => rw [applyLayers_nil]; exact Build.succeeds_pure r
  | cons l ls ih =>
      have first := h.apply l.implementation (p.seenBy l.sectionName) (r := r)
        (.inl (upper l List.mem_cons_self))
      rw [applyLayers_cons]
      exact first.bind fun r => ih (fun l' hl' => upper l' (List.mem_cons_of_mem _ hl')) r

/-- The lowest transport on what has been made finds what the layers beneath it have made. -/
theorem result_applyLayers_transport (beneath : List (Layer ι))
    (upper : ∀ l ∈ beneath, l.category.isTransport = false) {l : Layer ι}
    (transport : l.category.isTransport = true) (above : List (Layer ι)) {r : Representation ι}
    (made : r.shape ≠ .address) :
    (applyLayers s p (beneath ++ l :: above) r).result =
      .error (.invalidChainingResult .address (topShape r.shape beneath)) := by
  induction beneath generalizing r with
  | nil =>
      have failed := s.result_apply_transport transport l.implementation
        (p.seenBy l.sectionName) made
      rw [List.nil_append, applyLayers_cons, Build.bind_of_error failed]
      rfl
  | cons l' beneath ih =>
      obtain ⟨r', hr'⟩ := h.apply l'.implementation (p.seenBy l'.sectionName) (r := r)
        (.inl (upper l' List.mem_cons_self))
      have shape : r'.shape = l'.category.gives := s.shape_of_apply hr'
      have rest := ih (r := r') (fun l hl => upper l (List.mem_cons_of_mem _ hl))
        (by rw [shape]; exact l'.category.gives_ne_address)
      rw [List.cons_append, applyLayers_cons, Build.bind_of_ok hr', rest, shape]
      rfl

/-- The bottom is put on the address, whatever it is. -/
theorem result_applyLayers_cons (bottom : Layer ι) (rest : List (Layer ι)) (address : String) :
    ∃ r : Representation ι, r.shape = bottom.category.gives ∧
      (applyLayers s p (bottom :: rest) (.address address)).result =
        (applyLayers s p rest r).result := by
  obtain ⟨r, first⟩ := h.apply (c := bottom.category) bottom.implementation
    (p.seenBy bottom.sectionName) (r := .address address) (.inr rfl)
  exact ⟨r, s.shape_of_apply first, by rw [applyLayers_cons, Build.bind_of_ok first]⟩

theorem succeeds_layers {layers : List (Layer ι)}
    (upper : ∀ l ∈ layers.tail, l.category.isTransport = false) (address : String) :
    (applyLayers s p layers (.address address)).Succeeds := by
  cases layers with
  | nil => rw [applyLayers_nil]; exact Build.succeeds_pure _
  | cons bottom rest =>
      obtain ⟨r, -, same⟩ := result_applyLayers_cons h p bottom rest address
      obtain ⟨r', made⟩ := succeeds_applyLayers h p upper r
      exact ⟨r', same.trans made⟩

theorem result_layers_of_isLowestTransport {layers : List (Layer ι)} {below l : Layer ι}
    (lowest : IsLowestTransport layers below l) (address : String) :
    (applyLayers s p layers (.address address)).result =
      .error (.invalidChainingResult .address below.category.gives) := by
  obtain ⟨beneath, above, rfl, transport, upper⟩ := lowest
  cases beneath with
  | nil =>
      obtain ⟨r, shape, same⟩ := result_applyLayers_cons h p below (l :: above) address
      have made : r.shape ≠ .address := by
        rw [shape]
        exact below.category.gives_ne_address
      rw [List.nil_append, same, ← shape]
      exact result_applyLayers_transport h p [] (fun _ h => absurd h List.not_mem_nil) transport
        above made
  | cons bottom lower =>
      obtain ⟨r, shape, same⟩ :=
        result_applyLayers_cons h p bottom (lower ++ below :: l :: above) address
      have made : r.shape ≠ .address := by
        rw [shape]
        exact bottom.category.gives_ne_address
      have failed := result_applyLayers_transport h p (lower ++ [below]) upper transport above made
      rw [topShape_concat, List.append_assoc] at failed
      exact same.trans failed

/-- The only failure there can be is that of the lowest transport. -/
theorem result_layers_eq_error_iff (layers : List (Layer ι)) (address : String)
    (e : TransportError) :
    (applyLayers s p layers (.address address)).result = .error e ↔
      ∃ below l, IsLowestTransport layers below l ∧
        e = .invalidChainingResult .address below.category.gives := by
  constructor
  · intro failed
    have some_transport : ∃ l ∈ layers.tail, l.category.isTransport = true := by
      refine Classical.byContradiction fun none_there => ?_
      obtain ⟨r, made⟩ := succeeds_layers h p
        (fun l hl => Bool.eq_false_iff.2 fun transport => none_there ⟨l, hl, transport⟩) address
      cases failed.symm.trans made
    obtain ⟨below, l, lowest⟩ := exists_isLowestTransport some_transport
    cases failed.symm.trans (result_layers_of_isLowestTransport h p lowest address)
    exact ⟨below, l, lowest, rfl⟩
  · rintro ⟨below, l, lowest, rfl⟩
    exact result_layers_of_isLowestTransport h p lowest address

theorem succeeds_finish (kind : ChainKind) {r : Representation ι} (made : r.shape ≠ .address) :
    (finish s kind r).Succeeds := by
  cases kind with
  | generic => rw [finish_generic]; exact Build.succeeds_pure r
  | packet => rw [finish_packet]; exact (h.toPacket r).map _
  | stream => rw [finish_stream]; exact (h.toStream r).map _
  | muxed => rw [finish_muxed]; exact (h.toMuxed made).map _

end

theorem shape_of_finish {s : BuildSite ι} {kind : ChainKind} {r r' : Representation ι}
    (h : (finish s kind r).result = .ok r') {shape : Shape} (asked : kind.shape? = some shape) :
    r'.shape = shape := by
  cases kind with
  | generic => cases asked
  | packet | stream | muxed =>
      cases asked
      simp only [finish_packet, finish_stream, finish_muxed] at h
      obtain ⟨_, -, made⟩ := Build.bind_result_ok h
      cases made
      rfl

/-- Where every default is registered and no implementation refuses, a chain is built unless there is
a transport above its bottom. Then the build fails because the lowest such transport needs the
address, and what there is comes from the layer beneath it. Otherwise there is what the top gives,
and the same layers can be built for any kind of producer. -/
theorem permissive_build_fails_iff (layers : List (Layer ι)) (some_layer : layers ≠ [])
    (d : DefaultNames) (k : Catalogue ι) (refuse : Call ι → Option TransportError)
    (registered : ∀ slot, (k.find? slot.category (d.name slot)).isSome = true)
    (admitted : ∀ call, refuse call = none) (side : Side) (address : String) (p : Parameters) :
    let chain : Chain ι := ⟨layers, d⟩
    let built := chain.build k refuse side address p
    ((∃ e, built.result = .error e) ↔ ∃ l ∈ layers.tail, l.category.isTransport = true) ∧
      (∀ e, built.result = .error e ↔ ∃ below l, IsLowestTransport layers below l ∧
        e = .invalidChainingResult .address below.category.gives) ∧
      ((∀ l ∈ layers.tail, l.category.isTransport = false) →
        ∃ top r, layers.getLast? = some top ∧ built.result = .ok r ∧
          r.shape = top.category.gives ∧
          ∀ kind, ∃ r', (chain.buildFor kind k refuse side address p).result = .ok r' ∧
            ∀ shape, kind.shape? = some shape → r'.shape = shape) := by
  intro chain built
  let s : BuildSite ι := chain.site k refuse side p
  have provides : s.Provides := by
    refine ⟨fun slot => ?_, admitted⟩
    obtain ⟨i, found⟩ := Option.isSome_iff_exists.1 (registered slot)
    refine ⟨i, ?_⟩
    change (Defaults.mk k d).find slot = .ok i
    simp only [Defaults.find, found]
  have fails (e : TransportError) : built.result = .error e ↔
      ∃ below l, IsLowestTransport layers below l ∧
        e = .invalidChainingResult .address below.category.gives :=
    result_layers_eq_error_iff provides p layers address e
  refine ⟨⟨?_, ?_⟩, fails, fun upper => ?_⟩
  · rintro ⟨e, failed⟩
    obtain ⟨below, l, lowest, -⟩ := (fails e).1 failed
    exact ⟨l, lowest.mem_tail, lowest.isTransport⟩
  · intro some_transport
    obtain ⟨below, l, lowest⟩ := exists_isLowestTransport some_transport
    exact ⟨_, (fails _).2 ⟨below, l, lowest, rfl⟩⟩
  · obtain ⟨r, hr⟩ : built.Succeeds := succeeds_layers provides p upper address
    obtain ⟨lower, top, split⟩ := (List.eq_nil_or_concat layers).resolve_left some_layer
    rw [List.concat_eq_append] at split
    have shape : r.shape = top.category.gives := by
      have reached := shape_of_applyLayers s p layers (r := .address address) hr
      rw [reached, split, topShape_concat]
    have made : r.shape ≠ .address := by
      rw [shape]
      exact top.category.gives_ne_address
    refine ⟨top, r, by rw [split, List.getLast?_concat], hr, shape, fun kind => ?_⟩
    obtain ⟨r', hr'⟩ := succeeds_finish provides kind made
    refine ⟨r', ?_, fun _ => shape_of_finish hr'⟩
    change (built >>= finish s kind).result = .ok r'
    rw [Build.bind_of_ok hr, hr']

/-- Streams transformed over the default transport, packets over them, and then a transport. -/
theorem permissive_build_fails_iff_tcp_above :
    let k : Catalogue Unit := DefaultSlot.all.foldl
      (fun k slot => k.register slot.category (DefaultNames.standard.name slot) ()) .new
    let tls : Layer Unit := ⟨"tls", .streamObfuscator, (), 0⟩
    let spos : Layer Unit := ⟨"spos", .packetAdapter, (), 0⟩
    let tcp : Layer Unit := ⟨"tcp", .streamConn, (), 0⟩
    [tls, spos, tcp] ≠ [] ∧
      (∀ slot : DefaultSlot,
        (k.find? slot.category (DefaultNames.standard.name slot)).isSome = true) ∧
      (∀ call, (fun _ : Call Unit => (none : Option TransportError)) call = none) ∧
      ((Chain.mk [tls, spos, tcp] .standard).build k (fun _ => none) .dial "here" .empty).result =
        .error (.invalidChainingResult .address .packet) := by
  intro k tls spos tcp
  have registered : ∀ slot : DefaultSlot,
      (k.find? slot.category (DefaultNames.standard.name slot)).isSome = true := by
    intro slot
    cases slot <;> rfl
  have some_layer : [tls, spos, tcp] ≠ [] := List.cons_ne_nil _ _
  have admitted : ∀ call, (fun _ : Call Unit => (none : Option TransportError)) call = none :=
    fun _ => rfl
  have lowest : IsLowestTransport [tls, spos, tcp] spos tcp :=
    ⟨[tls], [], rfl, rfl, by simp [spos, Category.isTransport, Category.takes]⟩
  obtain ⟨-, fails, -⟩ := permissive_build_fails_iff [tls, spos, tcp] some_layer .standard k
    (fun _ => none) registered admitted .dial "here" .empty
  exact ⟨some_layer, registered, admitted, (fails _).2 ⟨spos, tcp, lowest, rfl⟩⟩

end Chain

end TransportStack
