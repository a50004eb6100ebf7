import TransportStack.Proofs.Chain.Bridge

/-!
A build depends on the defaults only through those that it looks up: it is the same, with the same
record, for all catalogues and names that agree on them. This holds of chains of any layers.
-/

namespace TransportStack

namespace BuildSite

variable {ι : Type} (s : BuildSite ι) (d : Defaults ι)

theorem default_congr {slot : DefaultSlot} (h : s.defaults.find slot = d.find slot) :
    s.default slot = { s with defaults := d }.default slot := by
  simp only [default, h]

theorem defaultBound_congr {slot : DefaultSlot} (h : s.defaults.find slot = d.find slot)
    (a : String) : s.defaultBound slot a = { s with defaults := d }.defaultBound slot a := by
  simp only [defaultBound, s.default_congr d h]
  rfl

theorem defaultOnTop_congr {slot : DefaultSlot} (h : s.defaults.find slot = d.find slot)
    (input : Build ι (Recipe ι)) :
    s.defaultOnTop slot input = { s with defaults := d }.defaultOnTop slot input := by
  simp only [defaultOnTop, s.default_congr d h]
  rfl

theorem toPacket_congr {r : Representation ι}
    (h : ∀ slot ∈ r.shape.bridge? .packet, s.defaults.find slot = d.find slot) :
    s.toPacket r = { s with defaults := d }.toPacket r := by
  cases r with
  | address a => exact s.defaultBound_congr d (h _ rfl) a
  | packet r => rfl
  | stream r => exact s.defaultOnTop_congr d (h _ rfl) _
  | muxed r => exact s.defaultOnTop_congr d (h _ rfl) _

theorem toStream_congr {r : Representation ι}
    (h : ∀ slot ∈ r.shape.bridge? .stream, s.defaults.find slot = d.find slot) :
    s.toStream r = { s with defaults := d }.toStream r := by
  cases r with
  | address a => exact s.defaultBound_congr d (h _ rfl) a
  | packet r => exact s.defaultOnTop_congr d (h _ rfl) _
  | stream r => rfl
  | muxed r => rfl

theorem toMuxed_congr {r : Representation ι}
    (h : ∀ slot ∈ r.shape.bridge? .muxed, s.defaults.find slot = d.find slot) :
    s.toMuxed r = { s with defaults := d }.toMuxed r := by
  cases r with
  | address a => rfl
  | packet r => exact s.defaultOnTop_congr d (h _ rfl) _
  | stream r => exact s.defaultOnTop_congr d (h _ rfl) _
  | muxed r => rfl

theorem apply_congr {c : Category} (i : ι) (p : Parameters) {r : Representation ι}
    (h : ∀ slot ∈ r.shape.bridge? c.takes, s.defaults.find slot = d.find slot) :
    s.apply c i p r = { s with defaults := d }.apply c i p r := by
  have never := c.takes_ne_muxed
  unfold apply
  cases hc : c.takes with
  | address => rfl
  | packet =>
      rw [hc] at h
      simp only [s.toPacket_congr d h]
      rfl
  | stream =>
      rw [hc] at h
      simp only [s.toStream_congr d h]
      rfl
  | muxed => exact absurd hc never

end BuildSite

namespace Chain

variable {ι : Type}

theorem lookups_finish (s : BuildSite ι) (kind : ChainKind) (r : Representation ι) :
    (finish s kind r).lookups = (kind.bridge? r.shape).toList := by
  cases kind with
  | generic => rw [finish_generic]; rfl
  | packet => rw [finish_packet, Build.lookups_bind_of_nil fun _ _ => rfl, s.lookups_toPacket]; rfl
  | stream => rw [finish_stream, Build.lookups_bind_of_nil fun _ _ => rfl, s.lookups_toStream]; rfl
  | muxed => rw [finish_muxed, Build.lookups_bind_of_nil fun _ _ => rfl, s.lookups_toMuxed]; rfl

theorem finish_congr (s : BuildSite ι) (d : Defaults ι) (kind : ChainKind)
    {r : Representation ι}
    (h : ∀ slot ∈ kind.bridge? r.shape, s.defaults.find slot = d.find slot) :
    finish s kind r = finish { s with defaults := d } kind r := by
  cases kind with
  | generic => rw [finish_generic, finish_generic]
  | packet => rw [finish_packet, finish_packet, s.toPacket_congr d h]
  | stream => rw [finish_stream, finish_stream, s.toStream_congr d h]
  | muxed => rw [finish_muxed, finish_muxed, s.toMuxed_congr d h]

/-- The layers and the last conversion are the same for all defaults with the same finds where
something is looked up. -/
theorem applyLayers_finish_congr (s : BuildSite ι) (d : Defaults ι) (kind : ChainKind)
    (p : Parameters) (ls : List (Layer ι)) (r : Representation ι)
    (h : ∀ slot ∈ (applyLayers s p ls r >>= finish s kind).lookups,
      s.defaults.find slot = d.find slot) :
    (applyLayers s p ls r >>= finish s kind) =
      (applyLayers { s with defaults := d } p ls r >>= finish { s with defaults := d } kind) := by
  induction ls generalizing r with
  | nil =>
      simp only [applyLayers_nil, pure_bind, lookups_finish] at h ⊢
      exact finish_congr s d kind fun slot hs => h slot (Option.mem_toList.2 hs)
  | cons l ls ih =>
      simp only [applyLayers_cons, bind_assoc] at h ⊢
      have first := s.apply_congr d l.implementation (p.seenBy l.sectionName) (r := r)
        (c := l.category) (by
          intro slot hs
          apply h slot
          apply Build.mem_lookups_bind
          rw [s.lookups_apply]
          exact Option.mem_toList.2 hs)
      rw [← first]
      apply Build.bind_congr
      intro r' hr'
      rw [Build.lookups_bind_of_ok hr'] at h
      exact ih r' fun slot hs => h slot (List.mem_append_right _ hs)

def topShape : Shape → List (Layer ι) → Shape
  | available, [] => available
  | _, l :: ls => topShape l.category.gives ls

theorem shape_of_applyLayers (s : BuildSite ι) (p : Parameters) (ls : List (Layer ι))
    {r r' : Representation ι} (h : (applyLayers s p ls r).result = .ok r') :
    r'.shape = topShape r.shape ls := by
  induction ls generalizing r with
  | nil =>
      rw [applyLayers_nil] at h
      cases h
      rfl
  | cons l ls ih =>
      rw [applyLayers_cons] at h
      obtain ⟨r₁, h₁, h⟩ := Build.bind_result_ok h
      rw [ih h, s.shape_of_apply h₁]
      rfl

/-- A build is the same for another catalogue and other names that agree with its own ones on what
it looks up. -/
theorem buildFor_congr (layers : List (Layer ι)) (d d' : DefaultNames) (kind : ChainKind)
    (k k' : Catalogue ι) (refuse : Call ι → Option TransportError) (side : Side)
    (address : String) (p : Parameters)
    (h : ∀ slot ∈ ((Chain.mk layers d).buildFor kind k refuse side address p).lookups,
      (Defaults.mk k d).find slot = (Defaults.mk k' d').find slot) :
    (Chain.mk layers d').buildFor kind k' refuse side address p =
      (Chain.mk layers d).buildFor kind k refuse side address p :=
  (applyLayers_finish_congr _ ⟨k', d'⟩ kind p layers (.address address) h).symm

end Chain

end TransportStack
