import TransportStack.Proofs.Chain.Lookups
import TransportStack.Proofs.Chain.Resolved
import TransportStack.Proofs.Parameters.Sections

/-!
Chains with their defaults written out. A default that a conversion puts in makes what a layer of
its name makes: the chain in which the names of all such defaults are written out asks the same of
the same implementations, in the same order, puts in the same demultiplexers, and ends in the same
way. Only the look-ups are gone from the record. A default with an empty name cannot be written out.
-/

namespace TransportStack

namespace BuildSite

variable {ι : Type} {s : BuildSite ι}

theorem quiet_default {slot : DefaultSlot} {i : ι} (h : s.defaults.find slot = .ok i) :
    (s.default slot).quiet = pure i := by
  simp only [default, Build.attempt, h]
  rfl

theorem quiet_of_default {α : Type} {slot : DefaultSlot} {i : ι}
    (h : s.defaults.find slot = .ok i) {f : ι → Build ι α} (quiet : (f i).lookups = []) :
    (s.default slot >>= f).quiet = f i := by
  rw [Build.quiet_bind, quiet_default h, pure_bind, Build.quiet_eq_self quiet]

theorem quiet_defaultBound {slot : DefaultSlot} {i : ι} (h : s.defaults.find slot = .ok i)
    (a : String) : (s.defaultBound slot a).quiet = s.bound slot.category i a s.common :=
  quiet_of_default h rfl

theorem quiet_defaultOnTop {slot : DefaultSlot} {i : ι} (h : s.defaults.find slot = .ok i)
    {input : Build ι (Recipe ι)} (quiet : input.lookups = []) :
    (s.defaultOnTop slot input).quiet = input >>= s.onTop slot.category i s.common :=
  quiet_of_default h ((Build.lookups_bind_of_nil fun _ _ => rfl).trans quiet)

theorem quiet_toPacket {slot : DefaultSlot} {i : ι} (h : s.defaults.find slot = .ok i)
    {r : Representation ι} (hr : r.shape.bridge? .packet = some slot) :
    (s.toPacket r).quiet = s.apply slot.category i s.common r >>= s.toPacket := by
  cases r with
  | packet r => cases hr
  | address a =>
      cases hr
      rw [toPacket, quiet_defaultBound h]
      simp [apply, DefaultSlot.category, Category.takes, toAddress, Representation.ofRecipe,
        Category.gives, toPacket]
  | stream r =>
      cases hr
      rw [toPacket, quiet_defaultOnTop h rfl]
      simp [apply, DefaultSlot.category, Category.takes, toStream, Representation.ofRecipe,
        Category.gives, toPacket]
  | muxed r =>
      cases hr
      rw [toPacket, quiet_defaultOnTop h rfl]
      simp [apply, DefaultSlot.category, Category.takes, toStream, Representation.ofRecipe,
        Category.gives, toPacket]

theorem quiet_toStream {slot : DefaultSlot} {i : ι} (h : s.defaults.find slot = .ok i)
    {r : Representation ι} (hr : r.shape.bridge? .stream = some slot) :
    (s.toStream r).quiet = s.apply slot.category i s.common r >>= s.toStream := by
  cases r with
  | stream r | muxed r => cases hr
  | address a =>
      cases hr
      rw [toStream, quiet_defaultBound h]
      simp [apply, DefaultSlot.category, Category.takes, toAddress, Representation.ofRecipe,
        Category.gives, toStream]
  | packet r =>
      cases hr
      rw [toStream, quiet_defaultOnTop h rfl]
      simp [apply, DefaultSlot.category, Category.takes, toPacket, Representation.ofRecipe,
        Category.gives, toStream]

theorem quiet_toMuxed {slot : DefaultSlot} {i : ι} (h : s.defaults.find slot = .ok i)
    {r : Representation ι} (hr : r.shape.bridge? .muxed = some slot) :
    (s.toMuxed r).quiet = s.apply slot.category i s.common r >>= s.toMuxed := by
  cases r with
  | address a | muxed r => cases hr
  | stream r =>
      cases hr
      rw [toMuxed, quiet_defaultOnTop h rfl]
      simp [apply, DefaultSlot.category, Category.takes, toStream, Representation.ofRecipe,
        Category.gives, toMuxed]
  | packet r =>
      cases hr
      rw [toMuxed, quiet_defaultOnTop h rfl]
      simp [apply, DefaultSlot.category, Category.takes, toPacket, Representation.ofRecipe,
        Category.gives, toMuxed]

/-- A conversion that is the layer of a default followed by the same conversion is so also with
something after it that looks nothing up. -/
private theorem quiet_then {α : Type} {convert : Representation ι → Build ι (Recipe ι)}
    {r : Representation ι} {layer : Build ι (Representation ι)}
    (h : (convert r).quiet = layer >>= convert) {f : Recipe ι → Build ι α}
    (hf : ∀ x, (f x).lookups = []) :
    (convert r >>= f).quiet = layer >>= fun r => convert r >>= f := by
  rw [Build.quiet_bind, h, bind_assoc]
  simp only [Build.quiet_eq_self (hf _)]

/-- Putting a layer on top where a default is needed is putting the default there first. -/
theorem quiet_apply {c : Category} {slot : DefaultSlot} {j : ι}
    (h : s.defaults.find slot = .ok j) (i : ι) (p : Parameters) {r : Representation ι}
    (hr : r.shape.bridge? c.takes = some slot) :
    (s.apply c i p r).quiet = s.apply slot.category j s.common r >>= s.apply c i p := by
  have kept (x : Recipe ι) : (s.onTop c i p x >>= fun r =>
      Pure.pure (Representation.ofRecipe c r)).lookups = [] :=
    Build.lookups_bind_of_nil fun _ _ => rfl
  cases hc : c.takes with
  | address => rw [hc] at hr; cases hr
  | packet =>
      rw [hc] at hr
      have unfolded : s.apply c i p = fun r => s.toPacket r >>= fun r =>
          s.onTop c i p r >>= fun r => Pure.pure (Representation.ofRecipe c r) := by
        funext r
        simp only [apply, hc]
      rw [unfolded]
      exact quiet_then (quiet_toPacket h hr) kept
  | stream =>
      rw [hc] at hr
      have unfolded : s.apply c i p = fun r => s.toStream r >>= fun r =>
          s.onTop c i p r >>= fun r => Pure.pure (Representation.ofRecipe c r) := by
        funext r
        simp only [apply, hc]
      rw [unfolded]
      exact quiet_then (quiet_toStream h hr) kept
  | muxed => exact absurd hc c.takes_ne_muxed

end BuildSite

namespace Chain

variable {ι : Type} {s : BuildSite ι}

theorem quiet_finish {kind : ChainKind} {slot : DefaultSlot} {j : ι}
    (h : s.defaults.find slot = .ok j) {r : Representation ι}
    (hr : kind.bridge? r.shape = some slot) :
    (finish s kind r).quiet = s.apply slot.category j s.common r >>= finish s kind := by
  cases kind with
  | generic => cases hr
  | packet =>
      rw [show finish s .packet = _ from funext (finish_packet s)]
      exact BuildSite.quiet_then (BuildSite.quiet_toPacket h hr) fun _ => rfl
  | stream =>
      rw [show finish s .stream = _ from funext (finish_stream s)]
      exact BuildSite.quiet_then (BuildSite.quiet_toStream h hr) fun _ => rfl
  | muxed =>
      rw [show finish s .muxed = _ from funext (finish_muxed s)]
      exact BuildSite.quiet_then (BuildSite.quiet_toMuxed h hr) fun _ => rfl

/-- The places at which the conversions of a chain put in defaults, from the bottom upwards. -/
def inserted (kind : ChainKind) : Shape → List (Layer ι) → List DefaultSlot
  | available, [] => (kind.bridge? available).toList
  | available, l :: ls =>
      (available.bridge? l.category.takes).toList ++ inserted kind l.category.gives ls

/-- The names of a chain in which the defaults are written out. -/
def writtenOut (d : DefaultNames) (kind : ChainKind) : Shape → List (Layer ι) → List String
  | available, [] => (kind.bridge? available).toList.map d.name
  | available, l :: ls =>
      (available.bridge? l.category.takes).toList.map d.name ++
        l.name :: writtenOut d kind l.category.gives ls

theorem mem_writtenOut {d : DefaultNames} {kind : ChainKind} {available : Shape}
    {ls : List (Layer ι)} {name : String} (h : name ∈ writtenOut d kind available ls) :
    (∃ slot ∈ inserted kind available ls, d.name slot = name) ∨ ∃ l ∈ ls, l.name = name := by
  induction ls generalizing available with
  | nil =>
      obtain ⟨slot, hs, rfl⟩ := List.mem_map.1 h
      exact .inl ⟨slot, hs, rfl⟩
  | cons l ls ih =>
      obtain h | h := List.mem_append.1 h
      · obtain ⟨slot, hs, rfl⟩ := List.mem_map.1 h
        exact .inl ⟨slot, List.mem_append_left _ hs, rfl⟩
      · obtain rfl | h := List.mem_cons.1 h
        · exact .inr ⟨l, List.mem_cons_self, rfl⟩
        · obtain ⟨slot, hs, hn⟩ | ⟨l', hl, hn⟩ := ih h
          · exact .inl ⟨slot, List.mem_append_right _ hs, hn⟩
          · exact .inr ⟨l', List.mem_cons_of_mem _ hl, hn⟩

/-- A name that stands for the very default of its place. -/
def Stands (k : Catalogue ι) (withSolutions : Bool) (d : Defaults ι) (slot : DefaultSlot) : Prop :=
  ∃ i, k.resolve? withSolutions (d.names.name slot) = some (slot.category, i) ∧ d.find slot = .ok i

private theorem apply_of_isFor {k : Catalogue ι} {withSolutions : Bool} {p : Parameters}
    (plain : ∀ name, p.seenBy name = s.common) {l : Layer ι} {name : String} {c : Category} {i : ι}
    (hl : Layer.IsFor k withSolutions name l) (hr : k.resolve? withSolutions name = some (c, i)) :
    s.apply l.category l.implementation (p.seenBy l.sectionName) = s.apply c i s.common := by
  have same := hl.2.symm.trans hr
  rw [Option.some_inj, Prod.mk.injEq] at same
  rw [plain, same.1, same.2]

/-- Layers for the names in which the defaults are written out do what the layers themselves do,
but look nothing up. The induction is on the layers, from the bottom of the chain; each one takes
one name of the longer list, or two where a default is needed beneath it. -/
theorem quiet_applyLayers {k : Catalogue ι} {withSolutions : Bool} {p : Parameters}
    {kind : ChainKind} (plain : ∀ name, p.seenBy name = s.common) {layers : List (Layer ι)}
    (known : ∀ l ∈ layers, Layer.IsFor k withSolutions l.name l) (r : Representation ι)
    (stands : ∀ slot ∈ inserted kind r.shape layers, Stands k withSolutions s.defaults slot)
    {layers' : List (Layer ι)}
    (written : List.Forall₂ (Layer.IsFor k withSolutions)
      (writtenOut s.defaults.names kind r.shape layers) layers') :
    (applyLayers s p layers r >>= finish s kind).quiet =
      applyLayers s p layers' r >>= finish s kind := by
  induction layers generalizing r layers' with
  | nil =>
      rw [writtenOut] at written
      rw [applyLayers_nil, pure_bind]
      cases needed : kind.bridge? r.shape with
      | none =>
          rw [needed] at written
          cases written
          rw [applyLayers_nil, pure_bind, Build.quiet_eq_self]
          rw [lookups_finish, needed]
          rfl
      | some slot =>
          obtain ⟨j, named, found⟩ := stands slot (by
            rw [inserted, needed]
            exact List.mem_singleton_self slot)
          rw [needed] at written
          obtain _ | ⟨hl, rest⟩ := written
          cases rest
          rw [quiet_finish found needed, applyLayers_cons, apply_of_isFor plain hl named]
          simp only [applyLayers_nil, bind_pure]
  | cons l layers ih =>
      rw [writtenOut] at written
      rw [inserted] at stands
      have own := known l List.mem_cons_self
      have above : ∀ r', r'.shape = l.category.gives → ∀ {layers'}, List.Forall₂
          (Layer.IsFor k withSolutions) (writtenOut s.defaults.names kind l.category.gives layers)
          layers' → (applyLayers s p layers r' >>= finish s kind).quiet =
            applyLayers s p layers' r' >>= finish s kind := by
        intro r' hr' layers' written'
        refine ih (fun l hl => known l (List.mem_cons_of_mem _ hl)) r' ?_ ?_
        · intro slot hs
          rw [hr'] at hs
          exact stands slot (List.mem_append_right _ hs)
        · rw [hr']
          exact written'
      rw [applyLayers_cons, bind_assoc, Build.quiet_bind, plain]
      cases needed : r.shape.bridge? l.category.takes with
      | none =>
          rw [needed] at written
          obtain _ | ⟨hl, rest⟩ := written
          have bare : (s.apply l.category l.implementation s.common r).lookups = [] := by
            rw [s.lookups_apply, needed]
            rfl
          rw [Build.quiet_eq_self bare, applyLayers_cons, bind_assoc, apply_of_isFor plain hl own.2]
          exact Build.bind_congr fun r' hr' => above r' (s.shape_of_apply hr') rest
      | some slot =>
          obtain ⟨j, named, found⟩ := stands slot (by
            rw [needed]
            exact List.mem_append_left _ (List.mem_singleton_self slot))
          rw [needed] at written
          obtain _ | ⟨hd, written⟩ := written
          obtain _ | ⟨hl, rest⟩ := written
          rw [BuildSite.quiet_apply found l.implementation s.common needed, applyLayers_cons,
            apply_of_isFor plain hd named]
          simp only [applyLayers_cons, bind_assoc]
          apply Build.bind_congr
          intro r₁ _
          rw [apply_of_isFor plain hl own.2]
          exact Build.bind_congr fun r' hr' => above r' (s.shape_of_apply hr') rest

/-- A chain means the same as the chain in which its defaults are written out, if each of their
names is not empty and stands for the very default. Building the longer chain takes the same steps
but for the look-ups, so it makes the same calls and puts demultiplexers in the same places, and
ends in the same producer or the same error. -/
theorem build_written_out (known : Catalogue ι) (withSolutions : Bool) (names : List String)
    (layers : List (Layer ι))
    (resolved : Layer.resolve known withSolutions false names = .ok layers)
    (d : DefaultNames) (k : Catalogue ι) (kind : ChainKind)
    (stands : ∀ slot ∈ inserted kind .address layers,
      d.name slot ≠ "" ∧ Stands known withSolutions ⟨k, d⟩ slot)
    (refuse : Call ι → Option TransportError) (side : Side) (address : String) (p : Parameters)
    (plain : ∀ e ∈ p.entries, '.' ∉ e.1.toList) :
    ∃ written,
      Layer.resolve known withSolutions false (writtenOut d kind .address layers) = .ok written ∧
      let implicit := (Chain.mk layers d).buildFor kind k refuse side address p
      let explicit := (Chain.mk written d).buildFor kind k refuse side address p
      explicit.steps = (implicit.steps.filter fun step => step.lookup?.isNone) ∧
        explicit.calls = implicit.calls ∧ explicit.result = implicit.result := by
  obtain ⟨some_names, no_empty, found, -⟩ := Layer.resolve_eq_ok_iff.1 resolved
  have isFor := Layer.isFor_of_resolveNames found
  have all_found : ∀ name ∈ writtenOut d kind .address layers,
      name ≠ "" ∧ (known.resolve? withSolutions name).isSome := by
    intro name hn
    obtain ⟨slot, hs, rfl⟩ | ⟨l, hl, rfl⟩ := mem_writtenOut hn
    · obtain ⟨given, i, named, -⟩ := stands slot hs
      exact ⟨given, by rw [named]; rfl⟩
    · obtain ⟨hn, hf⟩ := Layer.isFor_of_mem isFor hl
      exact ⟨fun h => no_empty (h ▸ hn), by rw [hf.2]; rfl⟩
  obtain ⟨written, hw⟩ := Layer.resolveNames_of_found fun name hn => (all_found name hn).2
  have some_written : writtenOut d kind .address layers ≠ [] := by
    cases layers with
    | nil => exact absurd (List.eq_nil_of_length_eq_zero isFor.length_eq) some_names
    | cons l ls => simp [writtenOut]
  refine ⟨written, Layer.resolve_eq_ok_iff.2
    ⟨some_written, fun h => (all_found _ h).1 rfl, hw, fun h => nomatch h⟩, ?_⟩
  intro implicit explicit
  have same : implicit.quiet = explicit :=
    quiet_applyLayers (s := (Chain.mk layers d).site k refuse side p)
      (Parameters.seenBy_of_no_dots plain) (fun _ hl => (Layer.isFor_of_mem isFor hl).2)
      (.address address)
      (fun slot hs => (stands slot hs).2) (Layer.isFor_of_resolveNames hw)
  rw [← same]
  exact ⟨rfl, implicit.calls_quiet, rfl⟩

/-- An adapter to packets beneath an obfuscator of streams, for packets: defaults are needed
beneath, between and on top, and one of them has the name of the adapter. -/
theorem build_written_out_spos_tls :
    let k := ((((Catalogue.new.register .streamObfuscator "tls" 0).register .packetAdapter "spos"
      1).register .streamConn "tcp" 2).register .streamAdapter "kcp" 3)
    let layers : List (Layer Nat) :=
      [⟨"spos", .packetAdapter, 1, 0⟩, ⟨"tls", .streamObfuscator, 0, 0⟩]
    Layer.resolve k true false ["spos", "tls"] = .ok layers ∧
      (∀ slot ∈ inserted .packet .address layers, DefaultNames.standard.name slot ≠ "" ∧
        Stands k true ⟨k, .standard⟩ slot) ∧
      (∀ e ∈ (.empty : Parameters).entries, '.' ∉ e.1.toList) ∧
      writtenOut .standard .packet .address layers = ["tcp", "spos", "kcp", "tls", "spos"] ∧
      ∃ written, Layer.resolve k true false ["tcp", "spos", "kcp", "tls", "spos"] = .ok written ∧
        ((Chain.mk written .standard).buildFor .packet k (fun _ => none) .dial "here" .empty).calls =
          ((Chain.mk layers .standard).buildFor .packet k (fun _ => none) .dial "here"
            .empty).calls := by
  intro k layers
  have resolved : Layer.resolve k true false ["spos", "tls"] = .ok layers := rfl
  have stands : ∀ slot ∈ inserted .packet .address layers,
      DefaultNames.standard.name slot ≠ "" ∧ Stands k true ⟨k, .standard⟩ slot := by
    intro slot hs
    change slot ∈ [.streamConn, .streamAdapter, .packetAdapter] at hs
    simp only [List.mem_cons, List.not_mem_nil, or_false] at hs
    obtain rfl | rfl | rfl := hs
    · exact ⟨by decide, 2, rfl, rfl⟩
    · exact ⟨by decide, 3, rfl, rfl⟩
    · exact ⟨by decide, 1, rfl, rfl⟩
  have plain : ∀ e ∈ (.empty : Parameters).entries, '.' ∉ e.1.toList := fun _ h => nomatch h
  refine ⟨resolved, stands, plain, rfl, ?_⟩
  obtain ⟨written, hw, -, calls, -⟩ := build_written_out k true ["spos", "tls"] layers resolved
    .standard k .packet stands (fun _ => none) .dial "here" .empty plain
  exact ⟨written, hw, calls⟩

/-- A default that is registered under the empty name serves a chain, but no chain can be resolved
in which this name is written out. -/
theorem empty_default_not_written_out :
    let k := (Catalogue.new.register .streamConn "" 0).register .streamObfuscator "tls" 1
    let d := DefaultNames.standard.set .streamConn ""
    let layers : List (Layer Nat) := [⟨"tls", .streamObfuscator, 1, 0⟩]
    Layer.resolve k true false ["tls"] = .ok layers ∧
      (∀ slot ∈ inserted .stream .address layers, Stands k true ⟨k, d⟩ slot) ∧
      (∃ r, ((Chain.mk layers d).buildFor .stream k (fun _ => none) .dial "here" .empty).result =
        .ok r) ∧
      writtenOut d .stream .address layers = ["", "tls"] ∧
      Layer.resolve k true false ["", "tls"] = .error (.schemeNotSupported "+tls") := by
  refine ⟨rfl, ?_, ⟨_, rfl⟩, rfl, rfl⟩
  intro slot hs
  cases List.mem_singleton.1 hs
  exact ⟨0, rfl, rfl⟩

end Chain

end TransportStack
