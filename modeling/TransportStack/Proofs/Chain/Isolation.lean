import TransportStack.Proofs.Chain.Plan
import TransportStack.Proofs.Chain.Resolution
import TransportStack.Proofs.Parameters.Scoped
import TransportStack.Proofs.Text.Numerals
import TransportStack.Proofs.Text.Pieces

/-!
How far a dotted key reaches. The sections of a resolved chain have different names, also where
layers have equal ones, so a dotted key belongs to one layer at most. Two sets of parameters that
differ at such a key are therefore the same to all other layers, to the defaults and to the
demultiplexers, and the owner of the key sees a difference under its own part of the key alone.
-/

namespace TransportStack

namespace Layer

variable {ι : Type}

theorem toList_sectionName (l : Layer ι) :
    l.sectionName.toList = l.name.toList ++ '[' :: (Nat.toDigits 10 l.index ++ [']']) := by
  rw [sectionName, Nat.toString_eq_repr]
  simp only [String.toList_append, Nat.toList_repr, List.append_assoc]
  rfl

/-- A name may itself end like a section, but the last bracket is always that of the index. -/
theorem sectionName_inj {l l' : Layer ι} (h : l.sectionName = l'.sectionName) :
    l.name = l'.name ∧ l.index = l'.index := by
  have cut (l : Layer ι) : Text.cutLast '[' l.sectionName.toList =
      some (l.name.toList, Nat.toDigits 10 l.index ++ [']']) := by
    have no_bracket : '[' ∉ Nat.toDigits 10 l.index :=
      Text.notMem_toDigits (by decide) (by decide)
    rw [toList_sectionName]
    exact Text.cutLast_append _ (by simp [no_bracket])
  have same := (cut l).symm.trans ((congrArg (Text.cutLast '[' ·.toList) h).trans (cut l'))
  obtain ⟨name, index⟩ := Prod.mk.inj (Option.some.inj same)
  refine ⟨String.toList_inj.1 name, ?_⟩
  rw [← Nat.ofDigitChars_ten_toDigits (n := l.index), List.append_cancel_right index,
    Nat.ofDigitChars_ten_toDigits]

theorem plain_sectionName {l : Layer ι} (h : '.' ∉ l.name.toList) :
    '.' ∉ l.sectionName.toList := by
  have digits : '.' ∉ Nat.toDigits 10 l.index := Text.notMem_toDigits (by decide) (by decide)
  simp [toList_sectionName, h, digits]

variable {k : Catalogue ι} {withSolutions : Bool} {names : List String} {layers : List (Layer ι)}

theorem Resolves.name_mem (h : Resolves k withSolutions names layers) {l : Layer ι}
    (hl : l ∈ layers) : l.name ∈ names :=
  (isFor_of_mem (isFor_of_resolveNames (resolveNames_eq_ok_iff.2 h)) hl).1

theorem Resolves.index_lt (h : Resolves k withSolutions names layers) {l : Layer ι}
    (hl : l ∈ layers) : l.index < names.count l.name := by
  induction names generalizing layers with
  | nil =>
      cases List.eq_nil_of_length_eq_zero h.1
      cases hl
  | cons name above ih =>
      obtain ⟨bottom, ls, rfl, ⟨rfl, -, index⟩, rest⟩ := resolves_cons_iff.1 h
      rw [List.count_cons]
      obtain rfl | hl := List.mem_cons.1 hl
      · rw [index, if_pos (beq_self_eq_true _)]
        exact Nat.lt_succ_self _
      · exact Nat.lt_of_lt_of_le (ih rest hl) (Nat.le_add_right _ _)

/-- Layers of equal names have different indices, so no two layers have one section. -/
theorem Resolves.sections_nodup (h : Resolves k withSolutions names layers) :
    (layers.map sectionName).Nodup := by
  induction names generalizing layers with
  | nil =>
      cases List.eq_nil_of_length_eq_zero h.1
      exact List.nodup_nil
  | cons name above ih =>
      obtain ⟨bottom, ls, rfl, ⟨rfl, -, index⟩, rest⟩ := resolves_cons_iff.1 h
      refine List.nodup_cons.2 ⟨fun again => ?_, ih rest⟩
      obtain ⟨l, hl, same⟩ := List.mem_map.1 again
      obtain ⟨name, count⟩ := sectionName_inj same
      have less := rest.index_lt hl
      rw [count, index, name] at less
      exact Nat.lt_irrefl _ less

end Layer

open Parameters

variable {ι : Type}

/-- How far two steps for one item may differ when the parameters differ at one key. Only the layer
that owns the key may get others, and what differs there is the value of its own part of the key. -/
inductive Planned.Isolated (key : String) : Planned ι → BuildStep ι → BuildStep ι → Prop
  | lookup (slot : DefaultSlot) : Isolated key (.lookup slot) (.lookup slot) (.lookup slot)
  | demultiplex (parameters : Parameters) :
      Isolated key .demultiplex (.demultiplex parameters) (.demultiplex parameters)
  | default (slot : DefaultSlot) (call call' : Call ι)
      (same : call.parameters = call'.parameters) :
      Isolated key (.default slot) (.construct call) (.construct call')
  | layer (l : Layer ι) (call call' : Call ι)
      (others : l.sectionName ≠ owner key → call.parameters = call'.parameters)
      (own : ∀ k, k ≠ ownKey key → call.parameters.get? k = call'.parameters.get? k) :
      Isolated key (.layer l) (.construct call) (.construct call')

theorem Planned.Meets.isolated {s s' : BuildSite ι} {p q : Parameters} {key : String}
    (same : AgreeExcept key p q) (dotted : '.' ∈ key.toList) (common : s.common = s'.common)
    {item : Planned ι} (plain : ∀ l, item = .layer l → '.' ∉ l.sectionName.toList)
    {step step' : BuildStep ι} (h : item.Meets s p step) (h' : item.Meets s' q step') :
    item.Isolated key step step' := by
  cases h with
  | lookup slot =>
      cases h'
      exact .lookup slot
  | demultiplex =>
      cases h'
      rw [common]
      exact .demultiplex _
  | default slot call _ _ _ parameters =>
      cases h' with
      | default _ call' _ _ _ parameters' =>
          exact .default slot call call' (by rw [parameters, parameters', common])
  | layer l call _ _ _ parameters =>
      cases h' with
      | layer _ call' _ _ _ parameters' =>
          have plain := plain l rfl
          refine .layer l call call' (fun other => ?_) fun k other => ?_
          · rw [parameters, parameters', same.seenBy dotted plain other]
          · rw [parameters, parameters', same.get?_seenBy dotted plain fun _ => other]

namespace Chain

/-- The layers of a chain by their names, as they were resolved. -/
theorem resolves_of_ofNames {k : Catalogue ι} {names : List String} {o : ChainOptions}
    {c : Chain ι} (h : ofNames k names o = .ok c) :
    Layer.Resolves k o.enableSolutions names c.layers := by
  rw [ofNames] at h
  cases found : Layer.resolve k o.enableSolutions o.enforceCompatibility names with
  | error e =>
      rw [found] at h
      cases h
  | ok layers =>
      rw [found] at h
      cases h
      exact Layer.resolveNames_eq_ok_iff.1 (Layer.resolve_eq_ok_iff.1 found).2.2.1

/-- When no name has a dot, a dotted key reaches one layer at most. Two builds whose parameters
differ only there have the same common parameters, and their steps of equal place are for one item
of the plan and differ only where that is the layer that owns the key. -/
theorem dotted_key_reaches_owner {k : Catalogue ι} {names : List String} {o : ChainOptions}
    {c : Chain ι} (resolved : ofNames k names o = .ok c)
    (plain : ∀ name ∈ names, '.' ∉ name.toList) {key : String} (dotted : '.' ∈ key.toList)
    {p q : Parameters} (same : AgreeExcept key p q) (kind : ChainKind) (k' : Catalogue ι)
    (refuse refuse' : Call ι → Option TransportError) (side : Side) (address : String) :
    let s := c.site k' refuse side p
    let s' := c.site k' refuse' side q
    let b := c.buildFor kind k' refuse side address p
    let b' := c.buildFor kind k' refuse' side address q
    s.common = s'.common ∧
      (c.plan kind).filterMap Planned.layer? = c.layers ∧
      (∀ (i : Nat) (step step' : BuildStep ι),
        b.steps[i]? = some step → b'.steps[i]? = some step' →
          ∃ item : Planned ι, (c.plan kind)[i]? = some item ∧
            item.Meets s p step ∧ item.Meets s' q step' ∧ item.Isolated key step step') ∧
      ∀ (i j : Nat) (l l' : Layer ι), c.layers[i]? = some l → c.layers[j]? = some l' →
        l.sectionName = owner key → l'.sectionName = owner key → i = j := by
  intro s s' b b'
  have resolves := resolves_of_ofNames resolved
  have common : s.common = s'.common := same.common dotted
  have layers : (c.plan kind).filterMap Planned.layer? = c.layers := layers_planFrom _ _ _
  refine ⟨common, layers, fun i step step' taken taken' => ?_, fun i j l l' hi hj own own' => ?_⟩
  · have keeps := c.keeps_buildFor p kind k' refuse side address
    have keeps' := c.keeps_buildFor q kind k' refuse' side address
    obtain ⟨item, due, meets⟩ := keeps.meets_of_getElem? taken
    obtain ⟨item', due', meets'⟩ := keeps'.meets_of_getElem? taken'
    obtain rfl : item = item' := Option.some.inj (due.symm.trans due')
    refine ⟨item, due, meets, meets', meets.isolated same dotted common ?_ meets'⟩
    rintro l rfl
    have member : l ∈ c.layers := by
      rw [← layers]
      exact List.mem_filterMap.2 ⟨_, List.mem_of_getElem? due, rfl⟩
    exact Layer.plain_sectionName (plain _ (resolves.name_mem member))
  · obtain ⟨hi, rfl⟩ := List.getElem?_eq_some_iff.1 hi
    obtain ⟨hj, rfl⟩ := List.getElem?_eq_some_iff.1 hj
    have hi' : i < (c.layers.map Layer.sectionName).length := by rwa [List.length_map]
    have hj' : j < (c.layers.map Layer.sectionName).length := by rwa [List.length_map]
    have same : (c.layers.map Layer.sectionName)[i] = (c.layers.map Layer.sectionName)[j] := by
      rw [List.getElem_map, List.getElem_map, own, own']
    exact resolves.sections_nodup.getElem_inj_iff.1 same

/-- Of two layers of one name the lower one owns the key, and the upper one sees no difference. -/
theorem dotted_key_reaches_owner_lower :
    let k := (Catalogue.new.register .streamConn "tcp" ()).register .streamObfuscator "tls" ()
    let p : Parameters := Dict.empty.insert "host" "all"
    let q := p.insert "tls[1].host" "own"
    ∃ c, ofNames k ["tcp", "tls", "tls"] .standard = .ok c ∧ AgreeExcept "tls[1].host" p q ∧
      let b := c.buildFor .stream k (fun _ => none) .dial "here" p
      let b' := c.buildFor .stream k (fun _ => none) .dial "here" q
      ∃ lower lower' upper upper',
        b.calls.tail = [lower, upper] ∧ b'.calls.tail = [lower', upper'] ∧
        lower.parameters.get? "host" = some "all" ∧ lower'.parameters.get? "host" = some "own" ∧
        upper.parameters = upper'.parameters := by
  intro k p q
  have resolved : ofNames k ["tcp", "tls", "tls"] .standard =
      .ok ⟨[⟨"tcp", .streamConn, (), 0⟩, ⟨"tls", .streamObfuscator, (), 1⟩,
        ⟨"tls", .streamObfuscator, (), 0⟩], .standard⟩ := by rfl
  have agree : AgreeExcept "tls[1].host" p q := fun key other => by
    rw [show q.get? key = _ from Dict.get?_insert p _ _, if_neg other]
  refine ⟨_, resolved, agree, ?_⟩
  intro b b'
  obtain ⟨-, -, compare, -⟩ := dotted_key_reaches_owner resolved (by decide) (by decide) agree
    .stream k (fun _ => none) (fun _ => none) .dial "here"
  obtain ⟨item, due, -, -, isolated⟩ := compare 2 _ _ rfl rfl
  cases due
  cases isolated with
  | layer _ _ _ others _ =>
      exact ⟨_, _, _, _, rfl, rfl, by rfl, by rfl, others (by decide)⟩

end Chain

end TransportStack
