import TransportStack.Proofs.Chain.Resolution
import TransportStack.Proofs.Chain.Stopping
import TransportStack.Proofs.Dictionary
import TransportStack.Proofs.Network.Running

/-!
Faults of the configuration. They are found before anything is dialed or bound: while a URI is read,
its scheme is resolved, and the chain is built. Until then nothing has happened on the network.
-/

namespace TransportStack

/-- Whether every implementation does what it is there for, and is not only recorded. -/
def Catalogue.IsGenuine (k : Catalogue Implementation) : Prop :=
  ∀ c name recorded, k.find? c name ≠ some (.recorded recorded)

namespace Catalogue

theorem isGenuine_new : Catalogue.new.IsGenuine := nofun

/-- However implementations are combined, the catalogue is genuine. -/
theorem IsGenuine.register {k : Catalogue Implementation} (h : k.IsGenuine)
    {i : Implementation} (plain : ∀ recorded, i ≠ .recorded recorded) (c : Category)
    (name : String) : (k.register c name i).IsGenuine := by
  intro c' name' recorded
  by_cases same : c' = c
  · simp only [Catalogue.register, modify, find?, same, if_true, Registry.register, Registry.find?,
      Registry.entries, Option.getD_some, Dict.get?_insert]
    split
    · exact fun found => plain recorded (Option.some.inj found)
    · exact h c name' recorded
  · simp only [Catalogue.register, modify, find?, if_neg same]
    exact h c' name' recorded

end Catalogue

/-- Where the making of a producer for a URI goes wrong. -/
inductive ConfigurationFault (reader : Uri.Reader) (w : Workshop) (side : Side) (uri : String) :
    TransportError → Prop
  | parsing {e : TransportError} (failed : Endpoint.readWith reader uri = .error e) :
      ConfigurationFault reader w side uri e
  | resolution {e : TransportError} {endpoint : Endpoint}
      (read : Endpoint.readWith reader uri = .ok endpoint)
      (failed : Chain.ofScheme w.catalogue endpoint.scheme .standard = .error e) :
      ConfigurationFault reader w side uri e
  | building {e : TransportError} {endpoint : Endpoint} {chain : Chain Implementation}
      (read : Endpoint.readWith reader uri = .ok endpoint)
      (resolved : Chain.ofScheme w.catalogue endpoint.scheme .standard = .ok chain)
      (failed : (chain.buildFor .muxed w.catalogue (refusals w.plan) side endpoint.address
        endpoint.parameters).result = .error e) :
      ConfigurationFault reader w side uri e

namespace ConfigurationFault

variable {reader : Uri.Reader} {w : Workshop} {side : Side} {uri : String} {e e' : TransportError}
  {endpoint : Endpoint}

theorem iff_of_parsing (failed : Endpoint.readWith reader uri = .error e) :
    ConfigurationFault reader w side uri e' ↔ e' = e := by
  constructor
  · rintro (failed' | ⟨read, -⟩ | ⟨read, -, -⟩)
    · cases failed.symm.trans failed'
      rfl
    · cases failed.symm.trans read
    · cases failed.symm.trans read
  · rintro rfl
    exact .parsing failed

variable (read : Endpoint.readWith reader uri = .ok endpoint)

include read

theorem iff_of_resolution
    (failed : Chain.ofScheme w.catalogue endpoint.scheme .standard = .error e) :
    ConfigurationFault reader w side uri e' ↔ e' = e := by
  constructor
  · rintro (failed' | ⟨read', failed'⟩ | ⟨read', resolved, -⟩)
    · cases read.symm.trans failed'
    · cases read.symm.trans read'
      cases failed.symm.trans failed'
      rfl
    · cases read.symm.trans read'
      cases failed.symm.trans resolved
  · rintro rfl
    exact .resolution read failed

theorem iff_of_building {chain : Chain Implementation}
    (resolved : Chain.ofScheme w.catalogue endpoint.scheme .standard = .ok chain) :
    ConfigurationFault reader w side uri e ↔ (chain.buildFor .muxed w.catalogue (refusals w.plan)
      side endpoint.address endpoint.parameters).result = .error e := by
  constructor
  · rintro (failed | ⟨read', failed⟩ | ⟨read', resolved', failed⟩)
    · cases read.symm.trans failed
    · cases read.symm.trans read'
      cases resolved.symm.trans failed
    · cases read.symm.trans read'
      cases resolved.symm.trans resolved'
      exact failed
  · exact .building read resolved

end ConfigurationFault

theorem Catalogue.find?_of_resolve? {ι : Type} {k : Catalogue ι} {withSolutions : Bool}
    {name : String} {c : Category} {i : ι} (found : k.resolve? withSolutions name = some (c, i)) :
    k.find? c name = some i := by
  obtain ⟨c', -, found⟩ := List.exists_of_findSome?_eq_some found
  obtain ⟨i', found, same⟩ := Option.map_eq_some_iff.1 found
  cases same
  exact found

theorem Defaults.isConfiguration_of_find {ι : Type} {d : Defaults ι} {slot : DefaultSlot}
    {e : TransportError} (missing : d.find slot = .error e) : e.isConfiguration = true := by
  unfold Defaults.find at missing
  split at missing
  · cases missing
  · cases missing
    rfl

section

variable {call : Call Implementation} (plain : ∀ name, call.implementation ≠ .recorded name)

include plain

theorem refusals_of_not_recorded (plan : Dict TransportError) : refusals plan call = none := by
  unfold refusals
  split
  · exact absurd ‹_› (plain _)
  · rfl

theorem ofCall?_of_not_recorded : LogEntry.ofCall? call = none := by
  unfold LogEntry.ofCall?
  split
  · exact absurd ‹_› (plain _)
  · rfl

end

namespace Build

/-- What recorded implementations write down while a chain is built. -/
def notes {α : Type} (b : Build Implementation α) : List LogEntry :=
  b.calls.filterMap LogEntry.ofCall?

theorem isBuild_of_mem_notes {α : Type} {b : Build Implementation α} {e : LogEntry}
    (h : e ∈ b.notes) : e.isBuild = true := by
  obtain ⟨call, -, found⟩ := List.mem_filterMap.1 h
  unfold LogEntry.ofCall? at found
  split at found
  · cases found
    rfl
  · cases found

end Build

theorem Endpoint.isConfiguration_of_readWith {reader : Uri.Reader} {uri : String}
    {e : TransportError} (failed : Endpoint.readWith reader uri = .error e) :
    e.isConfiguration = true := by
  unfold Endpoint.readWith at failed
  split at failed
  · cases failed
    rfl
  · split at failed
    · cases failed
      rfl
    · cases failed

namespace Chain

theorem ofScheme_eq_error_iff {ι : Type} {k : Catalogue ι} {scheme : String} {o : ChainOptions}
    {e : TransportError} : Chain.ofScheme k scheme o = .error e ↔
      Layer.resolve k o.enableSolutions o.enforceCompatibility (Scheme.split scheme) =
        .error e := by
  unfold Chain.ofScheme Chain.ofNames
  cases Layer.resolve k o.enableSolutions o.enforceCompatibility (Scheme.split scheme) <;>
    simp [bind, Except.bind, pure, Except.pure]

theorem ofScheme_eq_ok_iff {ι : Type} {k : Catalogue ι} {scheme : String} {o : ChainOptions}
    {c : Chain ι} : Chain.ofScheme k scheme o = .ok c ↔ ∃ layers,
      Layer.resolve k o.enableSolutions o.enforceCompatibility (Scheme.split scheme) = .ok layers ∧
        c = ⟨layers, o.defaults⟩ := by
  unfold Chain.ofScheme Chain.ofNames
  cases Layer.resolve k o.enableSolutions o.enforceCompatibility (Scheme.split scheme) <;>
    simp [bind, Except.bind, pure, Except.pure, eq_comm]

theorem isConfiguration_of_ofScheme {ι : Type} {k : Catalogue ι} {scheme : String}
    {o : ChainOptions} {e : TransportError} (failed : Chain.ofScheme k scheme o = .error e) :
    e.isConfiguration = true := by
  rw [ofScheme_eq_error_iff] at failed
  by_cases named : Layer.Named (Scheme.split scheme)
  · obtain unknown | ⟨-, _, -, misfit⟩ := (Layer.resolve_eq_error_iff_of_named named).1 failed
    · obtain ⟨_, name, _, -, -, -, rfl⟩ := Layer.resolveNames_eq_error_iff.1 unknown
      rfl
    · obtain ⟨_, below, above, _, -, -, -, rfl⟩ := Layer.checkNeighbours_eq_error_iff.1 misfit
      rfl
  · rw [Layer.resolve_of_not_named named] at failed
    cases failed
    rfl

theorem registered_of_mem {ι : Type} {k : Catalogue ι} {scheme : String} {o : ChainOptions}
    {c : Chain ι} (resolved : Chain.ofScheme k scheme o = .ok c) {l : Layer ι}
    (part : l ∈ c.layers) : k.find? l.category l.name = some l.implementation := by
  obtain ⟨layers, found, rfl⟩ := ofScheme_eq_ok_iff.1 resolved
  have stands := Layer.isFor_of_resolveNames (Layer.resolve_eq_ok_iff.1 found).2.2.1
  exact Catalogue.find?_of_resolve? (Layer.isFor_of_mem stands part).2.2

/-- What is asked in the build of a resolved chain comes from the catalogue. -/
theorem registered_of_construct {ι : Type} {k : Catalogue ι} {scheme : String} {o : ChainOptions}
    {c : Chain ι} (resolved : Chain.ofScheme k scheme o = .ok c) {kind : ChainKind}
    {refuse : Call ι → Option TransportError} {side : Side} {address : String} {p : Parameters}
    {call : Call ι} (asked : .construct call ∈ (c.buildFor kind k refuse side address p).steps) :
    ∃ name, k.find? call.category name = some call.implementation := by
  obtain ⟨i, taken⟩ := List.mem_iff_getElem?.1 asked
  obtain ⟨item, planned, meets⟩ :=
    (c.keeps_buildFor p kind k refuse side address).meets_of_getElem? taken
  cases meets with
  | default slot call side category found parameters =>
      rw [category]
      refine ⟨c.defaults.name slot, ?_⟩
      unfold Defaults.find at found
      split at found
      · rename_i registered
        cases found
        exact registered
      · cases found
  | layer l call side category implementation parameters =>
      have part : l ∈ c.layers := by
        rw [← layers_planFrom kind .address c.layers]
        exact List.mem_filterMap.2 ⟨_, List.mem_of_getElem? planned, rfl⟩
      rw [category, implementation]
      exact ⟨l.name, registered_of_mem resolved part⟩

/-- A chain for multiplexed connections ends with a producer of those. -/
theorem muxed_of_buildFor {ι : Type} {c : Chain ι} {k : Catalogue ι}
    {refuse : Call ι → Option TransportError} {side : Side} {address : String} {p : Parameters}
    {r : Representation ι} (made : (c.buildFor .muxed k refuse side address p).result = .ok r) :
    ∃ recipe, r = .muxed recipe := by
  obtain ⟨below, -, made⟩ := Build.bind_result_ok made
  rw [finish_muxed] at made
  obtain ⟨recipe, -, made⟩ := Build.bind_result_ok made
  cases made
  exact ⟨recipe, rfl⟩

end Chain

namespace Catalogue.IsGenuine

variable {w : Workshop} (genuine : w.catalogue.IsGenuine) {scheme : String} {o : ChainOptions}
  {c : Chain Implementation} (resolved : Chain.ofScheme w.catalogue scheme o = .ok c)
  {kind : ChainKind} {side : Side} {address : String} {p : Parameters}

include genuine resolved

theorem not_recorded {call : Call Implementation} (asked : .construct call ∈
      (c.buildFor kind w.catalogue (refusals w.plan) side address p).steps) (recorded : String) :
    call.implementation ≠ .recorded recorded := by
  obtain ⟨name, registered⟩ := Chain.registered_of_construct resolved asked
  intro same
  rw [same] at registered
  exact genuine _ _ _ registered

theorem isConfiguration_of_buildFor {e : TransportError}
    (failed : (c.buildFor kind w.catalogue (refusals w.plan) side address p).result = .error e) :
    e.isConfiguration = true := by
  obtain fails | ⟨⟨need, available, rfl⟩, -⟩ :=
    (c.goes_buildFor kind w.catalogue (refusals w.plan) side address p).cause e failed
  · obtain ⟨step, last, fails⟩ := Option.bind_eq_some_iff.1 fails
    cases step with
    | lookup slot =>
        simp only [BuildSite.failure?] at fails
        split at fails
        · cases fails
        · rename_i missing
          cases fails
          exact Defaults.isConfiguration_of_find missing
    | demultiplex p => cases fails
    | construct call =>
        have plain := genuine.not_recorded resolved (List.mem_of_getLast? last)
        cases (refusals_of_not_recorded plain w.plan).symm.trans fails
  · rfl

theorem notes_of_buildFor :
    (c.buildFor kind w.catalogue (refusals w.plan) side address p).notes = [] := by
  refine List.filterMap_eq_nil_iff.2 fun call asked => ?_
  exact ofCall?_of_not_recorded (genuine.not_recorded resolved (Build.mem_calls_iff.1 asked))

end Catalogue.IsGenuine

namespace Network

def noting (n : Network) (notes : List LogEntry) : Network :=
  { n with rehearsal := { n.rehearsal with log := n.rehearsal.log ++ notes } }

theorem noting_nil (n : Network) : n.noting [] = n := by
  rw [noting, List.append_nil]

theorem foldl_note (r : Rehearsal) (notes : List LogEntry) :
    notes.foldl Rehearsal.note r = { r with log := r.log ++ notes } := by
  induction notes generalizing r with
  | nil => simp
  | cons e notes ih => simp [ih, Rehearsal.note]

theorem carryOut_eq {α : Type} (b : Build Implementation α) (n : Network) :
    carryOut b n = (b.result, n.noting b.notes) := by
  have carried : carryOut b n = (b.result, { n with
      rehearsal := (b.calls.filterMap LogEntry.ofCall?).foldl Rehearsal.note n.rehearsal }) := rfl
  rw [carried, foldl_note]
  rfl

section

variable {reader : Uri.Reader} {w : Workshop} {side : Side} {uri : String} {endpoint : Endpoint}
  {chain : Chain Implementation} {e : TransportError}

theorem produceUri_of_parsing (failed : Endpoint.readWith reader uri = .error e) (n : Network) :
    produceUri reader w side uri n = (.error e, n) := by
  rw [produceUri, failed]
  rfl

variable (read : Endpoint.readWith reader uri = .ok endpoint)

include read

theorem produceUri_of_resolution
    (failed : Chain.ofScheme w.catalogue endpoint.scheme .standard = .error e) (n : Network) :
    produceUri reader w side uri n = (.error e, n) := by
  have parsed : ofExcept (Endpoint.readWith reader uri) n = (.ok endpoint, n) := by
    rw [ofExcept, read]
  rw [produceUri, bind_of_ok parsed, produce, failed]
  rfl

variable (resolved : Chain.ofScheme w.catalogue endpoint.scheme .standard = .ok chain)

include resolved

variable (side)

theorem produceUri_of_building (n : Network) :
    let b := chain.buildFor .muxed w.catalogue (refusals w.plan) side endpoint.address
      endpoint.parameters
    (∀ e, b.result = .error e → produceUri reader w side uri n = (.error e, n.noting b.notes)) ∧
      ∀ r, b.result = .ok r → ∃ recipe, r = .muxed recipe ∧
        produceUri reader w side uri n =
          (.ok ((n.noting b.notes).newProducer side recipe).1,
            ((n.noting b.notes).newProducer side recipe).2) := by
  intro b
  have parsed : ofExcept (Endpoint.readWith reader uri) n = (.ok endpoint, n) := by
    rw [ofExcept, read]
  have found : ofExcept (Chain.ofScheme w.catalogue endpoint.scheme .standard) n =
      (.ok chain, n) := by rw [ofExcept, resolved]
  have built : construct w chain .muxed side endpoint.address endpoint.parameters n =
      (b.result, n.noting b.notes) := carryOut_eq b n
  rw [produceUri, bind_of_ok parsed, produce, bind_of_ok found]
  refine ⟨fun e failed => ?_, fun r made => ?_⟩
  · rw [failed] at built
    rw [bind_of_error built]
  · obtain ⟨recipe, rfl⟩ := Chain.muxed_of_buildFor made
    rw [made] at built
    rw [bind_of_ok built]
    exact ⟨recipe, rfl, rfl⟩

end

/-- What `dialUri` or `listenUri` comes to. -/
def callUri (reader : Uri.Reader) (w : Workshop) (side : Side) (uri : String) : Net Product :=
  match side with
  | .dial => .muxed <$> dialUri reader w uri
  | .listen => .muxListener <$> listenUri reader w uri

/-- What a call hands out of what was produced for it. -/
def handOut (side : Side) (x : Product) : Except TransportError Product :=
  match side, x with
  | .dial, .muxed s => .ok (.muxed s)
  | .dial, _ => .error (misfit "dial")
  | .listen, .muxListener l => .ok (.muxListener l)
  | .listen, _ => .error (misfit "listen")

theorem handOut_blameless {side : Side} {x : Product} {e : TransportError}
    (failed : handOut side x = .error e) : e.isConfiguration = false := by
  unfold handOut at failed
  split at failed <;> cases failed <;> rfl

section

variable {reader : Uri.Reader} {w : Workshop} {side : Side} {uri : String} {n n' : Network}

theorem callUri_of_error {e : TransportError}
    (failed : produceUri reader w side uri n = (.error e, n')) :
    callUri reader w side uri n = (.error e, n') := by
  cases side with
  | dial =>
      rw [callUri, map_eq_pure_bind, bind_of_error]
      rw [dialUri, bind_of_error failed]
  | listen =>
      rw [callUri, map_eq_pure_bind, bind_of_error]
      rw [listenUri, bind_of_error failed]

/-- What has been produced is followed. -/
theorem callUri_of_ok {q : Producer} (made : produceUri reader w side uri n = (.ok q, n')) :
    callUri reader w side uri n = (follow side q >>= fun x => ofExcept (handOut side x)) n' := by
  rcases followed : follow side q n' with ⟨e | x, n''⟩
  · rw [bind_of_error followed]
    cases side with
    | dial =>
        rw [callUri, map_eq_pure_bind, bind_of_error]
        rw [dialUri, bind_of_ok made]
        exact bind_of_error followed _
    | listen =>
        rw [callUri, map_eq_pure_bind, bind_of_error]
        rw [listenUri, bind_of_ok made]
        exact bind_of_error followed _
  · rw [bind_of_ok followed]
    cases side with
    | dial =>
        rw [callUri, map_eq_pure_bind]
        cases x with
        | muxed s =>
            have dialed : dialUri reader w uri n = (.ok s, n'') := by
              rw [dialUri, bind_of_ok made]
              exact bind_of_ok followed _
            exact bind_of_ok dialed _
        | packet _ | stream _ | streamListener _ | muxListener _ =>
            have misfits : dialUri reader w uri n = (.error (misfit "dial"), n'') := by
              rw [dialUri, bind_of_ok made]
              exact bind_of_ok followed _
            exact bind_of_error misfits _
    | listen =>
        rw [callUri, map_eq_pure_bind]
        cases x with
        | muxListener l =>
            have bound : listenUri reader w uri n = (.ok l, n'') := by
              rw [listenUri, bind_of_ok made]
              exact bind_of_ok followed _
            exact bind_of_ok bound _
        | packet _ | stream _ | streamListener _ | muxed _ =>
            have misfits : listenUri reader w uri n = (.error (misfit "listen"), n'') := by
              rw [listenUri, bind_of_ok made]
              exact bind_of_ok followed _
            exact bind_of_error misfits _

end

/-- Producers that are followed, any number of times, ask nothing that is asked in a build. -/
theorem log_of_follows (follows : List (Side × Producer)) (n : Network) :
    ∃ notes, (∀ x ∈ notes, x.isBuild = false) ∧
      (follows.foldl (fun n f => (follow f.1 f.2 n).2) n).rehearsal.log =
        n.rehearsal.log ++ notes := by
  induction follows generalizing n with
  | nil => exact ⟨[], nofun, (List.append_nil _).symm⟩
  | cons f follows ih =>
      obtain ⟨first, log, none_builds⟩ := (runs_follow f.1 f.2 n).log
      obtain ⟨rest, none_builds', log'⟩ := ih (follow f.1 f.2 n).2
      refine ⟨first ++ rest, fun x hx => ?_, ?_⟩
      · exact (List.mem_append.1 hx).elim (none_builds x) (none_builds' x)
      · rw [List.foldl_cons, log', log, List.append_assoc]

/-- All that the making of a producer can come to. -/
theorem produceUri_cases (reader : Uri.Reader) (w : Workshop) (side : Side) (uri : String)
    (n : Network) :
    (∃ e notes, produceUri reader w side uri n = (.error e, n.noting notes) ∧
      (∀ x ∈ notes, x.isBuild = true) ∧ (∀ e', ConfigurationFault reader w side uri e' ↔ e' = e) ∧
      (w.catalogue.IsGenuine → e.isConfiguration = true ∧ notes = [])) ∨
    ∃ q cells notes, produceUri reader w side uri n =
        (.ok q, { n.noting notes with rotations := n.rotations ++ cells }) ∧
      (∀ x ∈ notes, x.isBuild = true) ∧ ∀ e, ¬ConfigurationFault reader w side uri e := by
  cases read : Endpoint.readWith reader uri with
  | error e =>
      refine .inl ⟨e, [], ?_, nofun, fun _ => ConfigurationFault.iff_of_parsing read,
        fun _ => ⟨?_, rfl⟩⟩
      · rw [produceUri_of_parsing read, noting_nil]
      · exact Endpoint.isConfiguration_of_readWith read
  | ok endpoint =>
      cases resolved : Chain.ofScheme w.catalogue endpoint.scheme .standard with
      | error e =>
          refine .inl ⟨e, [], ?_, nofun,
            fun _ => ConfigurationFault.iff_of_resolution read resolved, fun _ => ⟨?_, rfl⟩⟩
          · rw [produceUri_of_resolution read resolved, noting_nil]
          · exact Chain.isConfiguration_of_ofScheme resolved
      | ok chain =>
          let b := chain.buildFor .muxed w.catalogue (refusals w.plan) side endpoint.address
            endpoint.parameters
          have fault (e : TransportError) :
              ConfigurationFault reader w side uri e ↔ b.result = .error e :=
            ConfigurationFault.iff_of_building read resolved
          obtain ⟨fails, makes⟩ := produceUri_of_building side read resolved n
          cases result : b.result with
          | error e =>
              refine .inl ⟨e, b.notes, fails e result, fun _ => Build.isBuild_of_mem_notes,
                fun e' => ?_, fun genuine => ⟨?_, genuine.notes_of_buildFor resolved⟩⟩
              · rw [fault, result, Except.error.injEq, eq_comm]
              · exact genuine.isConfiguration_of_buildFor resolved result
          | ok r =>
              obtain ⟨recipe, -, made⟩ := makes r result
              refine .inr ⟨_, _, b.notes, made, fun _ => Build.isBuild_of_mem_notes, fun e => ?_⟩
              rw [fault, result]
              exact nofun

/-- Whatever takes URIs apart, faults of the configuration are those that are found before anything
is dialed or bound. A producer for a URI cannot be made exactly when the URI cannot be read, its
scheme cannot be resolved, or its chain cannot be built. Making it does nothing but write down what
is asked of recorded implementations and add the state of its demultiplexers; following producers
asks none of that again, however often it is done. A call that gets a producer follows it, and does
not fail with a fault of the configuration. Where no implementation is only recorded, a call fails
with such a fault exactly when no producer was made, and then the network is as it was. -/
theorem configuration_faults_precede_effects (reader : Uri.Reader) (w : Workshop) (side : Side)
    (uri : String) (n : Network) :
    let produced := produceUri reader w side uri n
    let called := callUri reader w side uri n
    (∀ e, produced.1 = .error e ↔ ConfigurationFault reader w side uri e) ∧
      (∃ notes cells, (∀ x ∈ notes, x.isBuild = true) ∧
        produced.2 = { n.noting notes with rotations := n.rotations ++ cells }) ∧
      (∀ (follows : List (Side × Producer)) (n₁ : Network), ∃ notes,
        (∀ x ∈ notes, x.isBuild = false) ∧
          (follows.foldl (fun n f => (follow f.1 f.2 n).2) n₁).rehearsal.log =
            n₁.rehearsal.log ++ notes) ∧
      (∀ q, produced.1 = .ok q →
        called = (follow side q >>= fun x => ofExcept (handOut side x)) produced.2 ∧
          ∀ e, called.1 = .error e → e.isConfiguration = false) ∧
      (w.catalogue.IsGenuine →
        (∀ e, ConfigurationFault reader w side uri e → called = (.error e, n)) ∧
          ∀ e, called.1 = .error e →
            (e.isConfiguration = true ↔ ConfigurationFault reader w side uri e)) := by
  intro produced called
  obtain ⟨e, notes, made, builds, fault, genuine⟩ | ⟨q, cells, notes, made, builds, faultless⟩ :=
    produceUri_cases reader w side uri n
  · have made : produced = (.error e, n.noting notes) := made
    have failed : called = (.error e, n.noting notes) := callUri_of_error made
    refine ⟨fun e' => ?_, ⟨notes, [], builds, ?_⟩, log_of_follows, fun q h => ?_, fun h => ⟨?_, ?_⟩⟩
    · rw [made, fault, Except.error.injEq, eq_comm]
    · rw [made, List.append_nil]
      rfl
    · rw [made] at h
      cases h
    · intro e' he'
      rw [failed, (fault e').1 he', (genuine h).2, noting_nil]
    · intro e' he'
      rw [failed] at he'
      cases he'
      rw [fault]
      exact iff_of_true (genuine h).1 rfl
  · have made : produced = (.ok q, { n.noting notes with rotations := n.rotations ++ cells }) := made
    have followed : called = (follow side q >>= fun x => ofExcept (handOut side x)) produced.2 := by
      rw [made]
      exact callUri_of_ok made
    have blameless (e : TransportError) (h : called.1 = .error e) : e.isConfiguration = false := by
      rw [followed] at h
      exact (Runs.bind (runs_follow side q) (fun _ => runs_ofExcept fun _ => handOut_blameless)
        produced.2).fault e h
    refine ⟨fun e => ?_, ⟨notes, cells, builds, by rw [made]⟩, log_of_follows, fun q' h => ?_,
      fun h => ⟨?_, ?_⟩⟩
    · rw [made]
      exact iff_of_false nofun (faultless e)
    · rw [made] at h
      cases h
      exact ⟨followed, blameless⟩
    · exact fun e fault => absurd fault (faultless e)
    · intro e he
      exact iff_of_false (by rw [blameless e he]; exact Bool.false_ne_true) (faultless e)

/-- The implementations that stay within the program, and the one without multiplexing. -/
def withinProgram : Workshop :=
  ⟨Catalogue.new.installMemory.register .streamSolution Implementation.nomuxName .nomux, .empty⟩

theorem isGenuine_withinProgram : withinProgram.catalogue.IsGenuine := by
  have memory := Catalogue.isGenuine_new.register (i := .memory) (by simp) .streamConn
    Implementation.memoryName
  have both := memory.register (i := .memoryMux) (by simp) .addrSolution
    Implementation.memoryMuxName
  exact both.register (by simp) .streamSolution Implementation.nomuxName

/-- A call at an address without a listener fails, and the configuration is not to blame. A call with
a scheme that is not known fails with a fault of the configuration and leaves no trace. -/
theorem configuration_faults_precede_effects_refused :
    withinProgram.catalogue.IsGenuine ∧
      (∃ e, (callUri Uri.read withinProgram .dial "memmux://nowhere:1" .empty).1 = .error e ∧
        e.isConfiguration = false) ∧
      callUri Uri.read withinProgram .dial "quic://nowhere:1" .empty =
        (.error (.schemeNotSupported "quic"), .empty) := by
  refine ⟨isGenuine_withinProgram, ?_, ?_⟩
  · obtain ⟨-, -, -, followed, -⟩ :=
      configuration_faults_precede_effects Uri.read withinProgram .dial "memmux://nowhere:1" .empty
    have makes : (produceUri Uri.read withinProgram .dial "memmux://nowhere:1"
        .empty).1.toBool = true := by
      decide +kernel
    have fails : (callUri Uri.read withinProgram .dial "memmux://nowhere:1"
        .empty).1.toBool = false := by
      decide +kernel
    cases made : (produceUri Uri.read withinProgram .dial "memmux://nowhere:1" .empty).1 with
    | error e =>
        rw [made] at makes
        cases makes
    | ok q =>
        cases called : (callUri Uri.read withinProgram .dial "memmux://nowhere:1" .empty).1 with
        | ok x =>
            rw [called] at fails
            cases fails
        | error e => exact ⟨e, rfl, (followed q made).2 e called⟩
  · obtain ⟨-, -, -, -, genuine⟩ :=
      configuration_faults_precede_effects Uri.read withinProgram .dial "quic://nowhere:1" .empty
    have read : Endpoint.readWith Uri.read "quic://nowhere:1" =
        .ok ⟨"quic", "nowhere:1", .empty⟩ := by
      decide +kernel
    exact (genuine isGenuine_withinProgram).1 _ (.resolution read rfl)

end Network

end TransportStack
