import Mathlib.Data.List.Nodup
import TieredSearch.Number.Rational
import TieredSearch.Schema.Registry

/-!
# The registry over a run

Mappings of the backend are set, changed and taken away, and in between the registry is refreshed. What
carries every statement is `Registry.Reflects`: what is held of an index was read off a mapping that the
backend has had, and bears an earlier stamp than the next entry. A refresh of one index keeps it, hence
a refresh of all, hence a run (`MappedSite.reflects_run`). Main statement
(`registry_reflects_last_good_mapping`): after every refresh of a run, an index whose mapping can be read
holds the schema of that mapping, any other one what it held before, the answer counts the entries that
were replaced or names the indices that failed, and a second refresh changes nothing.

Mappings are told apart by their digests, so those of a run are assumed to have different ones.
-/

namespace TieredSearch

variable {R : Type} [Scalar R]

/-- The schema of an index by a mapping, if it can be read. -/
def Config.schemaOf? (c : Config) (i : IndexConfig) (mapping : Json R) : Option Schema :=
  (Schema.ofMapping i.index i.docType ⟨i.arrayFields, c.aggregation.analyzedSuffix⟩ mapping).toOption

/-- The schema of an index by its mapping, if the mapping can be fetched and read. -/
def Config.current? (c : Config) (fetch : String → Option (Json R)) (i : IndexConfig) : Option Schema :=
  (fetch i.index).bind (c.schemaOf? i)

/-- A schema that is read off a mapping bears the name of its index and the digest of the mapping. -/
theorem Config.labels_of_schemaOf? {c : Config} {i : IndexConfig} {mapping : Json R} {s : Schema}
    (read : c.schemaOf? i mapping = some s) :
    s.index = i.index ∧ s.contentHash = Schema.contentHashOf mapping := by
  rw [schemaOf?, Schema.ofMapping] at read
  cases found : Schema.properties? i.docType mapping with
  | error fault =>
    rw [found] at read
    cases read
  | ok properties =>
    rw [found] at read
    cases read
    exact ⟨rfl, rfl⟩

namespace Registry

variable {c : Config} {seen : List (Json R)} {r r' : Registry} {i : IndexConfig}

/-! ### Entries -/

theorem entry?_insert (r : Registry) (s : Schema) (name : String) :
    entry? (r.insert s) name = if s.index = name then some ⟨s, r.nextStamp⟩ else r.entry? name := by
  unfold entry? insert
  rw [List.find?_cons]
  by_cases same : s.index = name
  · simp [same]
  · have others : (fun entry : String × RegistryEntry =>
        decide (decide (entry.1 ≠ s.index) = true ∧ decide (entry.1 = name) = true)) =
          fun entry => decide (entry.1 = name) := by
      funext entry
      by_cases named : entry.1 = name
      · simp [named, Ne.symm same]
      · simp [named]
    simp only [same, decide_false, List.find?_filter, others, if_false]

/-- What is held of a configured index was read off a mapping that has been seen, and every entry
is older than the next one. -/
structure Reflects (r : Registry) (c : Config) (seen : List (Json R)) : Prop where
  /-- Schemas are those of mappings. -/
  read : ∀ i ∈ c.indices, ∀ e, r.entry? i.index = some e → ∃ m ∈ seen, c.schemaOf? i m = some e.schema
  /-- Stamps are used up. -/
  stamped : ∀ name e, r.entry? name = some e → e.stamp < r.nextStamp

/-- The digests tell mappings apart. -/
def DigestsApart (seen : List (Json R)) : Prop :=
  ∀ m ∈ seen, ∀ m' ∈ seen, Schema.contentHashOf m = Schema.contentHashOf m' → m = m'

/-- What is held under the digest of a mapping is what can be read off the mapping. -/
theorem Reflects.schemaOf?_eq (reflects : r.Reflects c seen) (apart : DigestsApart seen)
    (configured : i ∈ c.indices) {m : Json R} (known : m ∈ seen)
    (held : (r.get? i.index).any (·.contentHash = Schema.contentHashOf m) = true) :
    c.schemaOf? i m = r.get? i.index := by
  obtain ⟨s, held, same⟩ := (Option.any_eq_true _ _).mp held
  obtain ⟨e, entered, rfl⟩ := Option.map_eq_some_iff.mp held
  obtain ⟨m', known', read⟩ := reflects.read i configured e entered
  have digest := (Config.labels_of_schemaOf? read).2
  rw [apart m known m' known' ((of_decide_eq_true same).symm.trans digest), read, held]

/-- A schema that was read off a mapping may be entered. -/
theorem Reflects.insert (reflects : r.Reflects c seen) (distinct : c.indexNames.Nodup)
    (configured : i ∈ c.indices) {m : Json R} (known : m ∈ seen) {s : Schema}
    (read : c.schemaOf? i m = some s) : (r.insert s).Reflects c seen where
  read j hj e entered := by
    rw [entry?_insert] at entered
    split at entered
    next same =>
      cases entered
      have named := (Config.labels_of_schemaOf? read).1
      have itself : i = j := List.inj_on_of_nodup_map distinct configured hj (named.symm.trans same)
      exact ⟨m, known, itself ▸ read⟩
    next => exact reflects.read j hj e entered
  stamped name e entered := by
    rw [entry?_insert] at entered
    split at entered
    · cases entered
      exact Nat.lt_succ_self _
    · exact Nat.lt_succ_of_lt (reflects.stamped name e entered)

/-! ### One index -/

/-- What becomes of an index in a refresh, by what is held and what can be read. -/
def outcome (c : Config) (fetch : String → Option (Json R)) (r : Registry) (i : IndexConfig) :
    Refreshed :=
  match c.current? fetch i with
  | none => .failed
  | some s => if (r.get? i.index).any (·.contentHash = s.contentHash) then .kept else .rebuilt

/-- `r.Becomes name current outcome entry`: with `current` to be read off the mapping of an index, a
refresh has that outcome for it and leaves that entry. -/
inductive Becomes (r : Registry) (name : String) :
    Option Schema → Refreshed → Option RegistryEntry → Prop where
  /-- Nothing can be read, and what is held stays. -/
  | failed : r.Becomes name none .failed (r.entry? name)
  /-- The schema is held already. -/
  | kept {s : Schema} (held : r.get? name = some s) : r.Becomes name (some s) .kept (r.entry? name)
  /-- The schema is entered anew. -/
  | rebuilt {s : Schema} {stamp : Nat} (changed : r.get? name ≠ some s) (fresh : r.nextStamp ≤ stamp) :
    r.Becomes name (some s) .rebuilt (some ⟨s, stamp⟩)

/-- What becomes of an index later on becomes of it if nothing has changed about it until then. -/
theorem Becomes.earlier {name : String} {current : Option Schema} {o : Refreshed}
    {e : Option RegistryEntry} (becomes : r'.Becomes name current o e)
    (same : r'.entry? name = r.entry? name) (later : r.nextStamp ≤ r'.nextStamp) :
    r.Becomes name current o e := by
  have held : r'.get? name = r.get? name := congrArg _ same
  cases becomes with
  | failed => exact same ▸ .failed
  | kept h => exact same ▸ .kept (held ▸ h)
  | rebuilt changed fresh => exact .rebuilt (held ▸ changed) (Nat.le_trans later fresh)

/-- A refresh of some indices has come from one registry to another. -/
structure Refreshes (c : Config) (seen : List (Json R)) (fetch : String → Option (Json R))
    (indices : List IndexConfig) (r r' : Registry) : Prop where
  /-- What becomes of each of them. -/
  becomes : ∀ i ∈ indices,
    r.Becomes i.index (c.current? fetch i) (r.outcome c fetch i) (r'.entry? i.index)
  /-- Nothing becomes of the others. -/
  others : ∀ name, name ∉ indices.map (·.index) → r'.entry? name = r.entry? name
  /-- The stamps go on. -/
  later : r.nextStamp ≤ r'.nextStamp
  /-- What is held was read off mappings. -/
  reflects : r'.Reflects c seen
  /-- If nothing is rebuilt, nothing changes. -/
  unchanged : (∀ i ∈ indices, r.outcome c fetch i ≠ .rebuilt) → r' = r

variable {fetch : String → Option (Json R)}

/-- A refresh of one index enters the schema that is read off its mapping, unless it is held. -/
theorem refreshOne_eq (reflects : r.Reflects c seen) (apart : DigestsApart seen)
    (configured : i ∈ c.indices) (known : ∀ m, fetch i.index = some m → m ∈ seen) :
    refreshOne c.aggregation.analyzedSuffix i (fetch i.index) r =
      match c.current? fetch i with
      | none => (.failed, r)
      | some s =>
        if (r.get? i.index).any (·.contentHash = s.contentHash) then (.kept, r)
        else (.rebuilt, r.insert s) := by
  rw [Config.current?]
  cases fetched : fetch i.index with
  | none => rfl
  | some m =>
    rw [refreshOne, Option.bind_some, Config.schemaOf?]
    cases built : Schema.ofMapping i.index i.docType ⟨i.arrayFields, c.aggregation.analyzedSuffix⟩ m with
    | error fault =>
      have unread : c.schemaOf? i m = none := by rw [Config.schemaOf?, built, Except.toOption]
      -- a mapping that cannot be walked is not held
      have unknown : ¬(r.get? i.index).any (·.contentHash = Schema.contentHashOf m) = true := by
        intro held
        have nothing := reflects.schemaOf?_eq apart configured (known m fetched) held
        rw [← nothing, unread] at held
        cases held
      rw [if_neg unknown]
      rfl
    | ok s =>
      have read : c.schemaOf? i m = some s := by rw [Config.schemaOf?, built, Except.toOption]
      rw [← (Config.labels_of_schemaOf? read).2]
      rfl

theorem refreshOne_spec (reflects : r.Reflects c seen) (apart : DigestsApart seen)
    (distinct : c.indexNames.Nodup) (configured : i ∈ c.indices)
    (known : ∀ m, fetch i.index = some m → m ∈ seen) :
    (refreshOne c.aggregation.analyzedSuffix i (fetch i.index) r).1 = r.outcome c fetch i ∧
      Refreshes c seen fetch [i] r (refreshOne c.aggregation.analyzedSuffix i (fetch i.index) r).2 := by
  have settled (becomes : r.Becomes i.index (c.current? fetch i) (r.outcome c fetch i)
      (r.entry? i.index)) : Refreshes c seen fetch [i] r r :=
    ⟨by simpa using becomes, fun _ _ => rfl, Nat.le_refl _, reflects, fun _ => rfl⟩
  rw [refreshOne_eq reflects apart configured known]
  cases read : c.current? fetch i with
  | none =>
    have failed : r.outcome c fetch i = .failed := by rw [outcome, read]
    refine ⟨failed.symm, settled ?_⟩
    rw [read, failed]
    exact .failed
  | some s =>
    obtain ⟨m, fetched, walked⟩ := Option.bind_eq_some_iff.mp read
    obtain ⟨named, digest⟩ := Config.labels_of_schemaOf? walked
    dsimp only
    by_cases held : (r.get? i.index).any (·.contentHash = s.contentHash) = true
    · have kept : r.outcome c fetch i = .kept := by
        rw [outcome, read]
        exact if_pos held
      have same := reflects.schemaOf?_eq apart configured (known m fetched) (digest ▸ held)
      rw [if_pos held]
      refine ⟨kept.symm, settled ?_⟩
      rw [read, kept]
      exact .kept (same.symm.trans walked)
    · have rebuilt : r.outcome c fetch i = .rebuilt := by
        rw [outcome, read]
        exact if_neg held
      rw [if_neg held]
      refine ⟨rebuilt.symm, fun j hj => ?_, fun name other => ?_, Nat.le_succ _, ?_, fun kept => ?_⟩
      · cases List.mem_singleton.mp hj
        rw [read, rebuilt, entry?_insert, if_pos named]
        refine .rebuilt (fun itself => held ?_) (Nat.le_refl _)
        simp [itself]
      · rw [entry?_insert, if_neg]
        rintro rfl
        exact other (by simp [named])
      · exact reflects.insert distinct configured (known m fetched) walked
      · exact absurd rebuilt (kept i List.mem_cons_self)

/-! ### All indices -/

/-- A refresh of one index and then of others, which have other names. -/
theorem Refreshes.cons {rest : List IndexConfig} {r₁ r₂ : Registry}
    (first : Refreshes c seen fetch [i] r r₁) (second : Refreshes c seen fetch rest r₁ r₂)
    (distinct : i.index ∉ rest.map (·.index)) : Refreshes c seen fetch (i :: rest) r r₂ := by
  have before (j : IndexConfig) (hj : j ∈ rest) : r₁.entry? j.index = r.entry? j.index := by
    refine first.others _ fun named => distinct ?_
    rw [List.map_singleton, List.mem_singleton] at named
    exact named ▸ List.mem_map_of_mem hj
  have same (j : IndexConfig) (hj : j ∈ rest) : r₁.outcome c fetch j = r.outcome c fetch j := by
    rw [outcome, outcome, get?, get?, before j hj]
  constructor
  · intro j hj
    rcases List.mem_cons.mp hj with rfl | hj
    · rw [second.others _ distinct]
      exact first.becomes _ List.mem_cons_self
    · exact same j hj ▸ (second.becomes j hj).earlier (before j hj) first.later
  · intro name other
    rw [List.map_cons, List.mem_cons, not_or] at other
    rw [second.others name other.2]
    exact first.others name (by simpa using other.1)
  · exact Nat.le_trans first.later second.later
  · exact second.reflects
  · intro kept
    obtain ⟨here, later⟩ := List.forall_mem_cons.mp kept
    rw [second.unchanged fun j hj => same j hj ▸ later j hj]
    exact first.unchanged (by simpa using here)

theorem refreshAll_spec (apart : DigestsApart seen) (distinct : c.indexNames.Nodup)
    (known : ∀ name m, fetch name = some m → m ∈ seen) {indices : List IndexConfig}
    (configured : ∀ i ∈ indices, i ∈ c.indices) (names : (indices.map (·.index)).Nodup)
    (reflects : r.Reflects c seen) :
    (refreshAll c.aggregation.analyzedSuffix fetch indices r).1 =
        indices.map (fun i => (i.index, r.outcome c fetch i)) ∧
      Refreshes c seen fetch indices r
        (refreshAll c.aggregation.analyzedSuffix fetch indices r).2 := by
  induction indices generalizing r with
  | nil =>
    refine ⟨rfl, ?_, fun _ _ => rfl, Nat.le_refl _, reflects, fun _ => rfl⟩
    simp
  | cons i rest ih =>
    obtain ⟨here, later⟩ := List.forall_mem_cons.mp configured
    obtain ⟨other, names⟩ := List.nodup_cons.mp names
    obtain ⟨first, step⟩ := refreshOne_spec reflects apart distinct here (known i.index)
    obtain ⟨outcomes, run⟩ := ih later names step.reflects
    refine ⟨?_, step.cons run other⟩
    rw [refreshAll]
    dsimp only
    rw [first, outcomes, List.map_cons]
    refine congrArg _ (List.map_congr_left fun j hj => ?_)
    have before : entry? (refreshOne c.aggregation.analyzedSuffix i (fetch i.index) r).2 j.index =
        r.entry? j.index := by
      refine step.others _ fun named => other ?_
      rw [List.map_singleton, List.mem_singleton] at named
      exact List.mem_map.mpr ⟨j, hj, named⟩
    rw [outcome, outcome, get?, get?, before]

/-- After a refresh of all indices, what becomes of each of them. -/
theorem refresh_spec (apart : DigestsApart seen) (distinct : c.indexNames.Nodup)
    (known : ∀ name m, fetch name = some m → m ∈ seen) (reflects : r.Reflects c seen) :
    Refreshes c seen fetch c.indices r (r.refresh c fetch).2 ∧
      (r.refresh c fetch).1 =
        if ((c.indices.filter (r.outcome c fetch · = .failed)).map (·.index)).isEmpty then
          .ok (c.indices.filter (r.outcome c fetch · = .rebuilt)).length
        else .error ((c.indices.filter (r.outcome c fetch · = .failed)).map (·.index)) := by
  obtain ⟨outcomes, refreshes⟩ :=
    refreshAll_spec apart distinct known (fun i hi => hi) distinct reflects
  have failed : (((c.indices.map fun i => (i.index, r.outcome c fetch i)).filter (·.2 = .failed)).map
      Prod.fst) = (c.indices.filter (r.outcome c fetch · = .failed)).map (·.index) := by
    rw [List.filter_map, List.map_map]
    rfl
  have rebuilt : ((c.indices.map fun i => (i.index, r.outcome c fetch i)).filter (·.2 = .rebuilt)).length =
      (c.indices.filter (r.outcome c fetch · = .rebuilt)).length := by
    rw [List.filter_map, List.length_map]
    rfl
  unfold refresh
  simp only [outcomes, failed, rebuilt]
  split
  · exact ⟨refreshes, rfl⟩
  · exact ⟨refreshes, rfl⟩

/-! ### Reading the outcomes -/

variable {name : String} {current : Option Schema} {o : Refreshed} {e : Option RegistryEntry}

/-- An index fails when nothing can be read. -/
theorem Becomes.failed_iff (becomes : r.Becomes name current o e) : o = .failed ↔ current = none := by
  cases becomes <;> simp

/-- An index of which nothing can be read, or nothing new, keeps its entry. -/
theorem Becomes.stays (becomes : r.Becomes name current o e)
    (settled : current = none ∨ current = r.get? name) : e = r.entry? name ∧ o ≠ .rebuilt := by
  cases becomes with
  | failed => simp
  | kept held => simp
  | rebuilt changed fresh =>
    rcases settled with ⟨⟨⟩⟩ | same
    exact absurd same.symm changed

/-- An index is rebuilt when its entry is another one. -/
theorem Becomes.rebuilt_iff (becomes : r.Becomes name current o e) (reflects : r.Reflects c seen) :
    o = .rebuilt ↔ e.map (·.stamp) ≠ (r.entry? name).map (·.stamp) := by
  cases becomes with
  | failed => simp
  | kept => simp
  | rebuilt changed fresh =>
    refine iff_of_true rfl fun same => ?_
    obtain ⟨e, entered, used⟩ := Option.map_eq_some_iff.mp same.symm
    have older := reflects.stamped name e entered
    dsimp only at used
    omega

/-- What can be read is held afterwards. -/
theorem Becomes.held {s : Schema} (becomes : r.Becomes name (some s) o e) :
    e.map (·.schema) = some s := by
  cases becomes with
  | kept held => exact held
  | rebuilt changed fresh => rfl

end Registry

/-! ### Runs -/

/-- The mappings of a search backend, and a registry of their schemas. -/
structure MappedSite (R : Type) where
  /-- The mapping of an index, if there is one. -/
  mappings : String → Option (Json R)
  /-- The registry. -/
  registry : Registry

/-- What happens to a site. -/
inductive SiteEvent (R : Type) where
  /-- The mapping of an index is set, or taken away. -/
  | mapped (index : String) (mapping : Option (Json R))
  /-- The registry is refreshed. -/
  | refreshed

/-- The mapping that an event brings. -/
def SiteEvent.mapping? : SiteEvent R → Option (Json R)
  | .mapped _ mapping => mapping
  | .refreshed => none

namespace MappedSite

variable {c : Config} {seen : List (Json R)} {site : MappedSite R} {i : IndexConfig}

/-- One event. -/
def step (c : Config) (site : MappedSite R) : SiteEvent R → MappedSite R
  | .mapped index mapping =>
    { site with mappings := fun name => if name = index then mapping else site.mappings name }
  | .refreshed => { site with registry := (site.registry.refresh c site.mappings).2 }

/-- A run of events, from an empty registry and a backend without mappings. -/
def run (c : Config) (events : List (SiteEvent R)) : MappedSite R :=
  events.foldl (step c) ⟨fun _ => none, {}⟩

/-- The indices without a schema to read, in configured order. -/
def failing (c : Config) (site : MappedSite R) : List String :=
  (c.indices.filter fun i => (c.current? site.mappings i).isNone).map (·.index)

/-- The registry reflects mappings that have been seen, among them those of the backend. -/
def Reflects (site : MappedSite R) (c : Config) (seen : List (Json R)) : Prop :=
  site.registry.Reflects c seen ∧ ∀ name m, site.mappings name = some m → m ∈ seen

theorem reflects_step (apart : Registry.DigestsApart seen) (distinct : c.indexNames.Nodup)
    (reflects : site.Reflects c seen) (event : SiteEvent R)
    (known : ∀ m, event.mapping? = some m → m ∈ seen) : (site.step c event).Reflects c seen := by
  obtain ⟨registry, mappings⟩ := reflects
  cases event with
  | mapped index mapping =>
    refine ⟨registry, fun name m mapped => ?_⟩
    rw [step] at mapped
    dsimp only at mapped
    split at mapped
    · exact known m mapped
    · exact mappings name m mapped
  | refreshed => exact ⟨(Registry.refresh_spec apart distinct mappings registry).1.reflects, mappings⟩

theorem reflects_foldl (apart : Registry.DigestsApart seen) (distinct : c.indexNames.Nodup)
    {events : List (SiteEvent R)} (known : ∀ event ∈ events, ∀ m, event.mapping? = some m → m ∈ seen)
    (reflects : site.Reflects c seen) : (events.foldl (step c) site).Reflects c seen := by
  induction events generalizing site with
  | nil => exact reflects
  | cons event events ih =>
    obtain ⟨here, later⟩ := List.forall_mem_cons.mp known
    exact ih later (reflects_step apart distinct reflects event here)

/-- After every run, the registry reflects mappings that the backend has had. -/
theorem reflects_run (distinct : c.indexNames.Nodup) {events : List (SiteEvent R)}
    (apart : Registry.DigestsApart (events.filterMap SiteEvent.mapping?)) :
    (run c events).Reflects c (events.filterMap SiteEvent.mapping?) := by
  refine reflects_foldl apart distinct (fun event happened m brought => ?_) ⟨⟨?_, ?_⟩, ?_⟩
  · exact List.mem_filterMap.mpr ⟨event, happened, brought⟩
  · rintro i - e ⟨⟩
  · rintro name e ⟨⟩
  · rintro name m ⟨⟩

/-- In a refresh, the indices without a schema to read are those that fail. -/
theorem failing_eq {r r' : Registry}
    (refreshes : Registry.Refreshes c seen site.mappings c.indices r r') :
    (c.indices.filter (r.outcome c site.mappings · = .failed)).map (·.index) = site.failing c := by
  refine congrArg _ (List.filter_congr fun i hi => ?_)
  rw [Bool.eq_iff_iff, decide_eq_true_iff, Option.isNone_iff_eq_none]
  exact (refreshes.becomes i hi).failed_iff

end MappedSite

/-- After any run of mapping changes and refreshes, a refresh leaves every index whose mapping can
be read with the schema of that mapping, and any other one with what it held before; an index whose
digest is that of its mapping keeps its entry. The answer is the number of entries replaced if no
index fails, and else the names of those that do, in configured order. A further refresh changes
nothing: it replaces no entry, or fails for the same indices. -/
theorem registry_reflects_last_good_mapping {c : Config} (distinct : c.indexNames.Nodup)
    {events : List (SiteEvent R)} (apart : Registry.DigestsApart (events.filterMap SiteEvent.mapping?))
    {site : MappedSite R} (run : MappedSite.run c events = site) {answer : Except (List String) Nat}
    {after : Registry} (refreshed : site.registry.refresh c site.mappings = (answer, after)) :
    (∀ i ∈ c.indices, ∀ s, c.current? site.mappings i = some s → after.get? i.index = some s) ∧
    (∀ i ∈ c.indices, c.current? site.mappings i = none →
      after.entry? i.index = site.registry.entry? i.index) ∧
    (∀ i ∈ c.indices, ∀ e m, site.registry.entry? i.index = some e → site.mappings i.index = some m →
      e.schema.contentHash = Schema.contentHashOf m → after.entry? i.index = some e) ∧
    (answer = if (site.failing c).isEmpty then
        .ok (c.indices.filter fun i => (after.entry? i.index).map (·.stamp) ≠
          (site.registry.entry? i.index).map (·.stamp)).length
      else .error (site.failing c)) ∧
    after.refresh c site.mappings =
      (if (site.failing c).isEmpty then .ok 0 else .error (site.failing c), after) := by
  obtain ⟨registry, mappings⟩ := run ▸ MappedSite.reflects_run distinct apart
  obtain ⟨refreshes, answers⟩ := Registry.refresh_spec apart distinct mappings registry
  rw [refreshed] at refreshes answers
  rw [MappedSite.failing_eq refreshes] at answers
  have held : ∀ i ∈ c.indices, ∀ s, c.current? site.mappings i = some s →
      after.get? i.index = some s := by
    intro i hi s current
    have becomes := refreshes.becomes i hi
    rw [current] at becomes
    exact becomes.held
  refine ⟨held, fun i hi current => ?_, fun i hi e m entered fetched same => ?_, ?_, ?_⟩
  · exact ((refreshes.becomes i hi).stays (.inl current)).1
  · have itself : (site.registry.get? i.index).any (·.contentHash = Schema.contentHashOf m) = true := by
      simp [Registry.get?, entered, same]
    have read := registry.schemaOf?_eq apart hi (mappings _ m fetched) itself
    have current : c.current? site.mappings i = site.registry.get? i.index := by
      rw [Config.current?, fetched, Option.bind_some, read]
    rw [((refreshes.becomes i hi).stays (.inr current)).1, entered]
  · have replaced : c.indices.filter (site.registry.outcome c site.mappings · = .rebuilt) =
        c.indices.filter fun i => (after.entry? i.index).map (·.stamp) ≠
          (site.registry.entry? i.index).map (·.stamp) := by
      refine List.filter_congr fun i hi => ?_
      rw [Bool.eq_iff_iff, decide_eq_true_iff, decide_eq_true_iff]
      exact (refreshes.becomes i hi).rebuilt_iff registry
    rw [replaced] at answers
    exact answers
  · obtain ⟨again, answersAgain⟩ := Registry.refresh_spec apart distinct mappings refreshes.reflects
    have settled : ∀ i ∈ c.indices, after.outcome c site.mappings i ≠ .rebuilt := by
      intro i hi
      refine ((again.becomes i hi).stays ?_).2
      cases current : c.current? site.mappings i with
      | none => exact .inl rfl
      | some s => exact .inr (held i hi s current).symm
    have nothing : (c.indices.filter (after.outcome c site.mappings · = .rebuilt)) = [] := by
      refine List.filter_eq_nil_iff.mpr fun i hi => ?_
      simpa using settled i hi
    refine Prod.ext ?_ (again.unchanged settled)
    rw [answersAgain, MappedSite.failing_eq again, nothing]
    rfl

namespace Sample

/-- A site with an index of subjects and one of visits. -/
def subjectsAndVisits : Config where
  backend := { endpoint := "http://search" }
  policy := { endpoint := "http://policy" }
  indices := [{ index := "subject" }, { index := "visit" }]

/-- A mapping with one field. -/
def ageMapping : Json Rat :=
  .obj [("current", .obj [("mappings", .obj [("properties",
    .obj [("age", .obj [("type", .str "long")])])])])]

/-- The mapping of the subjects is read and then taken away; one of the visits comes later. -/
def subjectsGone : List (SiteEvent Rat) :=
  [.mapped "subject" (some ageMapping), .refreshed, .mapped "subject" none,
    .mapped "visit" (some ageMapping)]

end Sample

/-- The subjects, whose mapping is gone, keep their schema and are named; the visits are read all the
same, and another refresh changes nothing. -/
theorem subjects_kept_without_mapping :
    let site := MappedSite.run Sample.subjectsAndVisits Sample.subjectsGone
    let after := (site.registry.refresh Sample.subjectsAndVisits site.mappings).2
    (site.registry.refresh Sample.subjectsAndVisits site.mappings).1 = .error ["subject"] ∧
    (after.get? "subject").map (·.fields.map (·.name)) = some ["age"] ∧
    (after.get? "visit").map (·.fields.map (·.name)) = some ["age"] ∧
    after.refresh Sample.subjectsAndVisits site.mappings = (.error ["subject"], after) := by
  intro site after
  have distinct : Sample.subjectsAndVisits.indexNames.Nodup := by decide
  have apart : Registry.DigestsApart (Sample.subjectsGone.filterMap SiteEvent.mapping?) := by
    intro m hm m' hm' _
    simp only [Sample.subjectsGone, SiteEvent.mapping?, List.filterMap_cons, List.filterMap_nil,
      List.mem_cons, List.not_mem_nil, or_false, or_self] at hm hm'
    rw [hm, hm']
  have reached : MappedSite.run Sample.subjectsAndVisits Sample.subjectsGone = site := rfl
  have refreshed : site.registry.refresh Sample.subjectsAndVisits site.mappings =
      ((site.registry.refresh Sample.subjectsAndVisits site.mappings).1, after) := rfl
  obtain ⟨held, kept, -, answer, again⟩ :=
    registry_reflects_last_good_mapping distinct apart reached refreshed
  have failing : site.failing Sample.subjectsAndVisits = ["subject"] := rfl
  rw [failing] at answer again
  refine ⟨answer, ?_, ?_, again⟩
  · rw [Registry.get?, kept ⟨"subject", none, none, []⟩ List.mem_cons_self rfl]
    rfl
  · rw [held ⟨"visit", none, none, []⟩ (List.mem_cons_of_mem _ List.mem_cons_self) _ rfl]
    rfl

end TieredSearch
