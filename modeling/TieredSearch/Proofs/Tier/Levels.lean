import Mathlib.Data.List.Nodup
import TieredSearch.Proofs.Tier.Decision
import TieredSearch.Tier.Mediation

/-!
# Levels of an accepted configuration

A configuration is checked before any request: `Config.usesRegular` goes through the indices one by one and notes
whether suppression is in force for one of them. Requests look the level of their index up on their own, by name
(`Config.effectiveLevel`). Both are judged here against what an index is to be served at, read off its own
configuration and that of the site (`Config.servedLevel`).

What the check of the indices finds is said by one induction over them (`Config.usesRegular_eq_ok_iff`). Main
statement (`Config.accepted_iff_servable`): a configuration whose indices have different names is accepted exactly
when it is servable, the level found for an index is the one it is to be served at, and so a mediation under an
accepted configuration meets one of the three levels of an index, with a limit of its own wherever counts are
suppressed.
-/

namespace TieredSearch

/-- The levels that an index can be served at. -/
def AccessLevel.usable : List AccessLevel := [.libre, .regular, .restricted]

namespace Config

variable {c : Config}

/-- The level an index is to be served at: that of the whole site where one is set that does not refer to the
indices, and else its own. -/
def servedLevel (c : Config) (i : IndexConfig) : Option AccessLevel :=
  match c.tier.level with
  | none | some .granular => i.level
  | some site => some site

/-- Every index of the configuration can be served. -/
structure IsServable (c : Config) : Prop where
  /-- There is an index. -/
  indexed : c.indices ≠ []
  /-- A page of terms is not empty. -/
  paged : 0 < c.aggregation.pageSize
  /-- Each index is to be served at one of the three levels. -/
  leveled : ∀ i ∈ c.indices, ∃ l ∈ AccessLevel.usable, c.servedLevel i = some l
  /-- There is a limit where counts are suppressed. -/
  limited : ∀ i ∈ c.indices, c.servedLevel i = some .regular → ∃ limit, c.tier.limit = some limit
  /-- A limit is not below zero. -/
  nonneg : ∀ limit, c.tier.limit = some limit → 0 ≤ limit

/-! ### The two ways to a level -/

theorem servedLevel_eq (c : Config) (i : IndexConfig) : c.servedLevel i = c.siteLevel.or i.level := by
  rw [servedLevel, siteLevel]
  cases c.tier.level with
  | none => rfl
  | some site => cases site <;> rfl

theorem siteLevel_ne_granular (c : Config) : c.siteLevel ≠ some .granular := by
  intro same
  have own := (Option.filter_eq_some_iff.mp same).2
  exact absurd own (by decide)

/-- The level of an index that is found by its name is that of some index of the name. -/
theorem exists_effectiveLevel_eq {i : IndexConfig} (configured : i ∈ c.indices) :
    ∃ j ∈ c.indices, j.index = i.index ∧ c.effectiveLevel i.index = c.servedLevel j := by
  have found : (c.index? i.index).isSome := List.find?_isSome.mpr ⟨i, configured, decide_eq_true rfl⟩
  obtain ⟨j, found⟩ := Option.isSome_iff_exists.mp found
  refine ⟨j, List.mem_of_find?_eq_some found, by simpa using List.find?_some found, ?_⟩
  rw [servedLevel_eq, effectiveLevel, found, Option.bind_some]

/-- Where no two indices have one name, the level that is found by the name is that of the index. -/
theorem effectiveLevel_eq (distinct : c.indexNames.Nodup) {i : IndexConfig} (configured : i ∈ c.indices) :
    c.effectiveLevel i.index = c.servedLevel i := by
  obtain ⟨j, member, named, same⟩ := exists_effectiveLevel_eq configured
  rw [same, List.inj_on_of_nodup_map distinct member configured named]

/-! ### The check -/

/-- A level of the whole site decides without the indices. -/
theorem usesRegular_some (site : AccessLevel) (indices : List IndexConfig) :
    usesRegular (some site) indices = .ok (some site = some .regular) := by
  induction indices with
  | nil => rfl
  | cons i rest ih => exact ih

/-- A step of the check: without a level of the whole site, an index needs one of the three, and is regular
itself or leaves it to the others. -/
theorem usesRegular_none_cons_eq_ok_iff {i : IndexConfig} {rest : List IndexConfig} {regular : Bool} :
    usesRegular none (i :: rest) = .ok regular ↔ (∃ l ∈ AccessLevel.usable, i.level = some l) ∧
      ∃ others, usesRegular none rest = .ok others ∧
        (regular = true ↔ i.level = some .regular ∨ others = true) := by
  obtain ⟨name, docType, level, arrayFields⟩ := i
  cases level with
  | none => exact ⟨nofun, fun ⟨⟨_, _, same⟩, _⟩ => by cases same⟩
  | some own =>
    by_cases granular : own = .granular
    · subst granular
      refine ⟨nofun, fun ⟨⟨l, usable, same⟩, _⟩ => ?_⟩
      cases same
      exact absurd usable (by decide)
    · have usable : own ∈ AccessLevel.usable := by
        cases own <;> first | exact absurd rfl granular | decide
      have step : usesRegular none (⟨name, docType, some own, arrayFields⟩ :: rest) =
          (usesRegular none rest).map (own = .regular || ·) := by
        cases own <;> first | exact absurd rfl granular | rfl
      rw [step, map_eq_ok_iff]
      simp only [Bool.eq_iff_iff (b := regular), Bool.or_eq_true, decide_eq_true_eq, Option.some_inj]
      exact ⟨fun ⟨others, checked, same⟩ => ⟨⟨own, usable, rfl⟩, others, checked, same.symm⟩,
        fun ⟨_, others, checked, same⟩ => ⟨others, checked, same.symm⟩⟩

/-- Without a level of the whole site, every index needs one of the three, and suppression is in force when one of
them is regular. -/
theorem usesRegular_none_eq_ok_iff {indices : List IndexConfig} {regular : Bool} :
    usesRegular none indices = .ok regular ↔
      (∀ i ∈ indices, ∃ l ∈ AccessLevel.usable, i.level = some l) ∧
      (regular = true ↔ ∃ i ∈ indices, i.level = some .regular) := by
  induction indices generalizing regular with
  | nil =>
    have none : ¬∃ i ∈ ([] : List IndexConfig), i.level = some .regular := fun ⟨_, member, _⟩ => by cases member
    simp only [iff_false_right none, Bool.not_eq_true]
    exact ⟨fun checked => ⟨nofun, by cases checked; rfl⟩, fun ⟨_, same⟩ => by rw [same]; rfl⟩
  | cons i rest ih =>
    rw [usesRegular_none_cons_eq_ok_iff, List.forall_mem_cons, and_assoc]
    simp only [List.mem_cons, exists_eq_or_imp]
    refine and_congr_right fun _ => ⟨?_, ?_⟩
    · rintro ⟨others, checked, same⟩
      obtain ⟨usable, found⟩ := ih.mp checked
      exact ⟨usable, same.trans (or_congr_right found)⟩
    · rintro ⟨usable, same⟩
      classical
      exact ⟨decide (∃ j ∈ rest, j.level = some .regular), ih.mpr ⟨usable, decide_eq_true_iff⟩,
        same.trans (or_congr_right decide_eq_true_iff.symm)⟩

/-- The check of the indices goes through when each is to be served at one of the three levels, and it finds out
whether one of them is to be regular. -/
theorem usesRegular_eq_ok_iff (indexed : c.indices ≠ []) {regular : Bool} :
    usesRegular c.siteLevel c.indices = .ok regular ↔
      (∀ i ∈ c.indices, ∃ l ∈ AccessLevel.usable, c.servedLevel i = some l) ∧
      (regular = true ↔ ∃ i ∈ c.indices, c.servedLevel i = some .regular) := by
  simp only [servedLevel_eq]
  cases site : c.siteLevel with
  | none =>
    simp only [Option.none_or]
    exact usesRegular_none_eq_ok_iff
  | some level =>
    have own : level ≠ .granular := fun same => c.siteLevel_ne_granular (same ▸ site)
    have usable : level ∈ AccessLevel.usable := by cases level <;> first | exact absurd rfl own | decide
    obtain ⟨i, member⟩ := List.exists_mem_of_ne_nil _ indexed
    simp only [Option.some_or, usesRegular_some, Except.ok.injEq]
    constructor
    · rintro rfl
      exact ⟨fun _ _ => ⟨level, usable, rfl⟩,
        decide_eq_true_iff.trans ⟨fun same => ⟨i, member, same⟩, fun ⟨_, _, same⟩ => same⟩⟩
    · rintro ⟨-, same⟩
      rw [Bool.eq_iff_iff, same, decide_eq_true_iff]
      exact ⟨fun same => ⟨i, member, same⟩, fun ⟨_, _, same⟩ => same⟩

/-- What comes behind a refusal is reached only where nothing is refused. -/
theorem refusal_eq_ok_iff {α : Type} {refused : Prop} [Decidable refused] {fault : ConfigFault}
    {unreached : PUnit → Except ConfigFault α} {next : Except ConfigFault α} {a : α} :
    (if refused then throw fault >>= unreached else next) = .ok a ↔ ¬refused ∧ next = .ok a := by
  split
  next refused => exact ⟨nofun, fun h => absurd refused h.1⟩
  next passed => exact ⟨fun h => ⟨passed, h⟩, And.right⟩

/-- A configuration is accepted exactly when all its indices can be served. -/
theorem validate_eq_ok_iff : c.validate = .ok () ↔ c.IsServable := by
  have checked : c.validate = .ok () ↔ c.indices ≠ [] ∧ 0 < c.aggregation.pageSize ∧
      ∃ regular, usesRegular c.siteLevel c.indices = .ok regular ∧
        (regular = true → ∃ limit, c.tier.limit = some limit) ∧
        ∀ limit, c.tier.limit = some limit → 0 ≤ limit := by
    rw [validate, refusal_eq_ok_iff, refusal_eq_ok_iff, bind_eq_ok_iff, List.isEmpty_iff, Nat.pos_iff_ne_zero]
    refine and_congr_right fun _ => and_congr_right fun _ => exists_congr fun regular =>
      and_congr_right fun _ => ?_
    cases c.tier.limit with
    | none => cases regular <;> simp [throw, throwThe, MonadExceptOf.throw, pure, Except.pure]
    | some limit =>
      by_cases below : limit < 0
      · simp [below, throw, throwThe, MonadExceptOf.throw]
      · simp [below, not_lt.mp below, pure, Except.pure]
  rw [checked]
  constructor
  · rintro ⟨indexed, paged, regular, passed, limited, nonneg⟩
    obtain ⟨leveled, found⟩ := (usesRegular_eq_ok_iff indexed).mp passed
    exact ⟨indexed, paged, leveled, fun i member same => limited (found.mpr ⟨i, member, same⟩), nonneg⟩
  · rintro ⟨indexed, paged, leveled, limited, nonneg⟩
    classical
    refine ⟨indexed, paged, decide (∃ i ∈ c.indices, c.servedLevel i = some .regular),
      (usesRegular_eq_ok_iff indexed).mpr ⟨leveled, decide_eq_true_iff⟩, fun some => ?_, nonneg⟩
    obtain ⟨i, member, same⟩ := of_decide_eq_true some
    exact limited i member same

/-! ### What a mediation meets -/

/-- Under an accepted configuration a mediation finds one of the three levels for an index, unless the schema of
the index cannot be had, and where it is to suppress counts it does so by the limit that is configured. -/
theorem IsServable.exists_level (servable : c.IsServable) {i : IndexConfig} (configured : i ∈ c.indices) :
    ∃ l ∈ AccessLevel.usable, c.effectiveLevel i.index = some l ∧ ∀ m : Mediation, m.ctx.config = c →
      Decision.level m.ctx i.index = (m.ctx.schema i.index).map (fun _ => l) ∧
      (l = .regular → ∃ limit, 0 ≤ limit ∧ c.tier.limit = some limit ∧ m.redaction.limit = limit) := by
  obtain ⟨j, member, -, found⟩ := exists_effectiveLevel_eq configured
  obtain ⟨l, usable, served⟩ := servable.leveled j member
  refine ⟨l, usable, found.trans served, fun m same => ⟨?_, ?_⟩⟩
  · cases known : m.ctx.schema i.index with
    | error e => exact Decision.level_eq_error known
    | ok s => exact Decision.level_eq_ok known (by rw [same, found, served])
  · rintro rfl
    obtain ⟨limit, given⟩ := servable.limited j member served
    refine ⟨limit, servable.nonneg limit given, given, ?_⟩
    rw [Mediation.redaction, Redaction.ofConfig, same, given]
    rfl

/-- Of a configuration whose indices have different names: it is accepted exactly when there is an index, pages are
not empty, every index is to be served at one of the three levels, there is a limit if one of them is to be
regular, and no limit is below zero. The level that is looked up for an index is the one it is to be served at. So
once the configuration is accepted, a mediation finds one of the three levels for each index whose schema can be
had, and for a regular one suppresses counts by the limit that is configured. -/
theorem accepted_iff_servable (distinct : c.indexNames.Nodup) :
    (c.validate = .ok () ↔ c.IsServable) ∧
    (∀ i ∈ c.indices, c.effectiveLevel i.index = c.servedLevel i) ∧
    (c.validate = .ok () → ∀ i ∈ c.indices, ∃ l ∈ AccessLevel.usable, c.servedLevel i = some l ∧
      ∀ m : Mediation, m.ctx.config = c →
        Decision.level m.ctx i.index = (m.ctx.schema i.index).map (fun _ => l) ∧
        (l = .regular → ∃ limit, 0 ≤ limit ∧ c.tier.limit = some limit ∧ m.redaction.limit = limit)) := by
  refine ⟨validate_eq_ok_iff, fun i => effectiveLevel_eq distinct, fun accepted i configured => ?_⟩
  rw [← effectiveLevel_eq distinct configured]
  exact (validate_eq_ok_iff.mp accepted).exists_level configured

end Config

/-- A site that leaves the level to its indices: subjects are restricted, and files are regular. -/
def Sample.leveledSite : Config :=
  { (Sample.context .granular).config with
    indices := [{ index := "subject", level := some .restricted }, { index := "file", level := some .regular }] }

/-- The site is accepted, the level of the files is found by their name, and their counts are suppressed below the
limit of the site. -/
theorem files_suppressed_below_limit :
    Sample.leveledSite.validate = .ok () ∧ Sample.leveledSite.effectiveLevel "file" = some .regular ∧
      ∀ m : Mediation, m.ctx.config = Sample.leveledSite → m.redaction.limit = 20 := by
  have distinct : Sample.leveledSite.indexNames.Nodup := by decide
  obtain ⟨accepted, found, meets⟩ := Config.accepted_iff_servable distinct
  have valid : Sample.leveledSite.validate = .ok () := accepted.mpr {
    indexed := by decide
    paged := by decide
    leveled := by
      intro i configured
      rcases List.mem_pair.mp configured with rfl | rfl
      · exact ⟨.restricted, by decide, rfl⟩
      · exact ⟨.regular, by decide, rfl⟩
    limited := fun _ _ _ => ⟨20, rfl⟩
    nonneg := by
      rintro _ ⟨⟩
      decide }
  have files : ⟨"file", none, some .regular, []⟩ ∈ Sample.leveledSite.indices :=
    List.mem_cons_of_mem _ List.mem_cons_self
  refine ⟨valid, found _ files, fun m same => ?_⟩
  obtain ⟨l, -, served, met⟩ := meets valid _ files
  cases served
  obtain ⟨limit, -, given, suppresses⟩ := (met m same).2 rfl
  cases given
  exact suppresses

end TieredSearch
