import TieredSearch.Proofs.Search.Dialogue

/-!
# Runs against any backend

`Dialogue.Yields` says of an operation which value it comes to when a backend answers its searches,
and in which state it leaves the backend. Nothing is known of the backend: it may answer one search
like this and the same search like that later. Each combinator yields what its parts yield one after
the other, so that a run of the whole can be taken apart into runs of the parts. In the same way
`Dialogue.Waits` says of an operation that it never ends, which takes a search without a reply and no
time limit around it. A store is a backend that stays as it is (`Dialogue.yields_store_iff`).
-/

namespace TieredSearch.Dialogue

variable {R α β σ : Type}

/-- Asked of a backend in a state, an operation comes to a value and leaves the backend in a
state. -/
def Yields (serve : Search R → σ → Reply R × σ) (state : σ) (d : Dialogue R α) (a : α) (after : σ) :
    Prop :=
  (d.run serve state).outcome = .value a ∧ (d.run serve state).backend = after

variable {serve : Search R → σ → Reply R × σ} {state after : σ}

@[simp] theorem yields_done {o : Outcome α} {a : α} :
    Yields serve state (.done o) a after ↔ o = .value a ∧ state = after := Iff.rfl

theorem yields_ofExcept {x : Except QueryError α} {a : α} :
    Yields serve state (ofExcept x) a after ↔ x = .ok a ∧ state = after := by
  cases x <;> simp

@[simp] theorem yields_ask {s : Search R} {next : Reply R → Dialogue R α} {a : α} :
    Yields serve state (.ask s next) a after ↔
      Yields serve (serve s state).2 (next (serve s state).1) a after := Iff.rfl

/-- One operation after the other. -/
theorem yields_bind {d : Dialogue R α} {f : α → Dialogue R β} {b : β} :
    Yields serve state (d.bind f) b after ↔
      ∃ a between, Yields serve state d a between ∧ Yields serve between (f a) b after := by
  induction d generalizing state with
  | done o =>
    cases o with
    | value a =>
      rw [value_bind]
      refine ⟨fun run => ⟨a, state, ⟨rfl, rfl⟩, run⟩, ?_⟩
      rintro ⟨_, _, ⟨⟨⟩, rfl⟩, run⟩
      exact run
    | failed e => simp [Dialogue.bind]
    | stuck limit => simp [Dialogue.bind]
  | ask s next ih =>
    simp only [ask_bind, yields_ask]
    exact ih _

/-- A time limit makes no value. -/
theorem yields_bounded {seconds : Nat} {fault : BackendFault} {d : Dialogue R α} {a : α} :
    Yields serve state (d.bounded seconds fault) a after ↔ Yields serve state d a after := by
  induction d generalizing state with
  | done o =>
    cases o with
    | stuck limit =>
      rw [bounded]
      split <;> simp
    | _ => exact Iff.rfl
  | ask s next ih =>
    rw [bounded, yields_ask, yields_ask]
    exact ih _

/-- Beside an operation that is stuck, nothing has a value. -/
theorem besideStuck_run_ne_value (serve : Search R → σ → Reply R × σ) (state : σ)
    (limit : Option BackendFault) (d : Dialogue R α) (b : β) :
    ((d.besideStuck limit).run serve state).outcome ≠ .value b := by
  induction d generalizing state with
  | done o =>
    rintro ended
    cases o <;> cases ended
  | ask s next ih => exact ih _ _

/-- Of two operations side by side, the first one is run to its end first. -/
theorem yields_both {d : Dialogue R α} {d' : Dialogue R β} {values : α × β} :
    Yields serve state (d.both d') values after ↔
      ∃ between, Yields serve state d values.1 between ∧ Yields serve between d' values.2 after := by
  induction d generalizing state with
  | done o =>
    cases o with
    | value a =>
      obtain ⟨first, second⟩ := values
      rw [both, yields_bind]
      simp only [yields_done, Outcome.value.injEq, Prod.mk.injEq]
      constructor
      · rintro ⟨b, between, run, ⟨rfl, rfl⟩, rfl⟩
        exact ⟨state, ⟨rfl, rfl⟩, run⟩
      · rintro ⟨between, ⟨rfl, rfl⟩, run⟩
        exact ⟨second, after, run, ⟨rfl, rfl⟩, rfl⟩
    | failed e => simp [both]
    | stuck limit =>
      refine iff_of_false (fun h => besideStuck_run_ne_value serve state limit d' values h.1) ?_
      rintro ⟨between, ended, -⟩
      cases ended.1
  | ask s next ih =>
    simp only [both, yields_ask]
    exact ih _

/-- A single search has a value where there is an answer and it can be read. -/
theorem yields_searchReading {s : Search R} {read : Json R → Except QueryError α} {a : α} :
    Yields serve state (searchReading s read) a after ↔
      ∃ answer, (serve s state).1 = .body answer ∧ read answer = .ok a ∧
        (serve s state).2 = after := by
  rw [searchReading, search, ask_bind, yields_ask]
  cases (serve s state).1 with
  | body answer =>
    rw [value_bind]
    cases reading : read answer with
    | ok b => simp [reading]
    | error e => simp [reading]
  | failure reasons => simp [Dialogue.bind]
  | silence => simp [Dialogue.bind]

/-- A value turned into another one. -/
theorem yields_map {d : Dialogue R α} {f : α → β} {b : β} :
    Yields serve state (d.map f) b after ↔ ∃ a, Yields serve state d a after ∧ f a = b := by
  rw [map, yields_bind]
  simp only [yields_done, Outcome.value.injEq]
  constructor
  · rintro ⟨a, between, run, same, rfl⟩
    exact ⟨a, run, same⟩
  · rintro ⟨a, run, same⟩
    exact ⟨a, after, run, same, rfl⟩

theorem Yields.map {d : Dialogue R α} {a : α} (f : α → β) (run : Yields serve state d a after) :
    Yields serve state (d.map f) (f a) after :=
  yields_map.mpr ⟨a, run, rfl⟩

/-- Several operations one after the other. -/
theorem yields_all_cons {d : Dialogue R α} {rest : List (Dialogue R α)} {values : List α} :
    Yields serve state (all (d :: rest)) values after ↔
      ∃ a as between, Yields serve state d a between ∧ Yields serve between (all rest) as after ∧
        values = a :: as := by
  rw [all, yields_bind]
  constructor
  · rintro ⟨a, between, run, others⟩
    obtain ⟨as, run', same⟩ := yields_map.mp others
    exact ⟨a, as, between, run, run', same.symm⟩
  · rintro ⟨a, as, between, run, run', rfl⟩
    exact ⟨a, between, run, yields_map.mpr ⟨as, run', rfl⟩⟩

/-! ### How an operation ends -/

/-- A value turned into another one, and every other end as it is. -/
theorem outcome_map (f : α → β) (d : Dialogue R α) (state : σ) :
    ((d.map f).run serve state).outcome = (d.run serve state).outcome.bind fun a => .value (f a) := by
  induction d generalizing state with
  | done o => cases o <;> rfl
  | ask s next ih => exact ih _ _

theorem outcome_bounded (seconds : Nat) (fault : BackendFault) (d : Dialogue R α) (state : σ) :
    ((d.bounded seconds fault).run serve state).outcome = (d.run serve state).outcome.bounded seconds fault := by
  induction d generalizing state with
  | done o =>
    cases o with
    | stuck limit =>
      rw [bounded, run, Outcome.bounded]
      split <;> rfl
    | _ => rfl
  | ask s next ih => exact ih _ _

/-! ### Waiting for ever -/

/-- Asked of a backend in a state, an operation never ends. -/
def Waits (serve : Search R → σ → Reply R × σ) (state : σ) (d : Dialogue R α) : Prop :=
  (d.run serve state).outcome.conclusion? = none

/-- What has ended waits only if it is stuck without a limit. -/
theorem waits_done {o : Outcome α} :
    Waits serve state (.done o : Dialogue R α) ↔ o = .stuck none := by
  rcases o with a | e | (_ | fault) <;> simp [Waits, run, Outcome.conclusion?]

@[simp] theorem waits_ask {s : Search R} {next : Reply R → Dialogue R α} :
    Waits serve state (.ask s next) ↔ Waits serve (serve s state).2 (next (serve s state).1) :=
  Iff.rfl

/-- Two operations one after the other wait where the first one does, or the second one does after
the first has come to a value. -/
theorem waits_bind {d : Dialogue R α} {f : α → Dialogue R β} :
    Waits serve state (d.bind f) ↔
      Waits serve state d ∨
        ∃ a between, Yields serve state d a between ∧ Waits serve between (f a) := by
  induction d generalizing state with
  | done o =>
    cases o with
    | value a =>
      rw [value_bind, waits_done]
      constructor
      · intro waits
        exact .inr ⟨a, state, ⟨rfl, rfl⟩, waits⟩
      · rintro (⟨⟨⟩⟩ | ⟨_, _, ⟨⟨⟩, rfl⟩, waits⟩)
        exact waits
    | failed e => simp [Dialogue.bind, waits_done]
    | stuck limit => simp [Dialogue.bind, waits_done]
  | ask s next ih =>
    simp only [ask_bind, waits_ask, yields_ask]
    exact ih _

theorem not_waits_value (a : α) : ¬Waits serve state (.done (.value a) : Dialogue R α) := by
  rw [waits_done]
  rintro ⟨⟩

/-- A computation without searches does not wait. -/
theorem not_waits_ofExcept (x : Except QueryError α) :
    ¬Waits serve state (ofExcept x : Dialogue R α) := by
  cases x <;> simp [waits_done]

/-- Under a time limit nothing waits for ever. -/
theorem not_waits_bounded (seconds : Nat) (fault : BackendFault) (d : Dialogue R α) :
    ¬Waits serve state (d.bounded seconds fault) := by
  induction d generalizing state with
  | done o =>
    cases o with
    | stuck limit =>
      rw [bounded]
      split
      · simp [waits_done]
      · cases limit <;> simp [waits_done]
    | _ => simp [bounded, waits_done]
  | ask s next ih => exact ih _

/-- A value turned into another one changes nothing. -/
theorem waits_map {d : Dialogue R α} {f : α → β} :
    Waits serve state (d.map f) ↔ Waits serve state d := by
  rw [map, waits_bind, or_iff_left]
  rintro ⟨a, between, -, waits⟩
  exact not_waits_value _ waits

/-- A single search waits where it gets no reply. -/
theorem waits_searchReading {s : Search R} {read : Json R → Except QueryError α} :
    Waits serve state (searchReading s read) ↔ (serve s state).1 = .silence := by
  rw [searchReading, waits_bind, or_iff_left]
  · rw [search, waits_ask]
    cases (serve s state).1 <;> simp [waits_done]
  · rintro ⟨answer, between, -, waits⟩
    exact not_waits_ofExcept _ waits

/-! ### Operations with their errors as values -/

/-- An operation with its error as a value comes to what the operation ends with. -/
theorem yields_settle {d : Dialogue R α} {r : Except QueryError α} :
    Yields serve state d.settle r after ↔
      (d.run serve state).outcome.conclusion? = some r ∧ (d.run serve state).backend = after := by
  induction d generalizing state with
  | done o => rcases o with a | e | (_ | fault) <;> simp [settle, run, Outcome.conclusion?]
  | ask s next ih => exact ih _

/-- How operations end that are run one after the other, whatever each of them ends with. -/
def outcomes (serve : Search R → σ → Reply R × σ) : List (Dialogue R α) → σ → List (Outcome α)
  | [], _ => []
  | d :: rest, state => (d.run serve state).outcome :: outcomes serve rest (d.run serve state).backend

/-- Operations none of which waits for ever can be run one after the other, with their errors as
values. -/
theorem exists_yields_all_settle {ds : List (Dialogue R α)}
    (ends : ∀ d ∈ ds, ∀ state, ¬Waits serve state d) (state : σ) :
    ∃ results after, Yields serve state (all (ds.map settle)) results after ∧
      (outcomes serve ds state).map Outcome.conclusion? = results.map some := by
  induction ds generalizing state with
  | nil => exact ⟨[], state, ⟨rfl, rfl⟩, rfl⟩
  | cons d ds ih =>
    obtain ⟨result, ended⟩ := Option.ne_none_iff_exists'.mp (ends d List.mem_cons_self state)
    obtain ⟨results, after, run, same⟩ :=
      ih (fun d hd => ends d (List.mem_cons_of_mem _ hd)) (d.run serve state).backend
    refine ⟨result :: results, after, ?_, ?_⟩
    · exact yields_all_cons.mpr ⟨result, results, _, yields_settle.mpr ⟨ended, rfl⟩, run, rfl⟩
    · rw [outcomes, List.map_cons, List.map_cons, ended, same]

/-! ### Stores -/

variable [Scalar R]

theorem backend_run_store (st : Store R) (d : Dialogue R α) :
    (d.run Backend.serve (.store st false)).backend = .store st false := by
  induction d with
  | done o => rfl
  | ask s next ih => exact ih _

/-- A store is left as it is. -/
theorem yields_store_iff {st : Store R} {d : Dialogue R α} {a : α} {after : Backend R} :
    d.Yields Backend.serve (.store st false) a after ↔
      d.onStore st = .value a ∧ .store st false = after := by
  rw [Yields, backend_run_store]
  rfl

end TieredSearch.Dialogue
