import TieredSearch.Proofs.Search.Run

/-!
# What is asked and replied

`Dialogue.exchanges` is the record of a run: every search with the reply it got. Where an operation
comes to a value, the record of the whole is that of its parts one after the other. An operation
`Dialogue.Demands` a property of replies when no run comes to a value unless all its replies have it;
each combinator demands what its parts demand.
-/

namespace TieredSearch.Dialogue

variable {R α β σ : Type} {serve : Search R → σ → Reply R × σ} {state between after : σ}

/-- What an operation asks of a backend in a state, and what it is replied. -/
def exchanges (serve : Search R → σ → Reply R × σ) : Dialogue R α → σ → List (Search R × Reply R)
  | .done _, _ => []
  | .ask s next, state =>
    (s, (serve s state).1) :: (next (serve s state).1).exchanges serve (serve s state).2

/-- The record names the searches of the run. -/
theorem map_fst_exchanges (d : Dialogue R α) (state : σ) :
    (d.exchanges serve state).map Prod.fst = (d.run serve state).searches := by
  induction d generalizing state with
  | done o => rfl
  | ask s next ih => exact congrArg (s :: ·) (ih _ _)

/-- The record of one operation after the other. -/
theorem exchanges_bind {d : Dialogue R α} {f : α → Dialogue R β} {a : α}
    (first : d.Yields serve state a between) :
    (d.bind f).exchanges serve state =
      d.exchanges serve state ++ (f a).exchanges serve between := by
  induction d generalizing state with
  | done o =>
    obtain ⟨rfl, rfl⟩ := yields_done.mp first
    rfl
  | ask s next ih => exact congrArg (_ :: ·) (ih _ first)

/-- A value turned into another one asks for nothing. -/
theorem exchanges_map (d : Dialogue R α) (f : α → β) (state : σ) :
    (d.map f).exchanges serve state = d.exchanges serve state := by
  induction d generalizing state with
  | done o => cases o <;> rfl
  | ask s next ih => exact congrArg (_ :: ·) (ih _ _)

/-- A time limit asks for nothing. -/
theorem exchanges_bounded (seconds : Nat) (fault : BackendFault) (d : Dialogue R α) (state : σ) :
    (d.bounded seconds fault).exchanges serve state = d.exchanges serve state := by
  induction d generalizing state with
  | done o =>
    cases o with
    | stuck limit =>
      rw [bounded]
      split <;> rfl
    | _ => rfl
  | ask s next ih => exact congrArg (_ :: ·) (ih _ _)

/-- The record of two operations side by side: that of the first one comes first. -/
theorem exchanges_both {d : Dialogue R α} {d' : Dialogue R β} {a : α} {b : β}
    (first : d.Yields serve state a between) (second : d'.Yields serve between b after) :
    (d.both d').exchanges serve state =
      d.exchanges serve state ++ d'.exchanges serve between := by
  induction d generalizing state with
  | done o =>
    obtain ⟨rfl, rfl⟩ := yields_done.mp first
    exact exchanges_map d' _ _
  | ask s next ih => exact congrArg (_ :: ·) (ih _ first)

/-- The record of several operations one after the other. -/
theorem exchanges_all_cons {d : Dialogue R α} {a : α} (first : d.Yields serve state a between)
    (rest : List (Dialogue R α)) :
    (all (d :: rest)).exchanges serve state =
      d.exchanges serve state ++ (all rest).exchanges serve between := by
  rw [all, exchanges_bind first]
  exact congrArg _ (exchanges_map _ _ _)

/-- The record of a single search. -/
theorem exchanges_searchReading (s : Search R) (read : Json R → Except QueryError α) (state : σ) :
    (searchReading s read).exchanges serve state = [(s, (serve s state).1)] := by
  rw [searchReading, search, ask_bind, exchanges]
  cases (serve s state).1 with
  | body answer =>
    rw [value_bind]
    cases read answer <;> rfl
  | failure reasons => rfl
  | silence => rfl

/-- A search of a store whose answer can be read, and what comes after it. -/
theorem exchanges_searchReading_bind [Scalar R] {st : Store R} {s : Search R}
    {read : Json R → Except QueryError α} {f : α → Dialogue R β} {a : α} (h : read (st.answer s) = .ok a) :
    ((searchReading s read).bind f).exchanges Backend.serve (.store st false) =
      (s, .body (st.answer s)) :: (f a).exchanges Backend.serve (.store st false) := by
  have found : (searchReading s read).onStore st = .value a := by
    rw [onStore_searchReading, h, Outcome.ofExcept_ok]
  rw [exchanges_bind (yields_store_iff.mpr ⟨found, rfl⟩), exchanges_searchReading]
  rfl

/-- No run of the operation comes to a value unless every search gets a reply with the property. -/
def Demands (serve : Search R → σ → Reply R × σ) (P : Search R → Reply R → Prop)
    (d : Dialogue R α) : Prop :=
  ∀ state a after, d.Yields serve state a after → ∀ x ∈ d.exchanges serve state, P x.1 x.2

namespace Demands

variable {P : Search R → Reply R → Prop}

theorem done (o : Outcome α) : Demands serve P (.done o : Dialogue R α) := by
  rintro state a after - x ⟨⟩

theorem ofExcept (x : Except QueryError α) : Demands serve P (ofExcept x : Dialogue R α) := by
  cases x <;> exact done _

theorem bind {d : Dialogue R α} {f : α → Dialogue R β} (first : d.Demands serve P)
    (second : ∀ a, (f a).Demands serve P) : (d.bind f).Demands serve P := by
  intro state b after run x hx
  obtain ⟨a, between, run, rest⟩ := yields_bind.mp run
  rw [exchanges_bind run, List.mem_append] at hx
  rcases hx with hx | hx
  · exact first _ _ _ run x hx
  · exact second a _ _ _ rest x hx

/-- Going on from a computation without searches, what it computes is known. -/
theorem ofExcept_bind {y : Except QueryError α} {f : α → Dialogue R β}
    (second : ∀ a, y = .ok a → (f a).Demands serve P) :
    ((Dialogue.ofExcept y).bind f).Demands serve P := by
  cases y with
  | ok a => exact second a rfl
  | error e => exact done _

theorem map {d : Dialogue R α} (f : α → β) (h : d.Demands serve P) : (d.map f).Demands serve P :=
  h.bind fun _ => done _

theorem bounded {d : Dialogue R α} (seconds : Nat) (fault : BackendFault)
    (h : d.Demands serve P) : (d.bounded seconds fault).Demands serve P := by
  intro state a after run x hx
  rw [exchanges_bounded] at hx
  exact h _ _ _ (yields_bounded.mp run) x hx

theorem all {ds : List (Dialogue R α)} (h : ∀ d ∈ ds, d.Demands serve P) :
    (all ds).Demands serve P := by
  induction ds with
  | nil => exact done _
  | cons d ds ih =>
    refine (h d List.mem_cons_self).bind fun a => map _ ?_
    exact ih fun d hd => h d (List.mem_cons_of_mem _ hd)

/-- A single search demands an answer that can be read. -/
theorem searchReading {s : Search R} {read : Json R → Except QueryError α}
    (readable : ∀ answer a, read answer = .ok a → P s (.body answer)) :
    (searchReading s read).Demands serve P := by
  intro state a after run x hx
  obtain ⟨answer, replied, reading, -⟩ := yields_searchReading.mp run
  rw [exchanges_searchReading, List.mem_singleton] at hx
  rw [hx, replied]
  exact readable answer a reading

end Demands

end TieredSearch.Dialogue
