import TieredSearch.Search.Backend

/-!
# Laws of dialogues

What the combinators of `Dialogue` do to an operation, said in two ways.

* `Dialogue.onStore` is how an operation ends when a store answers its searches. It commutes with
  every combinator, so that an operation on a store can be computed step by step.
* `Dialogue.Alike` relates two operations that go the same way after every reply, whatever
  replies, and whose searches are related one by one. It is a congruence for every combinator.
  Two consequences are used: related searches that two stores answer alike lead to the same end
  (`Alike.onStore_eq`), and a property of every search an operation may ask for holds of those it
  does ask for (`AsksOnly.searches`).
-/

namespace TieredSearch

/-! ### Outcomes -/

namespace Outcome

variable {α β γ : Type}

/-- Goes on with the value of an outcome. -/
def bind : Outcome α → (α → Outcome β) → Outcome β
  | .value a, f => f a
  | .failed e, _ => .failed e
  | .stuck limit, _ => .stuck limit

/-- The outcome of a computation without searches. -/
def ofExcept : Except QueryError α → Outcome α
  | .ok a => .value a
  | .error e => .failed e

/-- The outcome under a time limit. -/
def bounded (seconds : Nat) (fault : BackendFault) : Outcome α → Outcome α
  | .stuck limit =>
    if seconds = 0 then .failed (.backendUnavailable fault) else .stuck (limit.or (some fault))
  | outcome => outcome

/-- The outcome with its error as a value. -/
def settle : Outcome α → Outcome (Except QueryError α)
  | .value a => .value (.ok a)
  | .failed e => .value (.error e)
  | .stuck (some fault) => .value (.error (.backendUnavailable fault))
  | .stuck none => .stuck none

/-- The outcome of two operations side by side, the first one reported first. -/
def both : Outcome α → Outcome β → Outcome (α × β)
  | .value a, second => second.bind fun b => .value (a, b)
  | .failed e, _ => .failed e
  | .stuck limit, .value _ => .stuck limit
  | .stuck _, .failed e => .failed e
  | .stuck limit, .stuck own => .stuck (limit.or own)

@[simp] theorem value_bind (a : α) (f : α → Outcome β) : (Outcome.value a).bind f = f a := rfl

@[simp] theorem failed_bind (e : QueryError) (f : α → Outcome β) :
    (Outcome.failed e).bind f = .failed e := rfl

@[simp] theorem stuck_bind (limit : Option BackendFault) (f : α → Outcome β) :
    (Outcome.stuck limit).bind f = .stuck limit := rfl

@[simp] theorem ofExcept_ok (a : α) : ofExcept (.ok a) = .value a := rfl

@[simp] theorem ofExcept_error (e : QueryError) :
    ofExcept (.error e : Except QueryError α) = .failed e :=
  rfl

@[simp] theorem bounded_value (seconds : Nat) (fault : BackendFault) (a : α) :
    bounded seconds fault (.value a) = .value a := rfl

@[simp] theorem bounded_failed (seconds : Nat) (fault : BackendFault) (e : QueryError) :
    bounded seconds fault (.failed e : Outcome α) = .failed e := rfl

theorem bind_assoc (o : Outcome α) (f : α → Outcome β) (g : β → Outcome γ) :
    (o.bind f).bind g = o.bind fun a => (f a).bind g := by
  cases o <;> rfl

/-- A value can only come from a value. -/
theorem bind_eq_value_iff {o : Outcome α} {f : α → Outcome β} {b : β} :
    o.bind f = .value b ↔ ∃ a, o = .value a ∧ f a = .value b := by
  cases o <;> simp

/-- Twice the same has one outcome. -/
theorem both_self (o : Outcome α) : o.both o = o.bind fun a => .value (a, a) := by
  rcases o with a | e | (_ | fault) <;> rfl

/-- A time limit makes no value. -/
theorem bounded_eq_value_iff {seconds : Nat} {fault : BackendFault} {o : Outcome α} {a : α} :
    bounded seconds fault o = .value a ↔ o = .value a := by
  cases o with
  | stuck limit =>
    simp only [bounded]
    split <;> simp
  | _ => simp

/-- Only a value settles as a success. -/
theorem settle_eq_value_ok_iff {o : Outcome α} {a : α} : o.settle = .value (.ok a) ↔ o = .value a := by
  rcases o with a | e | (_ | fault) <;> simp [settle]

/-- A value comes from a computation that succeeds. -/
theorem ofExcept_eq_value_iff {x : Except QueryError α} {a : α} :
    ofExcept x = .value a ↔ x = .ok a := by
  cases x <;> simp

end Outcome

namespace Dialogue

variable {R α β γ : Type}

/-- The operation with its value turned into another one. -/
def map (f : α → β) (d : Dialogue R α) : Dialogue R β := d.bind fun a => .done (.value (f a))

/-! ### Equations -/

@[simp] theorem value_bind (a : α) (f : α → Dialogue R β) :
    (Dialogue.done (.value a)).bind f = f a := rfl

@[simp] theorem ask_bind (s : Search R) (next : Reply R → Dialogue R α) (f : α → Dialogue R β) :
    (Dialogue.ask s next).bind f = .ask s fun reply => (next reply).bind f := rfl

@[simp] theorem ofExcept_ok (a : α) : (ofExcept (.ok a) : Dialogue R α) = .done (.value a) := rfl

@[simp] theorem ofExcept_error (e : QueryError) :
    (ofExcept (.error e) : Dialogue R α) = .done (.failed e) := rfl

theorem bind_assoc (d : Dialogue R α) (f : α → Dialogue R β) (g : β → Dialogue R γ) :
    (d.bind f).bind g = d.bind fun a => (f a).bind g := by
  induction d with
  | done o => cases o <;> rfl
  | ask s next ih =>
    simp only [ask_bind]
    exact congrArg _ (funext ih)

theorem bind_map (d : Dialogue R α) (f : α → Dialogue R β) (g : β → γ) :
    (d.bind f).map g = d.bind fun a => (f a).map g := bind_assoc d f _

theorem map_map (d : Dialogue R α) (f : α → β) (g : β → γ) : (d.map f).map g = d.map (g ∘ f) :=
  bind_assoc d _ _

/-- A time limit does not look at the value. -/
theorem bounded_map (seconds : Nat) (fault : BackendFault) (d : Dialogue R α) (f : α → β) :
    (d.map f).bounded seconds fault = (d.bounded seconds fault).map f := by
  induction d with
  | done o =>
    cases o with
    | stuck limit =>
      simp only [map, Dialogue.bind, bounded]
      split <;> rfl
    | _ => rfl
  | ask s next ih =>
    simp only [map, ask_bind, bounded]
    exact congrArg _ (funext ih)

/-! ### Ending on a store -/

variable [Scalar R]

/-- How an operation ends when a store answers its searches. -/
def onStore (st : Store R) (d : Dialogue R α) :
    Outcome α := ((Backend.store st false).run d).outcome

variable (st : Store R)

@[simp] theorem onStore_done (o : Outcome α) :
    (Dialogue.done o : Dialogue R α).onStore st = o := rfl

@[simp] theorem onStore_ask (s : Search R) (next : Reply R → Dialogue R α) :
    (Dialogue.ask s next).onStore st = (next (.body (st.answer s))).onStore st := rfl

@[simp] theorem onStore_bind (d : Dialogue R α) (f : α → Dialogue R β) :
    (d.bind f).onStore st = (d.onStore st).bind fun a => (f a).onStore st := by
  induction d with
  | done o => cases o <;> rfl
  | ask s next ih =>
    rw [ask_bind, onStore_ask, onStore_ask]
    exact ih _

@[simp] theorem onStore_map (d : Dialogue R α) (f : α → β) :
    (d.map f).onStore st = (d.onStore st).bind fun a => .value (f a) := onStore_bind st d _

@[simp] theorem onStore_ofExcept (x : Except QueryError α) :
    (ofExcept x : Dialogue R α).onStore st = .ofExcept x := by
  cases x <;> rfl

@[simp] theorem onStore_bounded (seconds : Nat) (fault : BackendFault) (d : Dialogue R α) :
    (d.bounded seconds fault).onStore st = (d.onStore st).bounded seconds fault := by
  induction d with
  | done o =>
    cases o with
    | stuck limit =>
      simp only [bounded, onStore_done, Outcome.bounded]
      split <;> rfl
    | _ => rfl
  | ask s next ih => exact ih _

@[simp] theorem onStore_settle (d : Dialogue R α) :
    d.settle.onStore st = (d.onStore st).settle := by
  induction d with
  | done o =>
    rcases o with a | e | (_ | fault) <;> rfl
  | ask s next ih => exact ih _

@[simp] theorem onStore_searchReading (s : Search R) (read : Json R → Except QueryError α) :
    (searchReading s read).onStore st = .ofExcept (read (st.answer s)) := by
  rw [searchReading, onStore_bind]
  exact onStore_ofExcept st _

@[simp] theorem onStore_both (d : Dialogue R α) (d' : Dialogue R β) :
    (d.both d').onStore st = (d.onStore st).both (d'.onStore st) := by
  induction d with
  | done o =>
    cases o with
    | value a => exact onStore_bind st d' _
    | failed e => rfl
    | stuck limit =>
      show (d'.besideStuck limit).onStore st = (Outcome.stuck limit).both (d'.onStore st)
      induction d' with
      | done own => cases own <;> rfl
      | ask s next ih => exact ih _
  | ask s next ih => exact ih _

/-! ### Operations that go the same way -/

omit [Scalar R]

/-- `d.Alike rel d'`: both operations end alike after every reply, and what they ask for is related
search by search. -/
inductive Alike (rel : Search R → Search R → Prop) : Dialogue R α → Dialogue R α → Prop where
  /-- Both have ended. -/
  | done (o : Outcome α) : Alike rel (.done o) (.done o)
  /-- Both ask, and go on alike. -/
  | ask {s s' : Search R} {next next' : Reply R → Dialogue R α} (asked : rel s s')
      (rest : ∀ reply, Alike rel (next reply) (next' reply)) : Alike rel (.ask s next) (.ask s' next')

namespace Alike

variable {rel : Search R → Search R → Prop} {d d' : Dialogue R α}

theorem bind {f f' : α → Dialogue R β} (h : Alike rel d d') (hf : ∀ a, Alike rel (f a) (f' a)) :
    Alike rel (d.bind f) (d'.bind f') := by
  induction h with
  | done o =>
    cases o with
    | value a => exact hf a
    | failed e => exact .done _
    | stuck limit => exact .done _
  | ask asked _ ih => exact .ask asked ih

theorem map (f : α → β) (h : Alike rel d d') : Alike rel (d.map f) (d'.map f) :=
  h.bind fun _ => .done _

theorem bounded (seconds : Nat) (fault : BackendFault) (h : Alike rel d d') :
    Alike rel (d.bounded seconds fault) (d'.bounded seconds fault) := by
  induction h with
  | done o =>
    cases o with
    | stuck limit =>
      simp only [Dialogue.bounded]
      split <;> exact .done _
    | _ => exact .done _
  | ask asked _ ih => exact .ask asked ih

theorem searchReading {s s' : Search R} (read : Json R → Except QueryError α) (h : rel s s') :
    Alike rel (searchReading s read) (searchReading s' read) :=
  .ask h fun reply => match reply with
    | .body answer => by
      show Alike rel (ofExcept (read answer)) (ofExcept (read answer))
      cases read answer <;> exact .done _
    | .failure _ => .done _
    | .silence => .done _

theorem mono {rel' : Search R → Search R → Prop} (h : Alike rel d d')
    (imp : ∀ s s', rel s s' → rel' s s') :
    Alike rel' d d' := by
  induction h with
  | done o => exact .done o
  | ask asked _ ih => exact .ask (imp _ _ asked) ih

/-- Where related searches have one answer, the operations have one end. -/
theorem onStore_eq [Scalar R] {st st' : Store R} (h : Alike rel d d')
    (answers : ∀ s s', rel s s' → st.answer s = st'.answer s') : d.onStore st = d'.onStore st' := by
  induction h with
  | done o => rfl
  | ask asked _ ih =>
    rw [onStore_ask, onStore_ask, answers _ _ asked]
    exact ih _

end Alike

/-- Whatever the replies, the operation asks only for searches with a property. -/
def AsksOnly (P : Search R → Prop) (d : Dialogue R α) : Prop := Alike (fun s _ => P s) d d

/-- In a run, the searches that are asked for have the property. -/
theorem AsksOnly.searches {P : Search R → Prop} {σ : Type} {serve : Search R → σ → Reply R × σ}
    {d : Dialogue R α} (h : d.AsksOnly P) : ∀ state, ∀ s ∈ (d.run serve state).searches, P s := by
  induction d with
  | done o =>
    intro state s hs
    cases hs
  | ask s next ih =>
    intro state s' hs'
    cases h with
    | ask asked rest =>
      rcases List.mem_cons.mp hs' with rfl | hs'
      · exact asked
      · exact ih _ (rest _) _ _ hs'

end Dialogue

/-! ### Computations that agree -/

/-- A computation that goes on succeeds when both its parts do. -/
theorem bind_eq_ok_iff {ε α β : Type} {x : Except ε α} {f : α → Except ε β} {b : β} :
    (x >>= f) = .ok b ↔ ∃ a, x = .ok a ∧ f a = .ok b := by
  cases x <;> simp [bind, Except.bind]

/-- A value is turned into another one where there is a value. -/
theorem map_eq_ok_iff {ε α β : Type} {x : Except ε α} {f : α → β} {b : β} :
    x.map f = .ok b ↔ ∃ a, x = .ok a ∧ f a = b := by
  cases x <;> simp [Except.map]

/-- Both computations fail for one reason, or succeed with related values. -/
inductive Agree {ε α β : Type} (rel : α → β → Prop) : Except ε α → Except ε β → Prop where
  /-- Both succeed. -/
  | ok {a : α} {b : β} (related : rel a b) : Agree rel (.ok a) (.ok b)
  /-- Both fail. -/
  | error (e : ε) : Agree rel (.error e) (.error e)

namespace Agree

variable {ε α β γ δ : Type} {rel : α → β → Prop} {x : Except ε α} {y : Except ε β}

theorem refl {rel : α → α → Prop} (h : ∀ a, rel a a) (x : Except ε α) : Agree rel x x :=
  match x with
  | .ok a => .ok (h a)
  | .error e => .error e

theorem bind {rel' : γ → δ → Prop} {f : α → Except ε γ} {g : β → Except ε δ} (h : Agree rel x y)
    (hfg : ∀ a b, rel a b → Agree rel' (f a) (g b)) : Agree rel' (x >>= f) (y >>= g) := by
  cases h with
  | ok related => exact hfg _ _ related
  | error e => exact .error e

theorem map {rel' : γ → δ → Prop} {f : α → γ} {g : β → δ} (h : Agree rel x y)
    (hfg : ∀ a b, rel a b → rel' (f a) (g b)) : Agree rel' (x.map f) (y.map g) := by
  cases h with
  | ok related => exact .ok (hfg _ _ related)
  | error e => exact .error e

theorem mono {rel' : α → β → Prop} (h : Agree rel x y) (imp : ∀ a b, rel a b → rel' a b) :
    Agree rel' x y := by
  cases h with
  | ok related => exact .ok (imp _ _ related)
  | error e => exact .error e

theorem symm (h : Agree rel x y) : Agree (fun b a => rel a b) y x := by
  cases h with
  | ok related => exact .ok related
  | error e => exact .error e

/-- Whatever holds of both values. -/
theorem of_ok {rel' : α → β → Prop} (h : Agree rel x y) (both : ∀ a b, x = .ok a → y = .ok b → rel' a b) :
    Agree rel' x y := by
  cases h with
  | ok _ => exact .ok (both _ _ rfl rfl)
  | error e => exact .error e

/-- What is known of the value on the left besides. -/
theorem left {p : α → Prop} (h : Agree rel x y) (left : ∀ a, x = .ok a → p a) :
    Agree (fun a b => p a ∧ rel a b) x y := by
  cases h with
  | ok related => exact .ok ⟨left _ rfl, related⟩
  | error e => exact .error e

/-- What is known of the value on the right. -/
theorem right {p : β → Prop} (h : Agree rel x y) (imp : ∀ a b, rel a b → p b) :
    Agree (fun b b' => b = b' ∧ p b) y y := by
  cases h with
  | ok related => exact .ok ⟨rfl, imp _ _ related⟩
  | error e => exact .error e

/-- Two computations that agree with one agree with each other. -/
theorem meet {rel' : α → γ → Prop} {z : Except ε γ} (h : Agree rel x y) (h' : Agree rel' x z) :
    Agree (fun b c => ∃ a, rel a b ∧ rel' a c) y z := by
  cases h with
  | ok related =>
    cases h' with
    | ok related' => exact .ok ⟨_, related, related'⟩
  | error e =>
    cases h'
    exact .error e

theorem trans {rel' : β → γ → Prop} {z : Except ε γ} (h : Agree rel x y) (h' : Agree rel' y z) :
    Agree (fun a c => ∃ b, rel a b ∧ rel' b c) x z := by
  cases h with
  | ok related =>
    cases h' with
    | ok related' => exact .ok ⟨_, related, related'⟩
  | error e =>
    cases h'
    exact .error e

/-- What succeeds on the right succeeds on the left. -/
theorem exists_left {b : β} (h : Agree rel x (.ok b)) : ∃ a, x = .ok a ∧ rel a b := by
  cases h with
  | ok related => exact ⟨_, rfl, related⟩

/-- What fails on the right fails on the left. -/
theorem eq_error {e : ε} (h : Agree rel x (.error e)) : x = .error e := by
  cases h
  rfl

/-- Operations that go on from computations that agree go the same way. -/
theorem alike {R κ : Type} {rel' : Search R → Search R → Prop} {x : Except QueryError α}
    {y : Except QueryError β} {f : α → Dialogue R κ} {g : β → Dialogue R κ} (h : Agree rel x y)
    (hfg : ∀ a b, rel a b → (f a).Alike rel' (g b)) :
    ((Dialogue.ofExcept x).bind f).Alike rel' ((Dialogue.ofExcept y).bind g) := by
  cases h with
  | ok related => exact hfg _ _ related
  | error e => exact .done _

end Agree

end TieredSearch
