import RecordStore.Pool.Database
import RecordStore.Proofs.Memory.Client
import RecordStore.Proofs.Outcome
import RecordStore.Proofs.Task.Prompt

/-!
# Statements on a pinned connection

Whatever is asked of an adapter that has a connection pinned, it only runs statements: it borrows no
connection, ends no transaction, and stays as it is.

* `Driver.Ran` is what running statements does to the driver.
* `Work` is what is done with the handle of a transaction: calls one after another, each of which
  may depend on what those before it have answered, and then a result or a fault.
* `Work.confined_act` is the statement above.
-/

namespace RecordStore

variable {ε α β : Type}

/-- Does the call run a statement? -/
def Call.isExecute : Call → Bool
  | execute _ _ => true
  | _ => false

namespace Driver

variable {d d' d'' : Driver} {p q : Point}

/-- What the driver replies to the next call at a point. -/
def reply (d : Driver) (p : Point) : Outcome Reply := checked (d.take p).2

/-- The driver after its reply to a call at a point. -/
def replied (d : Driver) (p : Point) : Driver := (d.take p).1

@[simp] theorem calls_replied : (d.replied p).calls = d.calls := by
  unfold replied take
  split <;> rfl

@[simp] theorem adapters_replied : (d.replied p).adapters = d.adapters := by
  unfold replied take
  split <;> rfl

@[simp] theorem acquired_replied : (d.replied p).acquired = d.acquired := by
  unfold replied take
  split <;> rfl

theorem script_replied (h : q ≠ p) : (d.replied p).script q = d.script q := by
  unfold replied take
  split
  · rfl
  · exact if_neg h

theorem script_replied_self : (d.replied p).script p = (d.script p).tail := by
  unfold replied take
  split
  · rename_i hscript
    rw [hscript]
    rfl
  · rename_i r rest hscript
    rw [hscript]
    exact if_pos rfl

theorem script_replied_subset : (d.replied p).script q ⊆ d.script q := by
  unfold replied take
  split
  · exact List.Subset.refl _
  · rename_i r rest hscript
    dsimp only
    split
    · rename_i hq
      rw [hq, hscript]
      exact List.subset_cons_self _ _
    · exact List.Subset.refl _

/-- The reply depends on the script alone. -/
theorem reply_congr (h : d'.script p = d.script p) : d'.reply p = d.reply p := by
  unfold reply take
  rw [h]
  split <;> rfl

/-- The driver raises ordinary faults only. -/
def Ordinary (d : Driver) : Prop := ∀ p f, .fail f ∈ d.script p → f.isOrdinary = true

theorem mem_of_reply {f : Fault} (hf : d.reply p = .error f) : .fail f ∈ d.script p := by
  unfold Driver.reply take at hf
  cases hscript : d.script p with
  | nil =>
    rw [hscript] at hf
    cases hf
  | cons r rest =>
    rw [hscript] at hf
    cases r <;> cases hf
    exact List.mem_cons_self

theorem Ordinary.reply (h : d.Ordinary) {f : Fault} (hf : d.reply p = .error f) :
    f.isOrdinary = true :=
  h p f (mem_of_reply hf)

theorem Ordinary.of_subset (h : d.Ordinary) (hsub : ∀ p, d'.script p ⊆ d.script p) :
    d'.Ordinary := fun p f hf ↦ h p f (hsub p hf)

/-! ## Calls -/

theorem outcome?_ask (p : Point) (d : Driver) (e : ε) :
    (ask p).outcome? (d, e) = some ((d.replied p, e), d.reply p) := rfl

theorem outcome?_call (p : Point) (c : Call) (d : Driver) (e : ε) :
    (call p c).outcome? (d, e) = some (((d.logged c).replied p, e), d.reply p) := by
  have hreply : (d.logged c).reply p = d.reply p := reply_congr rfl
  rw [← hreply]
  rfl

theorem outcome?_tell (p : Point) (c : Call) (d : Driver) (e : ε) :
    (tell p c).outcome? (d, e) =
      some (((d.logged c).replied p, e), (d.reply p).map fun _ ↦ ()) := by
  have hcall := outcome?_call p c d e
  cases hreply : d.reply p with
  | ok reply =>
    rw [hreply] at hcall
    exact Action.outcome?_bind_of_ok hcall _
  | error f =>
    rw [hreply] at hcall
    exact Action.outcome?_bind_of_error hcall _

/-! ## Running statements -/

/-- Statements were run, and nothing else was done on the driver. -/
structure Ran (d d' : Driver) : Prop where
  calls : ∃ cs, d'.calls = d.calls ++ cs ∧ ∀ c ∈ cs, c.isExecute = true
  adapters : d'.adapters = d.adapters
  acquired : d'.acquired = d.acquired
  script : ∀ p, p ≠ .execute → p ≠ .fetchOne → p ≠ .fetchAll → d'.script p = d.script p
  subset : ∀ p, d'.script p ⊆ d.script p

theorem Ran.refl (d : Driver) : Ran d d :=
  ⟨⟨[], (List.append_nil _).symm, nofun⟩, rfl, rfl, fun _ _ _ _ ↦ rfl,
    fun _ ↦ List.Subset.refl _⟩

theorem Ran.trans (h : Ran d d') (h' : Ran d' d'') : Ran d d'' where
  calls := by
    obtain ⟨cs, hcs, hall⟩ := h.calls
    obtain ⟨cs', hcs', hall'⟩ := h'.calls
    refine ⟨cs ++ cs', by rw [hcs', hcs, List.append_assoc], fun c hc ↦ ?_⟩
    rcases List.mem_append.mp hc with hc | hc
    · exact hall c hc
    · exact hall' c hc
  adapters := h'.adapters.trans h.adapters
  acquired := h'.acquired.trans h.acquired
  script p hexecute hone hall :=
    (h'.script p hexecute hone hall).trans (h.script p hexecute hone hall)
  subset p := List.Subset.trans (h'.subset p) (h.subset p)

theorem ran_replied (hp : p = .execute ∨ p = .fetchOne ∨ p = .fetchAll) : Ran d (d.replied p) where
  calls := ⟨[], by rw [calls_replied, List.append_nil], nofun⟩
  adapters := adapters_replied
  acquired := acquired_replied
  script q hexecute hone hall := by
    refine script_replied ?_
    rintro rfl
    rcases hp with rfl | rfl | rfl
    · exact hexecute rfl
    · exact hone rfl
    · exact hall rfl
  subset _ := script_replied_subset

theorem ran_logged (sql : String) (ps : Option (List Datum)) :
    Ran d (d.logged (.execute sql ps)) where
  calls := ⟨[.execute sql ps], rfl, fun c hc ↦ by rw [List.mem_singleton.mp hc]; rfl⟩
  adapters := rfl
  acquired := rfl
  script _ _ _ _ := rfl
  subset _ := List.Subset.refl _

/-! ## Actions on the driver -/

/-- Whatever the driver says, the action is done at once, and what it does to the driver is so
related. -/
def Follows (R : Driver → Driver → Prop) (x : Action (Driver × ε) α) : Prop :=
  ∀ (d : Driver) (e : ε), ∃ d' r, x.outcome? (d, e) = some ((d', e), r) ∧ R d d'

namespace Follows

variable {R : Driver → Driver → Prop} {x : Action (Driver × ε) α}

theorem done [Std.Refl R] (r : Outcome α) : Follows R (.done r : Action (Driver × ε) α) :=
  fun d _ ↦ ⟨d, r, rfl, Std.Refl.refl d⟩

theorem andThen [IsTrans Driver R] (hx : Follows R x) {k : Outcome α → Action (Driver × ε) β}
    (hk : ∀ r, Follows R (k r)) : Follows R (x.andThen k) := by
  intro d e
  obtain ⟨d', r, hd', hr⟩ := hx d e
  obtain ⟨d'', r', hd'', hr'⟩ := hk r d' e
  exact ⟨d'', r', (Action.outcome?_andThen_of hd' k).trans hd'', trans_of R hr hr'⟩

theorem bind [Std.Refl R] [IsTrans Driver R] (hx : Follows R x) {f : α → Action (Driver × ε) β}
    (hf : ∀ y, Follows R (f y)) : Follows R (x >>= f) := by
  apply hx.andThen
  intro r
  cases r with
  | ok y => exact hf y
  | error g => exact .done _

end Follows

instance : Std.Refl Ran := ⟨Ran.refl⟩

instance : IsTrans Driver Ran := ⟨fun _ _ _ ↦ Ran.trans⟩

theorem follows_execute (sql : String) (ps : Option (List Datum)) :
    Follows Ran (execute sql ps : Action (Driver × ε) Int) := by
  refine .bind (fun d e ↦ ⟨_, _, outcome?_call _ _ d e, ?_⟩) fun reply ↦ ?_
  · exact (ran_logged sql ps).trans (ran_replied (.inl rfl))
  · split
    · exact Follows.done _
    · exact Follows.done _

theorem follows_fetchOne : Follows Ran (fetchOne : Action (Driver × ε) (Option Row)) := by
  refine .bind (fun d e ↦ ⟨_, _, outcome?_ask _ d e, ?_⟩) fun reply ↦ ?_
  · exact ran_replied (.inr (.inl rfl))
  · split
    · exact Follows.done _
    · exact Follows.done _

theorem follows_fetchAll : Follows Ran (fetchAll : Action (Driver × ε) (List Row)) := by
  refine .bind (fun d e ↦ ⟨_, _, outcome?_ask _ d e, ?_⟩) fun reply ↦ ?_
  · exact ran_replied (.inr (.inr rfl))
  · split
    · exact Follows.done _
    · exact Follows.done _

theorem follows_runAll (qs : List (String × Datum)) :
    Follows Ran (AdapterRef.runAll qs : Action (Driver × ε) Unit) := by
  induction qs with
  | nil => exact Follows.done _
  | cons q qs ih => exact .bind (Follows.done _) fun ps ↦ .bind (follows_execute _ _) fun _ ↦ ih

end Driver

/-- While the adapter has a connection pinned, the action only runs statements. -/
def Confined (a : AdapterRef) (x : Action (Driver × ε) α) : Prop :=
  ∀ (d : Driver) (e : ε), (d.adapterState a.number).pinned.isSome = true →
    ∃ d' r, x.outcome? (d, e) = some ((d', e), r) ∧ d.Ran d'

namespace Confined

variable {a : AdapterRef} {x : Action (Driver × ε) α}

theorem done (r : Outcome α) : Confined a (.done r : Action (Driver × ε) α) :=
  fun d _ _ ↦ ⟨d, r, rfl, .refl d⟩

theorem andThen (hx : Confined a x) {k : Outcome α → Action (Driver × ε) β}
    (hk : ∀ r, Confined a (k r)) : Confined a (x.andThen k) := by
  intro d e hpinned
  obtain ⟨d', r, hd', hran⟩ := hx d e hpinned
  have hpinned' : (d'.adapterState a.number).pinned.isSome = true := by
    rw [Driver.adapterState, hran.adapters]
    exact hpinned
  obtain ⟨d'', r', hd'', hran'⟩ := hk r d' e hpinned'
  exact ⟨d'', r', (Action.outcome?_andThen_of hd' k).trans hd'', hran.trans hran'⟩

theorem bind (hx : Confined a x) {f : α → Action (Driver × ε) β} (hf : ∀ y, Confined a (f y)) :
    Confined a (x >>= f) := by
  refine hx.andThen fun r ↦ ?_
  cases r with
  | ok y => exact hf y
  | error g => exact .done _

/-- What was worked out beforehand runs no statement. -/
theorem of_outcome {r : Outcome α} {f : α → Action (Driver × ε) β} (hf : ∀ y, Confined a (f y)) :
    Confined a ((liftM r : Action (Driver × ε) α) >>= f) :=
  bind (.done r) hf

theorem inOwnTerms (operation : String) (hx : Confined a x) :
    Confined a (AdapterRef.inOwnTerms operation x) := by
  refine hx.andThen fun r ↦ ?_
  cases r with
  | ok y => exact .done _
  | error g => exact .done _

/-- The pinned connection is used, and none is borrowed. -/
theorem connected (hx : Driver.Follows Driver.Ran x) : Confined a (a.connected x) := by
  intro d e hpinned
  obtain ⟨d', r, hd', hran⟩ := hx d e
  refine ⟨d', r, ?_, hran⟩
  refine Eq.trans ?_ hd'
  change (if (d.adapterState a.number).pinned.isSome then x else _).outcome? (d, e) = _
  rw [if_pos hpinned]

end Confined

/-! ## Calls of a handle -/

/-- The call through a handle of any backend. -/
def Verb.through {η : Type} [Backend β η] (h : η) : Verb → Action (β × ε) Verb.Reply
  | fetch src q locked => do return .records (← Backend.fetch h src q locked)
  | any src f => do return .truth (← Backend.any h src f)
  | count src f => do return .number (← Backend.count h src f)
  | insert src r => do
    Backend.insert h src r
    return .nothing
  | update src f r => do
    Backend.update h src f r
    return .nothing
  | delete src f => do
    Backend.delete h src f
    return .nothing
  | execute ws => do
    Backend.execute h ws
    return .nothing

/-- What is done with the handle of a transaction. -/
inductive Work (α : Type) where
  | done (r : Outcome α)
  | call (v : Verb) (next : Outcome Verb.Reply → Work α)

/-- The work as an action of a task. -/
def Work.act {η : Type} [Backend β η] (h : η) : Work α → Action (β × ε) α
  | done r => .done r
  | call v next => (v.through h).andThen fun r ↦ (next r).act h

section Database

variable {a : AdapterRef}

theorem AdapterRef.confined_executeQuery (q : BoundSql) :
    Confined a (a.executeQuery q : Action (Driver × ε) Int) :=
  .inOwnTerms _ (.connected (Driver.follows_execute _ _))

theorem AdapterRef.confined_fetchOne (q : BoundSql) :
    Confined a (a.fetchOne q : Action (Driver × ε) (Option Row)) :=
  .inOwnTerms _ (.connected (.bind (Driver.follows_execute _ _) fun _ ↦ Driver.follows_fetchOne))

theorem AdapterRef.confined_fetchAll (q : BoundSql) :
    Confined a (a.fetchAll q : Action (Driver × ε) (List Row)) :=
  .inOwnTerms _ (.connected (.bind (Driver.follows_execute _ _) fun _ ↦ Driver.follows_fetchAll))

namespace Database

theorem confined_run (q : Outcome BoundSql) : Confined a (run a q : Action (Driver × ε) Unit) :=
  .of_outcome fun q ↦ .bind (a.confined_executeQuery q) fun _ ↦ .done _

theorem confined_fetch (src : Source) (q : Query) (locked : Bool) :
    Confined a (fetch a src q locked : Action (Driver × ε) (List Record)) :=
  .of_outcome fun q ↦ .bind (a.confined_fetchAll q) fun _ ↦ .done _

theorem confined_any (src : Source) (f : Option Filter) :
    Confined a (any a src f : Action (Driver × ε) Bool) := by
  refine .of_outcome fun q ↦ .bind (a.confined_fetchOne q) fun row ↦ ?_
  split
  · exact .done _
  · exact .done _
  · exact .of_outcome fun _ ↦ .done _

theorem confined_count (src : Source) (f : Option Filter) :
    Confined a (count a src f : Action (Driver × ε) Int) := by
  refine .of_outcome fun q ↦ .bind (a.confined_fetchOne q) fun row ↦ ?_
  split
  · exact .done _
  · exact .done _
  · exact .of_outcome fun _ ↦ .done _

theorem confined_execute (ws : List WriteStatement) :
    Confined a (execute a ws : Action (Driver × ε) Unit) := by
  unfold execute
  split
  · exact .done _
  · exact .of_outcome fun qs ↦ .inOwnTerms _ (.connected (Driver.follows_runAll _))

end Database

theorem Verb.confined_through (v : Verb) :
    Confined a (v.through a : Action (Driver × ε) Verb.Reply) := by
  cases v with
  | fetch src q locked => exact .bind (Database.confined_fetch src q locked) fun _ ↦ .done _
  | any src f => exact .bind (Database.confined_any src f.given?) fun _ ↦ .done _
  | count src f => exact .bind (Database.confined_count src f) fun _ ↦ .done _
  | insert src r => exact .bind (Database.confined_run _) fun _ ↦ .done _
  | update src f r => exact .bind (Database.confined_run _) fun _ ↦ .done _
  | delete src f => exact .bind (Database.confined_run _) fun _ ↦ .done _
  | execute ws => exact .bind (Database.confined_execute ws) fun _ ↦ .done _

/-- Work on a handle with a pinned connection only runs statements. -/
theorem Work.confined_act (work : Work α) :
    Confined a (work.act a : Action (Driver × ε) α) := by
  induction work with
  | done r => exact .done r
  | call v next ih => exact .andThen v.confined_through ih

end Database

end RecordStore
