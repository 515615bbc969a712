import RecordStore.Proofs.Pool.Discipline

/-!
# Adapters between their calls

Between two calls an adapter is in a transaction exactly if it has a connection pinned that it still
has to give back.  So no statement runs on a connection that was given back already, and once a
transaction has ended, in whatever way, the next one can be begun.

All this holds whatever the driver says to any call, as long as it does not interrupt the giving
back of a connection.  An adapter that is interrupted there goes on with the connection that it has
given back, and refuses to begin a transaction.

* `AdapterCall` is a call on an adapter, and `AdapterRef.Reached` a run of them.
* `AdapterRef.Orderly` is what is claimed of an adapter between two calls.
* `AdapterRef.exists_cleanUp` tells the two ways in which a connection is given back.
* `AdapterRef.Steady` is what every call preserves where nothing is interrupted.
* `AdapterRef.orderly_iff_uninterrupted` is the statement above.
-/

namespace RecordStore

variable {ε α β : Type}

/-! ## Calls -/

/-- A call on an adapter. -/
inductive AdapterCall where
  | begin
  | commit
  | rollback
  | executeQuery (q : BoundSql)
  | fetchOne (q : BoundSql)
  | fetchAll (q : BoundSql)
  | runMany (qs : List (String × Datum))
  | healthCheck

namespace AdapterCall

/-- The call, for what it does and whether it fails. -/
def on (a : AdapterRef) : AdapterCall → Action (Driver × ε) Unit
  | begin => a.begin
  | commit => a.commit
  | rollback => a.rollback
  | executeQuery q => do let _ ← a.executeQuery q
  | fetchOne q => do let _ ← a.fetchOne q
  | fetchAll q => do let _ ← a.fetchAll q
  | runMany qs => a.runMany qs
  | healthCheck => do let _ ← a.healthCheck

/-- Does the call end a transaction? -/
def ends : AdapterCall → Bool
  | commit | rollback => true
  | _ => false

/-- Does the call run statements? -/
def isQuery : AdapterCall → Bool
  | begin | commit | rollback => false
  | _ => true

/-- The call is done at once, leaves this driver, and comes to this. -/
def Does (c : AdapterCall) (a : AdapterRef) (e : ε) (d d' : Driver) (r : Outcome Unit) : Prop :=
  (c.on a).outcome? (d, e) = some ((d', e), r)

theorem Does.eq {c : AdapterCall} {a : AdapterRef} {e : ε} {d d₁ d₂ : Driver} {r₁ r₂ : Outcome Unit}
    (h₁ : c.Does a e d d₁ r₁) (h₂ : c.Does a e d d₂ r₂) : d₁ = d₂ ∧ r₁ = r₂ := by
  have h := h₁.symm.trans h₂
  simpa using h

end AdapterCall

/-- The driver after calls on an adapter, one after another, whatever each of them has come to. -/
inductive AdapterRef.Reached (a : AdapterRef) (e : ε) (d₀ : Driver) : Driver → Prop
  | start : Reached a e d₀ d₀
  | call {d d' : Driver} {r : Outcome Unit} (c : AdapterCall) (h : Reached a e d₀ d)
    (hc : c.Does a e d d' r) : Reached a e d₀ d'

theorem AdapterRef.Reached.trans {a : AdapterRef} {e : ε} {d₀ d₁ d₂ : Driver}
    (h : a.Reached e d₀ d₁) (h' : a.Reached e d₁ d₂) : a.Reached e d₀ d₂ := by
  induction h' with
  | start => exact h
  | call c _ hc ih => exact .call c ih hc

/-! ## What is claimed -/

namespace Adapter

/-- No transaction is under way. -/
structure IsFree (s : Adapter) : Prop where
  isActive : s.isActive = false
  pinned : s.pinned = none
  owed : s.owed = none

/-- A transaction is under way on a connection that is still to be given back. -/
structure Holds (s : Adapter) (n : Nat) : Prop where
  isActive : s.isActive = true
  pinned : s.pinned = some n
  owed : s.owed = some n

/-- A transaction is taken to be under way on a connection that was given back. -/
structure Clings (s : Adapter) (n : Nat) : Prop where
  isActive : s.isActive = true
  pinned : s.pinned = some n
  owed : s.owed = none

end Adapter

namespace Driver

/-- No connection was given back that was never borrowed. -/
def Numbered (d : Driver) : Prop := ∀ n f, .release n f ∈ d.calls → n ≤ d.acquired

/-- The driver does not interrupt the giving back of a connection. -/
def Uninterrupted (d : Driver) : Prop := ∀ f, .fail f ∈ d.script .release → f.isOrdinary = true

end Driver

/-- What a call does to the transaction of an adapter. -/
structure AdapterCall.Orderly (a : AdapterRef) (c : AdapterCall) (d d' : Driver)
    (r : Outcome Unit) : Prop where
  /-- A transaction is under way afterwards if it was and the call does not end it, or if the call
  has begun it. -/
  active_iff : (d'.adapterState a.number).isActive = true ↔
    ((d.adapterState a.number).isActive = true ∧ c.ends = false) ∨ (c = .begin ∧ r = .ok ())
  /-- Outside a transaction nothing is refused: a connection that is not in use is asked for. -/
  borrows : c.ends = false → (d.adapterState a.number).isActive = false →
    ∃ cs, d'.calls = d.calls ++ .acquire d.next :: cs

/-- An adapter between two calls. -/
structure AdapterRef.Orderly (a : AdapterRef) (e : ε) (d : Driver) : Prop where
  /-- It is in a transaction if a connection is pinned that is still to be given back. -/
  active_iff : (d.adapterState a.number).isActive = true ↔
    ∃ n, (d.adapterState a.number).pinned = some n ∧ (d.adapterState a.number).owed = some n
  /-- Outside a transaction no connection is pinned. -/
  pinned : (d.adapterState a.number).isActive = false → (d.adapterState a.number).pinned = none
  /-- A connection that is pinned was not given back. -/
  kept : ∀ n, (d.adapterState a.number).pinned = some n → ∀ f, .release n f ∉ d.calls
  /-- Every call is done. -/
  does : ∀ c : AdapterCall, ∃ d' r, c.Does a e d d' r ∧ c.Orderly a d d' r

/-! ## Statements -/

namespace Driver

variable {d d' d'' : Driver}

theorem Numbered.append {cs : List Call} (h : d.Numbered)
    (hcalls : d'.calls = d.calls ++ cs) (hacquired : d.acquired ≤ d'.acquired)
    (hcs : ∀ n f, .release n f ∈ cs → n ≤ d'.acquired) : d'.Numbered := by
  intro n f hmem
  rw [hcalls] at hmem
  rcases List.mem_append.mp hmem with hmem | hmem
  · exact Nat.le_trans (h n f hmem) hacquired
  · exact hcs n f hmem

/-- Statements were run; connections that were given back were borrowed for them. -/
structure Served (d d' : Driver) : Prop where
  calls : ∃ cs, d'.calls = d.calls ++ cs ∧
    ∀ n f, .release n f ∈ cs → d.acquired < n ∧ n ≤ d'.acquired
  adapters : d'.adapters = d.adapters
  acquired : d.acquired ≤ d'.acquired
  subset : ∀ p, d'.script p ⊆ d.script p

theorem Ran.served (h : Ran d d') : Served d d' where
  calls := by
    obtain ⟨cs, hcs, hall⟩ := h.calls
    refine ⟨cs, hcs, ?_⟩
    intro n f hrelease
    cases hall _ hrelease
  adapters := h.adapters
  acquired := Nat.le_of_eq h.acquired.symm
  subset := h.subset

/-- What is said in giving a connection back is not of interest here. -/
theorem exists_release (n : Nat) (r : Outcome α) (d : Driver) (e : ε) :
    ∃ f, (release n r).outcome? (d, e) = some (((d.logged (.release n f)).replied .release, e),
      (d.reply .release).map fun _ ↦ ()) :=
  ⟨_, outcome?_tell .release _ d e⟩

/-- Without a connection nothing is run. -/
theorem outcome?_borrowing_of_error {d : Driver} {f : Fault} (h : d.reply .acquire = .error f)
    (x : Action (Driver × ε) α) (e : ε) :
    (borrowing x).outcome? (d, e) = some ((d.acquiring, e), .error f) := by
  have hacquire := outcome?_acquire d e
  rw [h] at hacquire
  exact Action.outcome?_bind_of_error hacquire _

/-- A connection that was borrowed is given back once it was used. -/
theorem exists_borrowing_of_ok {d m : Driver} {e : ε} {reply : Reply} {x : Action (Driver × ε) α}
    {r : Outcome α} (h : d.reply .acquire = .ok reply)
    (hx : x.outcome? (d.acquiring, e) = some ((m, e), r)) :
    ∃ leaving r', (borrowing x).outcome? (d, e) =
      some (((m.logged (.release d.next leaving)).replied .release, e), r') := by
  have hacquire := outcome?_acquire d e
  rw [h] at hacquire
  obtain ⟨leaving, hrelease⟩ := exists_release d.next r m e
  have hused : (borrowing x).outcome? (d, e) =
      (release d.next r >>= fun _ ↦ (liftM r : Action (Driver × ε) α)).outcome? (m, e) :=
    (Action.outcome?_bind_of_ok hacquire _).trans (Action.outcome?_andThen_of hx _)
  rw [hused]
  cases hgiven : m.reply .release with
  | ok _ =>
    rw [hgiven] at hrelease
    exact ⟨leaving, r, Action.outcome?_bind_of_ok hrelease _⟩
  | error f =>
    rw [hgiven] at hrelease
    exact ⟨leaving, .error f, Action.outcome?_bind_of_error hrelease _⟩

/-- Statements are run on a connection that is borrowed for them. -/
theorem exists_borrowing {x : Action (Driver × ε) α} (hx : Follows Ran x) (d : Driver) (e : ε) :
    ∃ d' r, (borrowing x).outcome? (d, e) = some ((d', e), r) ∧ Served d d' ∧
      ∃ cs, d'.calls = d.calls ++ .acquire d.next :: cs := by
  have hcalls : d.acquiring.calls = d.calls ++ [.acquire d.next] := calls_replied
  have hacquired : d.acquiring.acquired = d.next := acquired_replied
  have hnext : d.acquired < d.next := Nat.lt_succ_self _
  cases hreply : d.reply .acquire with
  | error f =>
    refine ⟨_, _, outcome?_borrowing_of_error hreply x e, ⟨⟨_, hcalls, ?_⟩, ?_, ?_, ?_⟩, ?_⟩
    · intro n f hrelease
      cases List.mem_singleton.mp hrelease
    · exact adapters_replied
    · exact hacquired ▸ Nat.le_of_lt hnext
    · exact fun p ↦ script_replied_subset
    · exact ⟨[], hcalls⟩
  | ok reply =>
    obtain ⟨d₁, r, hd₁, hran⟩ := hx d.acquiring e
    obtain ⟨cs, hcs, hall⟩ := hran.calls
    obtain ⟨leaving, r', hr'⟩ := exists_borrowing_of_ok hreply hd₁
    let d₂ := (d₁.logged (.release d.next leaving)).replied .release
    have hcalls₂ : d₂.calls = d.calls ++ .acquire d.next :: (cs ++ [.release d.next leaving]) := by
      have hlogged : d₂.calls = d₁.calls ++ [.release d.next leaving] := calls_replied
      rw [hlogged, hcs, hcalls]
      simp
    have hacquired₂ : d₂.acquired = d.next :=
      (acquired_replied (d := d₁.logged _)).trans (hran.acquired.trans hacquired)
    refine ⟨d₂, r', hr', ⟨⟨_, hcalls₂, ?_⟩, ?_, ?_, ?_⟩, ⟨_, hcalls₂⟩⟩
    · intro n f hmem
      simp only [List.mem_cons, List.mem_append, List.not_mem_nil, or_false, reduceCtorEq,
        false_or, Call.release.injEq] at hmem
      rcases hmem with hmem | ⟨rfl, rfl⟩
      · cases hall _ hmem
      · exact ⟨hnext, Nat.le_of_eq hacquired₂.symm⟩
    · exact adapters_replied.trans (hran.adapters.trans adapters_replied)
    · exact hacquired₂ ▸ Nat.le_of_lt hnext
    · intro p
      refine List.Subset.trans script_replied_subset (List.Subset.trans (hran.subset p) ?_)
      exact script_replied_subset

/-- What is made of a result in the end calls the driver no more. -/
theorem Follows.andThen_done {R : Driver → Driver → Prop} {x : Action (Driver × ε) α}
    (hx : Follows R x) {k : Outcome α → Action (Driver × ε) β} (hk : ∀ r, ∃ r', k r = .done r') :
    Follows R (x.andThen k) := by
  intro d e
  obtain ⟨d', r, hd', hr⟩ := hx d e
  obtain ⟨r', hr'⟩ := hk r
  refine ⟨d', r', (Action.outcome?_andThen_of hd' k).trans ?_, hr⟩
  rw [hr']
  rfl

end Driver

namespace AdapterRef

open Driver

variable {a : AdapterRef} {d d' : Driver} {n : Nat}

/-- A query on an adapter: without a pinned connection it borrows one. -/
def Queried (a : AdapterRef) (d d' : Driver) : Prop :=
  Served d d' ∧ ((d.adapterState a.number).pinned = none →
    ∃ cs, d'.calls = d.calls ++ .acquire d.next :: cs)

theorem follows_connected {x : Action (Driver × ε) α} (hx : Follows Ran x) :
    Follows a.Queried (a.connected x) := by
  intro d e
  cases hpinned : (d.adapterState a.number).pinned with
  | some n =>
    obtain ⟨d', r, hd', hran⟩ := Confined.connected (a := a) hx d e (by rw [hpinned]; rfl)
    refine ⟨d', r, hd', hran.served, ?_⟩
    intro hnone
    cases hpinned.symm.trans hnone
  | none =>
    obtain ⟨d', r, hd', hserved, hcalls⟩ := exists_borrowing hx d e
    refine ⟨d', r, ?_, hserved, fun _ ↦ hcalls⟩
    refine Eq.trans ?_ hd'
    change (if (d.adapterState a.number).pinned.isSome then x else _).outcome? (d, e) = _
    rw [hpinned]
    rfl

theorem follows_inOwnTerms {x : Action (Driver × ε) α} (operation : String) (hx : Follows Ran x) :
    Follows a.Queried (inOwnTerms operation (a.connected x)) := by
  apply (follows_connected hx).andThen_done
  intro r
  cases r with
  | ok y => exact ⟨_, rfl⟩
  | error f => exact ⟨_, rfl⟩

/-- The answer of a query is left away. -/
theorem follows_discarded {x : Action (Driver × ε) α} (hx : Follows a.Queried x) :
    Follows a.Queried (do let _ ← x) := by
  apply hx.andThen_done
  intro r
  cases r with
  | ok y => exact ⟨_, rfl⟩
  | error f => exact ⟨_, rfl⟩

theorem follows_healthCheck : Follows a.Queried (a.healthCheck : Action (Driver × ε) Bool) := by
  have hcheck : Follows Ran (do
      let _ ← Driver.execute "SELECT 1" none
      let _ ← Driver.fetchOne
      return true : Action (Driver × ε) Bool) :=
    .bind (follows_execute _ _) fun _ ↦ .bind follows_fetchOne fun _ ↦ .done _
  apply (follows_connected hcheck).andThen_done
  intro r
  cases r with
  | ok y => exact ⟨_, rfl⟩
  | error f =>
    change ∃ r', (if f.isOrdinary then pure false else Action.fail f) = _
    split
    · exact ⟨_, rfl⟩
    · exact ⟨_, rfl⟩

theorem follows_query {c : AdapterCall} (hc : c.isQuery = true) :
    Follows a.Queried (c.on a : Action (Driver × ε) Unit) := by
  cases c with
  | begin => cases hc
  | commit => cases hc
  | rollback => cases hc
  | executeQuery q => exact follows_discarded (follows_inOwnTerms _ (follows_execute _ _))
  | fetchOne q =>
    apply follows_discarded
    exact follows_inOwnTerms _ (.bind (follows_execute _ _) fun _ ↦ follows_fetchOne)
  | fetchAll q =>
    apply follows_discarded
    exact follows_inOwnTerms _ (.bind (follows_execute _ _) fun _ ↦ follows_fetchAll)
  | runMany qs => exact follows_inOwnTerms _ (follows_runAll qs)
  | healthCheck => exact follows_discarded follows_healthCheck

/-! ## Giving back -/

/-- A connection was given back, and the transaction is over unless that was interrupted. -/
structure GivenBack (a : AdapterRef) (n : Nat) (d d' : Driver) : Prop where
  calls : d'.calls = d.calls ++ [.release n none]
  acquired : d'.acquired = d.acquired
  length_adapters : d'.adapters.length = d.adapters.length
  script : ∀ p, p ≠ .release → d'.script p = d.script p
  script_release : d'.script .release = (d.script .release).tail
  state : ((d'.adapterState a.number).IsFree ∧
      ∀ f, d.reply .release = .error f → f.isOrdinary = true) ∨
    ((d'.adapterState a.number).Clings n ∧
      ∃ f, d.reply .release = .error f ∧ f.isOrdinary = false)

theorem length_changed (f : Adapter → Adapter) (d : Driver) :
    (a.changed f d).adapters.length = d.adapters.length :=
  List.length_modify _ _ _

/-- A connection that is owed is given back once, and only where this is interrupted the adapter
still takes the transaction to be under way. -/
theorem exists_cleanUp (h : (d.adapterState a.number).Holds n)
    (hlt : a.number < d.adapters.length) (e : ε) :
    ∃ d' r, a.cleanUp.outcome? (d, e) = some ((d', e), r) ∧ a.GivenBack n d d' := by
  have hclean := outcome?_cleanUp_owed h.owed e
  have hadapters : (a.releasing n d).adapters = (a.changed disowned d).adapters := adapters_replied
  have hlength : (a.releasing n d).adapters.length = d.adapters.length := by
    rw [hadapters, length_changed]
  have hstate : (a.releasing n d).adapterState a.number = disowned (d.adapterState a.number) := by
    rw [← adapterState_changed disowned hlt]
    exact congrArg (fun s : List Adapter ↦ s[a.number]?.getD default) hadapters
  by_cases hordinary : ∀ f, d.reply .release = .error f → f.isOrdinary = true
  · rw [givenBack_of_ordinary hordinary] at hclean
    have hfree : ((a.changed unpinned (a.releasing n d)).adapterState a.number).IsFree := by
      rw [adapterState_changed unpinned (hlength ▸ hlt), hstate]
      exact ⟨rfl, rfl, rfl⟩
    refine ⟨a.changed unpinned (a.releasing n d), .ok (), hclean, ?_⟩
    exact
      { calls := calls_replied
        acquired := acquired_replied
        length_adapters := (length_changed _ _).trans hlength
        script := fun p hp ↦ script_replied hp
        script_release := script_replied_self
        state := .inl ⟨hfree, hordinary⟩ }
  · obtain ⟨f, hf⟩ := Classical.not_forall.mp hordinary
    obtain ⟨hf, hfault⟩ := Classical.not_imp.mp hf
    have hgiven : AdapterRef.givenBack d = .error f := by
      rw [AdapterRef.givenBack, hf]
      exact if_neg hfault
    rw [hgiven] at hclean
    have hclings : ((a.releasing n d).adapterState a.number).Clings n := by
      rw [hstate]
      exact ⟨h.isActive, h.pinned, rfl⟩
    refine ⟨a.releasing n d, .error f, hclean, ?_⟩
    exact
      { calls := calls_replied
        acquired := acquired_replied
        length_adapters := hlength
        script := fun p hp ↦ script_replied hp
        script_release := script_replied_self
        state := .inr ⟨hclings, f, hf, Bool.eq_false_iff.mpr hfault⟩ }

/-- A transaction is ended by a call of the driver, and then its connection is given back. -/
theorem exists_end (h : (d.adapterState a.number).Holds n) (hlt : a.number < d.adapters.length)
    {c : AdapterCall} (hc : c.ends = true) (e : ε) :
    ∃ m d' r, Served d m ∧ (∀ p, p ≠ .commit → p ≠ .rollback → m.script p = d.script p) ∧
      c.Does a e d d' r ∧ a.GivenBack n m d' := by
  have hfinish (operation : String) (p : Point) (t : Call) (ht : ∀ n f, t ≠ .release n f) :
      ∃ d' r, (a.finish operation p t).outcome? (d, e) = some ((d', e), r) ∧
        Served d ((d.logged t).replied p) ∧ a.GivenBack n ((d.logged t).replied p) d' := by
    have hadapters : ((d.logged t).replied p).adapters = d.adapters := adapters_replied
    have hstate : (((d.logged t).replied p).adapterState a.number).Holds n := by
      rw [adapterState, hadapters]
      exact h
    obtain ⟨d', r, hclean, hback⟩ := exists_cleanUp hstate (hadapters ▸ hlt) e
    have htold := outcome?_inOwnTerms_tell operation p t d e
    have hacquired : ((d.logged t).replied p).acquired = d.acquired := acquired_replied
    have hserved : Served d ((d.logged t).replied p) :=
      { calls := ⟨[t], calls_replied, fun n f hmem ↦ absurd (List.mem_singleton.mp hmem).symm
          (ht n f)⟩
        adapters := hadapters
        acquired := Nat.le_of_eq hacquired.symm
        subset := fun q ↦ script_replied_subset (d := d.logged t) }
    refine ⟨d', r >>= fun _ ↦ d.told operation p, ?_, hserved, hback⟩
    refine (Action.outcome?_andThen_of htold _).trans ?_
    cases r with
    | ok _ => exact Action.outcome?_andThen_of hclean _
    | error f => exact Action.outcome?_andThen_of hclean _
  cases c with
  | commit =>
    obtain ⟨d', r, hdoes, hserved, hback⟩ :=
      hfinish "commit_transaction" .commit .commit (fun _ _ h ↦ Call.noConfusion h)
    refine ⟨_, d', r, hserved, fun p hp _ ↦ script_replied hp, ?_, hback⟩
    change a.commit.outcome? (d, e) = _
    rw [commit, Action.outcome?_bind_of_ok (outcome?_state a d e)]
    dsimp only
    rw [h.isActive]
    exact hdoes
  | rollback =>
    obtain ⟨d', r, hdoes, hserved, hback⟩ :=
      hfinish "rollback_transaction" .rollback .rollback (fun _ _ h ↦ Call.noConfusion h)
    refine ⟨_, d', r, hserved, fun p _ hp ↦ script_replied hp, ?_, hback⟩
    change a.rollback.outcome? (d, e) = _
    rw [rollback, Action.outcome?_bind_of_ok (outcome?_state a d e), h.isActive]
    exact hdoes
  | _ => cases hc

/-! ## Beginning -/

/-- The driver after a transaction was to be begun without a connection. -/
def unconnected (a : AdapterRef) (d : Driver) : Driver := a.changed unpinned d.acquiring

theorem length_unconnected : (a.unconnected d).adapters.length = d.adapters.length :=
  (length_changed _ _).trans (congrArg List.length adapters_replied)

theorem isFree_unconnected (hlt : a.number < d.adapters.length)
    (h : (d.adapterState a.number).IsFree) :
    ((a.unconnected d).adapterState a.number).IsFree := by
  have hacquiring : d.acquiring.adapters = d.adapters := adapters_replied
  have hstate : d.acquiring.adapterState a.number = d.adapterState a.number :=
    congrArg (fun s : List Adapter ↦ s[a.number]?.getD default) hacquiring
  rw [unconnected, adapterState_changed unpinned (hacquiring ▸ hlt), hstate]
  exact ⟨rfl, rfl, h.owed⟩

theorem acquired_beginning : (a.beginning d).acquired = d.next :=
  acquired_replied.trans acquired_replied

theorem length_beginning : (a.beginning d).adapters.length = d.adapters.length := by
  have hbegin : (a.beginning d).adapters = (a.changed (pinning d.next) d.acquiring).adapters :=
    adapters_replied
  have hacquiring : d.acquiring.adapters = d.adapters := adapters_replied
  rw [hbegin, length_changed, hacquiring]

theorem holds_beginning (hlt : a.number < d.adapters.length)
    (h : (d.adapterState a.number).IsFree) :
    ((a.beginning d).adapterState a.number).Holds d.next := by
  rw [adapterState_beginning ⟨h.isActive, h.owed, hlt⟩]
  exact ⟨rfl, rfl, rfl⟩

/-- A transaction is begun, unless there is no connection for it, or the driver refuses. -/
theorem exists_begin (hlt : a.number < d.adapters.length) (h : (d.adapterState a.number).IsFree)
    (e : ε) :
    (∃ f r, d.reply .acquire = .error f ∧
      AdapterCall.begin.Does a e d (a.unconnected d) (.error r)) ∨
    AdapterCall.begin.Does a e d (a.beginning d) (.ok ()) ∨
    ∃ d' r, AdapterCall.begin.Does a e d d' (.error r) ∧ a.GivenBack d.next (a.beginning d) d' := by
  have hfresh : a.Fresh d := ⟨h.isActive, h.owed, hlt⟩
  cases hacquire : d.reply .acquire with
  | error f => exact .inl ⟨f, _, rfl, outcome?_begin_of_no_connection hfresh e hacquire⟩
  | ok reply =>
    right
    cases hbegin : d.reply .begin with
    | ok reply' => exact .inl (outcome?_begin hfresh hacquire e hbegin)
    | error f =>
      right
      have hpin := outcome?_pin (a := a) hacquire e
      rw [hbegin] at hpin
      obtain ⟨d', r, hclean, hback⟩ :=
        exists_cleanUp (holds_beginning hlt h) (length_beginning.symm ▸ hlt) e
      refine ⟨d', match r with
        | .ok _ => f.ofDriver "begin_transaction"
        | .error g => g, ?_, hback⟩
      refine (begin_of_pin hfresh.isActive e hpin).trans ?_
      cases r with
      | ok _ => exact Action.outcome?_bind_of_ok hclean _
      | error g => exact Action.outcome?_bind_of_error hclean _

/-! ## Without interruption -/

/-- What every call preserves on a driver that does not interrupt the giving back. -/
structure Steady (a : AdapterRef) (d : Driver) : Prop where
  placed : a.number < d.adapters.length
  numbered : d.Numbered
  uninterrupted : d.Uninterrupted
  free_or_holds : (d.adapterState a.number).IsFree ∨
    ∃ n, (d.adapterState a.number).Holds n ∧ n ≤ d.acquired ∧ ∀ f, .release n f ∉ d.calls

namespace Steady

/-- Statements, and the call that ends a transaction, leave the adapter as it is. -/
theorem served (h : a.Steady d) (hs : Served d d') : a.Steady d' := by
  obtain ⟨cs, hcs, hrelease⟩ := hs.calls
  have hstate : d'.adapterState a.number = d.adapterState a.number :=
    congrArg (fun s : List Adapter ↦ s[a.number]?.getD default) hs.adapters
  refine ⟨hs.adapters ▸ h.placed, ?_, ?_, ?_⟩
  · exact h.numbered.append hcs hs.acquired fun n f hmem ↦ (hrelease n f hmem).2
  · exact fun f hf ↦ h.uninterrupted f (hs.subset .release hf)
  · rw [hstate]
    rcases h.free_or_holds with hfree | ⟨n, hholds, hn, hkept⟩
    · exact .inl hfree
    · refine .inr ⟨n, hholds, Nat.le_trans hn hs.acquired, ?_⟩
      intro f hmem
      rw [hcs] at hmem
      rcases List.mem_append.mp hmem with hmem | hmem
      · exact hkept f hmem
      · exact Nat.not_lt_of_le hn (hrelease n f hmem).1

theorem le_acquired (h : a.Steady d) (hn : (d.adapterState a.number).Holds n) :
    n ≤ d.acquired := by
  rcases h.free_or_holds with hfree | ⟨k, hk, hle, -⟩
  · cases hfree.isActive.symm.trans hn.isActive
  · cases hk.pinned.symm.trans hn.pinned
    exact hle

/-- What is borrowed is given back, and then the adapter is free. -/
theorem givenBack (h : a.Steady d) (hn : (d.adapterState a.number).Holds n)
    (hb : a.GivenBack n d d') : a.Steady d' ∧ (d'.adapterState a.number).IsFree := by
  have hfree : (d'.adapterState a.number).IsFree := by
    rcases hb.state with ⟨hfree, -⟩ | ⟨-, f, hf, hfault⟩
    · exact hfree
    · cases hfault.symm.trans (h.uninterrupted f (mem_of_reply hf))
  refine ⟨⟨hb.length_adapters ▸ h.placed, ?_, ?_, .inl hfree⟩, hfree⟩
  · apply h.numbered.append hb.calls (Nat.le_of_eq hb.acquired.symm)
    intro k f hmem
    cases List.mem_singleton.mp hmem
    exact hb.acquired ▸ h.le_acquired hn
  · intro f hf
    rw [hb.script_release] at hf
    exact h.uninterrupted f (List.mem_of_mem_tail hf)

theorem beginning (h : a.Steady d) (hfree : (d.adapterState a.number).IsFree) :
    a.Steady (a.beginning d) := by
  have hholds := holds_beginning h.placed hfree
  have hnext : d.acquired < d.next := Nat.lt_succ_self _
  have hcalls (k : Nat) (f : Option Fault) : .release k f ∉ [Call.acquire d.next, .begin] := by
    intro hmem
    simp at hmem
  refine ⟨length_beginning.symm ▸ h.placed, ?_, ?_, .inr ⟨d.next, hholds, ?_, ?_⟩⟩
  · apply h.numbered.append calls_beginning (acquired_beginning ▸ Nat.le_of_lt hnext)
    intro k f hmem
    cases hcalls k f hmem
  · exact fun f hf ↦ h.uninterrupted f (script_beginning_subset .release hf)
  · exact Nat.le_of_eq acquired_beginning.symm
  · intro f hmem
    rw [calls_beginning] at hmem
    rcases List.mem_append.mp hmem with hmem | hmem
    · exact Nat.not_lt_of_le (h.numbered d.next f hmem) hnext
    · exact hcalls d.next f hmem

end Steady

namespace Steady

theorem unconnected (h : a.Steady d) (hfree : (d.adapterState a.number).IsFree) :
    a.Steady (a.unconnected d) := by
  have hcalls : (a.unconnected d).calls = d.calls ++ [.acquire d.next] := calls_replied
  have hacquired : (a.unconnected d).acquired = d.next := acquired_replied
  have hnext : d.acquired ≤ d.next := Nat.le_succ _
  refine ⟨length_unconnected.symm ▸ h.placed, ?_, ?_, .inl (isFree_unconnected h.placed hfree)⟩
  · apply h.numbered.append hcalls (hacquired ▸ hnext)
    intro n f hmem
    cases List.mem_singleton.mp hmem
  · intro f hf
    have hrelease : (a.unconnected d).script .release = d.script .release :=
      script_replied (by decide)
    exact h.uninterrupted f (hrelease ▸ hf)

theorem pinned (h : a.Steady d) (hinactive : (d.adapterState a.number).isActive = false) :
    (d.adapterState a.number).IsFree := by
  rcases h.free_or_holds with hfree | ⟨n, hholds, -⟩
  · exact hfree
  · cases hinactive.symm.trans hholds.isActive

/-- A query leaves the transaction as it is. -/
theorem exists_query (h : a.Steady d) {c : AdapterCall} (hc : c.isQuery = true) (e : ε) :
    ∃ d' r, c.Does a e d d' r ∧ c.Orderly a d d' r ∧ a.Steady d' := by
  obtain ⟨d', r, hdoes, hserved, hborrows⟩ := follows_query (a := a) hc d e
  have hstate : d'.adapterState a.number = d.adapterState a.number :=
    congrArg (fun s : List Adapter ↦ s[a.number]?.getD default) hserved.adapters
  have hends : c.ends = false ∧ c ≠ .begin := by
    cases c with
    | begin => cases hc
    | commit => cases hc
    | rollback => cases hc
    | _ => exact ⟨rfl, nofun⟩
  refine ⟨d', r, hdoes, ⟨?_, ?_⟩, h.served hserved⟩
  · rw [hstate]
    constructor
    · exact fun hactive ↦ .inl ⟨hactive, hends.1⟩
    · rintro (⟨hactive, -⟩ | ⟨hbegin, -⟩)
      · exact hactive
      · cases hends.2 hbegin
  · intro _ hinactive
    exact hborrows (h.pinned hinactive).pinned

/-- A transaction that is begun ends where the driver does not begin it. -/
theorem exists_begin (h : a.Steady d) (e : ε) :
    ∃ d' r, AdapterCall.begin.Does a e d d' r ∧ AdapterCall.begin.Orderly a d d' r ∧
      a.Steady d' := by
  rcases h.free_or_holds with hfree | ⟨n, hholds, -⟩
  · rcases AdapterRef.exists_begin h.placed hfree e with
      ⟨f, g, -, hdoes⟩ | hdoes | ⟨d', g, hdoes, hback⟩
    · refine ⟨_, _, hdoes, ⟨?_, ?_⟩, h.unconnected hfree⟩
      · rw [(isFree_unconnected h.placed hfree).isActive, hfree.isActive]
        simp
      · exact fun _ _ ↦ ⟨[], calls_replied⟩
    · refine ⟨_, _, hdoes, ⟨?_, ?_⟩, h.beginning hfree⟩
      · rw [(holds_beginning h.placed hfree).isActive]
        simp
      · exact fun _ _ ↦ ⟨_, calls_beginning⟩
    · obtain ⟨hsteady, hfree'⟩ :=
        (h.beginning hfree).givenBack (holds_beginning h.placed hfree) hback
      refine ⟨d', _, hdoes, ⟨?_, ?_⟩, hsteady⟩
      · rw [hfree'.isActive, hfree.isActive]
        simp
      · intro _ _
        refine ⟨[.begin, .release d.next none], ?_⟩
        rw [hback.calls, calls_beginning]
        simp
  · refine ⟨d, .error .nestedTransaction, ?_, ⟨?_, ?_⟩, h⟩
    · change a.begin.outcome? (d, e) = _
      rw [AdapterRef.begin, Action.outcome?_bind_of_ok (outcome?_state a d e)]
      dsimp only
      rw [hholds.isActive]
      rfl
    · rw [hholds.isActive]
      simp [AdapterCall.ends]
    · intro _ hinactive
      cases hinactive.symm.trans hholds.isActive

/-- A transaction that is to end has ended. -/
theorem exists_end (h : a.Steady d) {c : AdapterCall} (hc : c.ends = true) (e : ε) :
    ∃ d' r, c.Does a e d d' r ∧ c.Orderly a d d' r ∧ a.Steady d' := by
  have hbegin : c ≠ .begin := by
    rintro rfl
    cases hc
  have horderly {d' : Driver} {r : Outcome Unit} (hfree : (d'.adapterState a.number).IsFree) :
      c.Orderly a d d' r := by
    constructor
    · rw [hfree.isActive, hc]
      simp [hbegin]
    · intro hends
      cases hends.symm.trans hc
  rcases h.free_or_holds with hfree | ⟨n, hholds, -⟩
  · have hdone : ∃ r, c.Does a e d d r := by
      cases c with
      | commit =>
        refine ⟨.error (.noTransaction "commit"), ?_⟩
        change a.commit.outcome? (d, e) = _
        rw [commit, Action.outcome?_bind_of_ok (outcome?_state a d e)]
        dsimp only
        rw [hfree.isActive]
        rfl
      | rollback =>
        refine ⟨.ok (), ?_⟩
        change a.rollback.outcome? (d, e) = _
        rw [rollback, Action.outcome?_bind_of_ok (outcome?_state a d e), hfree.isActive]
        rfl
      | _ => cases hc
    obtain ⟨r, hdoes⟩ := hdone
    exact ⟨d, r, hdoes, horderly hfree, h⟩
  · obtain ⟨m, d', r, hserved, -, hdoes, hback⟩ := AdapterRef.exists_end hholds h.placed hc e
    have hholds' : (m.adapterState a.number).Holds n := by
      rw [adapterState, hserved.adapters]
      exact hholds
    obtain ⟨hsteady, hfree⟩ := (h.served hserved).givenBack hholds' hback
    exact ⟨d', r, hdoes, horderly hfree, hsteady⟩

theorem exists_call (h : a.Steady d) (c : AdapterCall) (e : ε) :
    ∃ d' r, c.Does a e d d' r ∧ c.Orderly a d d' r ∧ a.Steady d' := by
  cases c with
  | begin => exact h.exists_begin e
  | commit => exact h.exists_end rfl e
  | rollback => exact h.exists_end rfl e
  | _ => exact h.exists_query rfl e

theorem of_reached {d₀ : Driver} {e : ε} (h : a.Steady d₀) (hd : a.Reached e d₀ d) :
    a.Steady d := by
  induction hd with
  | start => exact h
  | call c _ hc ih =>
    obtain ⟨d', r, hdoes, -, hsteady⟩ := ih.exists_call c e
    obtain ⟨rfl, -⟩ := hdoes.eq hc
    exact hsteady

theorem orderly (h : a.Steady d) (e : ε) : a.Orderly e d where
  active_iff := by
    rcases h.free_or_holds with hfree | ⟨n, hholds, -⟩
    · rw [hfree.isActive, hfree.pinned]
      simp
    · rw [hholds.isActive, hholds.pinned, hholds.owed]
      simp
  pinned hinactive := (h.pinned hinactive).pinned
  kept n hn := by
    rcases h.free_or_holds with hfree | ⟨k, hholds, -, hkept⟩
    · cases hfree.pinned.symm.trans hn
    · cases hholds.pinned.symm.trans hn
      exact hkept
  does c := by
    obtain ⟨d', r, hdoes, horderly, -⟩ := h.exists_call c e
    exact ⟨d', r, hdoes, horderly⟩

end Steady

/-! ## With an interruption -/

/-- An adapter that gives back a connection either loses that, or one reply of the driver less is
to come. -/
theorem GivenBack.clings_or (h : a.GivenBack n d d') (hd : ¬ d.Uninterrupted) :
    (d'.adapterState a.number).Clings n ∨ (d'.adapterState a.number).IsFree ∧
      ¬ d'.Uninterrupted ∧ (d'.script .release).length < (d.script .release).length := by
  rcases h.state with ⟨hfree, hordinary⟩ | ⟨hclings, -⟩
  · right
    obtain ⟨f, hf⟩ := Classical.not_forall.mp hd
    obtain ⟨hf, hfault⟩ := Classical.not_imp.mp hf
    cases hscript : d.script .release with
    | nil =>
      rw [hscript] at hf
      cases hf
    | cons reply rest =>
      have hrest : .fail f ∈ rest := by
        rw [hscript] at hf
        rcases List.mem_cons.mp hf with rfl | hf
        · have hreply : d.reply .release = .error f := by
            unfold Driver.reply take
            rw [hscript]
            rfl
          cases hfault (hordinary f hreply)
        · exact hf
      refine ⟨hfree, fun hall ↦ hfault (hall f ?_), ?_⟩
      · rw [h.script_release, hscript]
        exact hrest
      · rw [h.script_release, hscript]
        exact Nat.lt_succ_self _
  · exact .inl hclings

/-- Transactions that are begun and rolled back use up the replies of the driver, until one of them
interrupts the giving back. -/
theorem exists_clings (hlt : a.number < d.adapters.length)
    (hfree : (d.adapterState a.number).IsFree) (hd : ¬ d.Uninterrupted) (e : ε) :
    ∃ d' n, a.Reached e d d' ∧ (d'.adapterState a.number).Clings n := by
  induction hk : (d.script .release).length + (d.script .acquire).length
    using Nat.strongRecOn generalizing d with
  | ind k ih =>
    have hshorter {d' : Driver} (hreached : a.Reached e d d')
        (hlt' : a.number < d'.adapters.length) (hfree' : (d'.adapterState a.number).IsFree)
        (hd' : ¬ d'.Uninterrupted)
        (hless : (d'.script .release).length + (d'.script .acquire).length < k) :
        ∃ d'' n, a.Reached e d d'' ∧ (d''.adapterState a.number).Clings n := by
      obtain ⟨d'', n, hreached', hclings⟩ := ih _ hless hlt' hfree' hd' rfl
      exact ⟨d'', n, hreached.trans hreached', hclings⟩
    have hgiven {m d' : Driver} {n : Nat} (hreached : a.Reached e d d')
        (hback : a.GivenBack n m d') (hlength : m.adapters.length = d.adapters.length)
        (hrelease : m.script .release = d.script .release)
        (hacquire : m.script .acquire = (d.script .acquire).tail) :
        ∃ d'' n, a.Reached e d d'' ∧ (d''.adapterState a.number).Clings n := by
      have hm : ¬ m.Uninterrupted := fun hall ↦ hd fun f hf ↦ hall f (hrelease ▸ hf)
      rcases hback.clings_or hm with hclings | ⟨hfree', hd', hless⟩
      · exact ⟨d', n, hreached, hclings⟩
      · apply hshorter hreached _ hfree' hd'
        · rw [hback.script .acquire (by decide), hacquire, List.length_tail]
          rw [hrelease] at hless
          omega
        · rw [hback.length_adapters, hlength]
          exact hlt
    have hbeginning : (a.beginning d).script .acquire = (d.script .acquire).tail :=
      (script_replied (by decide)).trans script_replied_self
    rcases exists_begin hlt hfree e with ⟨f, r, hreply, hdoes⟩ | hdoes | ⟨d', r, hdoes, hback⟩
    · have hacquire : (a.unconnected d).script .acquire = (d.script .acquire).tail :=
        script_replied_self
      have hrelease : (a.unconnected d).script .release = d.script .release :=
        script_replied (by decide)
      apply hshorter (.call .begin .start hdoes)
      · exact length_unconnected.symm ▸ hlt
      · exact isFree_unconnected hlt hfree
      · exact fun hall ↦ hd fun f hf ↦ hall f (hrelease ▸ hf)
      · have hpos := List.length_pos_of_mem (mem_of_reply hreply)
        rw [hacquire, hrelease, List.length_tail]
        omega
    · have hholds := holds_beginning hlt hfree
      obtain ⟨m, d', r, hserved, hscript, hend, hback⟩ :=
        exists_end hholds (length_beginning.symm ▸ hlt) (c := .rollback) rfl e
      apply hgiven (.call .rollback (.call .begin .start hdoes) hend) hback
      · rw [hserved.adapters, length_beginning]
      · exact (hscript .release nofun nofun).trans (script_beginning .release nofun nofun)
      · exact (hscript .acquire nofun nofun).trans hbeginning
    · exact hgiven (.call .begin .start hdoes) hback length_beginning
        (script_beginning .release nofun nofun) hbeginning

/-- Between its calls an adapter is orderly, whatever the driver says to any of them, exactly if the
driver never interrupts the giving back of a connection. -/
theorem orderly_iff_uninterrupted (hfree : (d.adapterState a.number).IsFree)
    (hlt : a.number < d.adapters.length) (hd : d.Numbered) (e : ε) :
    (∀ d', a.Reached e d d' → a.Orderly e d') ↔ d.Uninterrupted := by
  constructor
  · intro h
    by_contra hinterrupted
    obtain ⟨d', n, hreached, hclings⟩ := exists_clings hlt hfree hinterrupted e
    obtain ⟨k, -, howed⟩ := (h d' hreached).active_iff.mp hclings.isActive
    cases hclings.owed.symm.trans howed
  · intro huninterrupted d' hreached
    have hsteady : a.Steady d := ⟨hlt, hd, huninterrupted, .inl hfree⟩
    exact (hsteady.of_reached hreached).orderly e

/-- A driver that cancels a commit, and that refuses to take the connection back. -/
theorem orderly_cancelledCommit :
    let cancelled : Fault := .external .cancelled none none
    let refusal : Fault := .external (.driver .connectivity "OperationalError") none none
    let d : Driver := {
      script := fun p ↦ if p = .commit then [.fail cancelled] else
        if p = .release then [.fail refusal] else []
      adapters := [{ pool := 0 }] }
    (d.adapterState 0).IsFree ∧ 0 < d.adapters.length ∧ d.Numbered ∧
      ∀ d', (⟨0⟩ : AdapterRef).Reached () d d' → (⟨0⟩ : AdapterRef).Orderly () d' := by
  intro cancelled refusal d
  have hfree : (d.adapterState 0).IsFree := ⟨rfl, rfl, rfl⟩
  have hnumbered : d.Numbered := nofun
  refine ⟨hfree, Nat.zero_lt_one, hnumbered, ?_⟩
  apply (orderly_iff_uninterrupted (a := ⟨0⟩) hfree Nat.zero_lt_one hnumbered ()).mpr
  intro f hf
  change Reply.fail f ∈ [Reply.fail refusal] at hf
  cases List.mem_singleton.mp hf
  rfl

/-- After a release that was cancelled a statement runs on the connection that was given back, and
no transaction can be begun. -/
theorem clings_cancelledRelease :
    let d : Driver := {
      script := fun p ↦ if p = .release then [.fail (.external .cancelled none none)] else []
      adapters := [{ pool := 0 }] }
    let a : AdapterRef := ⟨0⟩
    ∃ d' d'', a.Reached () d d' ∧ (d'.adapterState 0).Clings 1 ∧ .release 1 none ∈ d'.calls ∧
      (AdapterCall.executeQuery ⟨"SELECT 1", []⟩).Does a () d' d'' (.ok ()) ∧
      d''.calls = d'.calls ++ [.execute "SELECT 1" (some [])] ∧
      AdapterCall.begin.Does a () d' d' (.error .nestedTransaction) := by
  intro d a
  let d₁ := a.beginning d
  let d₂ := a.releasing 1 ((d₁.logged .commit).replied .commit)
  have hbegin : AdapterCall.begin.Does a () d d₁ (.ok ()) := rfl
  have hcommit : AdapterCall.commit.Does a () d₁ d₂ (.error (.external .cancelled none none)) := rfl
  have hreached : a.Reached () d d₂ := .call .commit (.call .begin .start hbegin) hcommit
  refine ⟨d₂, (d₂.logged (.execute "SELECT 1" (some []))).replied .execute, hreached, ?_, ?_, ?_⟩
  · exact ⟨rfl, rfl, rfl⟩
  · exact .tail _ (.tail _ (.tail _ (.head _)))
  · exact ⟨rfl, rfl, rfl⟩

end AdapterRef

end RecordStore
