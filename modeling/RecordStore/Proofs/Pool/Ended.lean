import RecordStore.Proofs.Pool.Consistency

/-!
# Handles of ended transactions

When a transaction has ended, its adapter has no connection pinned any more, and nothing marks it as
one that was made for a transaction.  So its handle goes on working like any other handle of the
pool: every statement that is run through it afterwards borrows a connection of its own and is kept
at once, outside any transaction.

* `Verb.statements?` is the SQL that a call has to run.
* `Verb.exists_through` is a call on a handle that has no connection pinned.
* `DatabaseScoping.exists_run_free` shows that a transaction leaves its handle so.
* `DatabaseScoping.late_calls` is the statement above.
-/

namespace RecordStore

variable {ε α β : Type}

/-- What a call runs, unless its SQL cannot be built. -/
def Verb.statements? : Verb → Outcome (List BoundSql)
  | fetch src q locked => (Sql.select? src q locked).map ([·])
  | any src f => (Sql.exists? src f.given?).map ([·])
  | count src f => (Sql.count? src f).map ([·])
  | insert src r => (Sql.insert? src.table r.parameters).map ([·])
  | update src f r => (Sql.update? src.table f.given? r.parameters).map ([·])
  | delete src f => (Sql.delete? src.table f.given?).map ([·])
  | execute ws => Database.buildAll? ws

/-- The call of the driver that runs a statement. -/
def BoundSql.call (q : BoundSql) : Call := .execute q.text (some q.parameters)

namespace Driver

variable {d d' d'' : Driver} {c : Call}

/-- Statements were run, this one first. -/
structure RanFirst (c : Call) (d d' : Driver) : Prop where
  ran : Ran d d'
  first : ∃ cs, d'.calls = d.calls ++ c :: cs

theorem RanFirst.trans (h : RanFirst c d d') (h' : Ran d' d'') : RanFirst c d d'' where
  ran := h.ran.trans h'
  first := by
    obtain ⟨cs, hcs⟩ := h.first
    obtain ⟨cs', hcs', -⟩ := h'.calls
    exact ⟨cs ++ cs', by rw [hcs', hcs, List.append_assoc, List.cons_append]⟩

theorem ranFirst_execute (sql : String) (ps : Option (List Datum)) :
    Follows (RanFirst (.execute sql ps)) (Driver.execute sql ps : Action (Driver × ε) Int) := by
  intro d e
  have hcall := outcome?_call .execute (.execute sql ps) d e
  have hran : RanFirst (.execute sql ps) d ((d.logged (.execute sql ps)).replied .execute) :=
    ⟨(ran_logged sql ps).trans (ran_replied (.inl rfl)), [], calls_replied⟩
  cases hreply : d.reply .execute with
  | error f =>
    rw [hreply] at hcall
    exact ⟨_, _, Action.outcome?_bind_of_error hcall _, hran⟩
  | ok reply =>
    rw [hreply] at hcall
    cases reply <;> exact ⟨_, _, Action.outcome?_bind_of_ok hcall _, hran⟩

/-- What is run after the first statement. -/
theorem Follows.after_first {x : Action (Driver × ε) α} (hx : Follows (RanFirst c) x)
    {f : α → Action (Driver × ε) β} (hf : ∀ y, Follows Ran (f y)) :
    Follows (RanFirst c) (x >>= f) := by
  intro d e
  obtain ⟨d', r, hd', hfirst⟩ := hx d e
  cases r with
  | error g => exact ⟨d', _, Action.outcome?_bind_of_error hd' f, hfirst⟩
  | ok y =>
    obtain ⟨d'', r', hd'', hran⟩ := hf y d' e
    exact ⟨d'', r', (Action.outcome?_bind_of_ok hd' f).trans hd'', hfirst.trans hran⟩

/-- A connection was asked for and, if there was one, this statement and others were run on it, in
no transaction, and it was given back. -/
structure Autocommitted (c : Call) (d d' : Driver) : Prop where
  adapters : d'.adapters = d.adapters
  calls : match d.reply .acquire with
    | .error _ => d'.calls = d.calls ++ [.acquire d.next]
    | .ok _ => ∃ cs leaving,
      d'.calls = d.calls ++ .acquire d.next :: c :: (cs ++ [.release d.next leaving]) ∧
        ∀ c' ∈ cs, c'.isExecute = true

theorem exists_autocommitted {x : Action (Driver × ε) α} (hx : Follows (RanFirst c) x) (d : Driver)
    (e : ε) : ∃ d' r, (borrowing x).outcome? (d, e) = some ((d', e), r) ∧ Autocommitted c d d' := by
  have hcalls : d.acquiring.calls = d.calls ++ [.acquire d.next] := calls_replied
  have hadapters : d.acquiring.adapters = d.adapters := adapters_replied
  cases hreply : d.reply .acquire with
  | error f =>
    refine ⟨_, _, outcome?_borrowing_of_error hreply x e, hadapters, ?_⟩
    rw [hreply]
    exact hcalls
  | ok reply =>
    obtain ⟨m, r, hm, hran, cs, hcs⟩ := hx d.acquiring e
    obtain ⟨leaving, r', hr'⟩ := exists_borrowing_of_ok hreply hm
    refine ⟨_, r', hr', (adapters_replied (d := m.logged _)).trans (hran.adapters.trans hadapters),
      ?_⟩
    obtain ⟨cs', hcs', hall⟩ := hran.calls
    obtain rfl : cs' = c :: cs := List.append_cancel_left (hcs'.symm.trans hcs)
    rw [hreply]
    refine ⟨cs, leaving, ?_, fun c' hc' ↦ hall c' (List.mem_cons_of_mem _ hc')⟩
    have hlogged : ((m.logged (.release d.next leaving)).replied .release).calls =
        m.calls ++ [.release d.next leaving] := calls_replied
    rw [hlogged, hcs, hcalls]
    simp

end Driver

/-! ## Calls on a handle without a connection -/

open Driver

/-- The action runs this statement first, on a connection of its own. -/
def AdapterRef.Autocommits (a : AdapterRef) (c : Call) (x : Action (Driver × ε) α) : Prop :=
  ∀ (d : Driver) (e : ε), (d.adapterState a.number).pinned = none →
    ∃ d' r, x.outcome? (d, e) = some ((d', e), r) ∧ Autocommitted c d d'

namespace AdapterRef

variable {a b : AdapterRef} {c : Call} {d : Driver} {e : ε}

/-- Without a pinned connection one is borrowed. -/
theorem outcome?_connected (h : (d.adapterState a.number).pinned = none)
    (x : Action (Driver × ε) α) (e : ε) :
    (a.connected x).outcome? (d, e) = (borrowing x).outcome? (d, e) := by
  change (if (d.adapterState a.number).pinned.isSome then x else borrowing x).outcome? (d, e) = _
  rw [h]
  rfl

/-- What is made of an answer calls the driver no more. -/
theorem Autocommits.andThen {x : Action (Driver × ε) α} (hx : a.Autocommits c x)
    {k : Outcome α → Action (Driver × ε) β} (hk : ∀ r, ∃ r', k r = .done r') :
    a.Autocommits c (x.andThen k) := by
  intro d e hpinned
  obtain ⟨d', r, hd', hcommitted⟩ := hx d e hpinned
  obtain ⟨r', hr'⟩ := hk r
  refine ⟨d', r', (Action.outcome?_andThen_of hd' k).trans ?_, hcommitted⟩
  rw [hr']
  rfl

theorem Autocommits.bind {x : Action (Driver × ε) α} (hx : a.Autocommits c x)
    {f : α → Action (Driver × ε) β} (hf : ∀ y, ∃ r, f y = .done r) :
    a.Autocommits c (x >>= f) := by
  refine hx.andThen fun r ↦ ?_
  cases r with
  | ok y => exact hf y
  | error g => exact ⟨_, rfl⟩

theorem autocommits_inOwnTerms {x : Action (Driver × ε) α} (operation : String)
    (hx : Follows (RanFirst c) x) : a.Autocommits c (inOwnTerms operation (a.connected x)) := by
  have hconnected : a.Autocommits c (a.connected x) := by
    intro d e hpinned
    obtain ⟨d', r, hd', hcommitted⟩ := exists_autocommitted hx d e
    exact ⟨d', r, (outcome?_connected hpinned x e).trans hd', hcommitted⟩
  refine hconnected.andThen fun r ↦ ?_
  cases r with
  | ok y => exact ⟨_, rfl⟩
  | error f => exact ⟨_, rfl⟩

theorem autocommits_executeQuery (q : BoundSql) :
    a.Autocommits q.call (a.executeQuery q : Action (Driver × ε) Int) :=
  autocommits_inOwnTerms _ (ranFirst_execute _ _)

theorem autocommits_fetchOne (q : BoundSql) :
    a.Autocommits q.call (a.fetchOne q : Action (Driver × ε) (Option Row)) :=
  autocommits_inOwnTerms _ ((ranFirst_execute _ _).after_first fun _ ↦ follows_fetchOne)

theorem autocommits_fetchAll (q : BoundSql) :
    a.Autocommits q.call (a.fetchAll q : Action (Driver × ε) (List Row)) :=
  autocommits_inOwnTerms _ ((ranFirst_execute _ _).after_first fun _ ↦ follows_fetchAll)

theorem autocommits_executeMany (q : BoundSql) (qs : List BoundSql) :
    a.Autocommits q.call (a.executeMany (q :: qs) : Action (Driver × ε) Unit) :=
  autocommits_inOwnTerms _ ((ranFirst_execute _ _).after_first fun _ ↦ follows_runAll _)

end AdapterRef

namespace Verb

variable {a b : AdapterRef} {v : Verb} {d : Driver} {q? : Outcome BoundSql}

/-- What a call does on a handle that has no connection pinned.  Without SQL the driver is not
called; what there is to run is run outside any transaction. -/
def RunsAlone (v : Verb) (d d' : Driver) (r : Outcome Verb.Reply) : Prop :=
  match v.statements? with
  | .error f => d' = d ∧ r = .error f
  | .ok [] => d' = d ∧ r = .ok .nothing
  | .ok (q :: _) => Autocommitted q.call d d'

theorem RunsAlone.adapters {d' : Driver} {r : Outcome Verb.Reply} (h : v.RunsAlone d d' r) :
    d'.adapters = d.adapters := by
  unfold RunsAlone at h
  split at h
  · rw [h.1]
  · rw [h.1]
  · exact h.adapters

/-- The driver is called exactly if there is something to run. -/
theorem RunsAlone.calls_eq_iff {d' : Driver} {r : Outcome Verb.Reply} (h : v.RunsAlone d d' r) :
    d'.calls = d.calls ↔ ∀ q qs, v.statements? ≠ .ok (q :: qs) := by
  unfold RunsAlone at h
  split at h
  · rename_i hstatements
    rw [h.1, hstatements]
    simp
  · rename_i hstatements
    rw [h.1, hstatements]
    simp
  · rename_i q qs hstatements
    refine iff_of_false (fun hcalls ↦ ?_) fun hnone ↦ hnone q qs hstatements
    have hcommitted := h.calls
    split at hcommitted
    · simp [hcommitted] at hcalls
    · obtain ⟨cs, leaving, hcommitted, -⟩ := hcommitted
      simp [hcommitted] at hcalls

/-- A call that runs at most one statement. -/
theorem exists_through_of_one {x : BoundSql → Action (Driver × ε) Verb.Reply}
    (hthrough : v.through a = ((liftM q? : Action (Driver × ε) BoundSql) >>= x))
    (hstatements : v.statements? = q?.map ([·])) (hx : ∀ q, a.Autocommits q.call (x q))
    (h : (d.adapterState a.number).pinned = none) (e : ε) :
    ∃ d' r, (v.through a).outcome? (d, e) = some ((d', e), r) ∧ v.RunsAlone d d' r := by
  unfold RunsAlone
  rw [hthrough, hstatements]
  cases q? with
  | error f => exact ⟨d, .error f, rfl, rfl, rfl⟩
  | ok q => exact hx q d e h

/-- What is worked out after the SQL may be worked out with it. -/
theorem built_bind {γ : Type} (x : BoundSql → Action (Driver × ε) α)
    (f : α → Action (Driver × ε) γ) :
    ((liftM q? : Action (Driver × ε) BoundSql) >>= x) >>= f = liftM q? >>= fun q ↦ x q >>= f := by
  cases q? <;> rfl

theorem exists_through_run {q? : Outcome BoundSql} (hthrough : v.through a = (do
    Database.run a q?
    return .nothing : Action (Driver × ε) Verb.Reply)) (hstatements : v.statements? = q?.map ([·]))
    (h : (d.adapterState a.number).pinned = none) (e : ε) :
    ∃ d' r, (v.through a).outcome? (d, e) = some ((d', e), r) ∧ v.RunsAlone d d' r :=
  exists_through_of_one (hthrough.trans (built_bind _ _)) hstatements
    (fun q ↦ ((a.autocommits_executeQuery q).bind fun _ ↦ ⟨_, rfl⟩).bind fun _ ↦ ⟨_, rfl⟩) h e

/-- A call on a handle that has no connection pinned is done at once. -/
theorem exists_through (v : Verb) (h : (d.adapterState a.number).pinned = none) (e : ε) :
    ∃ d' r, (v.through a).outcome? (d, e) = some ((d', e), r) ∧ v.RunsAlone d d' r := by
  cases v with
  | fetch src q locked =>
    refine exists_through_of_one (built_bind _ _) rfl (fun q ↦ ?_) h e
    exact ((a.autocommits_fetchAll q).bind fun _ ↦ ⟨_, rfl⟩).bind fun _ ↦ ⟨_, rfl⟩
  | any src f =>
    refine exists_through_of_one (built_bind _ _) rfl (fun q ↦ ?_) h e
    refine ((a.autocommits_fetchOne q).bind fun row ↦ ?_).bind fun _ ↦ ⟨_, rfl⟩
    split
    · exact ⟨_, rfl⟩
    · exact ⟨_, rfl⟩
    · rename_i row _
      cases Database.column? row "exists" <;> exact ⟨_, rfl⟩
  | count src f =>
    refine exists_through_of_one (built_bind _ _) rfl (fun q ↦ ?_) h e
    refine ((a.autocommits_fetchOne q).bind fun row ↦ ?_).bind fun _ ↦ ⟨_, rfl⟩
    split
    · exact ⟨_, rfl⟩
    · exact ⟨_, rfl⟩
    · rename_i row _
      cases Database.column? row "count" <;> exact ⟨_, rfl⟩
  | insert src r => exact exists_through_run rfl rfl h e
  | update src f r => exact exists_through_run rfl rfl h e
  | delete src f => exact exists_through_run rfl rfl h e
  | execute ws =>
    unfold RunsAlone
    rw [statements?]
    cases ws with
    | nil => exact ⟨d, _, rfl, rfl, rfl⟩
    | cons w ws =>
      cases hbuilt : Database.buildAll? (w :: ws) with
      | error f =>
        refine ⟨d, .error f, ?_, rfl, rfl⟩
        change (((liftM (Database.buildAll? (w :: ws)) : Action (Driver × ε) _) >>= _) >>=
          _).outcome? (d, e) = _
        rw [hbuilt]
        rfl
      | ok qs =>
        obtain ⟨q, qs, rfl⟩ : ∃ q qs', qs = q :: qs' := by
          cases Outcome.mapM_eq_ok.mp hbuilt with
          | cons _ _ => exact ⟨_, _, rfl⟩
        obtain ⟨d', r, hd', hcommitted⟩ := ((a.autocommits_executeMany q qs).bind
          fun _ ↦ ⟨.ok Verb.Reply.nothing, rfl⟩) d e h
        refine ⟨d', r, ?_, hcommitted⟩
        refine Eq.trans ?_ hd'
        change (((liftM (Database.buildAll? (w :: ws)) : Action (Driver × ε) _) >>= _) >>=
          _).outcome? (d, e) = _
        rw [hbuilt]
        rfl

theorem built_congr {s : Driver × ε} {x y : BoundSql → Action (Driver × ε) α}
    (h : ∀ q, (x q).outcome? s = (y q).outcome? s) :
    ((liftM q? : Action (Driver × ε) BoundSql) >>= x).outcome? s =
      ((liftM q? : Action (Driver × ε) BoundSql) >>= y).outcome? s := by
  cases q? with
  | error f => rfl
  | ok q => exact h q

/-- A call does the same on every handle that has no connection pinned. -/
theorem through_congr (v : Verb) (ha : (d.adapterState a.number).pinned = none)
    (hb : (d.adapterState b.number).pinned = none) (e : ε) :
    (v.through a).outcome? (d, e) = (v.through b).outcome? (d, e) := by
  have hasked {γ : Type} (operation : String) (x : Action (Driver × ε) γ) :
      (AdapterRef.inOwnTerms operation (a.connected x)).outcome? (d, e) =
        (AdapterRef.inOwnTerms operation (b.connected x)).outcome? (d, e) := by
    refine Action.outcome?_andThen_congr ?_ _
    rw [AdapterRef.outcome?_connected ha, AdapterRef.outcome?_connected hb]
  have hran (q? : Outcome BoundSql) : (Database.run a q? : Action (Driver × ε) Unit).outcome?
      (d, e) = (Database.run b q?).outcome? (d, e) :=
    built_congr fun q ↦ Action.outcome?_bind_congr (hasked _ _) _
  cases v with
  | fetch src q locked =>
    exact Action.outcome?_bind_congr (built_congr fun q ↦
      Action.outcome?_bind_congr (hasked _ _) _) _
  | any src f =>
    exact Action.outcome?_bind_congr (built_congr fun q ↦
      Action.outcome?_bind_congr (hasked _ _) _) _
  | count src f =>
    exact Action.outcome?_bind_congr (built_congr fun q ↦
      Action.outcome?_bind_congr (hasked _ _) _) _
  | insert src r => exact Action.outcome?_bind_congr (hran _) _
  | update src f r => exact Action.outcome?_bind_congr (hran _) _
  | delete src f => exact Action.outcome?_bind_congr (hran _) _
  | execute ws =>
    refine Action.outcome?_bind_congr ?_ _
    change (Database.execute a ws).outcome? (d, e) = (Database.execute b ws).outcome? (d, e)
    unfold Database.execute
    split
    · rfl
    · cases Database.buildAll? ws with
      | error f => rfl
      | ok qs => exact hasked _ _

end Verb

/-- Work on a handle that has no connection pinned leaves all adapters as they are. -/
theorem Work.exists_act (work : Work α) {a : AdapterRef} {d : Driver}
    (h : (d.adapterState a.number).pinned = none) (e : ε) :
    ∃ d' r, (work.act a : Action (Driver × ε) α).outcome? (d, e) = some ((d', e), r) ∧
      d'.adapters = d.adapters := by
  induction work generalizing d with
  | done r => exact ⟨d, r, rfl, rfl⟩
  | call v next ih =>
    obtain ⟨d', r, hd', halone⟩ := v.exists_through h e
    have hpinned : (d'.adapterState a.number).pinned = none := by
      rw [adapterState, halone.adapters]
      exact h
    obtain ⟨d'', r', hd'', hadapters⟩ := ih r hpinned
    exact ⟨d'', r', (Action.outcome?_andThen_of hd' _).trans hd'',
      hadapters.trans halone.adapters⟩

/-! ## What a transaction leaves -/

namespace DatabaseScoping

open AdapterRef

variable {form : DatabaseScoping} {d : Driver} {inner : AdapterRef} {n : Nat}

/-- What is left away while a fault is on its way. -/
theorem exists_quietly {x : Action (Driver × ε) Unit} {e : ε} {d' : Driver} {r : Outcome Unit}
    (h : x.outcome? (d, e) = some ((d', e), r)) :
    ∃ r', (UnitOfWork.quietly x).outcome? (d, e) = some ((d', e), r') := by
  cases r with
  | ok _ => exact ⟨.ok (), Action.outcome?_andThen_of h _⟩
  | error f =>
    refine ⟨if f.isOrdinary then .ok () else .error f, (Action.outcome?_andThen_of h _).trans ?_⟩
    dsimp only
    split <;> rfl

/-- A transaction that has ended leaves its handle without a connection, whatever was said to its
commit or rollback, unless the giving back of the connection is interrupted. -/
theorem exists_conclude_free (hholds : (d.adapterState inner.number).Holds n)
    (hlt : inner.number < d.adapters.length) (hd : d.Uninterrupted) (form : DatabaseScoping)
    (r : Outcome α) (e : ε) :
    ∃ d' r', (form.conclude inner r).outcome? (d, e) = some ((d', e), r') ∧
      (d'.adapterState inner.number).IsFree := by
  have hend (c : AdapterCall) (hc : c.ends = true) :
      ∃ d' r', c.Does inner e d d' r' ∧ (d'.adapterState inner.number).IsFree := by
    obtain ⟨m, d', r', hserved, -, hdoes, hback⟩ := exists_end hholds hlt hc e
    refine ⟨d', r', hdoes, ?_⟩
    rcases hback.state with ⟨hfree, -⟩ | ⟨-, f, hf, hfault⟩
    · exact hfree
    · cases hfault.symm.trans (hd f (hserved.subset .release (mem_of_reply hf)))
  obtain ⟨dc, rc, hcommit, hcfree⟩ := hend .commit rfl
  obtain ⟨dr, rr, hrollback, hrfree⟩ := hend .rollback rfl
  have hcommit : inner.commit.outcome? (d, e) = some ((dc, e), rc) := hcommit
  have hrollback : inner.rollback.outcome? (d, e) = some ((dr, e), rr) := hrollback
  cases form with
  | transaction a =>
    cases r with
    | ok x =>
      cases rc with
      | ok _ => exact ⟨dc, _, Action.outcome?_bind_of_ok hcommit _, hcfree⟩
      | error f => exact ⟨dc, _, Action.outcome?_bind_of_error hcommit _, hcfree⟩
    | error f =>
      obtain ⟨rq, hquiet⟩ := exists_quietly hrollback
      cases rq with
      | ok _ => exact ⟨dr, _, Action.outcome?_bind_of_ok hquiet _, hrfree⟩
      | error g => exact ⟨dr, _, Action.outcome?_bind_of_error hquiet _, hrfree⟩
  | unitOfWork u =>
    have hactive : (UnitOfWork.isActive ⟨u.database, some inner⟩ :
        Action (Driver × ε) Bool).outcome? (d, e) = some ((d, e), .ok true) := by
      rw [outcome?_isActive, hholds.isActive]
    cases r with
    | ok x =>
      have hunit : (UnitOfWork.commit ⟨u.database, some inner⟩ :
          Action (Driver × ε) Unit).outcome? (d, e) = some ((dc, e), rc) := by
        rw [UnitOfWork.commit, Action.outcome?_bind_of_ok hactive]
        exact hcommit
      cases rc with
      | ok _ => exact ⟨dc, _, Action.outcome?_andThen_of hunit _, hcfree⟩
      | error f =>
        -- nothing is left to roll back
        have hnothing : (UnitOfWork.rollback ⟨u.database, some inner⟩ :
            Action (Driver × ε) Unit).outcome? (dc, e) = some ((dc, e), .ok ()) := by
          rw [UnitOfWork.rollback, Action.outcome?_bind_of_ok (outcome?_isActive u.database e),
            hcfree.isActive]
          rfl
        have hquiet : (UnitOfWork.quietly (UnitOfWork.rollback ⟨u.database, some inner⟩) :
            Action (Driver × ε) Unit).outcome? (dc, e) = some ((dc, e), .ok ()) :=
          Action.outcome?_andThen_of hnothing _
        refine ⟨dc, .error f, (Action.outcome?_andThen_of hunit _).trans ?_, hcfree⟩
        dsimp only
        split
        · exact Action.outcome?_bind_of_ok hquiet _
        · rfl
    | error f =>
      have hunit : (UnitOfWork.rollback ⟨u.database, some inner⟩ :
          Action (Driver × ε) Unit).outcome? (d, e) = some ((dr, e), rr) := by
        rw [UnitOfWork.rollback, Action.outcome?_bind_of_ok hactive]
        exact hrollback
      obtain ⟨rq, hquiet⟩ := exists_quietly hunit
      cases rq with
      | ok _ => exact ⟨dr, _, Action.outcome?_bind_of_ok hquiet _, hrfree⟩
      | error g => exact ⟨dr, _, Action.outcome?_bind_of_error hquiet _, hrfree⟩

/-- Work that was given a transaction of its own leaves the handle of that without a connection. -/
theorem exists_run_free (hready : form.Ready d) (hd : d.Uninterrupted) {reply reply' : Reply}
    (hacquire : d.reply .acquire = .ok reply) (hbegin : d.reply .begin = .ok reply')
    (work : Work α) (e : ε) :
    ∃ d' r, (form.run work.act).outcome? (d, e) = some ((d', e), r) ∧
      (d'.adapterState (ownAdapter d).number).IsFree := by
  have hfresh := fresh_ownAdapter form d
  rw [← reply_provided form] at hacquire hbegin
  have hopened : (Database.openScope form.handle).outcome? (d, e) =
      some ((form.begun d, e), .ok (ownAdapter d)) := (outcome?_openScope hready e).trans
    (Action.outcome?_bind_of_ok (outcome?_begin hfresh hacquire e hbegin) _)
  have hadapter : (form.begun d).adapterState (ownAdapter d).number = _ :=
    adapterState_beginning hfresh
  obtain ⟨after, body, hbody, hran⟩ :=
    work.confined_act (a := ownAdapter d) (form.begun d) e (by rw [hadapter]; rfl)
  -- the work leaves the adapter as it was
  have hafter : after.adapterState (ownAdapter d).number = _ :=
    (congrArg (fun as ↦ as[(ownAdapter d).number]?.getD default) hran.adapters).trans hadapter
  have hholds : (after.adapterState (ownAdapter d).number).Holds (form.provided d).next := by
    rw [hafter]
    exact ⟨rfl, rfl, rfl⟩
  have hlt : (ownAdapter d).number < after.adapters.length := by
    rw [hran.adapters]
    exact length_beginning.symm ▸ hfresh.lt_length
  have huninterrupted : after.Uninterrupted := fun f hf ↦
    hd f (script_beginning_subset (d := form.provided d) .release (hran.subset .release hf))
  obtain ⟨d', r, hconclude, hfree⟩ := exists_conclude_free hholds hlt huninterrupted form body e
  have hrun : (form.run work.act).outcome? (d, e) = _ :=
    outcome?_run_ok hready hopened (by rw [hadapter]; rfl)
  exact ⟨d', r, hrun.trans ((Action.outcome?_andThen_of hbody _).trans hconclude), hfree⟩

/-- However work was given a transaction of its own that has ended, and whatever was done with its
handle since: a further call on the handle runs what there is to run on a connection of its own,
outside any transaction, as it does on every other handle that is in none.  So the driver is not
called exactly if the SQL of the call cannot be built or there is none. -/
theorem late_calls (form : DatabaseScoping) (work : Work α) (late : Work β)
    (hready : form.Ready d) (hd : d.Uninterrupted) {reply reply' : Reply}
    (hacquire : d.reply .acquire = .ok reply) (hbegin : d.reply .begin = .ok reply') (e : ε) :
    ∃ d₁ r₁ d₂ r₂, (form.run work.act).outcome? (d, e) = some ((d₁, e), r₁) ∧
      (late.act (ownAdapter d)).outcome? (d₁, e) = some ((d₂, e), r₂) ∧
      (d₂.adapterState (ownAdapter d).number).IsFree ∧
      ∀ v : Verb,
        (∃ d₃ r₃, (v.through (ownAdapter d)).outcome? (d₂, e) = some ((d₃, e), r₃) ∧
          v.RunsAlone d₂ d₃ r₃ ∧
          (d₃.calls = d₂.calls ↔ ∀ q qs, v.statements? ≠ .ok (q :: qs))) ∧
        ∀ b : AdapterRef, (d₂.adapterState b.number).pinned = none →
          (v.through (ownAdapter d)).outcome? (d₂, e) = (v.through b).outcome? (d₂, e) := by
  obtain ⟨d₁, r₁, hrun, hfree⟩ := exists_run_free hready hd hacquire hbegin work e
  obtain ⟨d₂, r₂, hlate, hadapters⟩ := late.exists_act hfree.pinned e
  have hfree₂ : (d₂.adapterState (ownAdapter d).number).IsFree := by
    rw [adapterState, hadapters]
    exact hfree
  refine ⟨d₁, r₁, d₂, r₂, hrun, hlate, hfree₂, fun v ↦ ⟨?_, fun b hb ↦ ?_⟩⟩
  · obtain ⟨d₃, r₃, hcall, halone⟩ := v.exists_through hfree₂.pinned e
    exact ⟨d₃, r₃, hcall, halone, halone.calls_eq_iff⟩
  · exact v.through_congr hfree₂.pinned hb e

/-- Adds a user. -/
def addUser : Verb :=
  .insert ⟨"users", [("id", .integer)], [], none⟩ ⟨[("id", ⟨.integer, .integer 7⟩)], []⟩

/-- The handle of a unit of work that has failed calls the driver again, as the one of the pool
does. -/
theorem late_calls_addUser :
    let d : Driver := { adapters := [{ pool := 0 }] }
    let form : DatabaseScoping := .unitOfWork { database := ⟨0⟩ }
    ∃ d₁ d₂ r₂, (form.run (Work.done (α := Unit) (.error .cancelled)).act).outcome? (d, ()) =
        some ((d₁, ()), .error .cancelled) ∧
      (addUser.through (⟨1⟩ : AdapterRef)).outcome? (d₁, ()) = some ((d₂, ()), r₂) ∧
      d₂.calls ≠ d₁.calls ∧
      (addUser.through (⟨1⟩ : AdapterRef)).outcome? (d₁, ()) =
        (addUser.through (⟨0⟩ : AdapterRef)).outcome? (d₁, ()) := by
  intro d form
  have hready : form.Ready d := ⟨rfl, nofun⟩
  have hacquire : d.reply .acquire = .ok .success := rfl
  have hbegin : d.reply .begin = .ok .success := rfl
  obtain ⟨d₁, r₁, d₂, r₂, hrun, hlate, -, hverbs⟩ :=
    late_calls form (.done (α := Unit) (.error .cancelled)) (.done (.ok ())) hready nofun hacquire
      hbegin ()
  have hrun' : (form.run (Work.done (α := Unit) (.error .cancelled)).act).outcome? (d, ()) =
      some ((_, ()), .error .cancelled) := rfl
  obtain ⟨rfl, rfl⟩ : d₁ = d₂ ∧ .ok () = r₂ := by simpa using Option.some.inj hlate
  rw [hrun'] at hrun
  cases hrun
  obtain ⟨⟨d₃, r₃, hcall, -, hcalls⟩, hsame⟩ := hverbs addUser
  exact ⟨_, d₃, r₃, hrun', hcall, fun heq ↦ hcalls.mp heq _ _ rfl, hsame ⟨0⟩ rfl⟩

/-- Through the handle of a transaction that was committed a user is added on another connection,
outside any transaction, and nothing fails. -/
theorem addUser_after_commit :
    let d : Driver := { adapters := [{ pool := 0 }] }
    ∃ d₁ d₂, ((DatabaseScoping.transaction ⟨0⟩).run (Work.done (.ok ())).act).outcome? (d, ()) =
        some ((d₁, ()), .ok ()) ∧
      d₁.calls = [.acquire 1, .begin, .commit, .release 1 none] ∧
      (addUser.through (⟨1⟩ : AdapterRef)).outcome? (d₁, ()) = some ((d₂, ()), .ok .nothing) ∧
      d₂.calls = d₁.calls ++ [.acquire 2,
        .execute "INSERT INTO \"users\" (\"id\") VALUES (%s)" (some [.integer 7]),
        .release 2 none] := by
  intro d
  exact ⟨_, _, rfl, rfl, rfl, rfl⟩

end DatabaseScoping

end RecordStore
