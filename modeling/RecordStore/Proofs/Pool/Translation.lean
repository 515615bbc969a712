import RecordStore.Proofs.Pool.Steps

/-!
# Faults of the driver, told once

Whatever a call on an adapter asks of the driver, and whichever of these requests is refused: the
caller is told of it in the library's own terms, with what the driver has reported as the cause, and
of everything that is no report of the driver as it is.  Nothing is asked for twice, and a
connection that the call has borrowed is given back.

* `Fault.ToldAs` is how a fault is told.
* `AdapterCall.plan` is what a call asks of a driver that refuses nothing.
* `AdapterCall.Performed` is what a call has asked for, on any driver, and what it comes to;
  `AdapterCall.exists_performed` shows this of every call.
* `AdapterCall.told_once` is the statement above.
-/

namespace RecordStore

variable {ε α : Type}

/-- How a fault that strikes in an operation is told to its caller: broken constraints by the name
that the server reports, trouble with the connection and time-outs, everything else that the driver
reports, and faults that the driver has not reported. -/
def Fault.ToldAs (operation : String) (f g : Fault) : Prop :=
  match f with
  | external (.driver .integrity _) _ reported =>
    g = constraint (constraintName reported) f.message (some f)
  | external (.driver .connectivity _) _ _ | external .timeout _ _ =>
    g = connectivity (operation ++ " failed: " ++ f.message) (some f)
  | external (.driver .other _) _ _ => g = backend (operation ++ " failed: " ++ f.message) (some f)
  | _ => g = f

theorem Fault.toldAs_ofDriver (operation : String) (f : Fault) :
    f.ToldAs operation (f.ofDriver operation) := by
  cases f with
  | external cls message reported =>
    cases cls with
    | driver group name => cases group <;> rfl
    | _ => rfl
  | _ => rfl

open Driver

/-! ## What calls ask for -/

/-- What an adapter asks for to give back what it owes. -/
def Adapter.dues (s : Adapter) : List Driver.Request :=
  s.owed.toList.map fun n ↦ .release n none

namespace AdapterCall

/-- The operation in whose name faults are told. -/
def operation : AdapterCall → String
  | begin => "begin_transaction"
  | commit => "commit_transaction"
  | rollback => "rollback_transaction"
  | executeQuery _ => "execute_query"
  | fetchOne _ => "fetch_one"
  | fetchAll _ => "fetch_all"
  | runMany _ => "execute_many"
  | healthCheck => "health_check"

/-- What a query asks for on its connection. -/
def statements : AdapterCall → List Driver.Request
  | executeQuery q => [q.request]
  | fetchOne q => [q.request, ⟨.fetchOne, none⟩]
  | fetchAll q => [q.request, ⟨.fetchAll, none⟩]
  | runMany qs => AdapterRef.requests qs
  | _ => []

/-- What a query fails with though nothing is refused to it. -/
def unusable? : AdapterCall → Option Fault
  | runMany qs => AdapterRef.unusable? qs
  | _ => none

/-- What a call asks for up to the first refusal; `n` is the connection that is borrowed next. -/
def asks (s : Adapter) (n : Nat) : AdapterCall → List Driver.Request
  | begin => if s.isActive then [] else [.acquire n, ⟨.begin, some .begin⟩]
  | commit => if s.isActive then [⟨.commit, some .commit⟩] else []
  | rollback => if s.isActive then [⟨.rollback, some .rollback⟩] else []
  | c => if s.pinned.isSome then c.statements else .acquire n :: c.statements

/-- What a call asks for last of all. -/
def returns (s : Adapter) (n : Nat) : AdapterCall → List Driver.Request
  | begin => []
  | commit | rollback => if s.isActive then s.dues else []
  | c => if s.pinned.isSome then [] else [.release n c.unusable?]

/-- What a call asks of a driver that refuses nothing. -/
def plan (s : Adapter) (n : Nat) (c : AdapterCall) : List Driver.Request :=
  c.asks s n ++ c.returns s n

/-- What a call has asked for: what it was to ask for, up to the first refusal, and after that at
most one return of a connection.  A refusal is told to the caller; what it is told of a refused
return depends on whether the connection was pinned. -/
structure Performed (c : AdapterCall) (s : Adapter) (n : Nat) (r : Outcome Unit)
    (body after : List Step) (fault : Option Fault) : Prop where
  carries : Carries (c.asks s n) body fault
  returns : fault = none → after.map (·.request) = c.returns s n
  alone : after = [] ∨ ∃ k leaving reply, after = [⟨.release k leaving, reply⟩]
  told : ∀ f, fault = some f → (∀ t ∈ after, t.fault? = none) → r = .error (f.ofDriver c.operation)
  told_return : c.isQuery = true → ∀ t ∈ after, ∀ f, t.fault? = some f →
    r = .error (f.ofDriver c.operation)
  returned : fault.isSome ∨ c.isQuery = true → ∀ k reply, ⟨.acquire k, .ok reply⟩ ∈ body →
    ∃ leaving reply', ⟨.release k leaving, reply'⟩ ∈ after

end AdapterCall

/-! ## Queries -/

namespace AdapterRef

theorem point_of_mem_requests {qs : List (String × Datum)} {q : Driver.Request}
    (h : q ∈ requests qs) : q.point = .execute := by
  induction qs with
  | nil => cases h
  | cons p rest ih =>
    obtain ⟨sql, ps⟩ := p
    unfold requests at h
    cases hps : parameters? ps with
    | error f =>
      rw [hps] at h
      cases h
    | ok ps' =>
      rw [hps] at h
      rcases List.mem_cons.mp h with rfl | h
      · rfl
      · exact ih h

end AdapterRef

namespace AdapterCall

variable {c : AdapterCall} {a : AdapterRef} {d : Driver}

/-- On its connection a query does not ask for another one. -/
theorem point_of_mem_statements {q : Driver.Request} (h : q ∈ c.statements) :
    q.point ≠ .acquire := by
  cases c with
  | executeQuery p =>
    rw [List.mem_singleton.mp h]
    nofun
  | fetchOne p =>
    rcases List.mem_pair.mp h with rfl | rfl <;> nofun
  | fetchAll p =>
    rcases List.mem_pair.mp h with rfl | rfl <;> nofun
  | runMany qs =>
    rw [AdapterRef.point_of_mem_requests h]
    nofun
  | _ => cases h

/-- A query runs its statements on the connection of the adapter. -/
theorem exists_query (hc : c.isQuery = true) (hhealth : c ≠ .healthCheck) (a : AdapterRef)
    (d : Driver) (e : ε) :
    ∃ d' r steps fault, c.Does a e d d' r ∧ d.Takes steps d' ∧
      Connected (d.adapterState a.number).pinned d.next c.statements c.unusable? steps fault ∧
      Outcome.fault? r = fault.map (Fault.ofDriver c.operation) := by
  -- the answer of a query is left away
  have hdiscarded {β : Type} {x : Action (Driver × ε) β} {plan : List Driver.Request}
      (hx : Straight plan none x) (operation : String) :
      ∃ d' r steps fault, (do let _ ← AdapterRef.inOwnTerms operation (a.connected x) :
          Action (Driver × ε) Unit).outcome? (d, e) = some ((d', e), r) ∧ d.Takes steps d' ∧
        Connected (d.adapterState a.number).pinned d.next plan none steps fault ∧
        Outcome.fault? r = fault.map (Fault.ofDriver operation) := by
    obtain ⟨d', r, steps, fault, hd', htakes, hconnected, hr⟩ :=
      AdapterRef.exists_inOwnTerms hx operation a d e
    cases r with
    | ok y =>
      have hbind := Action.outcome?_bind_of_ok hd' fun _ ↦ (pure () : Action (Driver × ε) Unit)
      exact ⟨d', .ok (), steps, fault, hbind, htakes, hconnected, hr⟩
    | error f =>
      have hbind := Action.outcome?_bind_of_error hd' fun _ ↦ (pure () : Action (Driver × ε) Unit)
      exact ⟨d', .error f, steps, fault, hbind, htakes, hconnected, hr⟩
  cases c with
  | begin => cases hc
  | commit => cases hc
  | rollback => cases hc
  | healthCheck => exact absurd rfl hhealth
  | executeQuery q => exact hdiscarded (straight_execute _ _) _
  | fetchOne q => exact hdiscarded ((straight_execute _ _).bind fun _ ↦ straight_fetchOne) _
  | fetchAll q => exact hdiscarded ((straight_execute _ _).bind fun _ ↦ straight_fetchAll) _
  | runMany qs => exact AdapterRef.exists_inOwnTerms (AdapterRef.straight_runAll qs) _ a d e

/-- On its connection a query borrows no other one. -/
theorem not_mem_of_carries {body : List Step} {fault : Option Fault}
    (h : Carries c.statements body fault) (k : Nat) (reply : Outcome Reply) :
    ⟨.acquire k, reply⟩ ∉ body := by
  intro hmem
  have hrequest : Request.acquire k ∈ body.map (·.request) := List.mem_map.mpr ⟨_, hmem, rfl⟩
  rw [h.map_request] at hrequest
  exact point_of_mem_statements (List.mem_of_mem_take hrequest) rfl

theorem asks_of_isQuery (hc : c.isQuery = true) (s : Adapter) (n : Nat) :
    c.asks s n = if s.pinned.isSome then c.statements else .acquire n :: c.statements := by
  cases c with
  | begin => cases hc
  | commit => cases hc
  | rollback => cases hc
  | _ => rfl

theorem returns_of_isQuery (hc : c.isQuery = true) (s : Adapter) (n : Nat) :
    c.returns s n = if s.pinned.isSome then [] else [.release n c.unusable?] := by
  cases c with
  | begin => cases hc
  | commit => cases hc
  | rollback => cases hc
  | _ => rfl

theorem exists_performed_query (hc : c.isQuery = true) (hhealth : c ≠ .healthCheck)
    (a : AdapterRef) (d : Driver) (e : ε) :
    ∃ d' r body after fault, c.Does a e d d' r ∧ d.Takes (body ++ after) d' ∧
      c.Performed (d.adapterState a.number) d.next r body after fault := by
  obtain ⟨d', r, steps, fault, hdoes, htakes, hconnected, hr⟩ := exists_query hc hhealth a d e
  have htold {f : Fault} (hf : fault = some f) : r = .error (f.ofDriver c.operation) := by
    subst hf
    cases r with
    | ok _ => cases hr
    | error g => exact congrArg Except.error (Option.some.inj hr)
  cases hconnected with
  | @pinned body fault k hpinned hcarries =>
    refine ⟨d', r, steps, [], fault, hdoes, by rwa [List.append_nil], ?_⟩
    exact
      { carries := by
          rw [asks_of_isQuery hc, hpinned]
          exact hcarries
        returns := fun _ ↦ by
          rw [returns_of_isQuery hc, hpinned]
          rfl
        alone := .inl rfl
        told := fun f hf _ ↦ htold (by rw [hf]; rfl)
        told_return := fun _ _ ht ↦ nomatch ht
        returned := fun _ k reply hmem ↦ absurd hmem (not_mem_of_carries hcarries k _) }
  | refused hpinned f =>
    refine ⟨d', r, [⟨.acquire d.next, .error f⟩], [], some f, hdoes, htakes, ?_⟩
    exact
      { carries := by
          rw [asks_of_isQuery hc, hpinned]
          exact .refused _ _ f
        returns := nofun
        alone := .inl rfl
        told := fun g hg _ ↦ htold hg
        told_return := fun _ _ ht ↦ nomatch ht
        returned := by
          intro _ k reply hmem
          cases List.mem_singleton.mp hmem }
  | @borrowed body fault hpinned reply hcarries returned =>
    refine ⟨d', r, ⟨.acquire d.next, .ok reply⟩ :: body,
      [⟨.release d.next (fault.or c.unusable?), returned⟩], fault, hdoes, htakes, ?_⟩
    exact
      { carries := by
          rw [asks_of_isQuery hc, hpinned]
          exact .granted _ reply hcarries
        returns := fun hnone ↦ by
          rw [returns_of_isQuery hc, hpinned, hnone]
          rfl
        alone := .inr ⟨_, _, _, rfl⟩
        told := by
          intro f hf hfine
          have hreturned : Outcome.fault? returned = none := hfine _ List.mem_cons_self
          exact htold (by rw [hreturned, hf]; rfl)
        told_return := by
          intro _ t ht f hf
          obtain rfl := List.mem_singleton.mp ht
          have hreturned : Outcome.fault? returned = some f := hf
          exact htold (by rw [hreturned]; rfl)
        returned := by
          intro _ k reply' hmem
          rcases List.mem_cons.mp hmem with hk | hmem
          · cases hk
            exact ⟨_, _, List.mem_cons_self⟩
          · exact absurd hmem (not_mem_of_carries hcarries k _) }

end AdapterCall

/-! ## Transactions -/

namespace AdapterRef

variable {a : AdapterRef} {d : Driver}

/-- An adapter gives back what it owes, and nothing goes wrong unless that is refused. -/
theorem exists_cleanUp_steps (a : AdapterRef) (d : Driver) (e : ε) :
    ∃ d' r after, a.cleanUp.outcome? (d, e) = some ((d', e), r) ∧ d.Takes after d' ∧
      after.map (·.request) = (d.adapterState a.number).dues ∧
      ((∀ t ∈ after, t.fault? = none) → r = .ok ()) := by
  unfold Adapter.dues
  cases howed : (d.adapterState a.number).owed with
  | none => exact ⟨_, _, [], outcome?_cleanUp_free howed e, .nil rfl rfl, rfl, fun _ ↦ rfl⟩
  | some n =>
    have hclean := outcome?_cleanUp_owed howed e
    let step : Step := ⟨.release n none, d.reply .release⟩
    have htakes : d.Takes [step] (a.releasing n d) := by
      have hsingle : (a.changed disowned d).Takes [step] (a.releasing n d) :=
        .single (.release n none) (reply_congr rfl)
      exact hsingle.congr rfl rfl
    cases hgiven : givenBack d with
    | ok _ =>
      rw [hgiven] at hclean
      exact ⟨_, _, [step], hclean, htakes.trans (.nil rfl rfl), rfl, fun _ ↦ rfl⟩
    | error g =>
      rw [hgiven] at hclean
      refine ⟨_, _, [step], hclean, htakes, rfl, fun hfine ↦ ?_⟩
      have hgranted : Outcome.fault? (d.reply .release) = none := hfine step List.mem_cons_self
      unfold givenBack at hgiven
      cases hreply : d.reply .release with
      | ok _ =>
        rw [hreply] at hgiven
        cases hgiven
      | error f =>
        rw [hreply] at hgranted
        cases hgranted

/-- What an adapter asks for to give back what it owes is at most one release. -/
theorem alone_of_dues {s : Adapter} {after : List Step} (h : after.map (·.request) = s.dues) :
    after = [] ∨ ∃ k leaving reply, after = [⟨.release k leaving, reply⟩] := by
  unfold Adapter.dues at h
  cases howed : s.owed with
  | none =>
    rw [howed] at h
    exact .inl (List.map_eq_nil_iff.mp h)
  | some n =>
    rw [howed] at h
    obtain ⟨⟨q, reply⟩, rest, rfl, rfl, hrest⟩ := List.map_eq_cons_iff.mp h
    obtain rfl := List.map_eq_nil_iff.mp hrest
    exact .inr ⟨n, none, reply, rfl⟩

end AdapterRef

namespace AdapterCall

variable {c : AdapterCall} {a : AdapterRef} {d : Driver}

/-- A call that ends a transaction asks for that, and then the adapter gives back what it owes. -/
theorem performed_finish {p : Point} {t : Call} {s : Adapter} {n : Nat} {reply : Outcome Reply}
    {after : List Step} {r : Outcome Unit} (hquery : c.isQuery = false) (hp : p ≠ .acquire)
    (hasks : c.asks s n = [⟨p, some t⟩]) (hreturns : c.returns s n = s.dues)
    (hafter : after.map (·.request) = s.dues)
    (hr : (∀ t ∈ after, t.fault? = none) →
      r = ((reply.map fun _ ↦ ()).mapError (Fault.ofDriver c.operation) : Outcome Unit)) :
    c.Performed s n r [⟨⟨p, some t⟩, reply⟩] after (Outcome.fault? reply) where
  carries := by
    rw [hasks]
    cases reply with
    | ok reply => exact .granted _ reply .nil
    | error f => exact .refused _ [] f
  returns _ := by rw [hafter, hreturns]
  alone := AdapterRef.alone_of_dues hafter
  told f hf hfine := by
    cases reply with
    | ok reply => cases hf
    | error g =>
      cases hf
      exact hr hfine
  told_return hc := absurd hc (by rw [hquery]; nofun)
  returned _ k reply' hmem := by
    cases List.mem_singleton.mp hmem
    exact absurd rfl hp

/-- A call that is refused outright or has nothing to do asks the driver for nothing. -/
theorem performed_nothing {s : Adapter} {n : Nat} {r : Outcome Unit} (hquery : c.isQuery = false)
    (hasks : c.asks s n = []) (hreturns : c.returns s n = []) :
    c.Performed s n r [] [] none where
  carries := by
    rw [hasks]
    exact .nil
  returns _ := hreturns.symm
  alone := .inl rfl
  told _ hf := nomatch hf
  told_return hc := absurd hc (by rw [hquery]; nofun)
  returned _ _ _ hmem := nomatch hmem

theorem exists_finish_steps (a : AdapterRef) (operation : String) (p : Point) (t : Call)
    (d : Driver) (e : ε) :
    ∃ d' r after, (a.finish operation p t).outcome? (d, e) = some ((d', e), r) ∧
      d.Takes (⟨⟨p, some t⟩, d.reply p⟩ :: after) d' ∧
      after.map (·.request) = (d.adapterState a.number).dues ∧
      ((∀ s ∈ after, s.fault? = none) → r = d.told operation p) := by
  obtain ⟨d', r, after, hclean, htakes, hafter, hr⟩ :=
    a.exists_cleanUp_steps ((d.logged t).replied p) e
  have hstate : ((d.logged t).replied p).adapterState a.number = d.adapterState a.number := by
    rw [adapterState, adapters_replied]
    rfl
  rw [hstate] at hafter
  have htold := AdapterRef.outcome?_inOwnTerms_tell operation p t d e
  have hsteps : d.Takes (⟨⟨p, some t⟩, d.reply p⟩ :: after) d' := .step ⟨p, some t⟩ htakes
  refine ⟨d', r >>= fun _ ↦ d.told operation p, after, ?_, hsteps, hafter, ?_⟩
  · refine (Action.outcome?_andThen_of htold _).trans ?_
    cases r with
    | ok _ => exact Action.outcome?_andThen_of hclean _
    | error f => exact Action.outcome?_andThen_of hclean _
  · intro hfine
    rw [hr hfine]
    rfl

theorem exists_performed_end (hc : c.ends = true) (a : AdapterRef) (d : Driver) (e : ε) :
    ∃ d' r body after fault, c.Does a e d d' r ∧ d.Takes (body ++ after) d' ∧
      c.Performed (d.adapterState a.number) d.next r body after fault := by
  have hstate := AdapterRef.outcome?_state a d e
  cases c with
  | commit =>
    cases hactive : (d.adapterState a.number).isActive with
    | false =>
      refine ⟨d, .error (.noTransaction "commit"), [], [], none, ?_, .nil rfl rfl,
        performed_nothing rfl (by simp [asks, hactive]) (by simp [returns, hactive])⟩
      change a.commit.outcome? (d, e) = _
      rw [AdapterRef.commit, Action.outcome?_bind_of_ok hstate, hactive]
      rfl
    | true =>
      obtain ⟨d', r, after, hfinish, htakes, hafter, hr⟩ :=
        exists_finish_steps a "commit_transaction" .commit .commit d e
      refine ⟨d', r, [_], after, _, ?_, htakes, performed_finish rfl (by decide)
        (by simp [asks, hactive]) (by simp [returns, hactive]) hafter hr⟩
      change a.commit.outcome? (d, e) = _
      rw [AdapterRef.commit, Action.outcome?_bind_of_ok hstate, hactive]
      exact hfinish
  | rollback =>
    cases hactive : (d.adapterState a.number).isActive with
    | false =>
      refine ⟨d, .ok (), [], [], none, ?_, .nil rfl rfl,
        performed_nothing rfl (by simp [asks, hactive]) (by simp [returns, hactive])⟩
      change a.rollback.outcome? (d, e) = _
      rw [AdapterRef.rollback, Action.outcome?_bind_of_ok hstate, hactive]
      rfl
    | true =>
      obtain ⟨d', r, after, hfinish, htakes, hafter, hr⟩ :=
        exists_finish_steps a "rollback_transaction" .rollback .rollback d e
      refine ⟨d', r, [_], after, _, ?_, htakes, performed_finish rfl (by decide)
        (by simp [asks, hactive]) (by simp [returns, hactive]) hafter hr⟩
      change a.rollback.outcome? (d, e) = _
      rw [AdapterRef.rollback, Action.outcome?_bind_of_ok hstate, hactive]
      exact hfinish
  | _ => cases hc

/-- What is done once a transaction cannot be begun. -/
theorem exists_begin_refused (hactive : (d.adapterState a.number).isActive = false) {m : Driver}
    {e : ε} {f : Fault} (hpin : a.pin.outcome? (d, e) = some ((m, e), .error f)) :
    ∃ d' r after, AdapterCall.begin.Does a e d d' r ∧ m.Takes after d' ∧
      after.map (·.request) = (m.adapterState a.number).dues ∧
      ((∀ t ∈ after, t.fault? = none) → r = .error (f.ofDriver "begin_transaction")) := by
  obtain ⟨d', r, after, hclean, htakes, hafter, hr⟩ := a.exists_cleanUp_steps m e
  have hbegin := AdapterRef.begin_of_pin hactive e hpin
  cases r with
  | ok _ =>
    exact ⟨d', _, after, hbegin.trans (Action.outcome?_bind_of_ok hclean _), htakes, hafter,
      fun _ ↦ rfl⟩
  | error g =>
    refine ⟨d', _, after, hbegin.trans (Action.outcome?_bind_of_error hclean _), htakes, hafter,
      fun hfine ↦ ?_⟩
    cases hr hfine

/-- Once a transaction cannot be begun, the connection that was borrowed for it is owed. -/
theorem performed_begin_refused {s m : Adapter} {n : Nat} {r : Outcome Unit}
    {body after : List Step} {f : Fault} (hcarries : Carries (begin.asks s n) body (some f))
    (hafter : after.map (·.request) = m.dues)
    (hr : (∀ t ∈ after, t.fault? = none) → r = .error (f.ofDriver "begin_transaction"))
    (howed : ∀ k reply, ⟨.acquire k, .ok reply⟩ ∈ body → m.owed = some k) :
    begin.Performed s n r body after (some f) where
  carries := hcarries
  returns := nofun
  alone := AdapterRef.alone_of_dues hafter
  told g hg hfine := by
    cases hg
    exact hr hfine
  told_return := nofun
  returned _ k reply hmem := by
    have hdue : Request.release k none ∈ after.map (·.request) := by
      rw [hafter, Adapter.dues, howed k reply hmem]
      exact List.mem_cons_self
    obtain ⟨⟨q, reply'⟩, hback, rfl⟩ := List.mem_map.mp hdue
    exact ⟨none, reply', hback⟩

/-- A transaction is begun on a connection that is borrowed for it. -/
theorem exists_performed_begin (hlt : a.number < d.adapters.length) (e : ε) :
    ∃ d' r body after fault, AdapterCall.begin.Does a e d d' r ∧ d.Takes (body ++ after) d' ∧
      AdapterCall.begin.Performed (d.adapterState a.number) d.next r body after fault := by
  have hon : (begin.on a : Action (Driver × ε) Unit) = a.begin := rfl
  have hstate := AdapterRef.outcome?_state a d e
  cases hactive : (d.adapterState a.number).isActive with
  | true =>
    refine ⟨d, .error .nestedTransaction, [], [], none, ?_, .nil rfl rfl,
      performed_nothing rfl (by simp [asks, hactive]) rfl⟩
    rw [Does, hon, AdapterRef.begin, Action.outcome?_bind_of_ok hstate, hactive]
    rfl
  | false =>
    have hasks : begin.asks (d.adapterState a.number) d.next =
        [.acquire d.next, ⟨.begin, some .begin⟩] := by simp [asks, hactive]
    cases hacquire : d.reply .acquire with
    | error f =>
      have hfirst := outcome?_acquire d e
      rw [hacquire] at hfirst
      obtain ⟨d', r, after, hdoes, htakes, hafter, hr⟩ :=
        exists_begin_refused hactive (Action.outcome?_bind_of_error hfirst _)
      refine ⟨d', r, [⟨.acquire d.next, .error f⟩], after, some f, hdoes,
        (takes_acquiring hacquire).trans htakes, performed_begin_refused ?_ hafter hr ?_⟩
      · rw [hasks]
        exact .refused _ _ f
      · intro k reply hmem
        cases List.mem_singleton.mp hmem
    | ok reply =>
      have hpin := AdapterRef.outcome?_pin (a := a) hacquire e
      have hsteps : d.Takes [⟨.acquire d.next, .ok reply⟩, ⟨⟨.begin, some .begin⟩, d.reply .begin⟩]
          (a.beginning d) := by
        have hsingle : (a.changed (AdapterRef.pinning d.next) d.acquiring).Takes
            [⟨⟨.begin, some .begin⟩, d.reply .begin⟩] (a.beginning d) :=
          .single ⟨.begin, some .begin⟩ (reply_congr (script_replied (by decide)))
        exact (takes_acquiring hacquire).trans (hsingle.congr rfl rfl)
      cases hbegin : d.reply .begin with
      | ok reply' =>
        rw [hbegin] at hpin hsteps
        refine ⟨a.beginning d, .ok (), _, [], none, ?_, by rwa [List.append_nil], ?_⟩
        · rw [Does, hon, AdapterRef.begin, Action.outcome?_bind_of_ok hstate, hactive]
          exact Action.outcome?_andThen_of hpin _
        · exact
            { carries := by
                rw [hasks]
                exact .granted _ reply (.granted _ reply' .nil)
              returns := fun _ ↦ rfl
              alone := .inl rfl
              told := by rintro f ⟨⟩
              told_return := by rintro ⟨⟩
              returned := by rintro (hfault | hquery) <;> contradiction }
      | error f =>
        rw [hbegin] at hpin hsteps
        obtain ⟨d', r, after, hdoes, htakes, hafter, hr⟩ := exists_begin_refused hactive hpin
        refine ⟨d', r, _, after, some f, hdoes, hsteps.trans htakes,
          performed_begin_refused ?_ hafter hr ?_⟩
        · rw [hasks]
          exact .granted _ reply (.refused _ [] f)
        · intro k reply' hmem
          rw [AdapterRef.adapterState_beginning_of_lt hlt]
          rcases List.mem_pair.mp hmem with hk | hk
          · cases hk
            rfl
          · cases hk

/-! ## Every call -/

theorem exists_performed (c : AdapterCall) (hc : c ≠ .healthCheck)
    (hlt : a.number < d.adapters.length) (e : ε) :
    ∃ d' r body after fault, c.Does a e d d' r ∧ d.Takes (body ++ after) d' ∧
      c.Performed (d.adapterState a.number) d.next r body after fault := by
  cases c with
  | begin => exact exists_performed_begin hlt e
  | commit => exact exists_performed_end rfl a d e
  | rollback => exact exists_performed_end rfl a d e
  | _ => exact exists_performed_query rfl hc a d e

/-- Whatever a call is: one that is refused nothing asks for what it was to ask for.  Where one
request is refused and no other one, unless it is the return of a pinned connection, the caller is
told of it once, up to it every request was made once and in order, and after it there is at most
the return of a connection; this one is made if the call has borrowed one. -/
theorem told_once (c : AdapterCall) (hc : c ≠ .healthCheck) (hlt : a.number < d.adapters.length)
    (e : ε) :
    ∃ d' r steps, c.Does a e d d' r ∧ d.Takes steps d' ∧
      ((∀ t ∈ steps, t.fault? = none) →
        steps.map (·.request) = c.plan (d.adapterState a.number) d.next) ∧
      ∀ front t rest f, steps = front ++ t :: rest → t.fault? = some f →
        (∀ t' ∈ front ++ rest, t'.fault? = none) →
        (c.isQuery = true ∨ t.request.point ≠ .release) →
        (∃ g, r = .error g ∧ f.ToldAs c.operation g) ∧
        (front ++ [t]).map (·.request) =
          (c.plan (d.adapterState a.number) d.next).take (front.length + 1) ∧
        (rest = [] ∨ ∃ k leaving reply, rest = [⟨.release k leaving, reply⟩]) ∧
        ∀ k reply, ⟨.acquire k, .ok reply⟩ ∈ front →
          ∃ leaving reply', ⟨.release k leaving, reply'⟩ ∈ t :: rest := by
  obtain ⟨d', r, body, after, fault, hdoes, htakes, hperformed⟩ := exists_performed c hc hlt e
  have hcarries := hperformed.carries
  refine ⟨d', r, body ++ after, hdoes, htakes, fun hfine ↦ ?_, ?_⟩
  · cases fault with
    | some f =>
      obtain ⟨t, ht, hf⟩ := hcarries.exists_mem
      cases (hfine t (List.mem_append_left _ ht)).symm.trans hf
    | none => rw [List.map_append, hcarries.map_request_of_none, hperformed.returns rfl, plan]
  · intro front t rest f heq hf hfine hother
    rcases hcarries.split heq hf hfine with ⟨rfl, rfl, rfl⟩ | ⟨rfl, between, rfl, rfl⟩
    · have hmade := hcarries.map_request
      have hle : (front ++ [t]).length ≤ (c.asks (d.adapterState a.number) d.next).length := by
        have hlength := congrArg List.length hmade
        rw [List.length_map, List.length_take] at hlength
        exact hlength.symm ▸ Nat.min_le_right _ _
      refine ⟨⟨_, hperformed.told f rfl fun t' ht' ↦ hfine t' (List.mem_append_right _ ht'),
        f.toldAs_ofDriver _⟩, ?_, hperformed.alone, fun k reply hmem ↦ ?_⟩
      · rw [hmade, plan, ← List.take_append_of_le_length hle, List.length_append]
        rfl
      · obtain ⟨leaving, reply', hback⟩ :=
          hperformed.returned (.inl rfl) k reply (List.mem_append_left _ hmem)
        exact ⟨leaving, reply', List.mem_cons_of_mem _ hback⟩
    · -- nothing but a return comes after requests that were all granted
      obtain ⟨rfl, rfl, hrelease⟩ : between = [] ∧ rest = [] ∧ t.request.point = .release := by
        rcases hperformed.alone with hnil | ⟨k, leaving, reply, hsingle⟩
        · simp at hnil
        · cases between with
          | nil =>
            obtain ⟨rfl, hrest⟩ := List.cons.inj hsingle
            exact ⟨rfl, hrest, rfl⟩
          | cons t' between => simp at hsingle
      have hquery : c.isQuery = true := hother.resolve_right fun hne ↦ hne hrelease
      refine ⟨⟨_, hperformed.told_return hquery t List.mem_cons_self f hf, f.toldAs_ofDriver _⟩, ?_,
        .inl rfl, fun k reply hmem ↦ ?_⟩
      · have hmade : (body ++ [] ++ [t]).map (fun t' : Step ↦ t'.request) =
            c.plan (d.adapterState a.number) d.next := by
          rw [List.append_nil, List.map_append, hcarries.map_request_of_none, plan,
            ← hperformed.returns rfl]
          rfl
        rw [hmade, List.take_of_length_le]
        rw [← hmade]
        simp
      · rw [List.append_nil] at hmem
        exact hperformed.returned (.inr hquery) k reply hmem

/-- A row that does not come in time is the third thing that is asked for.  It is told as trouble
with the connection, which is given back. -/
theorem told_once_timeout :
    let refusal : Fault := .external .timeout (some "too slow") none
    let d : Driver := {
      script := fun p ↦ if p = .fetchOne then [.fail refusal] else []
      adapters := [{ pool := 0 }] }
    let c : AdapterCall := .fetchOne ⟨"SELECT 1", []⟩
    ∃ d' r front t rest, c.Does ⟨0⟩ () d d' r ∧ d.Takes (front ++ t :: rest) d' ∧
      t.fault? = some refusal ∧ (∀ t' ∈ front ++ rest, t'.fault? = none) ∧
      (front ++ [t]).map (·.request) =
        [.acquire 1, .execute "SELECT 1" (some []), ⟨.fetchOne, none⟩] ∧
      (∃ leaving reply, rest = [⟨.release 1 leaving, reply⟩]) ∧
      d'.calls = [.acquire 1, .execute "SELECT 1" (some []), .release 1 (some refusal)] ∧
      r = .error (.connectivity "fetch_one failed: too slow" (some refusal)) := by
  intro refusal d c
  obtain ⟨d', r, steps, hdoes, htakes, hplan, htold⟩ :=
    told_once (a := ⟨0⟩) (d := d) c nofun (by decide) ()
  have hcalls : d'.calls = [.acquire 1, .execute "SELECT 1" (some []),
      .release 1 (some refusal)] := by
    have hrun : c.Does ⟨0⟩ () d _ (.error (refusal.ofDriver "fetch_one")) := rfl
    obtain ⟨rfl, -⟩ := hdoes.eq hrun
    rfl
  have hother (p : Point) (hp : p ≠ .fetchOne) : d.script p = [] := if_neg hp
  have hall : c.plan (d.adapterState 0) d.next =
      [.acquire 1, .execute "SELECT 1" (some []), ⟨.fetchOne, none⟩, .release 1 none] := rfl
  rcases htakes.refused_once (p := .fetchOne) rfl hother with
    hfine | ⟨front, t, rest, rfl, hpoint, hfault, hfine⟩
  · -- were nothing refused, the connection would be given back without a fault
    have hlogged : d'.calls = (steps.map (·.request)).filterMap (·.call) := by
      rw [htakes.calls, List.filterMap_map]
      rfl
    rw [hplan hfine, hall, hcalls] at hlogged
    simp [Request.acquire, Request.execute, Request.release] at hlogged
  · obtain ⟨⟨g, rfl, hg⟩, hfront, halone, hback⟩ :=
      htold front t rest refusal rfl hfault hfine (.inl rfl)
    rw [hall] at hfront
    -- of the four requests only the third one is at the point where the refusal is
    obtain ⟨u, v, rfl⟩ : ∃ u v, front = [u, v] := by
      have hpoints := congrArg (List.map Request.point) hfront
      rcases front with _ | ⟨u, _ | ⟨v, _ | ⟨w, front⟩⟩⟩
      · simp [hpoint, Request.acquire] at hpoints
      · simp [hpoint, Request.execute] at hpoints
      · exact ⟨u, v, rfl⟩
      · simp [hpoint, Request.release, List.append_eq_singleton_iff] at hpoints
    obtain ⟨hu, -⟩ := List.cons.inj hfront
    have hgranted : u.fault? = none := hfine u List.mem_cons_self
    obtain ⟨reply, rfl⟩ : ∃ reply, u = ⟨.acquire 1, .ok reply⟩ := by
      obtain ⟨request, _ | reply⟩ := u
      · cases hgranted
      · exact ⟨reply, congrArg (Step.mk · _) hu⟩
    obtain ⟨leaving, reply', hmem⟩ := hback 1 reply List.mem_cons_self
    have hrest : ∃ leaving reply, rest = [⟨.release 1 leaving, reply⟩] := by
      rcases List.mem_cons.mp hmem with rfl | hmem
      · cases hpoint
      · rcases halone with rfl | ⟨k, leaving', reply'', rfl⟩
        · cases hmem
        · cases List.mem_singleton.mp hmem
          exact ⟨_, _, rfl⟩
    exact ⟨d', _, _, t, rest, hdoes, htakes, hfault, hfine, hfront, hrest, hcalls,
      congrArg Except.error hg⟩

end AdapterCall

end RecordStore
