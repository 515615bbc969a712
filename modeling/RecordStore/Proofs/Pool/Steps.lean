import RecordStore.Proofs.Pool.Ended

/-!
# Steps of the driver

What a call on an adapter asks of the driver it asks on one connection, in order, and it stops at
the first refusal.  A connection that was borrowed for it is given back last of all, together with
the fault that has stopped it.

* `Driver.Takes` lists the steps between two states of the driver, with what was said to each.
* `Driver.Carries` is a list of requests, made in order up to the first that is refused.
* `Driver.Straight` is an action that does nothing else, and `Driver.Connected` such an action on
  the connection of an adapter.
* `Database.execute_in_order` shows this of the statements that are run for a hook.
-/

namespace RecordStore

variable {ε α β : Type}

/-- What went wrong, if anything did. -/
def Outcome.fault? : Outcome α → Option Fault
  | .ok _ => none
  | .error f => some f

namespace Driver

/-! ## Requests and steps -/

/-- What the driver is asked for: at which point, and by which call if that leaves a trace. -/
structure Request where
  point : Point
  call : Option Call

/-- A step of the driver: what it was asked for, and what it has said to that. -/
structure Step where
  request : Request
  reply : Outcome Reply

namespace Request

/-- Asks for a connection. -/
def acquire (n : Nat) : Request := ⟨.acquire, some (.acquire n)⟩

/-- Gives a connection back, with the fault that leaves its use. -/
def release (n : Nat) (leaving : Option Fault) : Request := ⟨.release, some (.release n leaving)⟩

/-- Runs a statement. -/
def execute (sql : String) (ps : Option (List Datum)) : Request :=
  ⟨.execute, some (.execute sql ps)⟩

end Request

/-- What was refused, if anything was. -/
def Step.fault? (s : Step) : Option Fault := Outcome.fault? s.reply

/-- The driver once it was asked. -/
def asked (d : Driver) (q : Request) : Driver := (q.call.elim d d.logged).replied q.point

/-- The steps between two states of the driver: the replies that were used up, and the calls that
were recorded, one after another. -/
inductive Takes : Driver → List Step → Driver → Prop
  | nil {d d' : Driver} (hcalls : d'.calls = d.calls) (hscript : d'.script = d.script) :
      Takes d [] d'
  | step {d d' : Driver} {steps : List Step} (q : Request) (h : Takes (d.asked q) steps d') :
      Takes d (⟨q, d.reply q.point⟩ :: steps) d'

/-- Requests that were made in order, up to the first that was refused. -/
inductive Carries : List Request → List Step → Option Fault → Prop
  | nil : Carries [] [] none
  | refused (q : Request) (qs : List Request) (f : Fault) :
      Carries (q :: qs) [⟨q, .error f⟩] (some f)
  | granted {qs : List Request} {steps : List Step} {fault : Option Fault} (q : Request)
      (reply : Reply) (h : Carries qs steps fault) :
      Carries (q :: qs) (⟨q, .ok reply⟩ :: steps) fault

variable {d d' d'' : Driver} {steps steps' : List Step} {plan plan' : List Request}
  {fault : Option Fault} {q : Request}

namespace Takes

/-- Of a driver only its calls and its script are of interest here. -/
theorem congr (h : Takes d steps d') (hcalls : d''.calls = d.calls)
    (hscript : d''.script = d.script) : Takes d'' steps d' := by
  induction h generalizing d'' with
  | nil hcalls' hscript' => exact .nil (hcalls'.trans hcalls.symm) (hscript'.trans hscript.symm)
  | @step d d' steps q h ih =>
    have htake : (d''.take q.point).2 = (d.take q.point).2 := by
      unfold take
      rw [hscript]
      split <;> rfl
    have hreply : d''.reply q.point = d.reply q.point := congrArg checked htake
    rw [← hreply]
    refine .step q (ih ?_ ?_)
    · simp only [asked, calls_replied]
      cases q.call with
      | none => exact hcalls
      | some c => exact congrArg (· ++ [c]) hcalls
    · have hasked : (q.call.elim d'' d''.logged).script = (q.call.elim d d.logged).script := by
        cases q.call <;> exact hscript
      unfold asked replied take
      rw [hasked]
      split
      · exact hasked
      · rfl

theorem trans (h : Takes d steps d') (h' : Takes d' steps' d'') :
    Takes d (steps ++ steps') d'' := by
  induction h with
  | nil hcalls hscript => exact h'.congr hcalls.symm hscript.symm
  | step q _ ih => exact .step q (ih h')

/-- The driver is asked once. -/
theorem single {reply : Outcome Reply} (q : Request) (h : d.reply q.point = reply) :
    Takes d [⟨q, reply⟩] (d.asked q) := by
  rw [← h]
  exact .step q (.nil rfl rfl)

/-- Every step that leaves a trace has left it. -/
theorem calls (h : Takes d steps d') :
    d'.calls = d.calls ++ steps.filterMap (·.request.call) := by
  induction h with
  | nil hcalls _ => simpa using hcalls
  | @step d d' steps q _ ih =>
    rw [ih, asked, calls_replied]
    cases hcall : q.call with
    | none => simp [hcall]
    | some c => simp [hcall, logged]

/-- Every step has used up one reply. -/
theorem script (h : Takes d steps d') (p : Point) :
    d'.script p = (d.script p).drop (steps.countP (·.request.point = p)) := by
  induction h with
  | nil _ hscript => rw [hscript, List.countP_nil, List.drop_zero]
  | @step d d' steps q _ ih =>
    have hlogged : (q.call.elim d d.logged).script = d.script := by cases q.call <;> rfl
    rw [ih, asked]
    by_cases hp : q.point = p
    · subst hp
      rw [script_replied_self, hlogged, List.countP_cons_of_pos (by simp), List.drop_tail]
    · rw [script_replied (Ne.symm hp), hlogged, List.countP_cons_of_neg (by simpa using hp)]

/-- A request is granted for which the script has no reply. -/
theorem granted_of_nil (h : d.script q.point = []) : Step.fault? ⟨q, d.reply q.point⟩ = none := by
  simp only [Step.fault?, reply, take, h]
  rfl

/-- Nothing is refused that the script does not refuse. -/
theorem fault?_eq_none (h : Takes d steps d') (hscript : ∀ p, d.script p = []) :
    ∀ t ∈ steps, t.fault? = none := by
  induction h with
  | nil => nofun
  | @step d d' steps q h ih =>
    have hdrop := (single q rfl : Takes d [⟨q, d.reply q.point⟩] (d.asked q)).script
    refine List.forall_mem_cons.mpr ⟨granted_of_nil (hscript _), ih fun p ↦ ?_⟩
    rw [hdrop, hscript, List.drop_nil]

/-- Where the script refuses once, either nothing was refused or one step, at the point of that
refusal. -/
theorem refused_once (h : Takes d steps d') {p : Point} {f : Fault} (hp : d.script p = [.fail f])
    (hother : ∀ p', p' ≠ p → d.script p' = []) :
    (∀ t ∈ steps, t.fault? = none) ∨ ∃ front t rest, steps = front ++ t :: rest ∧
      t.request.point = p ∧ t.fault? = some f ∧ ∀ t' ∈ front ++ rest, t'.fault? = none := by
  induction h with
  | nil => exact .inl nofun
  | @step d d' steps q h ih =>
    have hdrop := (single q rfl : Takes d [⟨q, d.reply q.point⟩] (d.asked q)).script
    by_cases hq : q.point = p
    · -- the refusal is used up, so that the steps behind this one are granted
      have hspent (p' : Point) : (d.asked q).script p' = [] := by
        by_cases hp' : p' = p
        · subst hp' hq
          rw [hdrop, hp]
          simp
        · rw [hdrop, hother p' hp', List.drop_nil]
      refine .inr ⟨[], _, steps, rfl, hq, ?_, h.fault?_eq_none hspent⟩
      simp only [Step.fault?, reply, take, hq, hp]
      rfl
    · have hgranted : Step.fault? ⟨q, d.reply q.point⟩ = none := granted_of_nil (hother _ hq)
      have hsame (p' : Point) : (d.asked q).script p' = d.script p' := by
        by_cases hp' : p' = p
        · rw [hdrop, hp', List.countP_eq_zero.mpr (by simpa using hq), List.drop_zero]
        · rw [hdrop, hother p' hp', List.drop_nil]
      rcases ih (by rw [hsame, hp]) fun p' hp' ↦ by rw [hsame, hother p' hp'] with
        hfine | ⟨front, t, rest, rfl, hpoint, hfault, hfine⟩
      · exact .inl (List.forall_mem_cons.mpr ⟨hgranted, hfine⟩)
      · exact .inr ⟨_ :: front, t, rest, rfl, hpoint, hfault,
          List.forall_mem_cons.mpr ⟨hgranted, hfine⟩⟩

end Takes

namespace Carries

theorem append (h : Carries plan steps none) (h' : Carries plan' steps' fault) :
    Carries (plan ++ plan') (steps ++ steps') fault := by
  generalize hnone : (none : Option Fault) = first at h
  induction h with
  | nil => exact h'
  | refused => cases hnone
  | granted q reply _ ih => exact .granted q reply (ih hnone)

/-- What was to be asked for after a refusal is of no interest. -/
theorem append_of_some {f : Fault} (h : Carries plan steps (some f)) (plan' : List Request) :
    Carries (plan ++ plan') steps (some f) := by
  generalize hsome : some f = first at h ⊢
  induction h with
  | nil => cases hsome
  | refused q qs g => exact .refused q _ g
  | granted q reply _ ih => exact .granted q reply (ih hsome)

/-- Only requests of the list were made, none of them twice. -/
theorem map_request (h : Carries plan steps fault) :
    steps.map (·.request) = plan.take steps.length := by
  induction h with
  | nil => rfl
  | refused q qs f => rfl
  | granted q reply _ ih => simp [ih]

/-- Without a refusal all requests were made. -/
theorem map_request_of_none (h : Carries plan steps none) : steps.map (·.request) = plan := by
  generalize hnone : (none : Option Fault) = first at h
  induction h with
  | nil => rfl
  | refused => cases hnone
  | granted q reply _ ih => simp [ih hnone]

/-- A single request was granted or refused. -/
theorem of_single (h : Carries [q] steps fault) :
    ∃ reply, steps = [⟨q, reply⟩] ∧ fault = Outcome.fault? reply := by
  cases h with
  | refused q qs f => exact ⟨.error f, rfl, rfl⟩
  | granted q reply h =>
    cases h
    exact ⟨.ok reply, rfl, rfl⟩

/-- Where one step of a longer run is refused and no other one, it is the last of the requests, or
else all requests were granted and it comes after them. -/
theorem split (h : Carries plan steps fault) {after front rest : List Step} {s : Step} {f : Fault}
    (heq : steps ++ after = front ++ s :: rest) (hs : s.fault? = some f)
    (hfine : ∀ t ∈ front ++ rest, t.fault? = none) :
    (fault = some f ∧ steps = front ++ [s] ∧ after = rest) ∨
      (fault = none ∧ ∃ between, front = steps ++ between ∧ after = between ++ s :: rest) := by
  induction h generalizing front with
  | nil => exact .inr ⟨rfl, front, rfl, heq⟩
  | refused q qs g =>
    cases front with
    | nil =>
      obtain ⟨rfl, rfl⟩ := List.cons.inj heq
      exact .inl ⟨hs, rfl, rfl⟩
    | cons t front =>
      obtain ⟨rfl, -⟩ := List.cons.inj heq
      cases hfine _ List.mem_cons_self
  | granted q reply _ ih =>
    cases front with
    | nil =>
      obtain ⟨rfl, -⟩ := List.cons.inj heq
      cases hs
    | cons t front =>
      obtain ⟨rfl, htail⟩ := List.cons.inj heq
      rcases ih htail fun t ht ↦ hfine t (List.mem_cons_of_mem _ ht) with
        ⟨hfault, hsteps, hafter⟩ | ⟨hfault, between, hfront, hafter⟩
      · exact .inl ⟨hfault, congrArg _ hsteps, hafter⟩
      · exact .inr ⟨hfault, between, congrArg _ hfront, hafter⟩

/-- A refusal is one of the steps. -/
theorem exists_mem {f : Fault} (h : Carries plan steps (some f)) :
    ∃ s ∈ steps, s.fault? = some f := by
  generalize hsome : some f = first at h
  induction h with
  | nil => cases hsome
  | refused q qs g => exact ⟨_, List.mem_cons_self, rfl⟩
  | granted q reply _ ih =>
    obtain ⟨s, hs, hf⟩ := ih hsome
    exact ⟨s, List.mem_cons_of_mem _ hs, hf⟩

end Carries

/-! ## Straight actions -/

/-- The action makes these requests in order, up to the first that is refused, and fails with that
refusal.  If all are granted, it fails with what is given, if anything is. -/
def Straight (plan : List Request) (last : Option Fault) (x : Action (Driver × ε) α) : Prop :=
  ∀ (d : Driver) (e : ε), ∃ d' r steps fault, x.outcome? (d, e) = some ((d', e), r) ∧
    d.Takes steps d' ∧ Carries plan steps fault ∧ Outcome.fault? r = fault.or last

namespace Straight

variable {last : Option Fault}

theorem done (r : Outcome α) :
    Straight [] (Outcome.fault? r) (.done r : Action (Driver × ε) α) :=
  fun d _ ↦ ⟨d, r, [], none, rfl, .nil rfl rfl, .nil, rfl⟩

/-- One request. -/
theorem single {x : Action (Driver × ε) α} {f : Reply → α} (hx : ∀ (d : Driver) (e : ε),
    x.outcome? (d, e) = some ((d.asked q, e), (d.reply q.point).map f)) : Straight [q] none x := by
  intro d e
  cases hreply : d.reply q.point with
  | ok reply =>
    refine ⟨_, _, _, none, hx d e, .single q hreply, .granted q reply .nil, ?_⟩
    rw [hreply]
    rfl
  | error g =>
    refine ⟨_, _, _, some g, hx d e, .single q hreply, .refused q [] g, ?_⟩
    rw [hreply]
    rfl

theorem bind {x : Action (Driver × ε) α} {f : α → Action (Driver × ε) β}
    (hx : Straight plan none x) (hf : ∀ y, Straight plan' last (f y)) :
    Straight (plan ++ plan') last (x >>= f) := by
  intro d e
  obtain ⟨d₁, r, steps, fault, hd₁, htakes, hcarries, hr⟩ := hx d e
  rw [Option.or_none] at hr
  cases r with
  | error g =>
    obtain rfl : some g = fault := hr
    exact ⟨d₁, .error g, steps, some g, Action.outcome?_bind_of_error hd₁ f, htakes,
      hcarries.append_of_some plan', rfl⟩
  | ok y =>
    obtain rfl : none = fault := hr
    obtain ⟨d₂, r', steps', fault', hd₂, htakes', hcarries', hr'⟩ := hf y d₁ e
    exact ⟨d₂, r', steps ++ steps', fault', (Action.outcome?_bind_of_ok hd₁ f).trans hd₂,
      htakes.trans htakes', hcarries.append hcarries', hr'⟩

/-- What is made of the replies in the end. -/
theorem map {x : Action (Driver × ε) α} {f : α → Action (Driver × ε) β}
    (hx : Straight plan none x) (hf : ∀ y, ∃ z, f y = .done (.ok z)) :
    Straight plan none (x >>= f) := by
  rw [← List.append_nil plan]
  refine hx.bind fun y ↦ ?_
  obtain ⟨z, hz⟩ := hf y
  rw [hz]
  exact .done (.ok z)

end Straight

theorem straight_execute (sql : String) (ps : Option (List Datum)) :
    Straight [.execute sql ps] none (execute sql ps : Action (Driver × ε) Int) := by
  refine Straight.map (.single (f := id) fun d e ↦ ?_) fun reply ↦ ?_
  · rw [outcome?_call]
    change _ = some (_, (d.reply .execute).map id)
    cases d.reply .execute <;> rfl
  · cases reply <;> exact ⟨_, rfl⟩

theorem straight_fetchOne :
    Straight [⟨.fetchOne, none⟩] none (fetchOne : Action (Driver × ε) (Option Row)) := by
  refine Straight.map (.single (f := id) fun d e ↦ ?_) fun reply ↦ ?_
  · rw [outcome?_ask]
    change _ = some (_, (d.reply .fetchOne).map id)
    cases d.reply .fetchOne <;> rfl
  · cases reply <;> exact ⟨_, rfl⟩

theorem straight_fetchAll :
    Straight [⟨.fetchAll, none⟩] none (fetchAll : Action (Driver × ε) (List Row)) := by
  refine Straight.map (.single (f := id) fun d e ↦ ?_) fun reply ↦ ?_
  · rw [outcome?_ask]
    change _ = some (_, (d.reply .fetchAll).map id)
    cases d.reply .fetchAll <;> rfl
  · cases reply <;> exact ⟨_, rfl⟩

/-- A request that the driver grants or refuses. -/
theorem straight_tell (p : Point) (c : Call) :
    Straight [⟨p, some c⟩] none (tell p c : Action (Driver × ε) Unit) :=
  .single (f := fun _ ↦ ()) fun d e ↦ outcome?_tell p c d e

theorem straight_release (n : Nat) (r : Outcome α) :
    Straight [.release n (Outcome.fault? r)] none (release n r : Action (Driver × ε) Unit) :=
  straight_tell .release _

/-! ## On the connection of an adapter -/

/-- The steps of requests that are made on the connection of an adapter, and what went wrong there.
They are made on the connection that is pinned, or else on one that is borrowed for them, and this
is given back last of all with what has stopped them. -/
inductive Connected (pinned : Option Nat) (n : Nat) (plan : List Request) (last : Option Fault) :
    List Step → Option Fault → Prop
  | pinned {body : List Step} {fault : Option Fault} {k : Nat} (hpinned : pinned = some k)
      (h : Carries plan body fault) : Connected pinned n plan last body (fault.or last)
  | refused (hpinned : pinned = none) (f : Fault) :
      Connected pinned n plan last [⟨.acquire n, .error f⟩] (some f)
  | borrowed {body : List Step} {fault : Option Fault} (hpinned : pinned = none) (reply : Reply)
      (h : Carries plan body fault) (returned : Outcome Reply) :
      Connected pinned n plan last
        (⟨.acquire n, .ok reply⟩ :: (body ++ [⟨.release n (fault.or last), returned⟩]))
        ((Outcome.fault? returned).or (fault.or last))

theorem takes_acquiring {reply : Outcome Reply} (h : d.reply .acquire = reply) :
    Takes d [⟨.acquire d.next, reply⟩] d.acquiring := by
  have hreply : ({ d with acquired := d.next } : Driver).reply .acquire = d.reply .acquire :=
    reply_congr rfl
  have htakes : Takes { d with acquired := d.next } [⟨.acquire d.next, reply⟩] d.acquiring :=
    .single (.acquire d.next) (hreply.trans h)
  exact htakes.congr rfl rfl

/-- What is done with a connection that was borrowed for it. -/
theorem outcome?_borrowing_of_ok {x : Action (Driver × ε) α} {e : ε} {reply : Reply}
    {r : Outcome α} (h : d.reply .acquire = .ok reply)
    (hx : x.outcome? (d.acquiring, e) = some ((d', e), r)) :
    (borrowing x).outcome? (d, e) =
      (release d.next r >>= fun _ ↦ (.done r : Action (Driver × ε) α)).outcome? (d', e) := by
  have hacquire := outcome?_acquire d e
  rw [h] at hacquire
  exact (Action.outcome?_bind_of_ok hacquire _).trans (Action.outcome?_andThen_of hx _)

/-- What is asked of the driver on a connection that is borrowed for it. -/
theorem exists_borrowed {x : Action (Driver × ε) α} {last : Option Fault}
    (hx : Straight plan last x) (d : Driver) (e : ε) :
    ∃ d' r steps, (borrowing x).outcome? (d, e) = some ((d', e), r) ∧ d.Takes steps d' ∧
      Connected none d.next plan last steps (Outcome.fault? r) := by
  cases hreply : d.reply .acquire with
  | error f =>
    exact ⟨d.acquiring, .error f, _, outcome?_borrowing_of_error hreply x e,
      takes_acquiring hreply, .refused rfl f⟩
  | ok reply =>
    obtain ⟨m, r, body, fault, hm, htakes, hcarries, hr⟩ := hx d.acquiring e
    -- whatever is said to the release, it is the last step
    obtain ⟨d', r', steps', fault', hd', htakes', hcarries', hr'⟩ :=
      (straight_release d.next r).bind (fun _ ↦ .done r) m e
    obtain ⟨returned, rfl, rfl⟩ := hcarries'.of_single
    refine ⟨d', r', _, (outcome?_borrowing_of_ok hreply hm).trans hd',
      (takes_acquiring hreply).trans (htakes.trans htakes'), ?_⟩
    rw [hr', hr]
    exact .borrowed rfl reply hcarries returned

theorem exists_connected {x : Action (Driver × ε) α} {last : Option Fault}
    (hx : Straight plan last x) (a : AdapterRef) (d : Driver) (e : ε) :
    ∃ d' r steps, (a.connected x).outcome? (d, e) = some ((d', e), r) ∧ d.Takes steps d' ∧
      Connected (d.adapterState a.number).pinned d.next plan last steps (Outcome.fault? r) := by
  cases hpinned : (d.adapterState a.number).pinned with
  | some k =>
    obtain ⟨d', r, body, fault, hd', htakes, hcarries, hr⟩ := hx d e
    refine ⟨d', r, body, Eq.trans ?_ hd', htakes, hr ▸ .pinned rfl hcarries⟩
    change (if (d.adapterState a.number).pinned.isSome then x else _).outcome? (d, e) = _
    rw [hpinned]
    rfl
  | none =>
    rw [AdapterRef.outcome?_connected hpinned]
    exact exists_borrowed hx d e

end Driver

/-! ## Statements in order -/

namespace AdapterRef

open Driver

/-- What statements ask for, up to the first whose parameters cannot be used. -/
def requests : List (String × Datum) → List Driver.Request
  | [] => []
  | (sql, ps) :: rest => match parameters? ps with
    | .ok ps => .execute sql ps :: requests rest
    | .error _ => []

/-- What is wrong with the first statement whose parameters cannot be used. -/
def unusable? : List (String × Datum) → Option Fault
  | [] => none
  | (_, ps) :: rest => match parameters? ps with
    | .ok _ => unusable? rest
    | .error f => some f

theorem straight_runAll (qs : List (String × Datum)) :
    Straight (requests qs) (unusable? qs) (runAll qs : Action (Driver × ε) Unit) := by
  induction qs with
  | nil => exact .done (.ok ())
  | cons q rest ih =>
    obtain ⟨sql, ps⟩ := q
    unfold requests unusable? runAll
    cases parameters? ps with
    | error f => exact .done (.error f)
    | ok ps => exact (straight_execute sql ps).bind fun _ ↦ ih

/-- What goes wrong in an operation is put in the library's own terms. -/
theorem exists_inOwnTerms {x : Action (Driver × ε) α} {plan : List Driver.Request}
    {last : Option Fault}
    (hx : Straight plan last x) (operation : String) (a : AdapterRef) (d : Driver) (e : ε) :
    ∃ d' r steps fault, (inOwnTerms operation (a.connected x)).outcome? (d, e) =
        some ((d', e), r) ∧ d.Takes steps d' ∧
      Connected (d.adapterState a.number).pinned d.next plan last steps fault ∧
      Outcome.fault? r = fault.map (Fault.ofDriver operation) := by
  obtain ⟨d', r, steps, hd', htakes, hconnected⟩ := exists_connected hx a d e
  have htold := Action.outcome?_andThen_of hd' fun r ↦ match r with
    | .ok y => (.done (.ok y) : Action (Driver × ε) α)
    | .error f => Action.fail (f.ofDriver operation)
  cases r with
  | ok y => exact ⟨d', .ok y, steps, _, htold, htakes, hconnected, rfl⟩
  | error f => exact ⟨d', .error _, steps, _, htold, htakes, hconnected, rfl⟩

end AdapterRef

namespace BoundSql

/-- The request that runs a statement, with its own text and parameters. -/
def request (q : BoundSql) : Driver.Request := .execute q.text (some q.parameters)

theorem requests_map (qs : List BoundSql) :
    AdapterRef.requests (qs.map fun q ↦ (q.text, .list q.parameters)) = qs.map request := by
  induction qs with
  | nil => rfl
  | cons q qs ih => exact congrArg (q.request :: ·) ih

theorem unusable?_map (qs : List BoundSql) :
    AdapterRef.unusable? (qs.map fun q ↦ (q.text, .list q.parameters)) = none := by
  induction qs with
  | nil => rfl
  | cons q qs ih => exact ih

end BoundSql

namespace Database

variable {ws : List WriteStatement}

/-- Statements that cannot all be built fail with what is wrong with one of them. -/
theorem exists_of_buildAll?_eq_error {f : Fault} (h : buildAll? ws = .error f) :
    ∃ w ∈ ws, Sql.write? w = .error f := by
  induction ws with
  | nil => cases h
  | cons w ws ih =>
    rw [buildAll?, List.mapM_cons] at h
    cases hw : Sql.write? w with
    | error g =>
      rw [hw] at h
      cases h
      exact ⟨w, List.mem_cons_self, hw⟩
    | ok q =>
      rw [hw] at h
      cases hws : buildAll? ws with
      | error g =>
        rw [buildAll?] at hws
        rw [hws] at h
        cases h
        obtain ⟨w', hmem, hw'⟩ := ih (by rw [buildAll?, hws])
        exact ⟨w', List.mem_cons_of_mem w hmem, hw'⟩
      | ok qs =>
        rw [buildAll?] at hws
        rw [hws] at h
        cases h

/-- The statements of a hook are run in order on one connection, each with its own text and
parameters, up to the first that is refused; a connection that was borrowed for them is then given
back with that refusal.  Nothing is asked of the driver unless all statements can be built. -/
theorem execute_in_order (a : AdapterRef) (ws : List WriteStatement) (d : Driver) (e : ε) :
    ∃ d' r, (execute a ws).outcome? (d, e) = some ((d', e), r) ∧
      ((∃ w ∈ ws, ∃ f, Sql.write? w = .error f) →
        d' = d ∧ ∃ w ∈ ws, ∃ f, Sql.write? w = .error f ∧ r = .error f) ∧
      ∀ qs, List.Forall₂ (fun w q ↦ Sql.write? w = .ok q) ws qs →
        (ws = [] → d' = d ∧ r = .ok ()) ∧
        (ws ≠ [] → ∃ steps fault, d.Takes steps d' ∧
          Driver.Connected (d.adapterState a.number).pinned d.next (qs.map (·.request)) none
            steps fault ∧
          Outcome.fault? r = fault.map (Fault.ofDriver "execute_many")) := by
  unfold execute
  cases ws with
  | nil =>
    refine ⟨d, .ok (), rfl, ?_, fun qs _ ↦ ⟨fun _ ↦ ⟨rfl, rfl⟩, fun hws ↦ absurd rfl hws⟩⟩
    rintro ⟨w, hw, -⟩
    cases hw
  | cons w ws =>
    cases hbuilt : buildAll? (w :: ws) with
    | error f =>
      obtain ⟨w', hmem, hw'⟩ := exists_of_buildAll?_eq_error hbuilt
      refine ⟨d, .error f, rfl, fun _ ↦ ⟨rfl, w', hmem, f, hw', rfl⟩, fun qs hqs ↦ ?_⟩
      cases hbuilt.symm.trans (Outcome.mapM_eq_ok.mpr hqs)
    | ok qs =>
      obtain ⟨d', r, steps, fault, hd', htakes, hconnected, hr⟩ :=
        AdapterRef.exists_inOwnTerms (AdapterRef.straight_runAll
          (qs.map fun q ↦ (q.text, .list q.parameters))) "execute_many" a d e
      rw [BoundSql.requests_map, BoundSql.unusable?_map] at hconnected
      refine ⟨d', r, hd', ?_, fun qs' hqs' ↦ ?_⟩
      · rintro ⟨w', hmem, f, hw'⟩
        obtain ⟨q, hq⟩ := Outcome.exists_mapM_eq_ok.mp ⟨qs, hbuilt⟩ w' hmem
        cases hw'.symm.trans hq
      · obtain rfl : qs' = qs := by
          have hbuilt' : buildAll? (w :: ws) = .ok qs' := Outcome.mapM_eq_ok.mpr hqs'
          rw [hbuilt] at hbuilt'
          exact (Except.ok.inj hbuilt').symm
        exact ⟨nofun, fun _ ↦ ⟨steps, fault, htakes, hconnected, hr⟩⟩

/-- The second of three statements is refused: the third is not run, and the connection is given
back with the refusal as the driver has put it. -/
theorem execute_in_order_refused :
    let refusal : Fault := .external (.driver .integrity "UniqueViolation") none (some "users_pkey")
    let d : Driver := {
      script := fun p ↦ if p = .execute then [.count 1, .fail refusal] else []
      adapters := [{ pool := 0 }] }
    let statement (sql : String) : WriteStatement := .sql sql (.tuple [])
    ∃ d' r steps fault,
      (execute ⟨0⟩ [statement "A", statement "B", statement "C"]).outcome? (d, ()) =
        some ((d', ()), r) ∧ d.Takes steps d' ∧
      Driver.Connected none 1 [.execute "A" (some []), .execute "B" (some []),
        .execute "C" (some [])] none steps fault ∧
      d'.calls = [.acquire 1, .execute "A" (some []), .execute "B" (some []),
        .release 1 (some refusal)] ∧
      r = .error (refusal.ofDriver "execute_many") := by
  intro refusal d statement
  let ws := [statement "A", statement "B", statement "C"]
  obtain ⟨d', r, hd', -, hbuilt⟩ := execute_in_order ⟨0⟩ ws d ()
  have hqs : List.Forall₂ (fun w q ↦ Sql.write? w = .ok q) ws
      [⟨"A", []⟩, ⟨"B", []⟩, ⟨"C", []⟩] :=
    .cons rfl (.cons rfl (.cons rfl .nil))
  obtain ⟨steps, fault, htakes, hconnected, -⟩ := (hbuilt _ hqs).2 nofun
  have hrun : (execute ⟨0⟩ ws).outcome? (d, ()) =
      some ((_, ()), .error (refusal.ofDriver "execute_many")) := rfl
  rw [hrun] at hd'
  cases hd'
  exact ⟨_, _, steps, fault, hrun, htakes, hconnected, rfl, rfl⟩

end Database

end RecordStore
