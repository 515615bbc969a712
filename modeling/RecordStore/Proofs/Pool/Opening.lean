import RecordStore.Pool.Manager
import RecordStore.Proofs.Pool.Steps

/-!
# Opening a pool

To connect, a manager makes a pool, opens it, and asks on one of its connections whether the
database answers.  If the driver refuses, or something takes too long, the pool is closed; any other
fault leaves it as it is.

* `Driver.Probes` are the steps of opening a pool and asking.
* `ManagerRef.Probed` is what making, opening and asking do to the driver, and `ManagerRef.Attempts`
  adds what becomes of the pool.
* `ManagerRef.exists_connect` is the statement above; other lemmas tell what connecting and
  disconnecting do to a manager that is connected, or was disconnected already.
-/

namespace RecordStore

variable {ε α β : Type}

namespace Driver

variable {d d' d'' : Driver} {p : Point}

@[simp] theorem pools_replied : (d.replied p).pools = d.pools := by
  unfold replied take
  split <;> rfl

@[simp] theorem managers_replied : (d.replied p).managers = d.managers := by
  unfold replied take
  split <;> rfl

/-- Pools and managers are left alone, and no reply to the closing of a pool is used up. -/
structure PoolsKept (d d' : Driver) : Prop where
  pools : d'.pools = d.pools
  managers : d'.managers = d.managers
  script : d'.script .closePool = d.script .closePool

namespace PoolsKept

instance : Std.Refl PoolsKept := ⟨fun _ ↦ ⟨rfl, rfl, rfl⟩⟩

instance : IsTrans Driver PoolsKept := ⟨fun _ _ _ h h' ↦
  ⟨h'.pools.trans h.pools, h'.managers.trans h.managers, h'.script.trans h.script⟩⟩

theorem replied (hp : p ≠ .closePool) : PoolsKept d (d.replied p) :=
  ⟨pools_replied, managers_replied, script_replied (Ne.symm hp)⟩

theorem called (hp : p ≠ .closePool) (c : Call) : PoolsKept d ((d.logged c).replied p) :=
  ⟨pools_replied, managers_replied, script_replied (Ne.symm hp)⟩

theorem follows_tell (hp : p ≠ .closePool) (c : Call) :
    Follows PoolsKept (tell p c : Action (Driver × ε) Unit) :=
  fun d e ↦ ⟨_, _, outcome?_tell p c d e, called hp c⟩

theorem follows_execute (sql : String) (ps : Option (List Datum)) :
    Follows PoolsKept (execute sql ps : Action (Driver × ε) Int) := by
  refine .bind (fun d e ↦ ⟨_, _, outcome?_call _ _ d e, called (by decide) _⟩) fun reply ↦ ?_
  split
  · exact Follows.done _
  · exact Follows.done _

theorem follows_fetchOne : Follows PoolsKept (fetchOne : Action (Driver × ε) (Option Row)) := by
  refine .bind (fun d e ↦ ⟨_, _, outcome?_ask _ d e, replied (by decide)⟩) fun reply ↦ ?_
  split
  · exact Follows.done _
  · exact Follows.done _

theorem follows_acquire : Follows PoolsKept (acquire : Action (Driver × ε) Nat) :=
  fun d e ↦ ⟨_, _, outcome?_acquire d e,
    ⟨pools_replied, managers_replied, script_replied (by decide)⟩⟩

theorem follows_borrowing {x : Action (Driver × ε) α} (hx : Follows PoolsKept x) :
    Follows PoolsKept (borrowing x) :=
  follows_acquire.bind fun n ↦ hx.andThen fun r ↦
    (follows_tell (by decide) _).bind fun _ ↦ .done r

end PoolsKept

/-! ## Asking whether the database answers -/

/-- The requests by which one asks whether the database answers. -/
def question : List Request := [.execute "SELECT 1" none, ⟨.fetchOne, none⟩]

/-- The steps of opening a pool and asking on its next connection whether the database answers, and
what went wrong there. -/
inductive Probes (timeout : Datum) (n : Nat) : List Step → Option Fault → Prop
  | unopened (f : Fault) :
      Probes timeout n [⟨⟨.openPool, some (.openPool timeout)⟩, .error f⟩] (some f)
  | opened (reply : Reply) {steps : List Step} {fault : Option Fault}
      (h : Connected none n question none steps fault) :
      Probes timeout n (⟨⟨.openPool, some (.openPool timeout)⟩, .ok reply⟩ :: steps) fault

theorem Carries.all_granted {plan : List Request} {steps : List Step} {fault : Option Fault}
    (h : Carries plan steps fault) (hfault : fault = none) : ∀ s ∈ steps, s.fault? = none := by
  induction h with
  | nil =>
    intro s hs
    cases hs
  | refused => cases hfault
  | granted q reply _ ih =>
    intro s hs
    rcases List.mem_cons.mp hs with rfl | hs
    · rfl
    · exact ih hfault s hs

/-- Where nothing went wrong on a connection that was borrowed, it was given back, and everything
was granted. -/
theorem Connected.all_granted {n : Nat} {plan : List Request} {steps : List Step}
    {fault : Option Fault} (h : Connected none n plan none steps fault) (hfault : fault = none) :
    steps.map (·.request) = .acquire n :: (plan ++ [.release n none]) ∧
      ∀ s ∈ steps, s.fault? = none := by
  cases h with
  | pinned hpinned => cases hpinned
  | refused => cases hfault
  | borrowed _ reply h returned =>
    obtain ⟨hreturned, hbody⟩ := Option.or_eq_none_iff.mp hfault
    obtain ⟨rfl, -⟩ := Option.or_eq_none_iff.mp hbody
    constructor
    · simp [h.map_request_of_none]
    · intro s hs
      simp only [List.mem_cons, List.mem_append, List.not_mem_nil, or_false] at hs
      rcases hs with rfl | hs | rfl
      · rfl
      · exact h.all_granted rfl s hs
      · exact hreturned

/-- Where nothing went wrong, the pool was opened and the database has answered. -/
theorem Probes.all_granted {timeout : Datum} {n : Nat} {steps : List Step} {fault : Option Fault}
    (h : Probes timeout n steps fault) (hfault : fault = none) :
    steps.map (·.request) = ⟨.openPool, some (.openPool timeout)⟩ :: .acquire n ::
      (question ++ [.release n none]) ∧ ∀ s ∈ steps, s.fault? = none := by
  cases h with
  | unopened => cases hfault
  | opened reply h =>
    obtain ⟨hrequests, hgranted⟩ := h.all_granted hfault
    exact ⟨congrArg (_ :: ·) hrequests, List.forall_mem_cons.mpr ⟨rfl, hgranted⟩⟩

/-- Opens a pool and asks whether the database answers. -/
def probing (timeout : Datum) : Action (Driver × ε) Unit := do
  tell .openPool (.openPool timeout)
  borrowing do
    let _ ← execute "SELECT 1" none
    let _ ← fetchOne

theorem exists_probing (timeout : Datum) (d : Driver) (e : ε) :
    ∃ d' r steps, (probing timeout).outcome? (d, e) = some ((d', e), r) ∧ d.Takes steps d' ∧
      Probes timeout d.next steps (Outcome.fault? r) ∧ d.PoolsKept d' := by
  have hfollows : Follows PoolsKept (probing timeout : Action (Driver × ε) Unit) :=
    (PoolsKept.follows_tell (by decide) _).bind fun _ ↦ PoolsKept.follows_borrowing <|
      (PoolsKept.follows_execute _ _).bind fun _ ↦ PoolsKept.follows_fetchOne.bind fun _ ↦ .done _
  have hstraight : Straight question none (do
      let _ ← execute "SELECT 1" none
      let _ ← fetchOne : Action (Driver × ε) Unit) :=
    (straight_execute _ _).bind fun _ ↦ straight_fetchOne.map fun _ ↦ ⟨(), rfl⟩
  obtain ⟨d', r, hd', hkept⟩ := hfollows d e
  have htell := outcome?_tell .openPool (.openPool timeout) d e
  cases hreply : d.reply .openPool with
  | error f =>
    rw [hreply] at htell
    have hrun : (probing timeout).outcome? (d, e) = some (_, .error f) :=
      Action.outcome?_bind_of_error htell _
    cases hd'.symm.trans hrun
    exact ⟨_, _, _, hrun, .single ⟨.openPool, some (.openPool timeout)⟩ hreply, .unopened f, hkept⟩
  | ok reply =>
    rw [hreply] at htell
    obtain ⟨d₂, r₂, steps, hd₂, htakes, hconnected⟩ :=
      exists_borrowed hstraight ((d.logged (.openPool timeout)).replied .openPool) e
    have hrun : (probing timeout).outcome? (d, e) = some ((d₂, e), r₂) :=
      (Action.outcome?_bind_of_ok htell _).trans hd₂
    cases hd'.symm.trans hrun
    have hnext : ((d.logged (.openPool timeout)).replied .openPool).next = d.next :=
      congrArg Nat.succ acquired_replied
    rw [hnext] at hconnected
    refine ⟨_, _, _, hrun, ?_, .opened reply hconnected, hkept⟩
    rw [← hreply]
    exact .step ⟨.openPool, some (.openPool timeout)⟩ htakes

end Driver

open Outcome in
/-- A connection string is missing only where user or password cannot be encoded. -/
theorem Dsn.text?_eq_error {s : Dsn} {f : Fault} (h : s.text? = .error f) : f = .wrongType := by
  have hencoded {x : Datum} {g : Fault} (hx : encoded? x = .error g) : g = .wrongType := by
    cases x <;> cases hx <;> rfl
  rcases bind_eq_error.mp h with h | ⟨credentials, -, h⟩
  · rcases bind_eq_error.mp h with h | ⟨user, -, h⟩
    · exact hencoded h
    · rcases bind_eq_error.mp h with h | ⟨password, -, h⟩
      · rw [passwordPart?] at h
        split at h
        · rcases bind_eq_error.mp h with h | ⟨password, -, h⟩
          · exact hencoded h
          · cases h
        · cases h
      · cases h
  · cases h

/-- The call that makes a pool with the sizes and the time limit of the settings. -/
def DatabaseConfig.newPool (c : DatabaseConfig) (dsn : String) : Call :=
  .newPool dsn c.minPoolSize c.maxPoolSize c.poolTimeout

namespace ManagerRef

open Driver

variable {m : ManagerRef} {d d' : Driver} {n base : Nat} {f : Fault}

/-- The pool that a manager has open. -/
def openIn? (m : ManagerRef) (d : Driver) : Option Nat :=
  (d.managerState m.number).pool.filter fun n ↦ !(d.poolState n).isClosed

theorem outcome?_isConnected (m : ManagerRef) (d : Driver) (e : ε) :
    m.isConnected.outcome? (d, e) = some ((d, e), .ok (m.openIn? d).isSome) := rfl

/-- The settings of a manager. -/
def configIn (m : ManagerRef) (d : Driver) : DatabaseConfig := (d.managerState m.number).config

/-- What a manager refuses to do once it was disconnected. -/
def disconnected : Fault := .connectivity "Connection manager has been closed" none

/-- What a connect fails with that was stopped by a fault that it takes up. -/
def unreachable (f : Fault) : Fault :=
  .connectivity ("Failed to connect to database: " ++ f.message) (some f)

/-- A new pool was made for the manager, opened, and asked for a connection on which the database
was asked whether it answers. -/
structure Probed (m : ManagerRef) (d d' : Driver) (fault : Option Fault) : Prop where
  steps : ∃ dsn steps, (m.configIn d).dsn.text? = .ok dsn ∧
    (d.logged ((m.configIn d).newPool dsn)).Takes steps d' ∧
    Probes (m.configIn d).poolTimeout d.next steps fault
  pools : d'.pools = d.pools ++
    [{ minSize := (m.configIn d).minPoolSize, maxSize := (m.configIn d).maxPoolSize }]
  managers : d'.managers = d.managers.modify m.number fun s ↦ { s with pool := some d.pools.length }
  script : d'.script .closePool = d.script .closePool

/-- The pool of this number was made and opened, and the database was asked whether it answers; all
that was granted. -/
def Opens (m : ManagerRef) (n : Nat) (d d' : Driver) : Prop :=
  n = d.pools.length ∧ ∃ dsn steps, (m.configIn d).dsn.text? = .ok dsn ∧
    (d.logged ((m.configIn d).newPool dsn)).Takes steps d' ∧
    steps.map (·.request) = ⟨.openPool, some (.openPool (m.configIn d).poolTimeout)⟩ ::
      .acquire d.next :: (question ++ [.release d.next none]) ∧
    ∀ s ∈ steps, s.fault? = none

/-- The driver with a manager changed. -/
def changed (m : ManagerRef) (f : Manager → Manager) (d : Driver) : Driver :=
  { d with managers := d.managers.modify m.number f }

/-- The manager has no pool any more. -/
def emptied (s : Manager) : Manager := { s with pool := none }

/-- The driver once a pool was closed. -/
def poolClosed (n : Nat) (d : Driver) : Driver :=
  let d := (d.logged .closePool).replied .closePool
  { d with pools := d.pools.modify n fun p ↦ { p with isClosed := true } }

/-- The driver once the pool of a manager was closed. -/
def closing (m : ManagerRef) (n : Nat) (d : Driver) : Driver :=
  m.changed emptied (poolClosed n d)

/-- What becomes of a new pool: it is kept if nothing went wrong, and closed if what went wrong
tells that the database cannot be reached; otherwise it is left as it is. -/
inductive Attempts (m : ManagerRef) (d : Driver) : Option Fault → Driver → Outcome Unit → Prop
  | kept {d' : Driver} (h : m.Probed d d' none) : Attempts m d none d' (.ok ())
  | closed {d' : Driver} {f : Fault} (h : m.Probed d d' (some f))
    (hf : isFailureToConnect f = true) :
    Attempts m d (some f) (m.closing d.pools.length d') (.error (unreachable f))
  | left {d' : Driver} {f : Fault} (h : m.Probed d d' (some f))
    (hf : isFailureToConnect f = false) : Attempts m d (some f) d' (.error f)

/-- Every pool from this number on is closed. -/
def AllClosed (base : Nat) (d : Driver) : Prop :=
  ∀ n, base ≤ n → n < d.pools.length → (d.poolState n).isClosed = true

/-! ## Parts of the calls -/

theorem managerState_changed (g : Manager → Manager) (h : m.number < d.managers.length) :
    (m.changed g d).managerState m.number = g (d.managerState m.number) := by
  simp [changed, managerState, List.getElem?_eq_getElem h]

theorem outcome?_state (m : ManagerRef) (d : Driver) (e : ε) :
    m.state.outcome? (d, e) = some ((d, e), .ok (d.managerState m.number)) := rfl

theorem outcome?_openPool? (m : ManagerRef) (d : Driver) (e : ε) :
    m.openPool?.outcome? (d, e) = some ((d, e), .ok (m.openIn? d)) := rfl

theorem openIn?_eq_some (hpool : (d.managerState m.number).pool = some n)
    (hopen : (d.poolState n).isClosed = false) : m.openIn? d = some n := by
  simp [openIn?, hpool, hopen]

theorem openIn?_eq_none (hpool : (d.managerState m.number).pool = none) : m.openIn? d = none := by
  simp [openIn?, hpool]

/-- A pool that is open is closed. -/
theorem outcome?_cleanUp_of_some (h : m.openIn? d = some n)
    (hclose : ∀ f, .fail f ∉ d.script .closePool) (e : ε) :
    m.cleanUp.outcome? (d, e) = some ((m.closing n d, e), .ok ()) := by
  have htell := outcome?_tell .closePool .closePool d e
  cases hreply : d.reply .closePool with
  | error f => exact absurd (mem_of_reply hreply) (hclose f)
  | ok reply =>
    rw [hreply] at htell
    have hpool : (closePool n).outcome? (d, e) = some ((poolClosed n d, e), .ok ()) :=
      Action.outcome?_bind_of_ok htell _
    have hquiet : (UnitOfWork.quietly (closePool n)).outcome? (d, e) =
        some ((poolClosed n d, e), .ok ()) := Action.outcome?_andThen_of hpool _
    rw [cleanUp, Action.outcome?_bind_of_ok (outcome?_openPool? m d e), h]
    exact Action.outcome?_bind_of_ok hquiet _

theorem outcome?_cleanUp_of_none (h : m.openIn? d = none) (e : ε) :
    m.cleanUp.outcome? (d, e) = some ((m.changed emptied d, e), .ok ()) := by
  rw [cleanUp, Action.outcome?_bind_of_ok (outcome?_openPool? m d e), h]
  rfl

/-- A pool is made, opened and asked whether the database answers, unless there is no connection
string. -/
theorem exists_openAndProbe (m : ManagerRef) (d : Driver) (e : ε) :
    (∃ f, (m.configIn d).dsn.text? = .error f ∧
      m.openAndProbe.outcome? (d, e) = some ((d, e), .error f)) ∨
    ∃ d' r, m.openAndProbe.outcome? (d, e) = some ((d', e), r) ∧
      m.Probed d d' (Outcome.fault? r) := by
  have hstate := outcome?_state m d e
  cases hdsn : (m.configIn d).dsn.text? with
  | error f =>
    refine .inl ⟨f, rfl, ?_⟩
    have hlift : (liftM (m.configIn d).dsn.text? : Action (Driver × ε) String).outcome? (d, e) =
        some ((d, e), .error f) := by
      rw [hdsn]
      rfl
    rw [openAndProbe, Action.outcome?_bind_of_ok hstate]
    exact Action.outcome?_bind_of_error hlift _
  | ok dsn =>
    right
    have hlift : (liftM (m.configIn d).dsn.text? : Action (Driver × ε) String).outcome? (d, e) =
        some ((d, e), .ok dsn) := by
      rw [hdsn]
      rfl
    let made : Driver :=
      { d.logged ((m.configIn d).newPool dsn) with
        pools := d.pools ++
          [{ minSize := (m.configIn d).minPoolSize, maxSize := (m.configIn d).maxPoolSize }]
        managers := d.managers.modify m.number fun s ↦ { s with pool := some d.pools.length } }
    obtain ⟨d', r, steps, hd', htakes, hprobes, hkept⟩ :=
      exists_probing (m.configIn d).poolTimeout made e
    refine ⟨d', r, ?_, ⟨dsn, steps, hdsn, htakes.congr rfl rfl, hprobes⟩, ?_, ?_, ?_⟩
    · rw [openAndProbe, Action.outcome?_bind_of_ok hstate]
      exact (Action.outcome?_bind_of_ok hlift _).trans hd'
    · exact hkept.pools
    · exact hkept.managers
    · exact hkept.script

/-! ## A new pool -/

namespace Probed

variable {fault : Option Fault}

theorem length_pools (h : m.Probed d d' fault) : d'.pools.length = d.pools.length + 1 := by
  rw [h.pools, List.length_append]
  rfl

theorem lt_length (h : m.Probed d d' fault) (hm : m.number < d.managers.length) :
    m.number < d'.managers.length := by
  rw [h.managers, List.length_modify]
  exact hm

theorem managerState (h : m.Probed d d' fault) (hm : m.number < d.managers.length) :
    d'.managerState m.number = { d.managerState m.number with pool := some d.pools.length } := by
  simp [Driver.managerState, h.managers, List.getElem?_eq_getElem hm]

theorem poolState_of_lt (h : m.Probed d d' fault) (hn : n < d.pools.length) :
    d'.poolState n = d.poolState n := by
  simp [poolState, h.pools, List.getElem?_append_left hn]

/-- The new pool is open. -/
theorem isClosed_poolState (h : m.Probed d d' fault) :
    (d'.poolState d.pools.length).isClosed = false := by
  simp [poolState, h.pools]

theorem openIn? (h : m.Probed d d' fault) (hm : m.number < d.managers.length) :
    m.openIn? d' = some d.pools.length :=
  openIn?_eq_some (congrArg Manager.pool (h.managerState hm)) h.isClosed_poolState

/-- Where nothing went wrong, everything was granted. -/
theorem opens (h : m.Probed d d' none) : m.Opens d.pools.length d d' := by
  obtain ⟨dsn, steps, hdsn, htakes, hprobes⟩ := h.steps
  obtain ⟨hrequests, hgranted⟩ := hprobes.all_granted rfl
  exact ⟨rfl, dsn, steps, hdsn, htakes, hrequests, hgranted⟩

end Probed

theorem lt_length_changed (g : Manager → Manager) (hm : m.number < d.managers.length) :
    m.number < (m.changed g d).managers.length := by
  rw [changed, List.length_modify]
  exact hm

theorem managerState_closing (hm : m.number < d.managers.length) :
    (m.closing n d).managerState m.number = emptied (d.managerState m.number) := by
  have hmanagers : (poolClosed n d).managers = d.managers := managers_replied
  rw [closing, managerState_changed emptied (hmanagers ▸ hm), managerState, managerState, hmanagers]

theorem lt_length_closing (hm : m.number < d.managers.length) :
    m.number < (m.closing n d).managers.length := by
  have hmanagers : (poolClosed n d).managers = d.managers := managers_replied
  exact lt_length_changed emptied (hmanagers ▸ hm)

theorem pools_closing :
    (m.closing n d).pools = d.pools.modify n fun p ↦ { p with isClosed := true } := by
  have hpools : ((d.logged .closePool).replied .closePool).pools = d.pools := pools_replied
  change ((d.logged .closePool).replied .closePool).pools.modify n _ = _
  rw [hpools]

theorem script_closing : (m.closing n d).script .closePool ⊆ d.script .closePool :=
  script_replied_subset (d := d.logged .closePool)

/-- Closing the only pool that was open leaves none open. -/
theorem allClosed_closing
    (h : ∀ k, base ≤ k → k < d.pools.length → k ≠ n → (d.poolState k).isClosed = true) :
    AllClosed base (m.closing n d) := by
  intro k hbase hlt
  rw [pools_closing, List.length_modify] at hlt
  rw [poolState, pools_closing, List.getElem?_modify, List.getElem?_eq_getElem hlt]
  by_cases hk : n = k
  · simp [hk]
  · have hclosed := h k hbase hlt (Ne.symm hk)
    rw [poolState, List.getElem?_eq_getElem hlt] at hclosed
    simpa [hk] using hclosed

/-- A pool that was not closed is left open. -/
theorem Attempts.of_stopped {r : Outcome Unit} (h : m.Attempts d (some f) d' r)
    (hf : isFailureToConnect f = false) : r = .error f ∧ m.Probed d d' (some f) := by
  cases h with
  | closed _ hf' => cases hf.symm.trans hf'
  | left hprobed => exact ⟨rfl, hprobed⟩

/-! ## Whole calls -/

theorem outcome?_connect_of_closed (h : (d.managerState m.number).isClosed = true) (e : ε) :
    m.connect.outcome? (d, e) = some ((d, e), .error disconnected) := by
  rw [connect, Action.outcome?_bind_of_ok (outcome?_state m d e), h]
  rfl

theorem outcome?_connect_of_some (h : (d.managerState m.number).isClosed = false)
    (hopen : m.openIn? d = some n) (e : ε) :
    m.connect.outcome? (d, e) = some ((d, e), .ok ()) := by
  rw [connect, Action.outcome?_bind_of_ok (outcome?_state m d e), h]
  refine (Action.outcome?_bind_of_ok (outcome?_isConnected m d e) _).trans ?_
  rw [hopen]
  rfl

/-- A manager that is not connected makes a pool, unless there is no connection string. -/
theorem exists_connect (hm : m.number < d.managers.length)
    (hclosed : (d.managerState m.number).isClosed = false) (hopen : m.openIn? d = none)
    (hclose : ∀ f, .fail f ∉ d.script .closePool) (e : ε) :
    ∃ d' r, m.connect.outcome? (d, e) = some ((d', e), r) ∧
      ((∃ f, (m.configIn d).dsn.text? = .error f ∧ d' = d ∧ r = .error f) ∨
        ∃ fault, m.Attempts d fault d' r) := by
  have hconnect : m.connect.outcome? (d, e) = (m.openAndProbe.handle fun f ↦ do
      if !isFailureToConnect f then throw f
      m.cleanUp
      throw (unreachable f)).outcome? (d, e) := by
    rw [connect, Action.outcome?_bind_of_ok (outcome?_state m d e), hclosed]
    refine (Action.outcome?_bind_of_ok (outcome?_isConnected m d e) _).trans ?_
    rw [hopen]
    rfl
  rcases exists_openAndProbe m d e with ⟨f, hdsn, hrun⟩ | ⟨d', r, hrun, hprobed⟩
  · refine ⟨d, .error f, ?_, .inl ⟨f, hdsn, rfl, rfl⟩⟩
    obtain rfl := Dsn.text?_eq_error hdsn
    exact hconnect.trans (Action.outcome?_andThen_of hrun _)
  · cases r with
    | ok u =>
      refine ⟨d', .ok (), ?_, .inr ⟨none, .kept hprobed⟩⟩
      exact hconnect.trans (Action.outcome?_andThen_of hrun _)
    | error f =>
      have hhandled := hconnect.trans (Action.outcome?_andThen_of hrun _)
      cases hf : isFailureToConnect f with
      | false =>
        refine ⟨d', .error f, hhandled.trans ?_, .inr ⟨some f, .left hprobed hf⟩⟩
        dsimp only
        rw [hf]
        rfl
      | true =>
        refine ⟨_, _, hhandled.trans ?_, .inr ⟨some f, .closed hprobed hf⟩⟩
        dsimp only
        rw [hf]
        refine Action.outcome?_bind_of_ok (outcome?_cleanUp_of_some (hprobed.openIn? hm) ?_ e) _
        rw [hprobed.script]
        exact hclose

theorem outcome?_pool_of_some (h : m.openIn? d = some n) (e : ε) :
    m.pool.outcome? (d, e) = some ((d, e), .ok n) := by
  rw [pool, Action.outcome?_bind_of_ok (outcome?_openPool? m d e), h]
  rfl

/-- The manager is closed for good. -/
def ended (s : Manager) : Manager := { s with isClosed := true }

theorem outcome?_disconnect_of_closed (h : (d.managerState m.number).isClosed = true) (e : ε) :
    m.disconnect.outcome? (d, e) = some ((d, e), .ok ()) := by
  rw [disconnect, Action.outcome?_bind_of_ok (outcome?_state m d e), h]
  rfl

theorem outcome?_disconnect (h : (d.managerState m.number).isClosed = false) {e : ε}
    (hclean : m.cleanUp.outcome? (d, e) = some ((d', e), .ok ())) :
    m.disconnect.outcome? (d, e) = some ((m.changed ended d', e), .ok ()) := by
  rw [disconnect, Action.outcome?_bind_of_ok (outcome?_state m d e), h]
  exact Action.outcome?_bind_of_ok hclean _

end ManagerRef

end RecordStore
