import RecordStore.Proofs.Memory.Scoping
import RecordStore.Proofs.Pool.Statements

/-!
# Transactions of a relational database

A transaction borrows one connection and gives it back last of all.  In between it is begun once and
ended once, by a commit if its work has succeeded and by a rollback if it has failed, and all
statements of the work run on its connection.  A fault of the work is what the transaction fails
with, whatever goes wrong in ending it.

* `DatabaseScoping` is how work is given a transaction: by a handle, or by a unit of work.
* `AdapterRef.outcome?_begin` and `AdapterRef.exists_finish` are the beginning and the end.
* `DatabaseScoping.disciplined` is the statement above.
-/

namespace RecordStore

variable {ε α : Type}

namespace Driver

variable {d : Driver}

/-- The number of the connection that is borrowed next. -/
def next (d : Driver) : Nat := d.acquired + 1

/-- The driver after a connection was asked for. -/
def acquiring (d : Driver) : Driver :=
  ({ d with acquired := d.next } : Driver).logged (.acquire d.next) |>.replied .acquire

theorem outcome?_acquire (d : Driver) (e : ε) :
    acquire.outcome? (d, e) = some ((d.acquiring, e), (d.reply .acquire).map fun _ ↦ d.next) := by
  have hreply : ({ d with acquired := d.next } : Driver).reply .acquire = d.reply .acquire :=
    reply_congr rfl
  have htell := outcome?_tell .acquire (.acquire d.next) { d with acquired := d.next } e
  rw [hreply] at htell
  have hfirst : (acquire : Action (Driver × ε) Nat).outcome? (d, e) =
      (tell .acquire (.acquire d.next) >>= fun _ ↦ pure d.next).outcome?
        (({ d with acquired := d.next } : Driver), e) := rfl
  rw [hfirst]
  cases h : d.reply .acquire with
  | ok reply =>
    rw [h] at htell
    exact Action.outcome?_bind_of_ok htell _
  | error f =>
    rw [h] at htell
    exact Action.outcome?_bind_of_error htell _

/-- What an operation comes to that makes one call, in the library's own terms. -/
def told (operation : String) (p : Point) (d : Driver) : Outcome Unit :=
  ((d.reply p).map fun _ ↦ ()).mapError (Fault.ofDriver operation)

end Driver

namespace AdapterRef

open Driver

variable {a : AdapterRef} {d : Driver}

/-- The driver with an adapter changed. -/
def changed (a : AdapterRef) (f : Adapter → Adapter) (d : Driver) : Driver :=
  { d with adapters := d.adapters.modify a.number f }

theorem adapterState_changed (f : Adapter → Adapter) (h : a.number < d.adapters.length) :
    (a.changed f d).adapterState a.number = f (d.adapterState a.number) := by
  simp [changed, adapterState, List.getElem?_eq_getElem h]

/-- The adapter is in no transaction any more. -/
def unpinned (s : Adapter) : Adapter := { s with pinned := none, isActive := false }

theorem isActive_unpinned (a : AdapterRef) (d : Driver) :
    ((a.changed unpinned d).adapterState a.number).isActive = false := by
  by_cases h : a.number < d.adapters.length
  · rw [adapterState_changed unpinned h]
    rfl
  · have hnone : (d.adapters.modify a.number unpinned)[a.number]? = none := by
      rw [List.getElem?_eq_none_iff, List.length_modify]
      exact Nat.le_of_not_lt h
    rw [changed, adapterState, hnone]
    rfl

/-! ## The ends of a transaction -/

theorem outcome?_state (a : AdapterRef) (d : Driver) (e : ε) :
    a.state.outcome? (d, e) = some ((d, e), .ok (d.adapterState a.number)) := rfl

theorem outcome?_modify (a : AdapterRef) (f : Adapter → Adapter) (d : Driver) (e : ε) :
    (a.modify f).outcome? (d, e) = some ((a.changed f d, e), .ok ()) := rfl

/-- Where no connection is owed, none is given back. -/
theorem outcome?_cleanUp_free (h : (d.adapterState a.number).owed = none) (e : ε) :
    a.cleanUp.outcome? (d, e) = some ((a.changed unpinned d, e), .ok ()) := by
  rw [cleanUp, Action.outcome?_bind_of_ok (outcome?_state a d e)]
  dsimp only
  rw [h]
  rfl

/-- What the giving back of a connection comes to: an ordinary fault is left away. -/
def givenBack (d : Driver) : Outcome Unit :=
  match d.reply .release with
  | .ok _ => .ok ()
  | .error f => if f.isOrdinary then .ok () else .error f

theorem givenBack_of_ordinary (h : ∀ f, d.reply .release = .error f → f.isOrdinary = true) :
    givenBack d = .ok () := by
  unfold givenBack
  cases hf : d.reply .release with
  | ok reply => rfl
  | error f => exact if_pos (h f hf)

/-- The adapter gives back what it owes. -/
def disowned (s : Adapter) : Adapter := { s with owed := none }

/-- The driver after a connection was given back. -/
def releasing (a : AdapterRef) (n : Nat) (d : Driver) : Driver :=
  ((a.changed disowned d).logged (.release n none)).replied .release

theorem calls_releasing (n : Nat) : (a.releasing n d).calls = d.calls ++ [.release n none] :=
  calls_replied

/-- A connection that is owed is given back. -/
theorem outcome?_cleanUp_owed {n : Nat} (h : (d.adapterState a.number).owed = some n) (e : ε) :
    a.cleanUp.outcome? (d, e) = ((liftM (givenBack d) : Action (Driver × ε) Unit) >>= fun _ ↦
      a.modify unpinned).outcome? (a.releasing n d, e) := by
  have hrelease : ((Driver.release n (.ok ())).handle fun f ↦
      if f.isOrdinary then pure () else Action.fail f : Action (Driver × ε) Unit).outcome?
        (a.changed disowned d, e) = some ((a.releasing n d, e), givenBack d) := by
    refine (Action.outcome?_andThen_of (outcome?_tell .release _ (a.changed disowned d) e) _).trans
      ?_
    have hreply : (a.changed disowned d).reply .release = d.reply .release := reply_congr rfl
    rw [hreply, givenBack]
    cases d.reply .release with
    | ok reply => rfl
    | error f =>
      change Action.outcome? (if f.isOrdinary then pure () else Action.fail f) _ =
        some (_, if f.isOrdinary then .ok () else .error f)
      split
      · rfl
      · rfl
  rw [cleanUp, Action.outcome?_bind_of_ok (outcome?_state a d e)]
  dsimp only
  rw [h]
  refine (Action.outcome?_bind_of_ok (outcome?_modify a disowned d e) _).trans ?_
  exact Action.outcome?_andThen_of hrelease _

/-- A connection that is owed is given back, whatever the driver says to that. -/
theorem exists_cleanUp_owed {n : Nat} (h : (d.adapterState a.number).owed = some n)
    (hd : d.Ordinary) (e : ε) : ∃ d', a.cleanUp.outcome? (d, e) = some ((d', e), .ok ()) ∧
      d'.calls = d.calls ++ [.release n none] ∧ (d'.adapterState a.number).isActive = false := by
  refine ⟨a.changed unpinned (a.releasing n d), ?_, calls_releasing n, isActive_unpinned a _⟩
  rw [outcome?_cleanUp_owed h, givenBack_of_ordinary fun f ↦ hd.reply]
  rfl

/-- A transaction is ended by one call of the driver. -/
theorem outcome?_inOwnTerms_tell (operation : String) (p : Point) (c : Call) (d : Driver) (e : ε) :
    (inOwnTerms operation (Driver.tell p c)).outcome? (d, e) =
      some (((d.logged c).replied p, e), d.told operation p) := by
  refine (Action.outcome?_andThen_of (outcome?_tell p c d e) _).trans ?_
  rw [told]
  cases d.reply p <;> rfl

/-- A transaction is ended by one call, and its connection is given back whatever the driver
says. -/
theorem exists_finish {n : Nat} (h : (d.adapterState a.number).owed = some n) (hd : d.Ordinary)
    (operation : String) (p : Point) (c : Call) (e : ε) :
    ∃ d', (a.finish operation p c).outcome? (d, e) = some ((d', e), d.told operation p) ∧
      d'.calls = d.calls ++ [c, .release n none] ∧
      (d'.adapterState a.number).isActive = false := by
  let d₁ := (d.logged c).replied p
  have howed : (d₁.adapterState a.number).owed = some n := by
    rw [adapterState, adapters_replied]
    exact h
  have hordinary : d₁.Ordinary := hd.of_subset fun q ↦ script_replied_subset (d := d.logged c)
  obtain ⟨d', hclean, hcalls, hactive⟩ := exists_cleanUp_owed howed hordinary e
  refine ⟨d', ?_, ?_, hactive⟩
  · refine (Action.outcome?_andThen_of (outcome?_inOwnTerms_tell operation p c d e) _).trans ?_
    exact Action.outcome?_andThen_of hclean _
  · rw [hcalls, calls_replied]
    exact List.append_assoc _ _ _

/-! ## The beginning of a transaction -/

/-- The adapter has borrowed a connection and is to begin a transaction on it. -/
def pinning (n : Nat) (s : Adapter) : Adapter :=
  { s with pinned := some n, owed := some n, isActive := true }

/-- An adapter that was never used. -/
structure Fresh (a : AdapterRef) (d : Driver) : Prop where
  isActive : (d.adapterState a.number).isActive = false
  owed : (d.adapterState a.number).owed = none
  lt_length : a.number < d.adapters.length

/-- Where beginning a transaction fails, what was borrowed is given back. -/
theorem begin_of_pin (h : (d.adapterState a.number).isActive = false) (e : ε) {d' : Driver}
    {f : Fault} (hpin : a.pin.outcome? (d, e) = some ((d', e), .error f)) :
    a.begin.outcome? (d, e) = (a.cleanUp >>= fun _ ↦
      (Action.fail (f.ofDriver "begin_transaction") : Action (Driver × ε) Unit)).outcome?
        (d', e) := by
  rw [begin, Action.outcome?_bind_of_ok (outcome?_state a d e)]
  dsimp only
  rw [h]
  exact Action.outcome?_andThen_of hpin _

/-- Without a connection there is no transaction. -/
theorem outcome?_begin_of_no_connection (ha : a.Fresh d) (e : ε) {f : Fault}
    (h : d.reply .acquire = .error f) : a.begin.outcome? (d, e) =
      some ((a.changed unpinned d.acquiring, e), .error (f.ofDriver "begin_transaction")) := by
  have hacquire := outcome?_acquire d e
  rw [h] at hacquire
  have hpin : a.pin.outcome? (d, e) = some ((d.acquiring, e), .error f) :=
    Action.outcome?_bind_of_error hacquire _
  have howed : (d.acquiring.adapterState a.number).owed = none := by
    rw [adapterState, acquiring, adapters_replied]
    exact ha.owed
  exact (begin_of_pin ha.isActive e hpin).trans
    (Action.outcome?_bind_of_ok (outcome?_cleanUp_free howed e) _)

section Connected

variable (ha : a.Fresh d) {reply : Reply} (hacquire : d.reply .acquire = .ok reply)
include ha hacquire

/-- The driver once a connection is pinned and a transaction was to be begun. -/
def beginning (a : AdapterRef) (d : Driver) : Driver :=
  ((a.changed (pinning d.next) d.acquiring).logged .begin).replied .begin

omit ha hacquire in
theorem script_beginning (q : Point) (hq : q ≠ .acquire) (hq' : q ≠ .begin) :
    (a.beginning d).script q = d.script q :=
  (script_replied hq').trans (script_replied hq)

omit ha hacquire in
theorem script_beginning_subset (q : Point) : (a.beginning d).script q ⊆ d.script q :=
  List.Subset.trans script_replied_subset script_replied_subset

omit ha hacquire in
theorem calls_beginning : (a.beginning d).calls = d.calls ++ [.acquire d.next, .begin] := by
  rw [beginning, calls_replied]
  change d.acquiring.calls ++ [Call.begin] = _
  rw [acquiring, calls_replied]
  exact List.append_assoc _ _ _

omit ha hacquire in
/-- Whatever state the adapter was in, the borrowed connection is pinned and owed. -/
theorem adapterState_beginning_of_lt (hlt : a.number < d.adapters.length) :
    (a.beginning d).adapterState a.number = pinning d.next (d.adapterState a.number) := by
  have hacquiring : d.acquiring.adapterState a.number = d.adapterState a.number := by
    rw [adapterState, acquiring, adapters_replied]
    rfl
  rw [← hacquiring, ← adapterState_changed (pinning d.next)]
  · rw [beginning, adapterState, adapters_replied]
    rfl
  · rw [acquiring, adapters_replied]
    exact hlt

omit hacquire in
theorem adapterState_beginning : (a.beginning d).adapterState a.number =
    pinning d.next (d.adapterState a.number) :=
  adapterState_beginning_of_lt ha.lt_length

omit ha in
theorem outcome?_pin (e : ε) : a.pin.outcome? (d, e) =
    some ((a.beginning d, e), (d.reply .begin).map fun _ ↦ ()) := by
  have hfirst := outcome?_acquire d e
  rw [hacquire] at hfirst
  have hreply : (a.changed (pinning d.next) d.acquiring).reply .begin = d.reply .begin :=
    reply_congr (script_replied (by decide))
  rw [pin, Action.outcome?_bind_of_ok hfirst, ← hreply]
  exact (Action.outcome?_bind_of_ok (outcome?_modify a (pinning d.next) d.acquiring e) _).trans
    (outcome?_tell .begin .begin _ e)

/-- A transaction that the driver does not begin gives its connection back. -/
theorem exists_begin_of_refused (hd : d.Ordinary) (e : ε) {f : Fault}
    (h : d.reply .begin = .error f) : ∃ d', a.begin.outcome? (d, e) =
      some ((d', e), .error (f.ofDriver "begin_transaction")) ∧
        d'.calls = d.calls ++ [.acquire d.next, .begin, .release d.next none] := by
  have hpin := outcome?_pin (a := a) hacquire e
  rw [h] at hpin
  have howed : ((a.beginning d).adapterState a.number).owed = some d.next := by
    rw [adapterState_beginning ha]
    rfl
  obtain ⟨d', hclean, hcalls, -⟩ :=
    exists_cleanUp_owed howed (hd.of_subset script_beginning_subset) e
  refine ⟨d', (begin_of_pin ha.isActive e hpin).trans (Action.outcome?_bind_of_ok hclean _), ?_⟩
  rw [hcalls, calls_beginning]
  exact List.append_assoc _ _ _

theorem outcome?_begin (e : ε) {reply' : Reply} (h : d.reply .begin = .ok reply') :
    a.begin.outcome? (d, e) = some ((a.beginning d, e), .ok ()) := by
  have hpin := outcome?_pin (a := a) hacquire e
  rw [h] at hpin
  rw [begin, Action.outcome?_bind_of_ok (outcome?_state a d e)]
  dsimp only
  rw [ha.isActive]
  exact Action.outcome?_andThen_of hpin _

end Connected

end AdapterRef

/-! ## Work in a transaction of its own -/

/-- How work is given a transaction of its own on the database. -/
inductive DatabaseScoping where
  | transaction (a : AdapterRef)
  | unitOfWork (u : UnitOfWork AdapterRef)

namespace DatabaseScoping

open AdapterRef Driver

/-- The handle that the transaction is made from. -/
def handle : DatabaseScoping → AdapterRef
  | transaction a => a
  | unitOfWork u => u.database

/-- Does work in a transaction of its own. -/
def run (work : AdapterRef → Action (Driver × ε) α) : DatabaseScoping → Action (Driver × ε) α
  | transaction a => Database.transaction a work
  | unitOfWork u => u.within work

/-- The handle is in no transaction, and neither is the unit of work. -/
def Ready (d : Driver) (form : DatabaseScoping) : Prop :=
  (d.adapterState form.handle.number).isActive = false ∧
    match form with
    | transaction _ => True
    | unitOfWork u => ∀ h ∈ u.current, (d.adapterState h.number).isActive = false

/-- The end of a transaction after its work. -/
def conclude (inner : AdapterRef) (r : Outcome α) : DatabaseScoping → Action (Driver × ε) α
  | transaction _ => match r with
    | .ok a => do
      inner.commit
      return a
    | .error f => do
      UnitOfWork.quietly inner.rollback
      throw f
  | unitOfWork u => ({ u with current := some inner } : UnitOfWork AdapterRef).leave r

variable {form : DatabaseScoping} {d d' : Driver} {inner : AdapterRef}
  {work : AdapterRef → Action (Driver × ε) α}

theorem outcome?_isActive (a : AdapterRef) (e : ε) :
    (UnitOfWork.isActive ⟨a, some inner⟩ : Action (Driver × ε) Bool).outcome? (d, e) =
      some ((d, e), .ok (d.adapterState inner.number).isActive) := rfl

/-- A unit of work that is in no transaction begins one on its handle. -/
theorem outcome?_start {u : UnitOfWork AdapterRef}
    (hcurrent : ∀ h ∈ u.current, (d.adapterState h.number).isActive = false) (e : ε) :
    u.start.outcome? (d, e) = (Database.openScope u.database >>= fun h ↦
      pure { u with current := some h }).outcome? (d, e) := by
  have hactive : u.isActive.outcome? (d, e) = some ((d, e), .ok false) := by
    obtain ⟨database, current⟩ := u
    cases current with
    | none => rfl
    | some h =>
      rw [outcome?_isActive, hcurrent h rfl]
  rw [UnitOfWork.start, Action.outcome?_bind_of_ok hactive]
  rfl

/-- Where no transaction can be begun, no work is done. -/
theorem outcome?_run_error (hready : form.Ready d) {e : ε} {f : Fault}
    (h : (Database.openScope form.handle).outcome? (d, e) = some ((d', e), .error f)) :
    (form.run work).outcome? (d, e) = some ((d', e), .error f) := by
  cases form with
  | transaction a => exact Action.outcome?_bind_of_error h _
  | unitOfWork u =>
    refine Action.outcome?_bind_of_error ((outcome?_start hready.2 e).trans ?_) _
    exact Action.outcome?_bind_of_error h _

/-- Work is done on the handle of the transaction that was begun for it, and then this is ended. -/
theorem outcome?_run_ok (hready : form.Ready d) {e : ε}
    (h : (Database.openScope form.handle).outcome? (d, e) = some ((d', e), .ok inner))
    (hinner : (d'.adapterState inner.number).isActive = true) :
    (form.run work).outcome? (d, e) =
      ((work inner).andThen fun r ↦ form.conclude inner r).outcome? (d', e) := by
  cases form with
  | transaction a =>
    refine (Action.outcome?_bind_of_ok h _).trans (congrArg (Action.outcome? · _) ?_)
    refine congrArg (Action.andThen _) (funext fun r ↦ ?_)
    cases r <;> rfl
  | unitOfWork u =>
    have hstart : u.start.outcome? (d, e) =
        some ((d', e), .ok { u with current := some inner }) :=
      (outcome?_start hready.2 e).trans (Action.outcome?_bind_of_ok h _)
    have hhandle : (UnitOfWork.handle ⟨u.database, some inner⟩ :
        Action (Driver × ε) AdapterRef).outcome? (d', e) = some ((d', e), .ok inner) := by
      rw [UnitOfWork.handle, Action.outcome?_bind_of_ok (outcome?_isActive u.database e), hinner]
      rfl
    refine (Action.outcome?_bind_of_ok hstart _).trans ?_
    rw [Action.outcome?_andThen, Action.outcome?_bind_of_ok hhandle, ← Action.outcome?_andThen]
    rfl

/-! ## The end of the work -/

/-- The call by which a transaction is ended after its work. -/
def closing : Outcome α → Call
  | .ok _ => .commit
  | .error _ => .rollback

/-- What a transaction comes to after its work. -/
def ended (d : Driver) : Outcome α → Outcome α
  | .ok a => (d.told "commit_transaction" .commit).map fun _ ↦ a
  | .error f => .error f

section Conclude

variable {n : Nat} (hactive : (d.adapterState inner.number).isActive = true)
  (howed : (d.adapterState inner.number).owed = some n) (hd : d.Ordinary)
include hactive howed hd

theorem exists_commit (e : ε) : ∃ d', inner.commit.outcome? (d, e) =
    some ((d', e), d.told "commit_transaction" .commit) ∧
      d'.calls = d.calls ++ [.commit, .release n none] ∧
      (d'.adapterState inner.number).isActive = false := by
  obtain ⟨d', hfinish, hcalls, hover⟩ :=
    exists_finish howed hd "commit_transaction" .commit .commit e
  refine ⟨d', ?_, hcalls, hover⟩
  rw [commit, Action.outcome?_bind_of_ok (outcome?_state inner d e)]
  dsimp only
  rw [hactive]
  exact hfinish

/-- What goes wrong in a rollback is left away while a fault is on its way. -/
theorem exists_rollback_quietly {rollback : Action (Driver × ε) Unit} {e : ε}
    (hrollback : rollback.outcome? (d, e) = inner.rollback.outcome? (d, e)) :
    ∃ d', (UnitOfWork.quietly rollback).outcome? (d, e) = some ((d', e), .ok ()) ∧
      d'.calls = d.calls ++ [.rollback, .release n none] := by
  obtain ⟨d', hfinish, hcalls, -⟩ :=
    exists_finish howed hd "rollback_transaction" .rollback .rollback e
  have hordinary (f : Fault) (h : d.told "rollback_transaction" .rollback = .error f) :
      f.isOrdinary = true := by
    unfold told at h
    cases hreply : d.reply .rollback with
    | ok reply =>
      rw [hreply] at h
      cases h
    | error g =>
      rw [hreply] at h
      cases h
      have hg := hd.reply hreply
      unfold Fault.ofDriver
      split
      · unfold Fault.inOwnTerms
        split <;> rfl
      · exact hg
  refine ⟨d', ?_, hcalls⟩
  have htold : rollback.outcome? (d, e) =
      some ((d', e), d.told "rollback_transaction" .rollback) := by
    rw [hrollback, AdapterRef.rollback, Action.outcome?_bind_of_ok (outcome?_state inner d e),
      hactive]
    exact hfinish
  refine (Action.outcome?_andThen_of htold _).trans ?_
  cases h : d.told "rollback_transaction" .rollback with
  | ok _ => rfl
  | error f =>
    change Action.outcome? (if f.isOrdinary then pure () else throw f) _ = _
    rw [hordinary f h, if_pos rfl]
    rfl

/-- After work that has succeeded the transaction is committed, after work that has failed it is
rolled back, and then its connection is given back. -/
theorem exists_conclude (form : DatabaseScoping) (r : Outcome α) (e : ε) :
    ∃ d', (form.conclude inner r).outcome? (d, e) = some ((d', e), ended d r) ∧
      d'.calls = d.calls ++ [closing r, .release n none] := by
  cases r with
  | ok x =>
    obtain ⟨d', hcommit, hcalls, hover⟩ := exists_commit hactive howed hd e
    refine ⟨d', ?_, hcalls⟩
    cases form with
    | transaction a =>
      refine Eq.trans (Action.outcome?_andThen_of hcommit _) ?_
      rw [ended]
      cases d.told "commit_transaction" .commit <;> rfl
    | unitOfWork u =>
      have hunit : (UnitOfWork.commit ⟨u.database, some inner⟩ :
          Action (Driver × ε) Unit).outcome? (d, e) =
            some ((d', e), d.told "commit_transaction" .commit) := by
        rw [UnitOfWork.commit, Action.outcome?_bind_of_ok (outcome?_isActive u.database e),
          hactive]
        exact hcommit
      refine (Action.outcome?_andThen_of hunit _).trans ?_
      rw [ended]
      cases d.told "commit_transaction" .commit with
      | ok _ => rfl
      | error f =>
        -- a transaction whose commit has failed is over, so nothing is rolled back
        have hrollback : (UnitOfWork.quietly (UnitOfWork.rollback ⟨u.database, some inner⟩) :
            Action (Driver × ε) Unit).outcome? (d', e) = some ((d', e), .ok ()) := by
          have hnothing : (UnitOfWork.rollback ⟨u.database, some inner⟩ :
              Action (Driver × ε) Unit).outcome? (d', e) = some ((d', e), .ok ()) := by
            rw [UnitOfWork.rollback, Action.outcome?_bind_of_ok (outcome?_isActive u.database e),
              hover]
            rfl
          exact Action.outcome?_andThen_of hnothing _
        dsimp only
        split
        · exact Action.outcome?_bind_of_ok hrollback _
        · rfl
  | error f =>
    cases form with
    | transaction a =>
      obtain ⟨d', hquiet, hcalls⟩ := exists_rollback_quietly hactive howed hd (e := e) rfl
      exact ⟨d', Action.outcome?_bind_of_ok hquiet _, hcalls⟩
    | unitOfWork u =>
      have hunit : (UnitOfWork.rollback ⟨u.database, some inner⟩ :
          Action (Driver × ε) Unit).outcome? (d, e) = inner.rollback.outcome? (d, e) := by
        rw [UnitOfWork.rollback, Action.outcome?_bind_of_ok (outcome?_isActive u.database e),
          hactive]
        rfl
      obtain ⟨d', hquiet, hcalls⟩ := exists_rollback_quietly hactive howed hd hunit
      exact ⟨d', Action.outcome?_bind_of_ok hquiet _, hcalls⟩

end Conclude

/-! ## Discipline -/

/-- The adapter of the next transaction. -/
def ownAdapter (d : Driver) : AdapterRef := ⟨d.adapters.length⟩

/-- The driver with an adapter for a transaction, on the pool of the handle. -/
def provided (form : DatabaseScoping) (d : Driver) : Driver :=
  { d with adapters := d.adapters ++ [{ pool := (d.adapterState form.handle.number).pool }] }

theorem fresh_ownAdapter (form : DatabaseScoping) (d : Driver) :
    (ownAdapter d).Fresh (form.provided d) := by
  have hstate : (form.provided d).adapterState (ownAdapter d).number =
      { pool := (d.adapterState form.handle.number).pool } := by
    rw [adapterState, provided, ownAdapter, List.getElem?_concat_length]
    rfl
  exact ⟨by rw [hstate], by rw [hstate], by simp [provided, ownAdapter]⟩

/-- The driver once a transaction was begun for the work. -/
def begun (form : DatabaseScoping) (d : Driver) : Driver :=
  (ownAdapter d).beginning (form.provided d)

theorem outcome?_openScope (hready : form.Ready d) (e : ε) :
    (Database.openScope form.handle).outcome? (d, e) =
      ((ownAdapter d).begin >>= fun _ ↦ pure (ownAdapter d)).outcome? (form.provided d, e) := by
  have hinactive : (Database.inTransaction form.handle : Action (Driver × ε) Bool).outcome?
      (d, e) = some ((d, e), .ok false) := by
    rw [← hready.1]
    rfl
  rw [Database.openScope, Action.outcome?_bind_of_ok hinactive]
  rfl

theorem reply_provided (form : DatabaseScoping) (d : Driver) (p : Point) :
    (form.provided d).reply p = d.reply p :=
  reply_congr rfl

section Run

variable (hready : form.Ready d) (work : Work α) (e : ε) {f : Fault} {reply reply' : Reply}
include hready

/-- Where no connection can be borrowed, that is all. -/
theorem exists_run_of_no_connection (hacquire : d.reply .acquire = .error f) :
    ∃ d', (form.run work.act).outcome? (d, e) =
        some ((d', e), .error (f.ofDriver "begin_transaction")) ∧
      d'.calls = d.calls ++ [.acquire d.next] := by
  rw [← reply_provided form] at hacquire
  have hbegin := outcome?_begin_of_no_connection (fresh_ownAdapter form d) e hacquire
  have hrefused := (outcome?_openScope hready e).trans (Action.outcome?_bind_of_error hbegin _)
  exact ⟨_, outcome?_run_error hready hrefused, calls_replied⟩

/-- Where no transaction can be begun, the connection is given back. -/
theorem exists_run_of_refused (hd : d.Ordinary) (hacquire : d.reply .acquire = .ok reply)
    (hbegin : d.reply .begin = .error f) :
    ∃ d', (form.run work.act).outcome? (d, e) =
        some ((d', e), .error (f.ofDriver "begin_transaction")) ∧
      d'.calls = d.calls ++ [.acquire d.next, .begin, .release d.next none] := by
  have hprovided : (form.provided d).Ordinary := hd
  rw [← reply_provided form] at hacquire hbegin
  obtain ⟨d', hrefused, hcalls⟩ :=
    exists_begin_of_refused (fresh_ownAdapter form d) hacquire hprovided e hbegin
  have hrefused := (outcome?_openScope hready e).trans (Action.outcome?_bind_of_error hrefused _)
  exact ⟨d', outcome?_run_error hready hrefused, hcalls⟩

/-- In a transaction that was begun the work is done, and then the transaction is ended and the
connection given back. -/
theorem exists_run_of_begun (hd : d.Ordinary) (hacquire : d.reply .acquire = .ok reply)
    (hbegin : d.reply .begin = .ok reply') :
    ∃ d' after body statements,
      (form.run work.act).outcome? (d, e) = some ((d', e), ended d body) ∧
      (work.act (ownAdapter d)).outcome? (form.begun d, e) = some ((after, e), body) ∧
      ((form.begun d).adapterState (ownAdapter d).number).pinned = some d.next ∧
      (after.adapterState (ownAdapter d).number).pinned = some d.next ∧
      (form.begun d).calls = d.calls ++ [.acquire d.next, .begin] ∧
      after.calls = (form.begun d).calls ++ statements ∧
      (∀ c ∈ statements, c.isExecute = true) ∧
      d'.calls = after.calls ++ [closing body, .release d.next none] := by
  have hfresh := fresh_ownAdapter form d
  rw [← reply_provided form] at hacquire hbegin
  have hopened : (Database.openScope form.handle).outcome? (d, e) =
      some ((form.begun d, e), .ok (ownAdapter d)) := (outcome?_openScope hready e).trans
    (Action.outcome?_bind_of_ok (outcome?_begin hfresh hacquire e hbegin) _)
  have hadapter : (form.begun d).adapterState (ownAdapter d).number = _ :=
    adapterState_beginning hfresh
  have hpinned : ((form.begun d).adapterState (ownAdapter d).number).pinned = some d.next := by
    rw [hadapter]
    rfl
  obtain ⟨after, body, hbody, hran⟩ :=
    work.confined_act (a := ownAdapter d) (form.begun d) e (by rw [hpinned]; rfl)
  -- the work leaves the adapter as it was
  have hafter : after.adapterState (ownAdapter d).number = _ :=
    (congrArg (fun as ↦ as[(ownAdapter d).number]?.getD default) hran.adapters).trans hadapter
  have hordinary : after.Ordinary := hd.of_subset fun p ↦
    List.Subset.trans (hran.subset p) (script_beginning_subset (d := form.provided d) p)
  obtain ⟨d', hconclude, hcalls⟩ := exists_conclude (by rw [hafter]; rfl)
    (by rw [hafter]; rfl) hordinary form body e
  obtain ⟨statements, hstatements, hall⟩ := hran.calls
  have hcommit : after.reply .commit = d.reply .commit := by
    refine reply_congr ((hran.script .commit nofun nofun nofun).trans ?_)
    exact script_beginning (d := form.provided d) .commit nofun nofun
  have hended : ended after body = ended d body := by
    cases body with
    | ok x => rw [ended, ended, told, told, hcommit]
    | error f => rfl
  rw [hended] at hconclude
  have hrun : (form.run work.act).outcome? (d, e) = _ :=
    outcome?_run_ok hready hopened (by rw [hadapter]; rfl)
  exact ⟨d', after, body, statements,
    hrun.trans ((Action.outcome?_andThen_of hbody _).trans hconclude), hbody, hpinned,
    by rw [hafter]; rfl, calls_beginning, hstatements, hall, hcalls⟩

end Run

/-- However work is given a transaction of its own and whatever the driver says, one connection is
borrowed.  If there is one, it is given back last of all, and if a transaction has begun on it, the
calls in between are the statements of the work and one end, a commit exactly if the work has
succeeded; all the while the adapter of the work has that connection pinned.  A fault of the work is
what the transaction fails with, and a commit that fails is told in the library's own terms. -/
theorem disciplined (form : DatabaseScoping) (work : Work α) {w : World (Driver × ε)} {d : Driver}
    {e : ε} (hstate : w.state = (d, e)) (hready : form.Ready d) (hd : d.Ordinary) :
    ∃ d' r, (∀ id k, w.advance id ((form.run work.act).andThen k) =
        ({ w with state := (d', e) } : World _).advance id (k r)) ∧
      match d.reply .acquire, d.reply .begin with
      | .error f, _ => d'.calls = d.calls ++ [.acquire d.next] ∧
          r = .error (f.ofDriver "begin_transaction")
      | .ok _, .error f =>
          d'.calls = d.calls ++ [.acquire d.next, .begin, .release d.next none] ∧
          r = .error (f.ofDriver "begin_transaction")
      | .ok _, .ok _ => ∃ after body statements,
          (work.act (ownAdapter d)).outcome? (form.begun d, e) = some ((after, e), body) ∧
          ((form.begun d).adapterState (ownAdapter d).number).pinned = some d.next ∧
          (after.adapterState (ownAdapter d).number).pinned = some d.next ∧
          (form.begun d).calls = d.calls ++ [.acquire d.next, .begin] ∧
          after.calls = (form.begun d).calls ++ statements ∧
          (∀ c ∈ statements, c.isExecute = true) ∧
          d'.calls = after.calls ++ [closing body, .release d.next none] ∧
          r = ended d body := by
  have hadvance {d' : Driver} {r : Outcome α}
      (h : (form.run work.act).outcome? (d, e) = some ((d', e), r)) (id : TaskId)
      (k : Outcome α → Action (Driver × ε) Unit) :
      w.advance id ((form.run work.act).andThen k) =
        ({ w with state := (d', e) } : World _).advance id (k r) :=
    World.advance_of_outcome? (by rw [hstate]; exact h) id k
  cases hacquire : d.reply .acquire with
  | error f =>
    obtain ⟨d', hrun, hcalls⟩ := exists_run_of_no_connection hready work e hacquire
    exact ⟨d', _, hadvance hrun, hcalls, rfl⟩
  | ok reply =>
    cases hbegin : d.reply .begin with
    | error f =>
      obtain ⟨d', hrun, hcalls⟩ := exists_run_of_refused hready work e hd hacquire hbegin
      exact ⟨d', _, hadvance hrun, hcalls, rfl⟩
    | ok reply' =>
      obtain ⟨d', after, body, statements, hrun, hbody, hpinned, hkept, hbegun, hstatements, hall,
        hcalls⟩ := exists_run_of_begun hready work e hd hacquire hbegin
      exact ⟨d', _, hadvance hrun, after, body, statements, hbody, hpinned, hkept, hbegun,
        hstatements, hall, hcalls, rfl⟩

/-- A transaction that runs one statement and then fails, while the driver refuses to roll it back
and to take its connection back. -/
theorem disciplined_failing :
    let refusal : Fault := .external (.driver .connectivity "OperationalError") none none
    let fault : Fault := .external (.other "RuntimeError") none none
    let d : Driver := {
      script := fun p ↦ if p = .rollback ∨ p = .release then [.fail refusal] else []
      adapters := [{ pool := 0 }] }
    let work : Work Unit :=
      .call (.execute [.sql "SELECT 1" (.tuple [])]) fun _ ↦ .done (.error fault)
    let w : World (Driver × Unit) := .ofState (d, ())
    ∃ d', (∀ id k, w.advance id
        (((DatabaseScoping.transaction ⟨0⟩).run work.act).andThen k) =
          ({ w with state := (d', ()) } : World _).advance id (k (.error fault))) ∧
      d'.calls =
        [.acquire 1, .begin, .execute "SELECT 1" (some []), .rollback, .release 1 none] := by
  intro refusal fault d work w
  have hordinary : d.Ordinary := by
    intro p f hf
    change Reply.fail f ∈ (if p = .rollback ∨ p = .release then [.fail refusal] else []) at hf
    split at hf
    · cases List.mem_singleton.mp hf
      rfl
    · cases hf
  obtain ⟨d', r, hadvance, after, body, statements, hbody, -, -, -, -, -, hcalls, rfl⟩ :=
    disciplined (.transaction ⟨0⟩) work (w := w) rfl ⟨rfl, trivial⟩ hordinary
  have hwork : (work.act (ownAdapter d)).outcome? ((DatabaseScoping.transaction ⟨0⟩).begun d, ()) =
      some ((_, ()), .error fault) := rfl
  rw [hbody] at hwork
  cases hwork
  exact ⟨d', hadvance, hcalls⟩

end DatabaseScoping

end RecordStore
