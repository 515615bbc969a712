import RecordStore.Proofs.Memory.Caller
import RecordStore.Proofs.Task.Lockstep

/-!
# Memories that handles cannot tell apart

Take a relation of memories that no handle can see, and that the beginning, the end and the undoing
of a transaction keep.  If the calls of a task keep it too, and are answered alike, then the task
does the same on both memories, whatever handles it uses and however its transactions end.

* `Memory.Likeness` says this of a relation, `Store.Respects` of what is done to a store.
* `Caller.Respects` says it of all calls that a task may make, and `Caller.alike_act` is the
  statement above.
-/

namespace RecordStore

variable {ε α : Type}

/-! ## The relation -/

namespace Memory

/-- Handles see nothing of the relation between two memories, and what lies beside them is the same.
Whatever becomes of the transactions keeps it. -/
structure Likeness (R : Memory × ε → Memory × ε → Prop) : Prop where
  isActive {p p' : Memory × ε} (hp : R p p') (h : MemoryHandle) : p'.1.isActive h = p.1.isActive h
  owner {p p' : Memory × ε} (hp : R p p') : p'.1.owner = p.1.owner
  length {p p' : Memory × ε} (hp : R p p') : p'.1.scopes.length = p.1.scopes.length
  beside {p p' : Memory × ε} (hp : R p p') : p'.2 = p.2
  opened {p p' : Memory × ε} (hp : R p p') (id : TaskId) :
    R (p.1.opened id, p.2) (p'.1.opened id, p'.2)
  ended {p p' : Memory × ε} (hp : R p p') (n : Nat) : R (p.1.ended n, p.2) (p'.1.ended n, p'.2)
  restored {p p' : Memory × ε} (hp : R p p') (n : Nat) :
    R (p.1.restored n, p.2) (p'.1.restored n, p'.2)
  set {p p' : Memory × ε} (hp : R p p') (e : ε) : R (p.1, e) (p'.1, e)

/-- What is done to the stores of related memories keeps the relation, and is answered alike. -/
def Respects (R : Memory × ε → Memory × ε → Prop) (f : Store → Store × Outcome α) : Prop :=
  ∀ p p' : Memory × ε, R p p' → (f p'.1.store).2 = (f p.1.store).2 ∧
    R ({ p.1 with store := (f p.1.store).1 }, p.2) ({ p'.1 with store := (f p'.1.store).1 }, p'.2)

end Memory

open Memory (Respects)

section Respects

variable (R : Memory × ε → Memory × ε → Prop)

/-- What the call does to the store, if anything, respects the relation. -/
def HandleCall.Respects : HandleCall → Prop
  | .verb v => Memory.Respects R fun s ↦ v.run s
  | _ => True

/-- All calls of the task respect the relation, whatever it is answered. -/
def Caller.Respects {ρ : Type} : Caller ε ρ → Prop
  | .done _ => True
  | .see next => ∀ e, (next e).Respects
  | .set _ next => next.Respects
  | .self next => ∀ i, (next i).Respects
  | .ends next => ∀ es, (next es).Respects
  | .ask _ _ next => ∀ r, (next r).Respects
  | .start work next => work.Respects ∧ ∀ id, (next id).Respects
  | .store c next => (Memory.Respects R fun s ↦ c.run s) ∧ ∀ r, (next r).Respects
  | .call _ c next => c.Respects R ∧ ∀ r, (next r).Respects
  | .transaction _ work next => (∀ scope, (work scope).Respects) ∧ ∀ r, (next r).Respects

end Respects

variable {R : Memory × ε → Memory × ε → Prop}

/-! ## What is done to the store -/

theorem Action.alike_onStore {f : Store → Store × Outcome α} (hf : Respects R f) :
    (onShared fun m ↦ ({ m with store := (f m.store).1 }, (f m.store).2) :
      Action (Memory × ε) α).Alike R
      (onShared fun m ↦ ({ m with store := (f m.store).1 }, (f m.store).2)) := by
  refine .look fun p p' hp ↦ ?_
  obtain ⟨hanswers, hstores⟩ := hf p p' hp
  rw [hanswers]
  exact .put hstores (.done _)

/-! ## Handles -/

namespace Memory

variable (hR : Likeness R)
include hR

theorem Likeness.ownsLock {p p' : Memory × ε} (hp : R p p') (id : TaskId) :
    p'.1.ownsLock id = p.1.ownsLock id := by
  rw [Memory.ownsLock, Memory.ownsLock, hR.owner hp]

theorem alike_accessing {x : Action (Memory × ε) α} (hx : x.Alike R x) (mode : Mode)
    (h : MemoryHandle) : (accessing mode h x).Alike R (accessing mode h x) := by
  cases h with
  | inScope n =>
    rw [accessing_inScope]
    refine .look fun p p' hp ↦ ?_
    rw [hR.isActive hp]
    split
    · exact hx
    · exact .done _
  | shared =>
    rw [accessing_shared]
    refine .look fun p p' hp ↦ .self fun id ↦ ?_
    rw [hR.ownsLock hp]
    split
    · exact .done _
    · rw [← Action.holding_eq]
      exact hx.holding mode

theorem alike_begun (id : TaskId) (r : Outcome Unit) :
    (begun id r : Action (Memory × ε) MemoryHandle).Alike R (begun id r) := by
  cases r with
  | ok _ =>
    let rest (n : Nat) : Action (Memory × ε) MemoryHandle :=
      .look fun p ↦ .put (p.1.opened id, p.2) (.done (.ok (.inScope n)))
    refine .look fun p p' hp ↦ ?_
    change (rest p.1.scopes.length).Alike _ (rest p'.1.scopes.length)
    rw [hR.length hp]
    exact .look fun _ _ hq ↦ .put (hR.opened hq id) (.done _)
  | error f => exact .done _

theorem alike_openScope (h : MemoryHandle) :
    (openScope h : Action (Memory × ε) MemoryHandle).Alike R (openScope h) := by
  cases h with
  | inScope n =>
    rw [openScope_inScope]
    refine .look fun p p' hp ↦ ?_
    rw [hR.isActive hp]
    split
    · exact .self fun _ ↦ .done _
    · exact .done _
  | shared =>
    rw [openScope_shared]
    refine .look fun p p' hp ↦ .self fun id ↦ ?_
    rw [hR.ownsLock hp]
    split
    · exact .done _
    · exact .ask _ (alike_begun hR id)

theorem alike_inTransaction (h : MemoryHandle) :
    (inTransaction h : Action (Memory × ε) Bool).Alike R (inTransaction h) := by
  refine .look fun p p' hp ↦ ?_
  change Action.Alike _ (.done (.ok (p.1.isActive h))) (.done (.ok (p'.1.isActive h)))
  rw [hR.isActive hp]
  exact .done _

theorem alike_close (n : Nat) : (close n : Action (Memory × ε) Unit).Alike R (close n) :=
  .look fun _ _ hp ↦ .put (hR.ended hp n) (.ask _ .done)

theorem alike_commit (h : MemoryHandle) :
    (commit h : Action (Memory × ε) Unit).Alike R (commit h) := by
  refine Action.Alike.bind (alike_inTransaction hR h) fun active ↦ ?_
  cases active with
  | false => exact .done _
  | true =>
    cases h with
    | shared => exact .done _
    | inScope n => exact alike_close hR n

theorem alike_rollback (h : MemoryHandle) :
    (rollback h : Action (Memory × ε) Unit).Alike R (rollback h) := by
  refine Action.Alike.bind (alike_inTransaction hR h) fun active ↦ ?_
  cases active with
  | false => exact .done _
  | true =>
    cases h with
    | shared => exact .done _
    | inScope n => exact .look fun _ _ hp ↦ .put (hR.restored hp n) (alike_close hR n)

theorem alike_conclude (scope : MemoryHandle) (r : Outcome α) :
    (conclude scope r : Action (Memory × ε) α).Alike R (conclude scope r) := by
  cases r with
  | ok a => exact Action.Alike.bind (alike_commit hR scope) fun _ ↦ .done _
  | error f => exact Action.Alike.bind (alike_rollback hR scope) fun _ ↦ .done _

/-- The work of a transaction does the same on both memories, and so does what follows it. -/
theorem alike_transaction (h : MemoryHandle) {work : MemoryHandle → Action (Memory × ε) α}
    (hwork : ∀ scope, (work scope).Alike R (work scope)) :
    (transaction h work).Alike R (transaction h work) := by
  rw [transaction_eq]
  exact Action.Alike.bind (alike_openScope hR h) fun scope ↦
    (hwork scope).andThen fun r ↦ alike_conclude hR scope r

end Memory

section Calls

variable (hR : Memory.Likeness R)
include hR

theorem Verb.alike_call {v : Verb} (hv : Respects R fun s ↦ v.run s) (h : MemoryHandle) :
    (v.call h : Action (Memory × ε) Verb.Reply).Alike R (v.call h) := by
  have haccess : (Memory.accessing v.mode h v.body : Action (Memory × ε) Verb.Reply).Alike R
      (Memory.accessing v.mode h v.body) :=
    Memory.alike_accessing hR (Action.alike_onStore hv) v.mode h
  rw [Verb.call_eq]
  cases v with
  | fetch src q locked =>
    refine .look fun p p' hp ↦ ?_
    rw [hR.isActive hp]
    split
    · exact .done _
    · exact haccess
  | _ =>
    dsimp only
    split
    · exact .done _
    · exact haccess

theorem HandleCall.alike_act {c : HandleCall} (hc : c.Respects R) (h : MemoryHandle) :
    (c.act h : Action (Memory × ε) HandleCall.Reply).Alike R (c.act h) := by
  cases c with
  | verb v => exact Action.Alike.bind (v.alike_call hR hc h) fun _ ↦ .done _
  | inTransaction => exact Action.Alike.bind (Memory.alike_inTransaction hR h) fun _ ↦ .done _
  | openScope => exact Action.Alike.bind (Memory.alike_openScope hR h) fun _ ↦ .done _
  | commit => exact Action.Alike.bind (Memory.alike_commit hR h) fun _ ↦ .done _
  | rollback => exact Action.Alike.bind (Memory.alike_rollback hR h) fun _ ↦ .done _

namespace Caller

variable {ρ : Type}

/-- A task whose calls respect the relation does the same on both memories. -/
theorem alike_act {c : Caller ε ρ} (hc : c.Respects R) : c.act.Alike R c.act := by
  induction c with
  | done r => exact .done r
  | see next ih =>
    refine .look fun p p' hp ↦ ?_
    rw [hR.beside hp]
    exact ih p.2 (hc p.2)
  | set e next ih => exact .look fun _ _ hp ↦ .put (hR.set hp e) (ih hc)
  | self next ih => exact .self fun id ↦ ih id (hc id)
  | ends next ih => exact .ends fun es ↦ ih es (hc es)
  | ask q free next ih => exact .ask q fun r ↦ ih r (hc r)
  | start work next ihwork ih =>
    exact Action.Alike.bind ((ihwork hc.1).andThen fun _ ↦ .done _).start fun id ↦ ih id (hc.2 id)
  | store c next ih => exact (Action.alike_onStore hc.1).andThen fun r ↦ ih r (hc.2 r)
  | call h c next ih => exact (c.alike_act hR hc.1 h).andThen fun r ↦ ih r (hc.2 r)
  | transaction h work next ihwork ih =>
    exact (Memory.alike_transaction hR h fun scope ↦ ihwork scope (hc.1 scope)).andThen
      fun r ↦ ih r (hc.2 r)

theorem alike_task {c : Caller ε ρ} (hc : c.Respects R) : c.task.Alike R c.task :=
  (alike_act hR hc).andThen fun _ ↦ .done _

end Caller

end Calls

end RecordStore
