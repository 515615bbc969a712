import RecordStore.Proofs.Memory.Conversion
import RecordStore.Proofs.Memory.Likeness

/-!
# When rows are converted

Nobody can tell whether the rows of a table that were written before its shape was declared have
been converted since, as long as no other shape is asked for or declared of it.  Whatever tasks do
to the one store and to the other, through any handles and in any order, they are answered alike.

* `Memory.Alike` says that two memories cannot be told apart, the beginnings of their transactions
  included, and `Action.Unaware` that an action does the same on both.
* `Caller.Keeps` says that a task asks for no other shape, and `Caller.unaware_task` that it is
  unaware then.
* `World.conversion_unseen` is the statement above.
-/

namespace RecordStore

open Outcome

variable {ε α : Type} {table : String} {fields : Shape}

/-! ## Memories -/

/-- Two transactions that cannot be told apart. -/
structure Scope.Alike (table : String) (fields : Shape) (s s' : Scope) : Prop where
  checkpoint : s.checkpoint.Alike table fields s'.checkpoint
  isActive : s'.isActive = s.isActive

namespace Memory

/-- Two memories that cannot be told apart where the table has the shape. -/
structure Alike (table : String) (fields : Shape) (m m' : Memory) : Prop where
  store : m.store.Alike table fields m'.store
  owner : m'.owner = m.owner
  scopes : List.Forall₂ (Scope.Alike table fields) m.scopes m'.scopes

/-- Two memories that cannot be told apart, with the same beside them. -/
def SharedAlike (table : String) (fields : Shape) (p p' : Memory × ε) : Prop :=
  p.1.Alike table fields p'.1 ∧ p'.2 = p.2

namespace Alike

variable {m m' : Memory} (h : m.Alike table fields m')
include h

theorem isActive_eq (handle : MemoryHandle) : m'.isActive handle = m.isActive handle := by
  cases handle with
  | shared => rfl
  | inScope n =>
    rw [isActive, isActive]
    rcases forall₂_getElem? h.scopes n with ⟨hs, hs'⟩ | ⟨s, s', hs, hs', hscope⟩
    · rw [hs, hs']
    · rw [hs, hs']
      exact hscope.isActive

theorem opened (id : TaskId) : (m.opened id).Alike table fields (m'.opened id) where
  store := h.store
  owner := rfl
  scopes := List.rel_append h.scopes (.cons ⟨h.store.checkpoint, rfl⟩ .nil)

theorem ended (n : Nat) : (m.ended n).Alike table fields (m'.ended n) where
  store := h.store
  owner := rfl
  scopes := forall₂_modify h.scopes n fun _ _ hs ↦ ⟨hs.checkpoint, rfl⟩

/-- What a transaction found when it began cannot be told apart either. -/
theorem restored (n : Nat) : (m.restored n).Alike table fields (m'.restored n) := by
  rw [Memory.restored, Memory.restored]
  rcases forall₂_getElem? h.scopes n with ⟨hs, hs'⟩ | ⟨s, s', hs, hs', hscope⟩
  · rw [hs, hs']
    exact h
  · rw [hs, hs']
    exact { h with store := h.store.restore hscope.checkpoint }

end Alike

end Memory

/-! ## Calls -/

section Keeps

variable (table : String) (fields : Shape)

/-- What the documents are asked for is in no other shape of the table. -/
def Verb.Keeps : Verb → Prop
  | .fetch src _ _ | .any src _ | .count src _ | .insert src _ | .update src _ _ | .delete src _ =>
    src.Keeps table fields
  | .execute _ => True

/-- What the store is asked for, or told, is no other shape of the table. -/
def StoreCall.Keeps : StoreCall → Prop
  | .rows name asked | .declareShape name asked => name = table → asked = [] ∨ asked = fields
  | _ => True

def HandleCall.Keeps : HandleCall → Prop
  | .verb v => v.Keeps table fields
  | _ => True

/-- A task asks for no other shape of the table, whatever it is answered. -/
def Caller.Keeps {ρ : Type} : Caller ε ρ → Prop
  | .done _ => True
  | .see next => ∀ e, (next e).Keeps
  | .set _ next => next.Keeps
  | .self next => ∀ i, (next i).Keeps
  | .ends next => ∀ es, (next es).Keeps
  | .ask _ _ next => ∀ r, (next r).Keeps
  | .start work next => work.Keeps ∧ ∀ id, (next id).Keeps
  | .store c next => c.Keeps table fields ∧ ∀ r, (next r).Keeps
  | .call _ c next => c.Keeps table fields ∧ ∀ r, (next r).Keeps
  | .transaction _ work next => (∀ scope, (work scope).Keeps) ∧ ∀ r, (next r).Keeps

end Keeps

section Runs

variable {s s' : Store} (h : s.Alike table fields s')
include h

theorem Verb.run_alike {v : Verb} (hv : v.Keeps table fields) :
    Store.AnswerAlike table fields (v.run s) (v.run s') := by
  cases v with
  | fetch src q locked => exact ⟨h, by rw [Verb.run, Verb.run, h.sourceRecords?_eq hv]⟩
  | any src f => exact ⟨h, by rw [Verb.run, Verb.run, h.sourceRecords?_eq hv]⟩
  | count src f => exact ⟨h, by rw [Verb.run, Verb.run, h.sourceRecords?_eq hv]⟩
  | insert src r => exact ((h.declare hv).insert src.table r).map _
  | update src f r =>
    have hdeclared := h.declare hv
    exact (hdeclared.effect (hdeclared.update?_agree src.table f r.values)).map _
  | delete src f =>
    have hdeclared := h.declare hv
    exact (hdeclared.effect (hdeclared.delete?_agree src.table f)).map _
  | execute ws => exact (h.batch ws).map _

theorem TableCall.make_alike (c : TableCall) :
    Store.AnswerAlike table fields (c.make s) (c.make s') := by
  cases c with
  | insert name r => exact (h.insert name r).map _
  | update name f values =>
    have hupdated := h.update?_agree name f values
    rw [make, make]
    revert hupdated
    generalize s.update? name f values = x
    generalize s'.update? name f values = y
    rintro (hstores | g)
    · exact ⟨hstores.1, congrArg (Except.ok <| some ·) hstores.2⟩
    · exact ⟨h, rfl⟩
  | delete name f =>
    have hdeleted := h.delete?_agree name f
    rw [make, make]
    revert hdeleted
    generalize s.delete? name f = x
    generalize s'.delete? name f = y
    rintro (hstores | g)
    · exact ⟨hstores.1, congrArg (Except.ok <| some ·) hstores.2⟩
    · exact ⟨h, rfl⟩

theorem StoreCall.run_alike {c : StoreCall} (hc : c.Keeps table fields) :
    Store.AnswerAlike table fields (c.run s) (c.run s') := by
  cases c with
  | rows name asked => exact ⟨h, by rw [run, run, h.records?_eq hc]⟩
  | snapshot => exact ⟨h, by rw [run, run, h.snapshot?_eq]⟩
  | shape name => exact ⟨h, by rw [run, run, h.shape?_eq]⟩
  | declareKey name key => exact ⟨h.declareKey name key, rfl⟩
  | declareShape name asked => exact ⟨h.declareShape hc, rfl⟩
  | write c => exact (c.make_alike h).map _

end Runs

/-! ## Actions -/

namespace Action

/-- The action does the same on memories that cannot be told apart. -/
def Unaware (table : String) (fields : Shape) (a : Action (Memory × ε) α) : Prop :=
  a.Alike (Memory.SharedAlike table fields) a

end Action

namespace Memory

/-- Handles see neither the store nor when its rows were converted. -/
theorem likeness_sharedAlike :
    Likeness (SharedAlike table fields : Memory × ε → Memory × ε → Prop) where
  isActive hp h := hp.1.isActive_eq h
  owner hp := hp.1.owner
  length hp := hp.1.scopes.length_eq.symm
  beside hp := hp.2
  opened hp id := ⟨hp.1.opened id, hp.2⟩
  ended hp n := ⟨hp.1.ended n, hp.2⟩
  restored hp n := ⟨hp.1.restored n, hp.2⟩
  set hp _ := ⟨hp.1, rfl⟩

theorem respects_sharedAlike {f : Store → Store × Outcome α}
    (hf : ∀ s s', s.Alike table fields s' → Store.AnswerAlike table fields (f s) (f s')) :
    Respects (SharedAlike table fields : Memory × ε → Memory × ε → Prop) f := by
  intro p p' hp
  obtain ⟨hstores, hanswers⟩ := hf _ _ hp.1.store
  exact ⟨hanswers, { hp.1 with store := hstores }, hp.2⟩

end Memory

theorem HandleCall.Keeps.respects {c : HandleCall} (hc : c.Keeps table fields) :
    c.Respects (Memory.SharedAlike table fields : Memory × ε → Memory × ε → Prop) := by
  cases c with
  | verb v => exact Memory.respects_sharedAlike fun _ _ hs ↦ v.run_alike hs hc
  | _ => trivial

namespace Caller

variable {ρ : Type}

theorem Keeps.respects {c : Caller ε ρ} (hc : c.Keeps table fields) :
    c.Respects (Memory.SharedAlike table fields) := by
  induction c with
  | done r => trivial
  | see next ih => exact fun e ↦ ih e (hc e)
  | set e next ih => exact ih hc
  | self next ih => exact fun i ↦ ih i (hc i)
  | ends next ih => exact fun es ↦ ih es (hc es)
  | ask q free next ih => exact fun r ↦ ih r (hc r)
  | start work next ihwork ih => exact ⟨ihwork hc.1, fun id ↦ ih id (hc.2 id)⟩
  | store c next ih =>
    exact ⟨Memory.respects_sharedAlike fun _ _ hs ↦ c.run_alike hs hc.1, fun r ↦ ih r (hc.2 r)⟩
  | call h c next ih => exact ⟨hc.1.respects, fun r ↦ ih r (hc.2 r)⟩
  | transaction h work next ihwork ih =>
    exact ⟨fun scope ↦ ihwork scope (hc.1 scope), fun r ↦ ih r (hc.2 r)⟩

/-- A task that asks for no other shape cannot tell which rows were converted. -/
theorem unaware_task {c : Caller ε ρ} (hc : c.Keeps table fields) :
    c.task.Unaware table fields :=
  alike_task Memory.likeness_sharedAlike hc.respects

end Caller

/-- What a task is given to do that asks for no other shape of the table. -/
def Action.KeepsShape (table : String) (fields : Shape) (a : Action (Memory × ε) Unit) : Prop :=
  ∃ (ρ : Type) (c : Caller ε ρ), c.Keeps table fields ∧ a = c.task

theorem Action.KeepsShape.unaware {a : Action (Memory × ε) Unit} (h : a.KeepsShape table fields) :
    a.Unaware table fields := by
  obtain ⟨ρ, c, hc, rfl⟩ := h
  exact c.unaware_task hc

namespace World

/-- Whether the rows of a table are converted at once or wait for it is never seen.  Whatever tasks
do to the store and to the one in which the table was converted: what they have in common and what
they end with is the same, they wait for the same, and every call is answered alike. -/
theorem conversion_unseen {m : Memory} (hshape : m.store.shape? table = some fields) (e : ε)
    {xs : List (Happening (Memory × ε))}
    (hxs : ∀ x ∈ xs, x.Gives (Action.KeepsShape table fields)) :
    let w := xs.foldl after (.ofState (m, e))
    let w' := xs.foldl after (.ofState ({ m with store := m.store.conformed table }, e))
    w'.state.2 = w.state.2 ∧ w'.tasks.map Progress.ending = w.tasks.map Progress.ending ∧
      w'.lock = w.lock ∧ w'.queue = w.queue ∧ w'.ready = w.ready ∧
      (∀ v : Verb, v.Keeps table fields → (v.run w'.memory.store).2 = (v.run w.memory.store).2) ∧
      ∀ c : StoreCall, c.Keeps table fields →
        (c.run w'.memory.store).2 = (c.run w.memory.store).2 := by
  intro w w'
  have hmemory : m.Alike table fields { m with store := m.store.conformed table } :=
    ⟨Store.alike_conformed hshape, rfl, List.forall₂_same.mpr fun s _ ↦
      ⟨⟨.refl _ _ _, rfl⟩, rfl⟩⟩
  have hstart : (ofState (m, e)).InStep (Memory.SharedAlike table fields)
      (ofState ({ m with store := m.store.conformed table }, e)) := .ofState ⟨hmemory, rfl⟩
  have hend : w.InStep (Memory.SharedAlike table fields) w' :=
    hstart.foldl_after fun x hx ↦ (hxs x hx).mono fun _ ha ↦ ha.unaware
  clear_value w w'
  cases hend with
  | intro hstate htasks =>
    exact ⟨hstate.2, Progress.endings_eq htasks, rfl, rfl, rfl,
      fun v hv ↦ (v.run_alike hstate.1.store hv).2, fun c hc ↦ (c.run_alike hstate.1.store hc).2⟩

/-- Prices, one of which was written as an integer before the shape was declared. -/
def prices : Store where
  tables := [("prices", [⟨1, ⟨[("price", ⟨.integer, .integer 5⟩)], []⟩, []⟩])]
  shapes := [("prices", [("price", .decimal)])]
  lastRow := 1

/-- Makes a hook write, and tells the others the prices that there are then. -/
def pricing : Caller (Option (Outcome HandleCall.Reply)) Unit :=
  .call .shared (.verb (.execute [.insert "prices" [("price", .integer 7)]])) fun _ ↦
    .call .shared (.verb (.fetch ⟨"prices", [("price", .decimal)], [], none⟩ {} false)) fun r ↦
      .set (some r) (.done (.ok ()))

/-- That task is started, and runs until it ends. -/
def pricingDone : List (Happening (Memory × Option (Outcome HandleCall.Reply))) :=
  .start (fun _ ↦ pricing.task) :: List.replicate 7 (.take 0)

/-- The integer is converted in one store and waits in the other; both tell two prices. -/
theorem conversion_unseen_prices :
    let w := pricingDone.foldl after (.ofState ({ store := prices }, none))
    let w' := pricingDone.foldl after (.ofState ({ store := prices.conformed "prices" }, none))
    let kinds := fun (s : Store) ↦
      (s.rowsOf "prices").map fun row ↦ (row.record.valueOrNull "price").kind
    prices.shape? "prices" = some [("price", .decimal)] ∧
      (∀ x ∈ pricingDone, x.Gives (Action.KeepsShape "prices" [("price", .decimal)])) ∧
      kinds prices = [.integer] ∧ kinds (prices.conformed "prices") = [.decimal] ∧
      (∃ rs, w.state.2 = some (.ok (.verb (.records rs))) ∧ rs.length = 2) ∧
      w'.state.2 = w.state.2 := by
  have hkeeps : pricing.Keeps "prices" [("price", .decimal)] :=
    ⟨trivial, fun _ ↦ ⟨fun _ ↦ .inr rfl, fun _ ↦ trivial⟩⟩
  have hgives : ∀ x ∈ pricingDone, x.Gives (Action.KeepsShape "prices" [("price", .decimal)]) := by
    intro x hx
    rcases List.mem_cons.mp hx with rfl | hx
    · exact fun _ ↦ ⟨Unit, pricing, hkeeps, rfl⟩
    · rw [List.eq_of_mem_replicate hx]
      trivial
  refine ⟨rfl, hgives, rfl, rfl, ⟨_, rfl, rfl⟩, ?_⟩
  exact (conversion_unseen (m := { store := prices }) rfl none hgives).1

end World

end RecordStore
