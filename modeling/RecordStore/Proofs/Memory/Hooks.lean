import RecordStore.Proofs.Memory.Atomicity
import RecordStore.Repository

/-!
# Writes with hooks

A repository makes a primary write and then the writes that its hook asks for.  With the shared
handle of the in-memory store all of them happen or none: a call that fails leaves the records of
every table as they were, and one that succeeds leaves what the primary write and then every
statement, one after another, have made of them.

* `Store.Settled` says what has become of a batch, and `Store.settled_batch` that it always has.
* `RepositoryCall` is a call that writes, and `RepositoryCall.Makes` is what it is to make of the
  documents.
* `Client.OnlyCalls` is work that ends in the turn in which it begins, and `Client.hooked` is the
  work of a call with a hook, which ends in one of the ways of `Client.HookedEnd`.
* `RepositoryCall.all_or_nothing` is the statement above.
-/

namespace RecordStore

open Outcome

variable {α β ε η : Type}

namespace Store

/-- Write statements lead from documents to documents, one after another. -/
def Applies (s : Store) : List WriteStatement → Store → Prop
  | [], s' => s = s'
  | w :: ws, s' => ∃ s₁, s.write w = (s₁, .ok ()) ∧ s₁.Applies ws s'

variable {s s' : Store} {ws : List WriteStatement} {r : Outcome Unit}

/-- A call that changes all or nothing has changed nothing where it fails. -/
theorem effect_eq_error {next : Outcome (Store × Nat)} {f : Fault}
    (h : s.effect next = (s', .error f)) : s' = s := by
  cases next with
  | ok p => cases h
  | error g =>
    cases h
    rfl

/-- An insertion that fails has changed no table. -/
theorem tables_insert_of_error {table : String} {x : Record} {f : Fault}
    (h : s.insert table x = (s', .error f)) : s'.tables = s.tables := by
  rw [insert] at h
  split at h
  · cases h
  · cases h
    rfl

theorem writeAll_eq_ok_iff : s.writeAll ws = (s', .ok ()) ↔ s.Applies ws s' := by
  induction ws generalizing s with
  | nil => simp [writeAll, Applies]
  | cons w ws ih =>
    rw [writeAll, Applies]
    rcases s.write w with ⟨s₁, f | _⟩
    · simp
    · simp [ih]

theorem batch_eq_ok_iff : s.batch ws = (s', .ok ()) ↔ s.Applies ws s' := by
  rw [← writeAll_eq_ok_iff, batch]
  rcases s.writeAll ws with ⟨s₁, f | _⟩ <;> simp

/-- No statement that has been made was raw. -/
theorem Applies.any_isRaw (h : s.Applies ws s') : ws.any isRaw = false := by
  induction ws generalizing s with
  | nil => rfl
  | cons w ws ih =>
    obtain ⟨s₁, hw, h⟩ := h
    rw [List.any_cons, ih h, Bool.or_false]
    cases w with
    | sql text parameters => cases hw
    | _ => rfl

/-! ## Batches -/

/-- What has become of statements that are to be made all or none: each was made on what the one
before it had left, or there is a fault, the store is what it was, and they cannot all be made. -/
def Settled (s : Store) (ws : List WriteStatement) (r : Outcome Unit) (s' : Store) : Prop :=
  (r = .ok () ∧ s.Applies ws s') ∨ (∃ f, r = .error f) ∧ s' = s ∧ ∀ s₁, ¬ s.Applies ws s₁

/-- A batch that fails has changed nothing, since its statements declare nothing. -/
theorem batch_eq_error {f : Fault} (h : s.batch ws = (s', .error f)) : s' = s := by
  have hagrees := s.agrees_writeAll ws
  rw [batch] at h
  rcases hwrites : s.writeAll ws with ⟨s₁, g | _⟩
  · rw [hwrites] at h hagrees
    cases h
    exact hagrees.restore_checkpoint
  · rw [hwrites] at h
    cases h

theorem settled_batch (s : Store) (ws : List WriteStatement) :
    s.Settled ws (s.batch ws).2 (s.batch ws).1 := by
  rcases hbatch : s.batch ws with ⟨s', f | _⟩
  · refine .inr ⟨⟨f, rfl⟩, batch_eq_error hbatch, ?_⟩
    intro s₁ happlies
    rw [batch_eq_ok_iff.mpr happlies] at hbatch
    cases hbatch
  · exact .inl ⟨rfl, batch_eq_ok_iff.mp hbatch⟩

/-- Raw SQL anywhere in a batch keeps it from being made. -/
theorem settled_of_any_isRaw {f : Fault} (h : ws.any isRaw = true) :
    s.Settled ws (.error f) s := by
  refine .inr ⟨⟨f, rfl⟩, rfl, ?_⟩
  intro s₁ happlies
  rw [happlies.any_isRaw] at h
  cases h

/-- An answer that a batch has before the store is looked at leaves the store alone. -/
theorem settled_of_early {active : Bool} {reply : Outcome Verb.Reply}
    (h : (Verb.execute ws).early? active = some reply) :
    s.Settled ws (reply.map fun _ ↦ ()) s := by
  rw [Verb.early?] at h
  split at h
  · rename_i hempty
    cases h
    rw [List.isEmpty_iff.mp hempty]
    exact .inl ⟨rfl, rfl⟩
  · split at h
    · rename_i hraw
      cases h
      exact settled_of_any_isRaw hraw
    · cases h

theorem settled_run_execute (s : Store) (ws : List WriteStatement) :
    s.Settled ws (((Verb.execute ws).run s).2.map fun _ ↦ ()) ((Verb.execute ws).run s).1 := by
  have hsettled := s.settled_batch ws
  rw [Verb.run, Verb.replied]
  rcases hbatch : s.batch ws with ⟨s', f | _⟩
  · rw [hbatch] at hsettled
    exact hsettled
  · rw [hbatch] at hsettled
    exact hsettled

end Store

/-- A call of a repository that writes. -/
inductive RepositoryCall (α : Type) where
  | add (entity : α)
  | update (f : Filter) (entity : α)
  | delete (f : Filter)

namespace RepositoryCall

/-- The call with a handle. -/
def action [Backend β η] (r : Repository α) (h : η) : RepositoryCall α → Action (β × ε) Unit
  | add x => r.add (some h) x
  | update f x => r.update (some h) f x
  | delete f => r.delete (some h) f

/-- The primary write, and what the hook for it comes to where there is one. -/
def prepared? (r : Repository α) :
    RepositoryCall α → Outcome (Verb × Option (Outcome (List WriteStatement)))
  | add x => do
    let record ← r.mapping.toRecord? x
    return (.insert r.source record, r.hooks.afterAdd.map (· x))
  | update f x => do
    let f ← r.validate? f
    let record ← r.mapping.toRecord? x
    return (.update r.source f record, r.hooks.afterUpdate.map (· x))
  | delete f => do
    let f ← r.validate? f
    return (.delete r.source f, r.hooks.afterDelete.map (· f))

/-- Is there a hook for the call? -/
def isHooked (r : Repository α) : RepositoryCall α → Bool
  | add _ => r.hooks.afterAdd.isSome
  | update _ _ => r.hooks.afterUpdate.isSome
  | delete _ => r.hooks.afterDelete.isSome

/-- What a call makes of the documents where nothing fails: its primary write, and then the
statements that its hook asks for. -/
def Makes (r : Repository α) (call : RepositoryCall α) (s s' : Store) : Prop :=
  ∃ v hook ws s₁ reply, call.prepared? r = .ok (v, hook) ∧ hook.getD (.ok []) = .ok ws ∧
    v.run s = (s₁, .ok reply) ∧ s₁.Applies ws s'

end RepositoryCall

/-- The call is one primary write, an insertion, an update or a deletion, without an early
answer. -/
structure Verb.IsPrimary (v : Verb) (primary : MemoryHandle → Action (Memory × ε) Unit) : Prop where
  early (active : Bool) : v.early? active = none
  mode : v.mode = .write
  call (h : MemoryHandle) : v.call h = (do
    primary h
    return .nothing : Action (Memory × ε) Verb.Reply)
  keeps (s s' : Store) (f : Fault) : v.run s = (s', .error f) → s'.tables = s.tables

namespace Verb

theorem replied_eq_error {e : Store.Effect} {s' : Store} {f : Fault}
    (h : replied e = (s', .error f)) : e = (s', .error f) := by
  rcases e with ⟨s, g | _⟩ <;> cases h
  rfl

theorem isPrimary_insert (src : Source) (x : Record) : (insert src x).IsPrimary
    fun h ↦ (Memory.insert h src x : Action (Memory × ε) Unit) := by
  refine ⟨fun _ ↦ rfl, rfl, fun _ ↦ rfl, fun s s' f h ↦ ?_⟩
  exact (Store.tables_insert_of_error (replied_eq_error h)).trans (s.tables_declare src)

theorem isPrimary_update (src : Source) (f : Filter) (x : Record) :
    (update src f x).IsPrimary fun h ↦ (Memory.update h src f x : Action (Memory × ε) Unit) := by
  refine ⟨fun _ ↦ rfl, rfl, fun _ ↦ rfl, fun s s' f h ↦ ?_⟩
  rw [Store.effect_eq_error (replied_eq_error h), s.tables_declare]

theorem isPrimary_delete (src : Source) (f : Filter) :
    (delete src f).IsPrimary fun h ↦ (Memory.delete h src f : Action (Memory × ε) Unit) := by
  refine ⟨fun _ ↦ rfl, rfl, fun _ ↦ rfl, fun s s' f h ↦ ?_⟩
  rw [Store.effect_eq_error (replied_eq_error h), s.tables_declare]

end Verb

/-- A call either cannot be prepared, and then fails before anything is done, or it makes its
primary write and what its hook asks for. -/
theorem RepositoryCall.action_cases (r : Repository α) (call : RepositoryCall α) :
    (∃ f, call.prepared? r = .error f ∧ ∀ h : MemoryHandle,
      (call.action r h : Action (Memory × ε) Unit) = .done (.error f)) ∨
    ∃ v hook, ∃ primary : MemoryHandle → Action (Memory × ε) Unit,
      call.prepared? r = .ok (v, hook) ∧ hook.isSome = call.isHooked r ∧ v.IsPrimary primary ∧
      ∀ h, call.action r h = Repository.writing h primary hook := by
  cases call with
  | add x =>
    simp only [prepared?, action, Repository.add]
    cases hx : r.mapping.toRecord? x with
    | error f => exact .inl ⟨f, rfl, fun _ ↦ rfl⟩
    | ok record =>
      exact .inr ⟨_, _, _, rfl, Option.isSome_map, Verb.isPrimary_insert _ _, fun _ ↦ rfl⟩
  | update f x =>
    simp only [prepared?, action, Repository.update]
    cases hf : r.validate? f with
    | error g => exact .inl ⟨g, rfl, fun _ ↦ rfl⟩
    | ok f' =>
      cases hx : r.mapping.toRecord? x with
      | error g => exact .inl ⟨g, rfl, fun _ ↦ rfl⟩
      | ok record =>
        exact .inr ⟨_, _, _, rfl, Option.isSome_map, Verb.isPrimary_update _ _ _, fun _ ↦ rfl⟩
  | delete f =>
    simp only [prepared?, action, Repository.delete]
    cases hf : r.validate? f with
    | error g => exact .inl ⟨g, rfl, fun _ ↦ rfl⟩
    | ok f' => exact .inr ⟨_, _, _, rfl, Option.isSome_map, Verb.isPrimary_delete _ _, fun _ ↦ rfl⟩

/-- Whether a task is given the lock depends on nothing but what it does first. -/
theorem World.Granted.congr {σ : Type} {id : TaskId} {a b : Action σ Unit} {w₀ w v : World σ}
    (h : Granted id a w₀ w v) (hab : w₀.advance id a = w₀.advance id b) : Granted id b w₀ w v := by
  cases h with
  | atOnce hlock hid =>
    rw [hab]
    exact .atOnce hlock hid
  | later hlock hasked hwaits hfree =>
    rw [hab] at hasked
    exact .later hlock hasked hwaits hfree

namespace Client

variable {v : Verb} {hook : Outcome (List WriteStatement)}

/-! ## Work that only makes calls -/

/-- Work that does nothing but make calls. -/
def OnlyCalls {ρ : Type} : Client ε ρ → Prop
  | done _ => True
  | call _ next => ∀ r, (next r).OnlyCalls
  | _ => False

section OnlyCalls

open World

variable {ρ : Type} {c c' : Client ε ρ} {s s' : Store} {form : Scoping} {id : TaskId} {n : Nat}
  {k : Outcome ρ → Action (Memory × ε) Unit} {w : World (Memory × ε)}

theorem OnlyCalls.leads (hc : c.OnlyCalls) (h : Leads c s c' s') : c'.OnlyCalls := by
  induction h with
  | refl => exact hc
  | early _ _ ih => exact ih (hc _)
  | call _ _ ih => exact ih (hc _)
  | see => exact hc.elim
  | set => exact hc.elim
  | ask => exact hc.elim
  | nested => exact hc.elim

/-- A transaction that does nothing but make calls begins and ends in one turn. -/
theorem OnlyCalls.ends (hc : c.OnlyCalls) (hn : w.memory.isActive (.inScope n) = true)
    (halone : w.Alone id) : Ends form k id n c w.memory (w.advance id (c.remaining form n k)) := by
  induction c generalizing w with
  | done r =>
    obtain ⟨next, hnext, hclosed⟩ := advance_conclude_scoping id form hn r k
    rw [show w.advance id ((done r).remaining form n k) = _ from hclosed]
    exact .closed (.refl _ _) rfl hnext rfl halone
  | call v next ih =>
    rw [remaining_call, advance_call_inScope, hn]
    cases hv : v.early? true with
    | some r =>
      exact (ih r (hc r) hn halone).of_leads (fun _ ↦ rfl) fun _ _ ↦ .early hv
    | none =>
      exact (ih _ (w := w.withStore (v.run w.memory.store).1) (hc _) hn
        ⟨halone.1, halone.2, halone.3⟩).of_leads (fun _ ↦ rfl) fun _ _ ↦ .call hv
  | see => exact hc.elim
  | set => exact hc.elim
  | ask => exact hc.elim
  | commit => exact hc.elim
  | rollback => exact hc.elim
  | transaction => exact hc.elim

/-- What such a transaction leaves once its task has the lock. -/
theorem OnlyCalls.concluded {w₀ v : World (Memory × ε)} (hc : c.OnlyCalls)
    (howner : w₀.memory.ownsLock id = false) (hready : form.Ready w₀.memory)
    (hgranted : Granted id ((form.run c.act).andThen k) w₀ w v) :
    ∃ r s after, c.Leads w.memory.store (.done r) s ∧
      Concluded id w.memory.scopes.length (k r) v after ∧
      after.memory.store = if r.isOk then s else s.restore w.memory.store.checkpoint := by
  obtain ⟨next, hrun, hnext⟩ := exists_advance_run howner hready c.act k
  obtain ⟨u, hmemory, halone, rfl⟩ := hgranted.exists_alone hrun
  have halone' : (u.withMemory (w.memory.opened id)).Alone id := ⟨halone.1, halone.2, halone.3⟩
  have hactive : (u.withMemory (w.memory.opened id)).memory.isActive
      (.inScope w.memory.scopes.length) = true := Memory.isActive_opened.mpr (.inl rfl)
  have hends : Client.Ends form k id w.memory.scopes.length c _ _ := hc.ends hactive halone'
  obtain ⟨c', s, kept, after, hleads, hkept, hconcluded, hafter⟩ := hends.concluded
  rw [hnext, hmemory]
  -- only its own end can have ended the transaction
  have hc' := hc.leads hleads
  cases c' with
  | done r =>
    cases hkept
    exact ⟨r, s, after, hleads, hconcluded, hafter⟩
  | call => cases hkept
  | see => exact hc'.elim
  | set => exact hc'.elim
  | ask => exact hc'.elim
  | commit => exact hc'.elim
  | rollback => exact hc'.elim
  | transaction => exact hc'.elim

end OnlyCalls

/-! ## The work of a call with a hook -/

/-- A primary write, and then the writes that a hook asks for. -/
def hooked (v : Verb) (hook : Outcome (List WriteStatement)) : Client ε Unit :=
  .call v fun
    | .error f => .done (.error f)
    | .ok _ => match hook with
      | .error f => .done (.error f)
      | .ok ws => .call (.execute ws) fun r ↦ .done (r.map fun _ ↦ ())

theorem onlyCalls_hooked (v : Verb) (hook : Outcome (List WriteStatement)) :
    (hooked v hook : Client ε Unit).OnlyCalls := by
  intro r
  cases r with
  | error f => trivial
  | ok reply =>
    cases hook with
    | error f => trivial
    | ok ws => exact fun _ ↦ trivial

/-- A call that makes statements and answers nothing is the call of the handle. -/
theorem execute_act (ws : List WriteStatement) (h : MemoryHandle) :
    (call (.execute ws) fun r ↦ done (r.map fun _ ↦ ()) : Client ε Unit).act h =
      Memory.execute h ws := by
  refine (Action.bind_andThen _ _ _).trans ?_
  refine Eq.trans ?_ (Action.andThen_end _)
  congr 1
  funext r
  cases r <;> rfl

/-- A primary write that answers nothing, and what follows it. -/
theorem hooked_act {h : MemoryHandle} {primary : Action (Memory × ε) Unit}
    (hv : v.call h = (do
      primary
      return .nothing : Action (Memory × ε) Verb.Reply)) :
    (Client.hooked v hook).act h = (do
      primary
      Backend.execute h (← hook) : Action (Memory × ε) Unit) := by
  refine (congrArg (Action.andThen · _) hv).trans ?_
  refine (Action.bind_andThen _ _ _).trans ?_
  refine congrArg (Action.andThen _) (funext fun told ↦ ?_)
  cases told with
  | error f => rfl
  | ok _ =>
    cases hook with
    | error f => rfl
    | ok ws => exact execute_act ws h

/-- With a hook, a write is work to be done as a whole. -/
theorem writing_some {primary : MemoryHandle → Action (Memory × ε) Unit}
    (hverb : v.IsPrimary primary) (h : MemoryHandle) :
    Repository.writing h primary (some hook) = Repository.atomically h (hooked v hook).act := by
  rw [Repository.writing]
  exact congrArg _ (funext fun h ↦ (hooked_act (hverb.call h)).symm)

/-- Without a hook, a write is the primary write. -/
theorem writing_none_andThen {primary : MemoryHandle → Action (Memory × ε) Unit}
    (hverb : v.IsPrimary primary) (h : MemoryHandle)
    (k : Outcome Unit → Action (Memory × ε) Unit) :
    (Repository.writing h primary none).andThen k =
      (v.call h).andThen fun told ↦ k (told.map fun _ ↦ ()) := by
  rw [hverb.call, Action.bind_andThen, Repository.writing]
  refine congrArg (Action.andThen _) (funext fun told ↦ ?_)
  cases told <;> rfl

/-- What has become of statements once the call that makes them is done. -/
theorem execute_leads {ws : List WriteStatement} {r : Outcome Unit} {s s' : Store}
    (h : (call (.execute ws) fun r ↦ done (r.map fun _ ↦ ()) : Client ε Unit).Leads s (.done r)
      s') : s.Settled ws r s' := by
  cases h with
  | early hearly h =>
    cases h
    exact Store.settled_of_early hearly
  | call _ h =>
    cases h
    exact s.settled_run_execute ws

/-- What a primary write and the writes that its hook asks for come to, and what they leave. -/
inductive HookedEnd (v : Verb) (hook : Outcome (List WriteStatement)) (s : Store) :
    Outcome Unit → Store → Prop
  | made {ws : List WriteStatement} {s₁ s' : Store} {reply : Verb.Reply} (hhook : hook = .ok ws)
    (hrun : v.run s = (s₁, .ok reply)) (happlies : s₁.Applies ws s') :
    HookedEnd v hook s (.ok ()) s'
  /-- The primary write has failed. -/
  | unwritten {s' : Store} {f : Fault} (hrun : v.run s = (s', .error f))
    (hkept : s'.tables = s.tables) : HookedEnd v hook s (.error f) s'
  /-- The primary write was made, but what it was to be followed by was not. -/
  | unfollowed {s' : Store} {reply : Verb.Reply} {f : Fault} (hrun : v.run s = (s', .ok reply))
    (hnone : ∀ ws s₂, hook = .ok ws → ¬ s'.Applies ws s₂) : HookedEnd v hook s (.error f) s'

/-- What becomes of the work of a call with a hook. -/
theorem hooked_leads {r : Outcome Unit} {s s' : Store}
    {primary : MemoryHandle → Action (Memory × ε) Unit} (hverb : v.IsPrimary primary)
    (h : (hooked v hook : Client ε Unit).Leads s (.done r) s') : HookedEnd v hook s r s' := by
  cases h with
  | early hearly =>
    rw [hverb.early] at hearly
    cases hearly
  | call _ h =>
    cases hrun : v.run s with | mk s₁ told =>
    rw [hrun] at h
    cases told with
    | error f =>
      cases h
      exact .unwritten hrun (hverb.keeps _ _ _ hrun)
    | ok reply =>
      cases hook with
      | error f =>
        cases h
        exact .unfollowed hrun nofun
      | ok ws =>
        obtain ⟨rfl, happlies⟩ | ⟨⟨f, rfl⟩, rfl, hnone⟩ := execute_leads h
        · exact .made rfl hrun happlies
        · refine .unfollowed hrun fun ws' s₂ hhook ↦ ?_
          cases hhook
          exact hnone s₂

end Client

namespace RepositoryCall

open World

variable {r : Repository α} {call : RepositoryCall α} {w₀ w v : World (Memory × ε)} {id : TaskId}
  {k : Outcome Unit → Action (Memory × ε) Unit}

theorem makes_of_hookedEnd {verb : Verb} {hook : Option (Outcome (List WriteStatement))}
    {s s' : Store} (hprepared : call.prepared? r = .ok (verb, hook))
    (h : Client.HookedEnd verb (hook.getD (.ok [])) s (.ok ()) s') : call.Makes r s s' := by
  cases h with
  | made hhook hrun happlies => exact ⟨verb, hook, _, _, _, hprepared, hhook, hrun, happlies⟩

/-- What has failed could not be made at all. -/
theorem not_makes_of_hookedEnd {verb : Verb} {hook : Option (Outcome (List WriteStatement))}
    {s s' : Store} {f : Fault} (hprepared : call.prepared? r = .ok (verb, hook))
    (h : Client.HookedEnd verb (hook.getD (.ok [])) s (.error f) s') (s'' : Store) :
    ¬ call.Makes r s s'' := by
  rintro ⟨verb', hook', ws, s₁, reply, hprepared', hhook, hrun', happlies⟩
  rw [hprepared] at hprepared'
  cases hprepared'
  cases h with
  | unwritten hrun =>
    rw [hrun] at hrun'
    cases hrun'
  | unfollowed hrun hnone =>
    rw [hrun] at hrun'
    cases hrun'
    exact hnone ws s'' hhook happlies

/-- On the shared handle, work that is to be done as a whole is given a transaction of its own. -/
theorem advance_atomically (work : MemoryHandle → Action (Memory × ε) Unit) :
    w.advance id ((Repository.atomically MemoryHandle.shared work).andThen k) =
      w.advance id ((Scoping.transaction.run work).andThen k) := rfl

/-- What becomes of a task that is given the lock for a call: it does its work in one turn and
leaves the lock.  Then the call has made of the documents what it is to make of them; or this could
not be done, and the records of every table are what they were, and with a hook so is the last row
number. -/
def Settled (r : Repository α) (call : RepositoryCall α) (id : TaskId)
    (k : Outcome Unit → Action (Memory × ε) Unit) (w v : World (Memory × ε)) : Prop :=
  ∃ told after, Relinquished id (k told) v after ∧
    (told = .ok () → call.Makes r w.memory.store after.memory.store) ∧
    ∀ f, told = .error f → (∀ s, ¬ call.Makes r w.memory.store s) ∧
      after.memory.store.tables = w.memory.store.tables ∧
      (call.isHooked r = true → after.memory.store.lastRow = w.memory.store.lastRow)

section Settled

variable {verb : Verb} {primary : MemoryHandle → Action (Memory × ε) Unit}

/-- With a hook, the transaction is kept or undone. -/
theorem settled_hooked {statements : Outcome (List WriteStatement)}
    (hprepared : call.prepared? r = .ok (verb, some statements)) (hverb : verb.IsPrimary primary)
    (howner : w₀.memory.ownsLock id = false)
    (h : Granted id ((Scoping.transaction.run (Client.hooked verb statements).act).andThen k)
      w₀ w v) : call.Settled r id k w v := by
  have honly := Client.onlyCalls_hooked (ε := ε) verb statements
  have hready : Scoping.transaction.Ready w₀.memory := trivial
  obtain ⟨told, s, after, hleads, hconcluded, hafter⟩ :=
    honly.concluded howner hready h
  refine ⟨told, after, ⟨hconcluded.left, hconcluded.onward, hconcluded.free⟩, ?_⟩
  rw [hafter]
  have hend := Client.hooked_leads hverb hleads
  refine ⟨?_, fun f hf ↦ ⟨?_, by rw [hf]; rfl, fun _ ↦ by rw [hf]; rfl⟩⟩
  · rintro rfl
    exact makes_of_hookedEnd hprepared hend
  · subst hf
    exact not_makes_of_hookedEnd hprepared hend

/-- Without a hook, the primary write is all that there is. -/
theorem settled_unhooked (hprepared : call.prepared? r = .ok (verb, none))
    (hverb : verb.IsPrimary primary) (hhook : call.isHooked r = false) (halone : w.Alone id) :
    call.Settled r id k w (w.advance id ((verb.body.held .write (.ok ())).andThen fun told ↦
      k (told.map fun _ ↦ ()))) := by
  have halone' : (w.withStore (verb.run w.memory.store).1).Alone id :=
    ⟨halone.1, halone.2, halone.3⟩
  rw [advance_held]
  obtain ⟨after, hleft, hafter⟩ := halone'.relinquished fun told ↦
    k ((told.bind fun _ ↦ (verb.run w.memory.store).2).map fun _ ↦ ())
  refine ⟨_, after, hleft, ?_⟩
  have hstore : after.memory.store = (verb.run w.memory.store).1 := congrArg Memory.store hafter
  rw [hstore]
  cases hrun : verb.run w.memory.store with | mk s₁ told =>
  cases told with
  | ok reply =>
    exact ⟨fun _ ↦ makes_of_hookedEnd hprepared (.made rfl hrun rfl), fun f hf ↦ by cases hf⟩
  | error f =>
    have hkept := hverb.keeps _ _ _ hrun
    refine ⟨fun hf ↦ (by cases hf), fun _ _ ↦ ⟨?_, hkept, fun hhooked ↦ ?_⟩⟩
    · exact not_makes_of_hookedEnd hprepared (.unwritten hrun hkept)
    · rw [hhook] at hhooked
      cases hhooked

end Settled

/-- A call of a repository is done as a whole or not at all.  It fails before it asks for the lock;
or it asks for it, and fails with the fault that it is told in place of the lock; or it is given the
lock, and then it makes of the documents what its primary write and the statements of its hook, one
after another, make of them, or it fails and leaves the records of every table as they were. -/
theorem all_or_nothing (r : Repository α) (call : RepositoryCall α) (w₀ : World (Memory × ε))
    (id : TaskId) (k : Outcome Unit → Action (Memory × ε) Unit) :
    (∃ f, w₀.advance id ((call.action r MemoryHandle.shared).andThen k) =
        w₀.advance id (k (.error f))) ∨
      ∃ next, w₀.advance id ((call.action r MemoryHandle.shared).andThen k) =
          w₀.advance id (.ask (.enter .write) next) ∧
        (∀ (w : World (Memory × ε)) (f : Fault),
          w.advance id (next (.error f)) = w.advance id (k (.error f))) ∧
        ∀ w v, Granted id ((call.action r MemoryHandle.shared).andThen k) w₀ w v →
          call.Settled r id k w v := by
  obtain ⟨f, -, haction⟩ | ⟨verb, hook, primary, hprepared, hhook, hverb, haction⟩ :=
    call.action_cases (ε := ε) r
  · rw [haction]
    exact .inl ⟨f, rfl⟩
  cases hook with
  | some statements =>
    have hwork : (call.action r MemoryHandle.shared : Action (Memory × ε) Unit) =
        Repository.atomically .shared (Client.hooked verb statements).act :=
      (haction _).trans (Client.writing_some hverb _)
    have hadvance : w₀.advance id ((call.action r MemoryHandle.shared).andThen k) =
        w₀.advance id
          ((Scoping.transaction.run (Client.hooked verb statements).act).andThen k) := by
      rw [hwork, advance_atomically]
    have hasks : w₀.advance id _ = _ :=
      advance_transaction_shared (Client.hooked verb statements).act k
    cases howner : w₀.memory.ownsLock id with
    | true => exact .inl ⟨_, hadvance.trans (hasks.trans (if_pos howner))⟩
    | false =>
      refine .inr ⟨_, hadvance.trans (hasks.trans (if_neg (by simp [howner]))), fun w f ↦ rfl,
        fun w v h ↦ ?_⟩
      exact settled_hooked hprepared hverb howner (h.congr hadvance)
  | none =>
    have hadvance : w₀.advance id ((call.action r MemoryHandle.shared).andThen k) =
        w₀.advance id ((verb.call .shared).andThen fun told ↦ k (told.map fun _ ↦ ())) := by
      rw [haction, Client.writing_none_andThen hverb]
    have hasks : w₀.advance id ((verb.call .shared).andThen _) = _ :=
      advance_call_shared fun told ↦ k (told.map fun _ ↦ ())
    rw [hverb.early, hverb.mode] at hasks
    cases howner : w₀.memory.ownsLock id with
    | true => exact .inl ⟨_, hadvance.trans (hasks.trans (if_pos howner))⟩
    | false =>
      have hasks := hadvance.trans (hasks.trans (if_neg (by simp [howner])))
      refine .inr ⟨_, hasks, fun w f ↦ rfl, fun w v h ↦ ?_⟩
      obtain ⟨u, hmemory, halone, rfl⟩ := h.exists_alone hasks
      rw [Settled, ← hmemory]
      exact settled_unhooked hprepared hverb hhook.symm halone

theorem idColumn_ne_nil : [("id", Kind.integer)] ≠ [] := List.cons_ne_nil _ _

/-- A repository of numbered users that asks, after a user was added, for the next user and for
something that is no statement. -/
def careless : Repository Int where
  table := "users"
  mapping := ⟨[("id", .integer)], "User", fun i ↦ .ok [("id", .integer i)], fun _ ↦ .ok 0,
    idColumn_ne_nil⟩
  key := ["id"]
  hooks.afterAdd := some fun i ↦ .ok [.insert "users" [("id", .integer (i + 1))], .junk .null]

/-- Neither the user that it adds nor the next one is left beside the only one that there was. -/
theorem all_or_nothing_careless :
    let call := RepositoryCall.add 8
    ∃ v after, Granted 0 ((call.action careless MemoryHandle.shared).andThen .done)
        Client.oneUser Client.oneUser v ∧
      (∃ f, Relinquished 0 (.done (.error f)) v after) ∧
      after.memory.store.tables = [("users", [⟨1, Client.user 7, []⟩])] := by
  intro call
  have hgranted : Granted 0 ((call.action careless MemoryHandle.shared).andThen .done)
      Client.oneUser Client.oneUser _ := .atOnce rfl Nat.zero_lt_one
  obtain ⟨f, hearly⟩ | ⟨next, -, -, hsettled⟩ :=
    all_or_nothing careless call Client.oneUser 0 .done
  · cases congrArg World.tickets hearly
  · obtain ⟨told, after, hleft, hok, herror⟩ := hsettled _ _ hgranted
    cases told with
    | ok _ =>
      obtain ⟨verb, hook, ws, s₁, reply, hprepared, hhook, hrun, happlies⟩ := hok rfl
      cases hprepared
      cases hhook
      obtain ⟨s₂, -, s₃, hjunk, -⟩ := happlies
      cases hjunk
    | error f => exact ⟨_, after, hgranted, ⟨f, hleft⟩, (herror f rfl).2.1⟩

end RepositoryCall

end RecordStore
