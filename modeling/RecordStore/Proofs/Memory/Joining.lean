import RecordStore.Proofs.Memory.Hooks

/-!
# Writes with hooks inside a transaction

A call on the handle of a transaction that has not ended joins it.  The call fails without a trace
where it cannot be prepared or its primary write fails.  Where only its hook fails, or one of the
statements that the hook asks for, nothing undoes the primary write: the transaction sees the
documents that the primary write has left, and keeps them if it is committed after all.

* `RepositoryCall.Joined` is what a call may come to, and what it leaves of the documents.
* `RepositoryCall.joins` is the statement above.
-/

namespace RecordStore

variable {α ε : Type}

namespace Client

open World

/-- Inside a transaction, work that does nothing but make calls is done at once. -/
theorem OnlyCalls.exists_advance {ρ : Type} {c : Client ε ρ} (hc : c.OnlyCalls)
    {w : World (Memory × ε)} {n : Nat} (hn : w.memory.isActive (.inScope n) = true) (id : TaskId) :
    ∃ r s, c.Leads w.memory.store (.done r) s ∧ ∀ k : Outcome ρ → Action (Memory × ε) Unit,
      w.advance id ((c.act (.inScope n)).andThen k) = (w.withStore s).advance id (k r) := by
  induction c generalizing w with
  | done r => exact ⟨r, w.memory.store, .refl _ _, fun k ↦ rfl⟩
  | call v next ih =>
    have hcall (k : Outcome ρ → Action (Memory × ε) Unit) :
        w.advance id (((call v next).act (.inScope n)).andThen k) = _ :=
      (congrArg _ (Action.andThen_assoc _ _ _)).trans (advance_call_inScope _)
    rw [hn] at hcall
    cases hearly : v.early? true with
    | some reply =>
      rw [hearly] at hcall
      obtain ⟨r, s, hleads, hadvance⟩ := ih reply (hc _) hn
      exact ⟨r, s, .early hearly hleads, fun k ↦ (hcall k).trans (hadvance k)⟩
    | none =>
      rw [hearly] at hcall
      obtain ⟨r, s, hleads, hadvance⟩ := ih (v.run w.memory.store).2
        (w := w.withStore (v.run w.memory.store).1) (hc _) hn
      exact ⟨r, s, .call hearly hleads, fun k ↦ (hcall k).trans (hadvance k)⟩
  | see => exact hc.elim
  | set => exact hc.elim
  | ask => exact hc.elim
  | commit => exact hc.elim
  | rollback => exact hc.elim
  | transaction => exact hc.elim

end Client

namespace RepositoryCall

open World

variable {r : Repository α} {call : RepositoryCall α} {w : World (Memory × ε)} {id : TaskId}
  {n : Nat}

/-- What a call that joins a transaction comes to, and what it leaves of the documents: nothing is
done where it cannot be prepared, and otherwise its primary write and the statements of its hook end
in one of the ways in which they can end. -/
def Joined (r : Repository α) (call : RepositoryCall α) (s : Store) (told : Outcome Unit)
    (s' : Store) : Prop :=
  match call.prepared? r with
  | .error f => told = .error f ∧ s' = s
  | .ok (v, hook) => Client.HookedEnd v (hook.getD (.ok [])) s told s'

/-- Inside a transaction, work that is to be done as a whole is given no transaction of its own. -/
theorem advance_atomically_inScope (hn : w.memory.isActive (.inScope n) = true)
    (work : MemoryHandle → Action (Memory × ε) Unit) (k : Outcome Unit → Action (Memory × ε) Unit) :
    w.advance id ((Repository.atomically (MemoryHandle.inScope n) work).andThen k) =
      w.advance id ((work (.inScope n)).andThen k) := by
  refine (advance_inTransaction (.inScope n) _ k).trans ?_
  rw [hn]
  rfl

theorem exists_joined (r : Repository α) (call : RepositoryCall α)
    (hn : w.memory.isActive (.inScope n) = true) (id : TaskId) :
    ∃ told s, call.Joined r w.memory.store told s ∧
      ∀ k, w.advance id ((call.action r (MemoryHandle.inScope n)).andThen k) =
        (w.withStore s).advance id (k told) := by
  obtain ⟨f, hprepared, haction⟩ | ⟨verb, hook, primary, hprepared, -, hverb, haction⟩ :=
    call.action_cases (ε := ε) r
  · refine ⟨.error f, w.memory.store, ?_, fun k ↦ by rw [haction]; rfl⟩
    rw [Joined, hprepared]
    exact ⟨rfl, rfl⟩
  rw [haction]
  cases hook with
  | none =>
    have hadvance (k : Outcome Unit → Action (Memory × ε) Unit) :
        w.advance id ((Repository.writing (.inScope n) primary none).andThen k) = _ :=
      (congrArg _ (Client.writing_none_andThen hverb _ k)).trans (advance_call_inScope _)
    rw [hn, hverb.early] at hadvance
    refine ⟨_, _, ?_, hadvance⟩
    rw [Joined, hprepared]
    cases hrun : verb.run w.memory.store with | mk s₁ told =>
    cases told with
    | ok reply => exact .made rfl hrun rfl
    | error f => exact .unwritten hrun (hverb.keeps _ _ _ hrun)
  | some statements =>
    obtain ⟨told, s, hleads, hadvance⟩ :=
      (Client.onlyCalls_hooked verb statements).exists_advance hn id
    refine ⟨told, s, ?_, fun k ↦ ?_⟩
    · rw [Joined, hprepared]
      exact Client.hooked_leads hverb hleads
    · rw [Client.writing_some hverb, advance_atomically_inScope hn]
      exact hadvance k

/-- A call on the handle of a transaction that has not ended is answered at once, and leaves what it
may leave of the documents that the transaction sees.  Whatever its task makes of the answer, if it
goes on to commit the transaction, these are the documents that are kept. -/
theorem joins (r : Repository α) (call : RepositoryCall α)
    (hn : w.memory.isActive (.inScope n) = true) (id : TaskId) :
    ∃ told s, call.Joined r w.memory.store told s ∧
      (∀ k, w.advance id ((call.action r (MemoryHandle.inScope n)).andThen k) =
        (w.withStore s).advance id (k told)) ∧
      ∀ (u : UnitOfWork MemoryHandle) k, u.current = some (.inScope n) →
        (w.advance id ((call.action r (MemoryHandle.inScope n)).andThen fun _ ↦
          u.commit.andThen k)).memory.store = s := by
  obtain ⟨told, s, hjoined, hadvance⟩ := call.exists_joined r hn id
  refine ⟨told, s, hjoined, hadvance, fun u k hcurrent ↦ ?_⟩
  obtain ⟨database, current⟩ := u
  subst hcurrent
  have hactive : (w.withStore s).memory.isActive (.inScope n) = true := hn
  rw [hadvance, advance_commit_unit hactive]
  rfl

/-- A transaction beside one user. -/
def besideOneUser : World (Memory × Unit) :=
  Client.oneUser.withMemory (Client.oneUser.memory.opened 0)

/-- The user that was added stays in the transaction, without the next one. -/
theorem joins_careless :
    besideOneUser.memory.isActive (.inScope 0) = true ∧ ∃ f s,
      (∀ k, besideOneUser.advance 0
          (((RepositoryCall.add 8).action careless (MemoryHandle.inScope 0)).andThen k) =
        (besideOneUser.withStore s).advance 0 (k (.error f))) ∧
      s.tables = [("users", [⟨1, Client.user 7, []⟩, ⟨2, Client.user 8, []⟩])] := by
  refine ⟨rfl, ?_⟩
  obtain ⟨told, s, hjoined, hadvance, -⟩ :=
    joins (w := besideOneUser) (n := 0) careless (.add 8) rfl 0
  cases hjoined with
  | made hhook hrun happlies =>
    cases hhook
    obtain ⟨s₂, -, s₃, hjunk, -⟩ := happlies
    cases hjunk
  | unwritten hrun => cases hrun
  | @unfollowed _ _ f hrun _ =>
    cases hrun
    exact ⟨f, _, hadvance, rfl⟩

/-- A repository of numbered users whose hook fails whenever users were removed. -/
def reluctant : Repository Int where
  table := "users"
  mapping := careless.mapping
  key := ["id"]
  hooks.afterDelete := some fun _ ↦ .error (.external (.other "RuntimeError") (some "boom") none)

/-- The only user is removed in a transaction, and the hook fails.  The removal is not undone, and a
commit after all keeps it. -/
theorem removal_stays :
    let call : RepositoryCall Int :=
      .delete (.compare (.name "id") .eq (.one ⟨.integer, .integer 7⟩))
    let removed : Store := { besideOneUser.memory.store with tables := [("users", [])] }
    besideOneUser.memory.store.tables = [("users", [⟨1, Client.user 7, []⟩])] ∧
      (∀ k, besideOneUser.advance 0
          ((call.action reluctant (MemoryHandle.inScope 0)).andThen k) =
        (besideOneUser.withStore removed).advance 0
          (k (.error (.external (.other "RuntimeError") (some "boom") none)))) ∧
      (besideOneUser.advance 0
          ((call.action reluctant (MemoryHandle.inScope 0)).andThen fun _ ↦
            (⟨.shared, some (.inScope 0)⟩ : UnitOfWork MemoryHandle).commit.andThen
              .done)).memory.store = removed :=
  ⟨rfl, fun _ ↦ rfl, rfl⟩

end RepositoryCall

end RecordStore
