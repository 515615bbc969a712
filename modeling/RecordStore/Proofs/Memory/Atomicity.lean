import RecordStore.Proofs.Memory.Kept
import RecordStore.Proofs.Memory.Scoping

/-!
# Atomicity of transactions

Work in a transaction makes calls through its handle and may wait for other things in between.  If
it fails, the documents are again those that were there when the transaction began, and the fault is
what comes of it; if it succeeds, they are those that its last call has left.  In both cases the
handle is of no use any more, and the lock is free.

* `Client.Leads` tells what work does to the documents, `World.Lasts` how a transaction goes on from
  turn to turn.
* `Client.ends_of_lasts_run` shows what a transaction leaves in its last turn.
* `Client.atomic` is the theorem above, and `Client.undone_eq_iff` tells when nothing at all is left
  of a transaction that was undone.
-/

namespace RecordStore

variable {ε ρ : Type}

namespace Client

/-- Work in a transaction comes from a client with some documents to another one with others.  A
call changes them as it does anywhere; what is waited for may be answered in any way, and what tasks
have in common may be anything. -/
inductive Leads : Client ε ρ → Store → Client ε ρ → Store → Prop
  | refl (c : Client ε ρ) (s : Store) : Leads c s c s
  | see {next : ε → Client ε ρ} {c : Client ε ρ} {s s' : Store} (e : ε)
    (h : Leads (next e) s c s') : Leads (.see next) s c s'
  | set {next c : Client ε ρ} {s s' : Store} (e : ε) (h : Leads next s c s') :
    Leads (.set e next) s c s'
  | ask {q : Request} {free : q.isFree = true} {next : Outcome Unit → Client ε ρ} {c : Client ε ρ}
    {s s' : Store} (told : Outcome Unit) (h : Leads (next told) s c s') :
    Leads (.ask q free next) s c s'
  | early {v : Verb} {next : Outcome Verb.Reply → Client ε ρ} {c : Client ε ρ} {s s' : Store}
    {r : Outcome Verb.Reply} (hv : v.early? true = some r) (h : Leads (next r) s c s') :
    Leads (.call v next) s c s'
  | call {v : Verb} {next : Outcome Verb.Reply → Client ε ρ} {c : Client ε ρ} {s s' : Store}
    (hv : v.early? true = none) (h : Leads (next (v.run s).2) (v.run s).1 c s') :
    Leads (.call v next) s c s'
  | nested {work : Client ε ρ} {next : Outcome ρ → Client ε ρ} {c : Client ε ρ} {s s' : Store}
    (h : Leads (next (.error .nestedTransaction)) s c s') : Leads (.transaction work next) s c s'

/-- Work that leaves it to others to end its transaction. -/
def StaysInside : Client ε ρ → Prop
  | done _ => True
  | see next => ∀ e, (next e).StaysInside
  | set _ next => next.StaysInside
  | ask _ _ next => ∀ told, (next told).StaysInside
  | call _ next => ∀ r, (next r).StaysInside
  | commit _ => False
  | rollback _ => False
  | transaction _ next => ∀ r, (next r).StaysInside

/-- Whether the documents are kept where a transaction ends with this; no transaction ends with
anything else. -/
def keeps? : Client ε ρ → Option Bool
  | done r => some r.isOk
  | commit _ => some true
  | rollback _ => some false
  | _ => none

/-- What follows once a transaction has ended with this and the lock was left. -/
def following (form : Scoping) (n : Nat) (k : Outcome ρ → Action (Memory × ε) Unit) :
    Client ε ρ → Action (Memory × ε) Unit
  | done r => k r
  | commit next | rollback next =>
    ((next (.ok ())).act (.inScope n)).andThen fun r ↦ (form.conclude n r).andThen k
  | c => (c.act (.inScope n)).andThen fun r ↦ (form.conclude n r).andThen k

variable {c c' : Client ε ρ} {s s' : Store}

theorem StaysInside.leads (hc : c.StaysInside) (h : Leads c s c' s') : c'.StaysInside := by
  induction h with
  | refl => exact hc
  | see e _ ih => exact ih (hc e)
  | set e _ ih => exact ih hc
  | ask told _ ih => exact ih (hc told)
  | early _ _ ih => exact ih (hc _)
  | call _ _ ih => exact ih (hc _)
  | nested _ ih => exact ih (hc _)

/-- Where no call declares anything new, declarations stay. -/
theorem Declared.leads {s₀ : Store} (hc : c.Declared s₀) (hs : Store.Agrees s₀ s)
    (h : Leads c s c' s') : Store.Agrees s₀ s' := by
  induction h with
  | refl => exact hs
  | see e _ ih => exact ih (hc e) hs
  | set e _ ih => exact ih hc hs
  | ask told _ ih => exact ih (hc told) hs
  | early _ _ ih => exact ih (hc.2 _) hs
  | @call v next c s s' _ _ ih =>
    have hdeclared : ∀ src ∈ v.declared?, s.Declares src := fun src hsrc ↦
      (hc.1 src hsrc).agrees hs
    exact ih (hc.2 _) (hs.trans (v.harmless_run hdeclared).1)
  | nested _ ih => exact ih (hc.2 _) hs

end Client

namespace World

variable {w w₁ w' : World (Memory × ε)} {id : TaskId} {n : Nat}

/-- The task whose turn it is holds the lock alone. -/
structure Alone (w : World (Memory × ε)) (id : TaskId) : Prop where
  writer : w.lock.writer = true
  readers : w.lock.readers = 0
  placed : id < w.tasks.length

/-- A task that does something in the world `w₀` is given the lock alone in `w`, at once or after it
has waited for it, and has its turn there, which leads to `v`. -/
inductive Granted {σ : Type} (id : TaskId) (a : Action σ Unit) (w₀ : World σ) :
    World σ → World σ → Prop
  | atOnce (hlock : w₀.lock.admits .write = true) (hid : id < w₀.tasks.length) :
    Granted id a w₀ w₀ (w₀.advance id a)
  | later {w : World σ} {next : Outcome Unit → Action σ Unit}
    (hlock : w₀.lock.admits .write = false) (hasked : (w₀.advance id a).onward id = some next)
    (hwaits : w.onward id = some next) (hfree : w.lock.admits .write = true) :
    Granted id a w₀ w (w.perform (.recheck id .write))

theorem lt_length_of_onward {σ : Type} {w : World σ} {next : Outcome Unit → Action σ Unit}
    (h : w.onward id = some next) : id < w.tasks.length := by
  obtain ⟨p, hp, -⟩ := Option.bind_eq_some_iff.mp h
  exact (List.getElem?_eq_some_iff.mp hp).1

theorem onward_mark {σ : Type} {w : World σ} (hid : id < w.tasks.length) (ticket : Option Nat)
    (next : Outcome Unit → Action σ Unit) :
    (w.mark id (.paused ticket next)).onward id = some next := by
  rw [onward, getElem?_mark, if_pos rfl, List.getElem?_eq_getElem hid]
  rfl

/-- However the lock was got, the task goes on with it. -/
theorem Granted.exists_alone {a : Action (Memory × ε) Unit} {w₀ w v : World (Memory × ε)}
    {next : Outcome Unit → Action (Memory × ε) Unit} (h : Granted id a w₀ w v)
    (ha : w₀.advance id a = w₀.advance id (.ask (.enter .write) next)) :
    ∃ u : World (Memory × ε), u.memory = w.memory ∧ u.Alone id ∧
      v = u.advance id (next (.ok ())) := by
  have hreaders {l : Lock} (hl : l.admits .write = true) : (l.enter .write).readers = 0 := by
    simp_all [Lock.admits, Lock.enter]
  have hserve := w₀.serve_enter id .write
  cases h with
  | atOnce hlock hid =>
    rw [hlock, if_pos rfl] at hserve
    exact ⟨w₀.entered .write, rfl, ⟨rfl, hreaders hlock, hid⟩,
      ha.trans (advance_ask_of_inl hserve)⟩
  | later hlock hasked hwaits hfree =>
    rw [hlock, if_neg Bool.false_ne_true] at hserve
    rw [ha, advance_ask_of_inr hserve] at hasked
    have hid : id < (w₀.awaiting id .write).tasks.length :=
      Nat.lt_of_lt_of_eq (lt_length_of_onward hasked) List.length_set
    rw [onward_mark hid] at hasked
    cases hasked
    have hdesist : (w.lock.desist .write).admits .write = true := hfree
    refine ⟨{ w with lock := (w.lock.desist .write).enter .write }, rfl,
      ⟨rfl, hreaders hdesist, lt_length_of_onward hwaits⟩, ?_⟩
    rw [perform, if_pos hfree]
    exact continueWith_of_onward (w := { w with lock := (w.lock.desist .write).enter .write })
      hwaits (.ok ())

/-- The transaction with the scope `n` goes on from the world after one turn of its task to the
world after another one.  Between its turns others neither change the documents nor do they take the
lock or leave it; then the task is told something. -/
inductive Lasts (id : TaskId) (n : Nat) : World (Memory × ε) → World (Memory × ε) → Prop
  | refl (w : World (Memory × ε)) : Lasts id n w w
  | turn {w w₁ w' : World (Memory × ε)} {next : Outcome Unit → Action (Memory × ε) Unit}
    {told : Outcome Unit} (hn : w.memory.isActive (.inScope n) = true)
    (hwaits : w.onward id = some next) (hnext : w₁.onward id = some next)
    (hmemory : w₁.memory = w.memory) (hlock : w₁.lock.writer = w.lock.writer)
    (hreaders : w₁.lock.readers = w.lock.readers)
    (h : Lasts id n (w₁.advance id (next told)) w') : Lasts id n w w'

/-- A transaction that has ended lasts no longer. -/
theorem Lasts.eq_of_inactive (h : Lasts id n w w') (hn : w.memory.isActive (.inScope n) = false) :
    w' = w := by
  cases h with
  | refl => rfl
  | turn hn' =>
    rw [hn] at hn'
    cases hn'

/-- In the turn that has led to `w` a task has left a job behind that leaves the lock.  Once that is
done the world is `after`: nobody holds the lock, and the task is about to learn of it and to go
on. -/
structure Relinquished (id : TaskId) (next : Action (Memory × ε) Unit)
    (w after : World (Memory × ε)) : Prop where
  left : ∃ ready ticket, w.ready = ready ++ [.release id .write ticket] ∧
    after = ({ w with ready } : World (Memory × ε)).perform (.release id .write ticket) ∧
    .relay id ticket (.ok ()) ∈ after.ready
  onward : ∃ goOn, after.onward id = some goOn ∧ goOn (.ok ()) = next
  free : after.lock.admits .write = true

/-- In the turn that has led to `w` a task has ended its transaction, and has left a job behind that
leaves the lock.  Once that is done the world is `after`: nobody holds the lock, nobody is in a
transaction, and the task is about to learn of it and to go on. -/
structure Concluded (id : TaskId) (n : Nat) (next : Action (Memory × ε) Unit)
    (w after : World (Memory × ε)) : Prop where
  left : ∃ ready ticket, w.ready = ready ++ [.release id .write ticket] ∧
    after = ({ w with ready } : World (Memory × ε)).perform (.release id .write ticket) ∧
    .relay id ticket (.ok ()) ∈ after.ready
  onward : ∃ goOn, after.onward id = some goOn ∧ goOn (.ok ()) = next
  free : after.lock.admits .write = true
  owner : after.memory.owner = none
  inactive : after.memory.isActive (.inScope n) = false

theorem isActive_closed (w : World (Memory × ε)) (id : TaskId) (n : Nat) (kept : Bool)
    (next : Outcome Unit → Action (Memory × ε) Unit) :
    (w.closed id n kept next).memory.isActive (.inScope n) = false := by
  have hended (m : Memory) : (m.ended n).isActive (.inScope n) = false := by
    rw [← Bool.not_eq_true, Memory.isActive_ended]
    exact fun h ↦ h.1 rfl
  cases kept <;> exact hended _

/-- A task that holds the lock alone can leave it. -/
theorem Alone.relinquished (h : w.Alone id) (next : Outcome Unit → Action (Memory × ε) Unit) :
    ∃ after, Relinquished id (next (.ok ()))
      ((w.leaving id .write).mark id (.paused (some w.tickets) next)) after ∧
        after.memory = w.memory := by
  obtain ⟨ready, hready⟩ : ∃ ready, ready = w.ready := ⟨_, rfl⟩
  -- the lock is held alone, so the job can leave it
  have hleave : w.lock.leave? .write = .ok { w.lock with writer := false } := if_pos h.writer
  obtain ⟨w₁, hw₁⟩ := exists_letGo? (w := ({ (w.leaving id .write).mark id
    (.paused (some w.tickets) next) with ready } : World (Memory × ε))) hleave
  obtain ⟨l, hl, halike, -, -, -⟩ := letGo?_eq_ok hw₁
  obtain rfl : { w.lock with writer := false } = l := Except.ok.inj (hleave.symm.trans hl)
  have hperform : ({ (w.leaving id .write).mark id (.paused (some w.tickets) next) with
      ready } : World (Memory × ε)).perform (.release id .write w.tickets) =
        w₁.push (.relay id w.tickets (.ok ())) := by
    rw [perform, hw₁]
  refine ⟨_, ⟨⟨ready, w.tickets, ?_, rfl, ?_⟩, ⟨next, ?_, rfl⟩, ?_⟩, ?_⟩
  · rw [hready]
    rfl
  · rw [hperform]
    exact List.mem_append_right _ (List.mem_singleton_self _)
  · rw [hperform]
    refine (congrFun halike.onward id).trans ?_
    exact onward_mark (w := w.leaving id .write) h.placed (some w.tickets) next
  · rw [hperform]
    change w₁.lock.admits .write = true
    rw [halike.lock]
    simp [Lock.admits, h.readers]
  · rw [hperform]
    exact congrArg Prod.fst halike.state

/-- The end of a transaction. -/
theorem Alone.concluded (h : w.Alone id) (kept : Bool)
    (next : Outcome Unit → Action (Memory × ε) Unit) : ∃ after,
      Concluded id n (next (.ok ())) (w.closed id n kept next) after ∧
        after.memory = (if kept then w.memory else w.memory.restored n).ended n := by
  have halone : (w.withMemory
      ((if kept then w.memory else w.memory.restored n).ended n)).Alone id := ⟨h.1, h.2, h.3⟩
  obtain ⟨after, hleft, hafter⟩ := halone.relinquished next
  refine ⟨after, ⟨hleft.left, hleft.onward, hleft.free, ?_, ?_⟩, hafter⟩
  · rw [hafter]
    rfl
  · rw [hafter]
    exact w.isActive_closed id n kept next

theorem cancel_frame (w : World (Memory × ε)) (i : TaskId) :
    (w.cancel i).state = w.state ∧ (w.cancel i).lock = w.lock ∧
      (w.cancel i).tasks.length = w.tasks.length := by
  rw [cancel]
  split
  · dsimp only
    split <;> exact ⟨rfl, rfl, List.length_set⟩
  · exact ⟨rfl, rfl, rfl⟩

/-- A request that is none to the lock concerns neither the lock nor the documents. -/
theorem serve_inl_frame {q : Request} {r : Outcome Unit} (hq : q.isFree = true)
    (hserve : w.serve id q = .inl (w', r)) :
    w'.state = w.state ∧ w'.lock = w.lock ∧ w'.tasks.length = w.tasks.length := by
  cases q with
  | enter m => cases hq
  | leave m => cases hq
  | letGo m => cases hq
  | gate g =>
    rw [serve] at hserve
    split at hserve
    · cases hserve
      exact ⟨rfl, rfl, rfl⟩
    · cases hserve
  | openGate g =>
    cases hserve
    exact ⟨rfl, rfl, rfl⟩
  | cancel i =>
    rw [serve] at hserve
    split at hserve
    · cases hserve
    · cases hserve
      exact w.cancel_frame i
  | yield => cases hserve

end World

namespace Client

open World

variable {form : Scoping} {k : Outcome ρ → Action (Memory × ε) Unit} {w w₁ w' : World (Memory × ε)}
  {m m₁ : Memory} {id : TaskId} {n : Nat} {c c₁ : Client ε ρ}

/-- What is left to do of a transaction, and after it. -/
def remaining (form : Scoping) (n : Nat) (k : Outcome ρ → Action (Memory × ε) Unit)
    (c : Client ε ρ) : Action (Memory × ε) Unit :=
  (c.act (.inScope n)).andThen fun r ↦ (form.conclude n r).andThen k

theorem remaining_call (v : Verb) (next : Outcome Verb.Reply → Client ε ρ) :
    (call v next).remaining form n k =
      (v.call (.inScope n)).andThen fun r ↦ (next r).remaining form n k := by
  simp only [remaining, act, Action.andThen_assoc]

theorem remaining_commit (next : Outcome Unit → Client ε ρ) : (commit next).remaining form n k =
    (Memory.commit (.inScope n)).andThen fun r ↦ (next r).remaining form n k := by
  simp only [remaining, act, Action.andThen_assoc]

theorem remaining_rollback (next : Outcome Unit → Client ε ρ) :
    (rollback next).remaining form n k =
      (Memory.rollback (.inScope n)).andThen fun r ↦ (next r).remaining form n k := by
  simp only [remaining, act, Action.andThen_assoc]

theorem remaining_transaction (work : Client ε ρ) (next : Outcome ρ → Client ε ρ) :
    (transaction work next).remaining form n k =
      (Memory.transaction (.inScope n) fun scope ↦ work.act scope).andThen fun r ↦
        (next r).remaining form n k := by
  simp only [remaining, act, Action.andThen_assoc]

/-- Worlds in which a transaction has just ended that began, or went on, with a client in a memory.
`goes` tells how its task goes on from what the work has come to. -/
inductive Closes (goes : Client ε ρ → (Outcome Unit → Action (Memory × ε) Unit) → Prop)
    (id : TaskId) (n : Nat) (c : Client ε ρ) (m : Memory) : World (Memory × ε) → Prop
  | closed {c' : Client ε ρ} {s : Store} {kept : Bool} {w : World (Memory × ε)}
    {next : Outcome Unit → Action (Memory × ε) Unit} (hleads : c.Leads m.store c' s)
    (hkept : c'.keeps? = some kept) (hgoes : goes c' next)
    (hmemory : w.memory = { m with store := s }) (halone : w.Alone id) :
    Closes goes id n c m (w.closed id n kept next)

theorem Closes.of_leads {goes : Client ε ρ → (Outcome Unit → Action (Memory × ε) Unit) → Prop}
    (h : Closes goes id n c₁ m₁ w')
    (hm : ∀ s, ({ m₁ with store := s } : Memory) = { m with store := s })
    (hc : ∀ c' s, c₁.Leads m₁.store c' s → c.Leads m.store c' s) : Closes goes id n c m w' := by
  cases h with
  | closed hleads hkept hgoes hmemory halone =>
    exact .closed (hc _ _ hleads) hkept hgoes (hmemory.trans (hm _)) halone

/-- After each turn, a transaction is still under way and its task waits for something, or it has
ended as its work has led to it. -/
theorem closes_of_lasts {goes : Client ε ρ → (Outcome Unit → Action (Memory × ε) Unit) → Prop}
    (hdone : ∀ (w : World (Memory × ε)) r, w.memory.isActive (.inScope n) = true → ∃ next,
      goes (.done r) next ∧
        w.advance id ((form.conclude n r).andThen k) = w.closed id n r.isOk next)
    (hcommit : ∀ next, goes (.commit next) fun told ↦ (next told).remaining form n k)
    (hrollback : ∀ next, goes (.rollback next) fun told ↦ (next told).remaining form n k)
    (hn : w.memory.isActive (.inScope n) = true) (halone : w.Alone id)
    (h : Lasts id n (w.advance id (c.remaining form n k)) w') :
    (w'.memory.isActive (.inScope n) = true ∧ ∃ next, w'.onward id = some next) ∨
      Closes goes id n c w.memory w' := by
  induction c generalizing w with
  | done r =>
    obtain ⟨next, hgoes, hclosed⟩ := hdone w r hn
    rw [show w.advance id ((done r).remaining form n k) = _ from hclosed] at h
    obtain rfl := h.eq_of_inactive (isActive_closed w _ _ _ _)
    exact .inr (.closed (.refl _ _) rfl hgoes rfl halone)
  | see next ih =>
    exact (ih w.state.2 hn halone h).imp_right (·.of_leads (fun _ ↦ rfl) fun _ _ ↦ .see _)
  | set e next ih =>
    exact (ih (w := w.withCommon e) hn ⟨halone.1, halone.2, halone.3⟩ h).imp_right
      (·.of_leads (fun _ ↦ rfl) fun _ _ ↦ .set e)
  | ask q free next ih =>
    cases hserve : w.serve id q with
    | inl p =>
      obtain ⟨hstate, hlock, hlength⟩ := serve_inl_frame free hserve
      have hadvance : w.advance id ((ask q free next).remaining form n k) =
          p.1.advance id ((next p.2).remaining form n k) := advance_ask_of_inl hserve
      have hmemory : p.1.memory = w.memory := congrArg Prod.fst hstate
      rw [hadvance] at h
      refine (ih p.2 (hmemory ▸ hn) ⟨hlock ▸ halone.1, hlock ▸ halone.2, hlength ▸ halone.3⟩
        h).imp_right (·.of_leads (fun _ ↦ by rw [hmemory]) fun _ _ hleads ↦ .ask p.2 ?_)
      rw [← hmemory]
      exact hleads
    | inr p =>
      have halike := serve_inr free hserve
      have hadvance : w.advance id ((ask q free next).remaining form n k) = p.1.mark id
          (.paused p.2 fun told ↦ (next told).remaining form n k) := advance_ask_of_inr hserve
      have hmemory : p.1.memory = w.memory := congrArg Prod.fst halike.state
      rw [hadvance] at h
      have hwaits : (p.1.mark id (.paused p.2 fun told ↦
          (next told).remaining form n k)).onward id =
            some fun told ↦ (next told).remaining form n k :=
        onward_mark (halike.length ▸ halone.placed) _ _
      cases h with
      | refl => exact .inl ⟨hmemory ▸ hn, _, hwaits⟩
      | @turn _ w₁ _ next' told _ hnext hnext' hmemory' hwriter hreaders h =>
        rw [hwaits] at hnext
        cases hnext
        have hmemory' : w₁.memory = w.memory := hmemory'.trans hmemory
        have halone' : w₁.Alone id := by
          refine ⟨hwriter.trans ?_, hreaders.trans ?_, lt_length_of_onward hnext'⟩
          · exact (congrArg Lock.writer halike.lock).trans halone.writer
          · exact (congrArg Lock.readers halike.lock).trans halone.readers
        refine (ih told (hmemory' ▸ hn) halone' h).imp_right
          (·.of_leads (fun _ ↦ by rw [hmemory']) fun _ _ hleads ↦ .ask told ?_)
        rw [← hmemory']
        exact hleads
  | call v next ih =>
    rw [remaining_call, advance_call_inScope, hn] at h
    cases hv : v.early? true with
    | some r =>
      rw [hv] at h
      exact (ih r hn halone h).imp_right (·.of_leads (fun _ ↦ rfl) fun _ _ ↦ .early hv)
    | none =>
      rw [hv] at h
      exact (ih _ (w := w.withStore (v.run w.memory.store).1) hn ⟨halone.1, halone.2, halone.3⟩
        h).imp_right (·.of_leads (fun _ ↦ rfl) fun _ _ ↦ .call hv)
  | commit next ih =>
    have hadvance : w.advance id ((commit next).remaining form n k) =
        w.closed id n true fun told ↦ (next told).remaining form n k := by
      rw [remaining_commit, advance_commit_inScope, hn, if_pos rfl, advance_close]
      rfl
    rw [hadvance] at h
    obtain rfl := h.eq_of_inactive (isActive_closed w _ _ _ _)
    exact .inr (.closed (.refl _ _) rfl (hcommit next) rfl halone)
  | rollback next ih =>
    have hadvance : w.advance id ((rollback next).remaining form n k) =
        w.closed id n false fun told ↦ (next told).remaining form n k := by
      rw [remaining_rollback, advance_rollback_inScope, hn, if_pos rfl, advance_close]
      rfl
    rw [hadvance] at h
    obtain rfl := h.eq_of_inactive (isActive_closed w _ _ _ _)
    exact .inr (.closed (.refl _ _) rfl (hrollback next) rfl halone)
  | transaction work next _ ih =>
    rw [remaining_transaction, advance_transaction_inScope, hn, if_pos rfl] at h
    exact (ih _ hn halone h).imp_right (·.of_leads (fun _ ↦ rfl) fun _ _ ↦ .nested)

/-- The task goes on once it has learnt that the lock was left. -/
abbrev Ends (form : Scoping) (k : Outcome ρ → Action (Memory × ε) Unit) (id : TaskId) (n : Nat) :
    Client ε ρ → Memory → World (Memory × ε) → Prop :=
  Closes (fun c' next ↦ next (.ok ()) = c'.following form n k) id n

theorem ends_of_lasts (hn : w.memory.isActive (.inScope n) = true) (halone : w.Alone id)
    (h : Lasts id n (w.advance id (c.remaining form n k)) w') :
    (w'.memory.isActive (.inScope n) = true ∧ ∃ next, w'.onward id = some next) ∨
      Ends form k id n c w.memory w' :=
  closes_of_lasts (fun _ r hn ↦ advance_conclude_scoping id form hn r k) (fun _ ↦ rfl)
    (fun _ ↦ rfl) hn halone h

/-- After each turn of a task that was given a transaction, it waits in it, or the transaction has
ended as its work has led to it. -/
theorem ends_of_lasts_run {work : Client ε ρ} {w₀ v : World (Memory × ε)}
    (howner : w₀.memory.ownsLock id = false) (hready : form.Ready w₀.memory)
    (hgranted : Granted id ((form.run work.act).andThen k) w₀ w v)
    (h : Lasts id w.memory.scopes.length v w') :
    (w'.memory.isActive (.inScope w.memory.scopes.length) = true ∧
        ∃ next, w'.onward id = some next) ∨
      Ends form k id w.memory.scopes.length work (w.memory.opened id) w' := by
  obtain ⟨next, hrun, hnext⟩ := exists_advance_run howner hready work.act k
  obtain ⟨u, hmemory, halone, rfl⟩ := hgranted.exists_alone hrun
  rw [hnext, hmemory] at h
  exact ends_of_lasts (w := u.withMemory (w.memory.opened id))
    (Memory.isActive_opened.mpr (.inl rfl)) ⟨halone.1, halone.2, halone.3⟩ h

/-- What was ended leaves the documents that its last call has left, or those of its beginning. -/
theorem Closes.concluded {goes : Client ε ρ → (Outcome Unit → Action (Memory × ε) Unit) → Prop}
    (h : Closes goes id m.scopes.length c (m.opened id) w') :
    ∃ c' s kept next after, c.Leads m.store c' s ∧ c'.keeps? = some kept ∧ goes c' next ∧
      w'.onward id = some next ∧ Concluded id m.scopes.length (next (.ok ())) w' after ∧
      after.memory.store = if kept then s else s.restore m.store.checkpoint := by
  cases h with
  | @closed c' s kept w next hleads hkept hgoes hmemory halone =>
    obtain ⟨after, hconcluded, hafter⟩ := halone.concluded (n := m.scopes.length) kept next
    refine ⟨c', s, kept, next, after, hleads, hkept, hgoes, ?_, hconcluded, ?_⟩
    · exact onward_mark (w := World.leaving _ id .write) halone.placed (some w.tickets) next
    · rw [hafter, hmemory]
      cases kept with
      | true => rfl
      | false =>
        have hscope : (m.opened id).scopes[m.scopes.length]? =
            some { checkpoint := m.store.checkpoint } := List.getElem?_concat_length
        have hrestored : ({ m.opened id with store := s } : Memory).restored m.scopes.length =
            { m.opened id with store := s.restore m.store.checkpoint } := by
          rw [Memory.restored, hscope]
        exact congrArg Memory.store hrestored

theorem Ends.concluded (h : Ends form k id m.scopes.length c (m.opened id) w') :
    ∃ c' s kept after, c.Leads m.store c' s ∧ c'.keeps? = some kept ∧
      Concluded id m.scopes.length (c'.following form m.scopes.length k) w' after ∧
      after.memory.store = if kept then s else s.restore m.store.checkpoint := by
  obtain ⟨c', s, kept, next, after, hleads, hkept, hnext, -, hconcluded, hstore⟩ :=
    Closes.concluded h
  exact ⟨c', s, kept, after, hleads, hkept, hnext ▸ hconcluded, hstore⟩

section Run

variable {work : Client ε ρ} {w₀ v : World (Memory × ε)}

/-- Work is done as a whole or not at all.  Once its task has the lock, after each of its turns the
transaction is still under way and the task waits in it, or it has ended: where the work has failed,
the documents and the last row number are those at the beginning, and the task goes on with the
fault; where it has succeeded, they are those that its last call has left.  The lock is free, nobody
is in a transaction, and the handle is of no use any more. -/
theorem atomic (hwork : work.StaysInside) (howner : w₀.memory.ownsLock id = false)
    (hready : form.Ready w₀.memory)
    (hgranted : Granted id ((form.run work.act).andThen k) w₀ w v)
    (h : Lasts id w.memory.scopes.length v w') :
    (w'.memory.isActive (.inScope w.memory.scopes.length) = true ∧
        ∃ next, w'.onward id = some next) ∨
      ∃ r s after, work.Leads w.memory.store (.done r) s ∧
        Concluded id w.memory.scopes.length (k r) w' after ∧
        (∀ a, r = .ok a → after.memory.store = s) ∧
        ∀ f, r = .error f → after.memory.store.tables = w.memory.store.tables ∧
          after.memory.store.lastRow = w.memory.store.lastRow := by
  refine (ends_of_lasts_run howner hready hgranted h).imp_right fun hends ↦ ?_
  obtain ⟨c', s, kept, after, hleads, hkept, hconcluded, hstore⟩ := hends.concluded
  -- the work has not ended the transaction itself, so it has come to its own end
  have hstays := hwork.leads hleads
  cases c' with
  | done r =>
    cases hkept
    refine ⟨r, s, after, hleads, hconcluded, ?_, ?_⟩
    · rintro a rfl
      exact hstore
    · rintro f rfl
      rw [hstore]
      exact ⟨rfl, rfl⟩
  | commit next => exact hstays.elim
  | rollback next => exact hstays.elim
  | see next => cases hkept
  | set e next => cases hkept
  | ask q free next => cases hkept
  | call v next => cases hkept
  | transaction work next => cases hkept

/-- A table of users with a key and a shape. -/
def users : Source := ⟨"users", [("id", .integer)], ["id"], none⟩

def user (i : Int) : Record := ⟨[("id", ⟨.integer, .integer i⟩)], []⟩

/-- A task beside a table with one user. -/
def oneUser : World (Memory × Unit) :=
  .ofState ({ store := ((Store.declare {} users).insert "users" (user 7)).1 }, ())

/-- Adds another user, gives way, and is cancelled. -/
def addAndFail : Client Unit Unit :=
  .call (.insert users (user 8)) fun _ ↦
    .ask .yield rfl fun _ ↦ .done (.error .cancelled)

/-- A unit of work that is cancelled after it has added a user leaves the only one that there
was. -/
theorem atomic_addAndFail :
    let v := oneUser.advance 0
      ((Scoping.run addAndFail.act (.unitOfWork { database := .shared })).andThen .done)
    v.memory.store.tables = [("users", [⟨1, user 7, []⟩, ⟨2, user 8, []⟩])] ∧
      ∃ w' after, Lasts 0 0 v w' ∧ Concluded 0 0 (.done (.error .cancelled)) w' after ∧
        after.memory.store.tables = [("users", [⟨1, user 7, []⟩])] ∧
        after.memory.store.lastRow = 1 := by
  have hstays : addAndFail.StaysInside := fun _ _ ↦ trivial
  have hready : (Scoping.unitOfWork { database := .shared }).Ready oneUser.memory :=
    ⟨rfl, fun h hh ↦ by cases hh⟩
  have hgranted : Granted 0
      ((Scoping.run addAndFail.act (.unitOfWork { database := .shared })).andThen .done)
      oneUser oneUser _ := .atOnce rfl Nat.zero_lt_one
  have hlasts := @Lasts.turn Unit 0 0 (oneUser.advance 0 ((Scoping.run addAndFail.act
    (.unitOfWork { database := .shared })).andThen .done)) _ _ _ (.error .cancelled)
      rfl rfl rfl rfl rfl rfl (.refl _)
  obtain ⟨hopen, -⟩ | ⟨r, s, after, hleads, hconcluded, -, hundone⟩ :=
    atomic hstays rfl hready hgranted hlasts
  · cases hopen
  · have hr : r = .error .cancelled := by
      cases hleads with
      | early hv => cases hv
      | call _ hleads =>
        cases hleads with
        | ask _ hleads =>
          cases hleads
          rfl
    subst hr
    exact ⟨rfl, _, after, hlasts, hconcluded, hundone _ rfl⟩

/-- Of a transaction that is undone, because its work fails or asks for it, documents and row
numbers keep no trace.  The store as a whole is the one at the beginning if and only if no
declaration was changed by the calls, and so it is where they declare nothing new. -/
theorem undone_eq_iff (howner : w₀.memory.ownsLock id = false) (hready : form.Ready w₀.memory)
    (hgranted : Granted id ((form.run work.act).andThen k) w₀ w v)
    (h : Lasts id w.memory.scopes.length v w')
    (hended : w'.memory.isActive (.inScope w.memory.scopes.length) = false) :
    ∃ c' s kept after, work.Leads w.memory.store c' s ∧ c'.keeps? = some kept ∧
      Concluded id w.memory.scopes.length (c'.following form w.memory.scopes.length k) w' after ∧
      (kept = false → after.memory.store.tables = w.memory.store.tables ∧
        after.memory.store.lastRow = w.memory.store.lastRow ∧
        (after.memory.store = w.memory.store ↔ Store.Agrees w.memory.store s) ∧
        (work.Declared w.memory.store → after.memory.store = w.memory.store)) := by
  obtain ⟨hopen, -⟩ | hends := ends_of_lasts_run howner hready hgranted h
  · rw [hended] at hopen
    cases hopen
  obtain ⟨c', s, kept, after, hleads, hkept, hconcluded, hstore⟩ := hends.concluded
  refine ⟨c', s, kept, after, hleads, hkept, hconcluded, ?_⟩
  rintro rfl
  have hstore : after.memory.store = s.restore w.memory.store.checkpoint := hstore
  have hiff : after.memory.store = w.memory.store ↔ Store.Agrees w.memory.store s := by
    rw [hstore]
    refine ⟨fun heq ↦ ?_, fun hagrees ↦ hagrees.restore_checkpoint⟩
    rw [← heq]
    exact ⟨rfl, rfl⟩
  rw [hiff, hstore]
  exact ⟨rfl, rfl, .rfl, fun hdeclared ↦ hdeclared.leads (.refl _) hleads⟩

/-- Nothing at all is left of the user that was added where users had been declared before. -/
theorem undone_eq_iff_addAndFail :
    let v := oneUser.advance 0 ((Scoping.run addAndFail.act .transaction).andThen .done)
    ∃ w' after, Lasts 0 0 v w' ∧ Concluded 0 0 (.done (.error .cancelled)) w' after ∧
      after.memory.store = oneUser.memory.store := by
  have hready : Scoping.transaction.Ready oneUser.memory := trivial
  have hgranted : Granted 0 ((Scoping.run addAndFail.act .transaction).andThen .done)
      oneUser oneUser _ := .atOnce rfl Nat.zero_lt_one
  have hlasts := @Lasts.turn Unit 0 0 (oneUser.advance 0 ((Scoping.run addAndFail.act
    .transaction).andThen .done)) _ _ _ (.error .cancelled) rfl rfl rfl rfl rfl rfl (.refl _)
  obtain ⟨c', s, kept, after, hleads, hkept, hconcluded, hundone⟩ :=
    undone_eq_iff rfl hready hgranted hlasts rfl
  have hc' : c' = .done (.error .cancelled) := by
    cases hleads with
    | refl => cases hkept
    | early hv => cases hv
    | call _ hleads =>
      cases hleads with
      | refl => cases hkept
      | ask _ hleads =>
        cases hleads
        rfl
  subst hc'
  cases hkept
  have hdeclared : addAndFail.Declared oneUser.memory.store := by
    refine ⟨fun src hsrc ↦ ?_, fun _ _ ↦ trivial⟩
    cases hsrc
    exact ⟨.inr rfl, .inr rfl⟩
  exact ⟨_, after, hlasts, hconcluded, (hundone rfl).2.2.2 hdeclared⟩

/-- A transaction that adds a user to an empty store and then fails leaves its declarations behind:
once the lock is left the store is not the one at the beginning, and a user whose number is a text
is refused who could have been added then. -/
theorem undone_leaves_declarations :
    let work : Client Unit Unit := .call (.insert users (user 7)) fun _ ↦ .done (.error .cancelled)
    let w : World (Memory × Unit) := .ofState ({}, ())
    let v := w.advance 0 ((Scoping.run work.act .transaction).andThen .done)
    let after := ({ v with ready := [] } : World (Memory × Unit)).perform (.release 0 .write 0)
    let write := WriteStatement.insert "users" [("id", .text "a")]
    v.ready = [.release 0 .write 0] ∧ after.memory.owner = none ∧
      after.memory.store.tables = w.memory.store.tables ∧
      after.memory.store.keys ≠ w.memory.store.keys ∧
      after.memory.store.shapes ≠ w.memory.store.shapes ∧
      (w.memory.store.write write).2 = .ok () ∧ (after.memory.store.write write).2 ≠ .ok () := by
  refine ⟨rfl, rfl, rfl, ?_, ?_, rfl, ?_⟩
  · exact List.cons_ne_nil _ _
  · exact List.cons_ne_nil _ _
  · exact fun h ↦ by cases h

end Run

end Client

end RecordStore
