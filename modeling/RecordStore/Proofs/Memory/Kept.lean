import RecordStore.Proofs.Memory.Run

/-!
# What turns keep

Whatever a client does in its turn, the history goes on as a ledger, and the lock is held by those
whose job will leave it and by the transaction that is under way.

* `World.Kept` is what holds between the things that happen in a turn.
* `Client.play_after` and `Stage.Fits.play_after` show that it holds after the turn.
-/

namespace RecordStore

variable {ε ρ : Type} {s₀ : Store} {es : List Event} {w w' : World (Memory × ε)} {id : TaskId}
  {n : Nat} {m : Mode} {v : Verb}

/-- How often the lock is held in a mode by one that may hold it. -/
def Mode.among (m : Mode) (held : Option Mode) : Nat := if held = some m then 1 else 0

namespace World

/-- The history is a ledger for the memory, and the lock is held by those whose job will leave it,
by the transaction that is under way, and by the task whose turn it is in the mode `held`. -/
structure Kept (s₀ : Store) (es : List Event) (held : Option Mode) (w : World (Memory × ε)) :
    Prop where
  readers : w.lock.readers = w.releasing.countP (·.2 = .read) + Mode.among .read held
  writer : (if w.lock.writer then 1 else 0) = w.releasing.countP (·.2 = .write) +
    (if w.memory.owner.isSome then 1 else 0) + Mode.among .write held
  agrees : Store.Agrees s₀ w.memory.store
  openers : (openers es).length = w.memory.scopes.length
  ledger : Ledger s₀ w.memory es

theorem Kept.congr {held : Option Mode} (h : Kept s₀ es held w)
    (hlock : w'.lock.readers = w.lock.readers ∧ w'.lock.writer = w.lock.writer)
    (hreleasing : w'.releasing = w.releasing) (hstate : w'.state = w.state) :
    Kept s₀ es held w' where
  readers := by rw [hlock.1, hreleasing, h.readers]
  writer := by rw [hlock.2, hreleasing, memory, hstate, h.writer, memory]
  agrees := by
    rw [memory, hstate]
    exact h.agrees
  openers := by
    rw [memory, hstate]
    exact h.openers
  ledger := by
    rw [memory, hstate]
    exact h.ledger

theorem Kept.alike {held : Option Mode} (h : Kept s₀ es held w) (ha : Alike w w') :
    Kept s₀ es held w' :=
  h.congr ⟨congrArg _ ha.lock, congrArg _ ha.lock⟩ ha.releasing ha.state

/-- Where the lock admits somebody, no transaction is under way. -/
theorem Kept.owner_eq_none (h : Kept s₀ es none w) (hm : w.lock.admits m = true) :
    w.memory.owner = none := by
  have hwriter := h.writer
  have hfree : w.lock.writer = false := by cases m <;> simp_all [Lock.admits]
  rw [hfree] at hwriter
  cases howner : w.memory.owner with
  | none => rfl
  | some i =>
    rw [howner] at hwriter
    simp only [Bool.false_eq_true, if_false, Option.isSome_some, if_true] at hwriter
    omega

/-- The task whose turn it is takes the lock. -/
theorem Kept.enter (h : Kept s₀ es none w) (hm : w.lock.admits m = true)
    (hlock : w'.lock.readers = (w.lock.enter m).readers ∧
      w'.lock.writer = (w.lock.enter m).writer)
    (hstate : w'.state = w.state) (hreleasing : w'.releasing = w.releasing) :
    Kept s₀ es (some m) w' where
  readers := by
    have hreaders := h.readers
    rw [hlock.1, hreleasing]
    cases m <;> simp_all [Lock.enter, Mode.among]
  writer := by
    have hwriter := h.writer
    rw [hlock.2, hreleasing, memory, hstate]
    cases m with
    | read => exact hwriter
    | write =>
      have hfree : w.lock.writer = false := by simp_all [Lock.admits]
      rw [hfree] at hwriter
      exact congrArg (· + 1) hwriter
  agrees := by
    rw [memory, hstate]
    exact h.agrees
  openers := by
    rw [memory, hstate]
    exact h.openers
  ledger := by
    rw [memory, hstate]
    exact h.ledger

/-- The task whose turn it is lets a job leave the lock. -/
theorem Kept.leaving (h : Kept s₀ es (some m) w) : Kept s₀ es none (w.leaving id m) where
  readers := by
    have hreleasing : (w.leaving id m).releasing = (id, m) ::ₘ w.releasing := releasing_push w _
    rw [hreleasing, Multiset.countP_cons]
    refine h.readers.trans ?_
    cases m <;> simp [Mode.among]
  writer := by
    have hreleasing : (w.leaving id m).releasing = (id, m) ::ₘ w.releasing := releasing_push w _
    rw [hreleasing, Multiset.countP_cons]
    refine h.writer.trans ?_
    change _ + (if w.memory.owner.isSome then 1 else 0) + _ = _ +
      (if w.memory.owner.isSome then 1 else 0) + _
    cases m with
    | read => rfl
    | write => exact Nat.add_right_comm _ _ _
  agrees := h.agrees
  openers := h.openers
  ledger := h.ledger

/-- A single call is made by a task that has the lock. -/
theorem Kept.call (h : Kept s₀ es (some m) w) (howner : w.memory.owner = none)
    (hv : v.Declared s₀) : Kept s₀ (es ++ [.alone id v (v.run w.memory.store).2]) (some m)
      (w.withStore (v.run w.memory.store).1) := by
  have hdeclared (src : Source) (hsrc : src ∈ v.declared?) : w.memory.store.Declares src :=
    (hv src hsrc).agrees h.agrees
  refine ⟨h.readers, h.writer, h.agrees.trans (v.harmless_run hdeclared).1, ?_,
    h.ledger.alone howner v hdeclared⟩
  rw [openers_append, List.length_append]
  exact h.openers

theorem Kept.begin (h : Kept s₀ es (some .write) w) (howner : w.memory.owner = none) :
    Kept s₀ (es ++ [.began id w.memory.scopes.length]) none
      (w.withMemory (w.memory.opened id)) := by
  refine ⟨h.readers, ?_, h.agrees, ?_, h.ledger.begin howner h.agrees h.openers⟩
  · refine h.writer.trans ?_
    rw [howner]
    rfl
  · rw [openers_append, List.length_append, h.openers]
    change _ = (w.memory.scopes ++ [_]).length
    rw [List.length_append]
    rfl

/-- A call is made in a transaction. -/
theorem Kept.scopedCall (h : Kept s₀ es none w) (hn : w.memory.isActive (.inScope n) = true)
    (hopener : (RecordStore.openers es)[n]? = some id) (hv : v.Declared s₀) :
    Kept s₀ (es ++ [.scoped id n v (v.run w.memory.store).2]) none
      (w.withStore (v.run w.memory.store).1) := by
  have hdeclared (src : Source) (hsrc : src ∈ v.declared?) : w.memory.store.Declares src :=
    (hv src hsrc).agrees h.agrees
  refine ⟨h.readers, h.writer, h.agrees.trans (v.harmless_run hdeclared).1, ?_,
    h.ledger.call hn hopener v⟩
  rw [openers_append, List.length_append]
  exact h.openers

theorem Kept.owner_of_active (h : Kept s₀ es none w)
    (hn : w.memory.isActive (.inScope n) = true)
    (hopener : (RecordStore.openers es)[n]? = some id) : w.memory.owner = some id := by
  obtain ⟨_, _, _, _, _, _, _, howner, _⟩ := h.ledger.of_active hn hopener
  exact howner

theorem Kept.commit (h : Kept s₀ es none w) (hn : w.memory.isActive (.inScope n) = true)
    (hopener : (RecordStore.openers es)[n]? = some id) :
    Kept s₀ (es ++ [.committed id n]) (some .write) (w.withMemory (w.memory.ended n)) := by
  refine ⟨h.readers, ?_, h.agrees, ?_, h.ledger.commit hn hopener⟩
  · refine h.writer.trans ?_
    rw [h.owner_of_active hn hopener]
    rfl
  · rw [openers_append, List.length_append]
    exact h.openers.trans (List.length_modify _ _ _).symm

theorem Kept.undo (h : Kept s₀ es none w) (hn : w.memory.isActive (.inScope n) = true)
    (hopener : (RecordStore.openers es)[n]? = some id) :
    Kept s₀ (es ++ [.rolledBack id n]) (some .write)
      (w.withMemory ((w.memory.restored n).ended n)) := by
  have hrestored : Store.Agrees s₀ (w.memory.restored n).store ∧
      (w.memory.restored n).scopes = w.memory.scopes := by
    rw [Memory.restored]
    split
    · exact ⟨⟨h.agrees.keys, h.agrees.shapes⟩, rfl⟩
    · exact ⟨h.agrees, rfl⟩
  refine ⟨h.readers, ?_, hrestored.1, ?_, h.ledger.undo hn hopener h.agrees⟩
  · refine h.writer.trans ?_
    rw [h.owner_of_active hn hopener]
    rfl
  · rw [openers_append, List.length_append]
    refine h.openers.trans ?_
    rw [← hrestored.2]
    exact (List.length_modify _ _ _).symm

/-- It is the task's turn, and all others are where they wait. -/
def Busy {σ : Type} (w : World σ) (id : TaskId) : Prop :=
  Machine.Sound ⟨w, some (id, .done (.ok ()))⟩

section Busy

variable {σ : Type} {w w' : World σ}

theorem Busy.sound (h : Busy w id) (a : Action σ Unit) : Machine.Sound ⟨w, some (id, a)⟩ :=
  ⟨h.placed, h.guarded⟩

theorem Busy.withState (h : Busy w id) (s : σ) : Busy { w with state := s } id :=
  (h.sound (.put s (.done (.ok ())))).go

theorem Busy.entered (h : Busy w id) (hm : w.lock.admits m = true) : Busy (w.entered m) id := by
  have hgo := (h.sound (.ask (.enter m) fun _ ↦ .done (.ok ()))).go
  rw [Machine.go, serve, if_pos hm] at hgo
  exact hgo

/-- Nobody waits elsewhere who was not there before a request that has nothing to do with the
lock. -/
theorem Busy.serve_inl {q : Request} {r : Outcome Unit} (h : Busy w id) (hq : q.isFree = true)
    (hserve : w.serve id q = .inl (w', r)) : Busy w' id ∧ Alike w w' := by
  have hgo := (h.sound (.ask q fun _ ↦ .done (.ok ()))).go
  rw [Machine.go, hserve] at hgo
  refine ⟨hgo, ?_⟩
  cases q with
  | enter m => cases hq
  | leave m => cases hq
  | letGo m => cases hq
  | gate g =>
    rw [serve] at hserve
    split at hserve
    · cases hserve
      exact .refl w
    · cases hserve
  | openGate g =>
    cases hserve
    exact alike_openGate w g
  | cancel i =>
    rw [serve] at hserve
    split at hserve
    · cases hserve
    · rename_i hi
      cases hserve
      exact (h.placed.cancel (by simpa using Ne.symm hi)).2
  | yield => cases hserve

theorem serve_inr {q : Request} {ticket : Option Nat} (hq : q.isFree = true)
    (hserve : w.serve id q = .inr (w', ticket)) : Alike w w' := by
  have hpush (r : Outcome Unit) : Alike w (w.push (.resume id r)) :=
    ⟨rfl, rfl, List.Subset.refl _, waiting_push w _, releasing_push w _, rfl, rfl⟩
  cases q with
  | enter m => cases hq
  | leave m => cases hq
  | letGo m => cases hq
  | gate g =>
    rw [serve] at hserve
    split at hserve
    · cases hserve
    · cases hserve
      exact ⟨rfl, rfl, List.Subset.refl _, rfl, rfl, rfl, rfl⟩
  | openGate g => cases hserve
  | cancel i =>
    rw [serve] at hserve
    split at hserve
    · cases hserve
      exact hpush _
    · cases hserve
  | yield =>
    cases hserve
    exact hpush _

end Busy

/-- Nobody has begun or ceased to wait for the lock, or to do anything. -/
structure Steady {σ : Type} (w w' : World σ) : Prop where
  waiting : w'.waiting = w.waiting
  onward : w'.onward = w.onward
  length : w'.tasks.length = w.tasks.length

theorem Steady.refl {σ : Type} (w : World σ) : Steady w w := ⟨rfl, rfl, rfl⟩

theorem Alike.steady {σ : Type} {w w' : World σ} (h : Alike w w') : Steady w w' :=
  ⟨h.waiting, h.onward, h.length⟩

theorem steady_leaving (w : World (Memory × ε)) (memory : Memory) (id : TaskId) (m : Mode) :
    Steady w ((w.withMemory memory).leaving id m) :=
  ⟨waiting_push (w.withMemory memory) _, rfl, rfl⟩

end World

/-- What a stage needs: the work in a transaction is that of a transaction that its task has begun,
and what follows uses tables as they are declared. -/
def Stage.Fits (s₀ : Store) (es : List Event) (id : TaskId) : Stage ε ρ → Prop
  | ended _ => True
  | outside next => ∀ told, (next told).Declared s₀
  | inside n rest next =>
    (openers es)[n]? = some id ∧ (∀ told, (rest told).Declared s₀) ∧ ∀ r, (next r).Declared s₀
  | calling v next => v.Declared s₀ ∧ ∀ r, (next r).Declared s₀
  | opening work next => work.Declared s₀ ∧ ∀ r, (next r).Declared s₀

theorem Stage.Fits.append {stage : Stage ε ρ} (h : stage.Fits s₀ es id) (es' : List Event) :
    stage.Fits s₀ (es ++ es') id := by
  cases stage with
  | inside n rest next => exact ⟨opener_append h.1, h.2⟩
  | _ => exact h

namespace Turn

open World

/-- What a turn leaves, which begins in a world. -/
structure After (s₀ : Store) (es : List Event) (id : TaskId) (w : World (Memory × ε))
    (t : Turn ε ρ) : Prop where
  kept : Kept s₀ (es ++ t.events) none t.world
  fits : t.stage.Fits s₀ (es ++ t.events) id
  waiting : t.world.waiting = t.stage.awaited?.elim w.waiting fun m ↦ (id, m) ::ₘ w.waiting
  onward : t.world.onward = w.onward
  length : t.world.tasks.length = w.tasks.length

variable {t : Turn ε ρ}

theorem After.of_steady (h : After s₀ es id w' t) (hw : Steady w w') : After s₀ es id w t where
  kept := h.kept
  fits := h.fits
  waiting := hw.waiting ▸ h.waiting
  onward := h.onward.trans hw.onward
  length := h.length.trans hw.length

/-- What has happened before is part of the turn. -/
theorem After.after {e : Event} (h : After s₀ (es ++ [e]) id w t) :
    After s₀ es id w (t.after e) where
  kept := by
    have hkept := h.kept
    rw [List.append_assoc] at hkept
    exact hkept
  fits := by
    have hfits := h.fits
    rw [List.append_assoc] at hfits
    exact hfits
  waiting := h.waiting
  onward := h.onward
  length := h.length

/-- A task that waits for anything but the lock. -/
theorem after_of_steady {stage : Stage ε ρ} {ticket : Option Nat} {es' : List Event}
    (hkept : Kept s₀ (es ++ es') none w') (hw : Steady w w')
    (hfits : stage.Fits s₀ (es ++ es') id) (hstage : stage.awaited? = none) :
    After s₀ es id w { world := w', stage, ticket, events := es' } where
  kept := hkept
  fits := hfits
  waiting := by
    rw [hstage]
    exact hw.waiting
  onward := hw.onward
  length := hw.length

theorem after_committing {stage : Stage ε ρ} (hkept : Kept s₀ es none w)
    (hn : w.memory.isActive (.inScope n) = true) (hopener : (openers es)[n]? = some id)
    (hfits : stage.Fits s₀ es id) (hstage : stage.awaited? = none) :
    After s₀ es id w (committing id n w stage) :=
  after_of_steady (hkept.commit hn hopener).leaving (steady_leaving w _ _ _) (hfits.append _) hstage

theorem after_undoing {stage : Stage ε ρ} (hkept : Kept s₀ es none w)
    (hn : w.memory.isActive (.inScope n) = true) (hopener : (openers es)[n]? = some id)
    (hfits : stage.Fits s₀ es id) (hstage : stage.awaited? = none) :
    After s₀ es id w (undoing id n w stage) :=
  after_of_steady (hkept.undo hn hopener).leaving (steady_leaving w _ _ _) (hfits.append _) hstage

theorem after_call {next : Outcome Verb.Reply → Client ε ρ} (hkept : Kept s₀ es (some v.mode) w)
    (howner : w.memory.owner = none) (hv : v.Declared s₀) (hnext : ∀ r, (next r).Declared s₀) :
    After s₀ es id w (call id v w next) :=
  after_of_steady (hkept.call howner hv).leaving (steady_leaving w _ _ _) (fun _ ↦ hnext _) rfl

end Turn

namespace Client

open World Turn

section PlayIn

variable {next : Outcome ρ → Client ε ρ} {goOn : World (Memory × ε) → Outcome ρ → Turn ε ρ}

theorem conclude_after
    (hgoOn : ∀ es w r, Busy w id → Kept s₀ es none w → After s₀ es id w (goOn w r))
    (hnext : ∀ r, (next r).Declared s₀) (r : Outcome ρ) (hbusy : Busy w id)
    (hkept : Kept s₀ es none w) (hopener : (openers es)[n]? = some id) :
    After s₀ es id w (conclude id n next goOn r w) := by
  unfold conclude
  cases hn : w.memory.isActive (.inScope n) with
  | false => exact hgoOn es w _ hbusy hkept
  | true =>
    cases r with
    | ok a => exact after_committing hkept hn hopener (fun _ ↦ hnext _) rfl
    | error f => exact after_undoing hkept hn hopener (fun _ ↦ hnext _) rfl

/-- What a turn leaves that does the work of a transaction. -/
theorem playIn_after
    (hgoOn : ∀ es w r, Busy w id → Kept s₀ es none w → After s₀ es id w (goOn w r))
    (hnext : ∀ r, (next r).Declared s₀) {c : Client ε ρ} (hc : c.Declared s₀)
    (hbusy : Busy w id) (hkept : Kept s₀ es none w) (hopener : (openers es)[n]? = some id) :
    After s₀ es id w (c.playIn id n next goOn w) := by
  induction c generalizing es w with
  | done r => exact conclude_after hgoOn hnext r hbusy hkept hopener
  | see rest ih => exact ih _ (hc _) hbusy hkept hopener
  | set e rest ih =>
    have hset : Kept s₀ es none (w.withCommon e) := ⟨hkept.readers, hkept.writer, hkept.agrees,
      hkept.openers, hkept.ledger⟩
    exact (ih hc (hbusy.withState _) hset hopener).of_steady ⟨rfl, rfl, rfl⟩
  | ask q free rest ih =>
    rw [playIn]
    cases hserve : w.serve id q with
    | inl p =>
      obtain ⟨hbusy', halike⟩ := hbusy.serve_inl free hserve
      exact (ih p.2 (hc p.2) hbusy' (hkept.alike halike) hopener).of_steady halike.steady
    | inr p =>
      have halike := serve_inr free hserve
      rw [← List.append_nil es] at hkept hopener
      exact after_of_steady (hkept.alike halike) halike.steady ⟨hopener, hc, hnext⟩ rfl
  | call v rest ih =>
    rw [playIn]
    cases v.early? (w.memory.isActive (.inScope n)) with
    | some r => exact ih r (hc.2 r) hbusy hkept hopener
    | none =>
      cases hn : w.memory.isActive (.inScope n) with
      | false => exact ih _ (hc.2 _) hbusy hkept hopener
      | true =>
        have hbusy' : Busy (w.withStore (v.run w.memory.store).1) id := hbusy.withState _
        have hturn := ih _ (hc.2 (v.run w.memory.store).2) hbusy'
          (hkept.scopedCall hn hopener hc.1) (opener_append hopener)
        have hsteady : Steady w (w.withStore (v.run w.memory.store).1) := ⟨rfl, rfl, rfl⟩
        exact (hturn.of_steady hsteady).after
  | commit rest ih =>
    rw [playIn]
    cases hn : w.memory.isActive (.inScope n) with
    | false => exact ih _ (hc _) hbusy hkept hopener
    | true => exact after_committing hkept hn hopener ⟨hopener, hc, hnext⟩ rfl
  | rollback rest ih =>
    rw [playIn]
    cases hn : w.memory.isActive (.inScope n) with
    | false => exact ih _ (hc _) hbusy hkept hopener
    | true => exact after_undoing hkept hn hopener ⟨hopener, hc, hnext⟩ rfl
  | transaction work rest _ ih =>
    rw [playIn]
    cases w.memory.isActive (.inScope n) <;> exact ih _ (hc.2 _) hbusy hkept hopener

theorem playBegun_after
    (hgoOn : ∀ es w r, Busy w id → Kept s₀ es none w → After s₀ es id w (goOn w r))
    (hnext : ∀ r, (next r).Declared s₀) {work : Client ε ρ} (hwork : work.Declared s₀)
    (hbusy : Busy w id) (hkept : Kept s₀ es (some .write) w) (howner : w.memory.owner = none) :
    After s₀ es id w (work.playBegun id next goOn w) := by
  have hbusy' : Busy (w.withMemory (w.memory.opened id)) id := hbusy.withState _
  have hopener : (openers (es ++ [.began id w.memory.scopes.length]))[w.memory.scopes.length]? =
      some id := by
    rw [openers_append, ← hkept.openers]
    exact List.getElem?_concat_length
  have hturn := playIn_after hgoOn hnext hwork hbusy' (hkept.begin howner) hopener
  have hsteady : Steady w (w.withMemory (w.memory.opened id)) := ⟨rfl, rfl, rfl⟩
  exact (hturn.of_steady hsteady).after

end PlayIn

/-- A task that has to wait for the lock. -/
theorem after_awaiting {stage : Stage ε ρ} (hkept : Kept s₀ es none w) (hfits : stage.Fits s₀ es id)
    (hstage : stage.awaited? = some m) :
    After s₀ es id w { world := w.awaiting id m, stage } where
  kept := by
    rw [List.append_nil]
    refine ⟨?_, ?_, hkept.agrees, hkept.openers, hkept.ledger⟩
    · refine Eq.trans ?_ hkept.readers
      cases m <;> rfl
    · refine Eq.trans ?_ hkept.writer
      cases m <;> rfl
  fits := hfits.append _
  waiting := by
    rw [hstage]
    exact waiting_enqueue { w with lock := w.lock.await m } (id, m)
  onward := rfl
  length := rfl

/-- What a turn leaves of a task with the shared handle. -/
theorem play_after {c : Client ε ρ} (hc : c.Declared s₀) (hbusy : Busy w id)
    (hkept : Kept s₀ es none w) : After s₀ es id w (c.play id w) := by
  induction c generalizing es w with
  | done r =>
    rw [← List.append_nil es] at hkept
    exact after_of_steady hkept (.refl w) trivial rfl
  | see next ih => exact ih _ (hc _) hbusy hkept
  | set e next ih =>
    have hset : Kept s₀ es none (w.withCommon e) := ⟨hkept.readers, hkept.writer, hkept.agrees,
      hkept.openers, hkept.ledger⟩
    exact (ih hc (hbusy.withState _) hset).of_steady ⟨rfl, rfl, rfl⟩
  | ask q free next ih =>
    rw [play]
    cases hserve : w.serve id q with
    | inl p =>
      obtain ⟨hbusy', halike⟩ := hbusy.serve_inl free hserve
      exact (ih p.2 (hc p.2) hbusy' (hkept.alike halike)).of_steady halike.steady
    | inr p =>
      have halike := serve_inr free hserve
      rw [← List.append_nil es] at hkept
      exact after_of_steady (hkept.alike halike) halike.steady hc rfl
  | call v next ih =>
    rw [play]
    cases v.early? false with
    | some r => exact ih r (hc.2 r) hbusy hkept
    | none =>
      cases w.memory.ownsLock id with
      | true => exact ih _ (hc.2 _) hbusy hkept
      | false =>
        cases hm : w.lock.admits v.mode with
        | true =>
          have hentered : Kept s₀ es (some v.mode) (w.entered v.mode) :=
            hkept.enter hm ⟨rfl, rfl⟩ rfl rfl
          exact (after_call hentered (hkept.owner_eq_none hm) hc.1 hc.2).of_steady ⟨rfl, rfl, rfl⟩
        | false => exact after_awaiting hkept hc rfl
  | commit next ih => exact ih _ (hc _) hbusy hkept
  | rollback next ih => exact ih _ (hc _) hbusy hkept
  | transaction work next _ ih =>
    rw [play]
    cases w.memory.ownsLock id with
    | true => exact ih _ (hc.2 _) hbusy hkept
    | false =>
      cases hm : w.lock.admits .write with
      | true =>
        have hentered : Kept s₀ es (some .write) (w.entered .write) :=
          hkept.enter hm ⟨rfl, rfl⟩ rfl rfl
        have hturn : After s₀ es id (w.entered .write)
            (work.playBegun id next (fun w r ↦ (next r).play id w) (w.entered .write)) :=
          playBegun_after (fun es w r hbusy hkept ↦ ih r (hc.2 r) hbusy hkept) hc.2 hc.1
            (hbusy.entered hm) hentered (hkept.owner_eq_none hm)
        exact hturn.of_steady ⟨rfl, rfl, rfl⟩
      | false => exact after_awaiting hkept hc rfl

end Client

namespace Stage

open World Turn

/-- What a turn leaves that begins where a task waits for anything but the lock. -/
theorem Fits.play_after {stage : Stage ε ρ} (hfits : stage.Fits s₀ es id) (hbusy : Busy w id)
    (hkept : Kept s₀ es none w) (told : Outcome Unit)
    (hstage : stage.awaited? = none ∨ ∃ f, told = .error f) :
    After s₀ es id w (stage.play id w told) := by
  cases stage with
  | ended r =>
    rw [← List.append_nil es] at hkept
    exact after_of_steady hkept (.refl w) trivial rfl
  | outside next => exact Client.play_after (hfits told) hbusy hkept
  | inside n rest next =>
    exact Client.playIn_after (fun es w r hbusy hkept ↦ Client.play_after (hfits.2.2 r) hbusy hkept)
      hfits.2.2 (hfits.2.1 told) hbusy hkept hfits.1
  | calling v next =>
    obtain ⟨f, rfl⟩ := hstage.resolve_left (by simp [awaited?])
    exact Client.play_after (hfits.2 _) hbusy hkept
  | opening work next =>
    obtain ⟨f, rfl⟩ := hstage.resolve_left (by simp [awaited?])
    exact Client.play_after (hfits.2 _) hbusy hkept

/-- What a turn leaves that begins with the lock. -/
theorem Fits.play_after_entered {stage : Stage ε ρ} (hfits : stage.Fits s₀ es id)
    (hbusy : Busy w id) (hstage : stage.awaited? = some m) (hkept : Kept s₀ es (some m) w)
    (howner : w.memory.owner = none) : After s₀ es id w (stage.play id w (.ok ())) := by
  cases stage with
  | ended r => cases hstage
  | outside next => cases hstage
  | inside n rest next => cases hstage
  | calling v next =>
    cases hstage
    exact after_call hkept howner hfits.1 hfits.2
  | opening work next =>
    cases hstage
    exact Client.playBegun_after
      (fun es w r hbusy hkept ↦ Client.play_after (hfits.2 r) hbusy hkept) hfits.2 hfits.1 hbusy
      hkept howner

end Stage

end RecordStore
