import Mathlib.Logic.Function.Basic
import RecordStore.Proofs.Task.Guard
import RecordStore.Task.Holders

/-!
# Holding the lock

An action is balanced if it leaves the lock only in modes in which it has entered it.  As long as
all tasks do balanced actions, the lock counts exactly those who hold it, a writer holds it alone,
and nobody sleeps who could enter.

* `Action.Balanced` is what balanced means; `Action.holding` keeps it.
* `Machine.Accounts` ties what the tasks will still leave to those who hold the lock.
* `Machine.Reached.excludes` is the theorem above.
-/

namespace RecordStore

variable {σ α β : Type}

namespace Action

/-- Begun while its task holds the lock in some modes, the action leaves it only in modes in which
it is held.  `after` are the modes at its end; an action for which there are none never gets there,
but ends its task, which then must not hold the lock. -/
def Balanced (after : Option (List Mode)) : List Mode → Action σ α → Prop
  | held, done _ => after = some held
  | held, exit _ => held = []
  | held, look next => ∀ s, Balanced after held (next s)
  | held, put _ next => Balanced after held next
  | held, self next => ∀ i, Balanced after held (next i)
  | held, lock next => ∀ l, Balanced after held (next l)
  | held, ends next => ∀ es, Balanced after held (next es)
  | held, fork next => (∀ i, Balanced after held (next (.own i))) ∧
    ∀ r, Balanced none [] (next (.child r))
  | held, ask (.enter m) next => Balanced after (m :: held) (next (.ok ())) ∧
    ∀ f, Balanced after held (next (.error f))
  | held, ask (.leave m) next => m ∈ held ∧ ∀ r, Balanced after (held.erase m) (next r)
  | held, ask (.letGo m) next => m ∈ held ∧ ∀ r, Balanced after (held.erase m) (next r)
  | held, ask _ next => ∀ r, Balanced after held (next r)

variable {after mid : Option (List Mode)} {held : List Mode} {m : Mode}

/-- What follows begins with what is held at the end of what comes before. -/
theorem Balanced.andThen {x : Action σ α} {k : Outcome α → Action σ β} (hx : x.Balanced mid held)
    (hk : ∀ h, mid = some h → ∀ r, (k r).Balanced after h) : (x.andThen k).Balanced after held := by
  induction x generalizing mid held after with
  | done r => exact hk held hx r
  | exit r => exact hx
  | look next ih => exact fun s ↦ ih s (hx s) hk
  | put s next ih => exact ih hx hk
  | self next ih => exact fun i ↦ ih i (hx i) hk
  | lock next ih => exact fun l ↦ ih l (hx l) hk
  | ends next ih => exact fun es ↦ ih es (hx es) hk
  | fork next ih => exact ⟨fun i ↦ ih _ (hx.1 i) hk, fun r ↦ ih _ (hx.2 r) (by simp)⟩
  | ask q next ih =>
    cases q with
    | enter m => exact ⟨ih _ hx.1 hk, fun f ↦ ih _ (hx.2 f) hk⟩
    | leave m => exact ⟨hx.1, fun r ↦ ih r (hx.2 r) hk⟩
    | letGo m => exact ⟨hx.1, fun r ↦ ih r (hx.2 r) hk⟩
    | gate g => exact fun r ↦ ih r (hx r) hk
    | openGate g => exact fun r ↦ ih r (hx r) hk
    | cancel i => exact fun r ↦ ih r (hx r) hk
    | yield => exact fun r ↦ ih r (hx r) hk

/-- What never gets to its end may be said to hold anything there. -/
theorem Balanced.of_none {x : Action σ α} (h : x.Balanced none held) : x.Balanced after held := by
  have hend : (x.andThen done).Balanced after held := h.andThen (by simp)
  rwa [andThen_end] at hend

/-- Holding the lock during an action leaves it in the mode in which it was entered. -/
theorem balanced_holding {x : Action σ α} (h : x.Balanced (some (m :: held)) (m :: held)) :
    (holding m x).Balanced (some held) held := by
  refine ⟨h.andThen ?_, fun f ↦ rfl⟩
  rintro h' hh' r
  cases hh'
  refine ⟨List.mem_cons_self, fun r' ↦ ?_⟩
  rw [List.erase_cons_head]
  cases r' <;> rfl

theorem balanced_holdUntilTold (m : Mode) (name : String) :
    (holdUntilTold m name).Balanced (some []) [] := by
  refine balanced_holding ?_
  intro r
  cases r with
  | error f => rfl
  | ok _ =>
    intro s
    simp only [Action.pure, andThen_done]
    split <;> rfl

end Action

namespace Machine

open World

/-- A task that will be told something goes on in a balanced way with what it still has to leave,
whatever it is told that it can be told where it waits. -/
structure Fits (w : World σ) (turn : Option (TaskId × Action σ Unit)) (i : TaskId)
    (held : List Mode) : Prop where
  busy : ∀ a, turn = some (i, a) → a.Balanced (some []) held
  awaits : ∀ next m, i ∉ turn.map Prod.fst → w.onward i = some next → (i, m) ∈ w.waiting →
    (next (.ok ())).Balanced (some []) (m :: held) ∧
      ∀ f, (next (.error f)).Balanced (some []) held
  pauses : ∀ next, i ∉ turn.map Prod.fst → w.onward i = some next → (∀ m, (i, m) ∉ w.waiting) →
    ∀ r, (next r).Balanced (some []) held
  ended : i ∉ turn.map Prod.fst → w.onward i = none → held = []

/-- Those who hold the lock are the tasks that have still to leave it and those for whom a job will
leave it; the lock counts them. -/
structure Accounts (M : Machine σ) (holders : Multiset (TaskId × Mode))
    (held : TaskId → List Mode) : Prop where
  count : ∀ i m, holders.count (i, m) = (held i).count m + M.world.releasing.count (i, m)
  fits : ∀ i, Fits M.world M.turn i (held i)
  readers : M.world.lock.readers = holders.countP (·.2 = .read)
  writer : (if M.world.lock.writer then 1 else 0) = holders.countP (·.2 = .write)

variable {P : Action σ Unit → Prop} {M M' : Machine σ} {w w' w₁ : World σ}
  {turn turn' : Option (TaskId × Action σ Unit)} {holders : Multiset (TaskId × Mode)}
  {held : TaskId → List Mode} {hs : List Mode} {id i : TaskId} {m : Mode} {r : Outcome Unit}
  {ticket : Nat}

/-- What does not concern a task leaves it as it is. -/
theorem Fits.frame (h : Fits w turn i hs) (hturn : i ∉ turn.map Prod.fst)
    (hturn' : i ∉ turn'.map Prod.fst) (honward : w'.onward i = w.onward i)
    (hwaiting : ∀ m, (i, m) ∈ w'.waiting ↔ (i, m) ∈ w.waiting) : Fits w' turn' i hs where
  busy a ha := absurd (by rw [ha]; rfl) hturn'
  awaits next m _ hnext hm := h.awaits next m hturn (honward ▸ hnext) ((hwaiting m).mp hm)
  pauses next _ hnext hm :=
    h.pauses next hturn (honward ▸ hnext) fun m hmem ↦ hm m ((hwaiting m).mpr hmem)
  ended _ hnone := h.ended hturn (honward ▸ hnone)

/-- A task whose turn it is. -/
theorem fits_busy {a : Action σ Unit} (h : a.Balanced (some []) hs) :
    Fits w (some (i, a)) i hs where
  busy a' ha' := by
    cases ha'
    exact h
  awaits _ _ hnot := absurd rfl hnot
  pauses _ hnot := absurd rfl hnot
  ended hnot := absurd rfl hnot

/-- Moving tasks from one place to another changes no account. -/
theorem Accounts.alike (h : Accounts ⟨w, turn⟩ holders held) (hlock : w'.lock = w.lock)
    (hwaiting : w'.waiting = w.waiting) (hreleasing : w'.releasing = w.releasing)
    (honward : w'.onward = w.onward) : Accounts ⟨w', turn⟩ holders held where
  count i m := by rw [hreleasing]; exact h.count i m
  fits i := by
    obtain ⟨hbusy, hawaits, hpauses, hended⟩ := h.fits i
    rw [← honward] at hawaits hpauses hended
    rw [← hwaiting] at hawaits hpauses
    exact ⟨hbusy, hawaits, hpauses, hended⟩
  readers := by rw [hlock]; exact h.readers
  writer := by rw [hlock]; exact h.writer

/-- One task goes on with other modes to leave, or leaves some to a job; all others stay as they
are. -/
theorem Accounts.update {holders' : Multiset (TaskId × Mode)} (h : Accounts ⟨w, turn⟩ holders held)
    (hturn : ∀ p ∈ turn, p.1 = id) (hturn' : ∀ p ∈ turn', p.1 = id)
    (honward : ∀ i ≠ id, w'.onward i = w.onward i)
    (hwaiting : ∀ i ≠ id, ∀ m, (i, m) ∈ w'.waiting ↔ (i, m) ∈ w.waiting)
    (hid : Fits w' turn' id hs)
    (hcount : ∀ m, holders'.count (id, m) = hs.count m + w'.releasing.count (id, m))
    (hcounts : ∀ i ≠ id, ∀ m, holders'.count (i, m) = holders.count (i, m) ∧
      w'.releasing.count (i, m) = w.releasing.count (i, m))
    (hreaders : w'.lock.readers = holders'.countP (·.2 = .read))
    (hwriter : (if w'.lock.writer then 1 else 0) = holders'.countP (·.2 = .write)) :
    Accounts ⟨w', turn'⟩ holders' (Function.update held id hs) where
  count i m := by
    by_cases hi : i = id
    · subst hi
      rw [Function.update_self]
      exact hcount m
    · rw [Function.update_of_ne hi, (hcounts i hi m).1, h.count i m]
      exact congrArg _ (hcounts i hi m).2.symm
  fits i := by
    by_cases hi : i = id
    · subst hi
      rw [Function.update_self]
      exact hid
    · rw [Function.update_of_ne hi]
      have hnot {t : Option (TaskId × Action σ Unit)} (ht : ∀ p ∈ t, p.1 = id) :
          i ∉ t.map Prod.fst := by
        intro hmem
        obtain ⟨p, hp, rfl⟩ := Option.mem_map.mp hmem
        exact hi (ht p hp)
      exact (h.fits i).frame (hnot hturn) (hnot hturn') (honward i hi) (hwaiting i hi)
  readers := hreaders
  writer := hwriter

/-- One task goes on without a change in what it holds. -/
theorem Accounts.goesOn (h : Accounts ⟨w, turn⟩ holders held)
    (hturn : ∀ p ∈ turn, p.1 = id) (hturn' : ∀ p ∈ turn', p.1 = id)
    (honward : ∀ i ≠ id, w'.onward i = w.onward i)
    (hwaiting : ∀ i ≠ id, ∀ m, (i, m) ∈ w'.waiting ↔ (i, m) ∈ w.waiting)
    (hid : Fits w' turn' id (held id)) (hreleasing : w'.releasing = w.releasing)
    (hlock : w'.lock.readers = w.lock.readers ∧ w'.lock.writer = w.lock.writer) :
    Accounts ⟨w', turn'⟩ holders held := by
  have hheld : Function.update held id (held id) = held := Function.update_eq_self id held
  rw [← hheld]
  refine h.update hturn hturn' honward hwaiting hid ?_ ?_ ?_ ?_
  · intro m
    rw [hreleasing]
    exact h.count id m
  · intro i _ m
    rw [hreleasing]
    exact ⟨rfl, rfl⟩
  · rw [hlock.1]
    exact h.readers
  · rw [hlock.2]
    exact h.writer

theorem mem_waiting_cons {s : Multiset (TaskId × Mode)} (hi : i ≠ id) (m' : Mode) :
    (i, m') ∈ (id, m) ::ₘ s ↔ (i, m') ∈ s := by
  rw [Multiset.mem_cons, Prod.mk.injEq]
  simp [hi]

theorem count_cons_ne {s : Multiset (TaskId × Mode)} (hi : i ≠ id) (m' : Mode) :
    ((id, m) ::ₘ s).count (i, m') = s.count (i, m') :=
  Multiset.count_cons_of_ne (by simp [hi]) s

/-- Whoever the lock admits takes it. -/
theorem Accounts.taken {a : Action σ Unit} (h : Accounts ⟨w, turn⟩ holders held)
    (hadmits : w.lock.admits m = true)
    (hturn : ∀ p ∈ turn, p.1 = id) (honward : w'.onward = w.onward)
    (hwaiting : ∀ i ≠ id, ∀ m, (i, m) ∈ w'.waiting ↔ (i, m) ∈ w.waiting)
    (ha : a.Balanced (some []) (m :: held id)) (hreleasing : w'.releasing = w.releasing)
    (hlock : w'.lock.readers = (w.lock.enter m).readers ∧
      w'.lock.writer = (w.lock.enter m).writer) :
    Accounts ⟨w', some (id, a)⟩ ((id, m) ::ₘ holders)
      (Function.update held id (m :: held id)) := by
  refine h.update hturn (by simp) (fun i _ ↦ congrFun honward i) hwaiting (fits_busy ha)
    ?_ ?_ ?_ ?_
  · intro m'
    rw [hreleasing, Multiset.count_cons, List.count_cons, h.count id m']
    by_cases hm : m' = m
    · subst hm
      simp
      omega
    · have hne : ¬(id, m') = (id, m) := by simp [hm]
      rw [if_neg hne, if_neg (by simpa using Ne.symm hm)]
      rfl
  · intro i hi m'
    rw [hreleasing]
    exact ⟨count_cons_ne hi m', rfl⟩
  · have hreaders := h.readers
    rw [hlock.1]
    cases m <;> simp_all [Lock.enter]
  · have hwriter := h.writer
    rw [hlock.2]
    cases m <;> simp_all [Lock.enter, Lock.admits]

/-- A task that is to leave the lock is one of those who hold it, and it can be left. -/
theorem Accounts.exists_leave? (h : Accounts ⟨w, turn⟩ holders held) (hmem : (id, m) ∈ holders) :
    ∃ l, w.lock.leave? m = .ok l ∧
      l.readers = (holders.erase (id, m)).countP (·.2 = .read) ∧
      (if l.writer then 1 else 0) = (holders.erase (id, m)).countP (·.2 = .write) := by
  have hreaders := h.readers
  have hwriter := h.writer
  rw [← Multiset.cons_erase hmem] at hreaders hwriter
  cases m with
  | read =>
    simp only [Multiset.countP_cons] at hreaders hwriter
    refine ⟨{ w.lock with readers := w.lock.readers - 1 }, ?_, ?_, ?_⟩
    · rw [Lock.leave?, if_neg]
      · rfl
      · simp_all
    · simp_all
    · simp_all
  | write =>
    simp only [Multiset.countP_cons] at hreaders hwriter
    cases hw : w.lock.writer with
    | false => simp [hw] at hwriter
    | true =>
      refine ⟨{ w.lock with writer := false }, ?_, ?_, ?_⟩
      · rw [Lock.leave?, if_pos hw]
        rfl
      · simp_all
      · simp_all

/-- Leaving the lock, on the spot or by a job, takes the task from those who hold it. -/
theorem Accounts.exists_letGo? (h : Accounts ⟨w, turn⟩ holders held) (hmem : (id, m) ∈ holders)
    (hlock : w₁.lock = w.lock) :
    ∃ w', w₁.letGo? m = .ok w' ∧ w'.waiting = w₁.waiting ∧ w'.releasing = w₁.releasing ∧
      w'.onward = w₁.onward ∧ w'.lock.readers = (holders.erase (id, m)).countP (·.2 = .read) ∧
      (if w'.lock.writer then 1 else 0) = (holders.erase (id, m)).countP (·.2 = .write) := by
  obtain ⟨l, hl, hreaders, hwriter⟩ := h.exists_leave? hmem
  rw [← hlock] at hl
  obtain ⟨w', hw'⟩ := World.exists_letGo? hl
  obtain ⟨l', hl', halike, -, -, -⟩ := letGo?_eq_ok hw'
  have heq : w'.lock = l := by
    rw [halike.lock]
    exact Except.ok.inj (hl'.symm.trans hl)
  exact ⟨w', hw', halike.waiting, halike.releasing, halike.onward, heq ▸ hreaders, heq ▸ hwriter⟩

/-- Those who hold the lock once a task has left it: the task does once less. -/
theorem count_erase (s : Multiset (TaskId × Mode)) (i : TaskId) (m' : Mode) :
    (s.erase (id, m)).count (i, m') =
      s.count (i, m') - if i = id ∧ m' = m then 1 else 0 := by
  by_cases heq : i = id ∧ m' = m
  · obtain ⟨rfl, rfl⟩ := heq
    simp
  · have hne : (i, m') ≠ (id, m) := by simpa using heq
    rw [Multiset.count_erase_of_ne hne, if_neg heq]
    rfl

/-! ## Taking up a job -/

/-- The task whose turn comes with a job goes on with what it was paused with. -/
theorem exists_onward (h : Sound ⟨w, none⟩) {j : Job} (ho : Offers w j w₁)
    (hplaces : w.places = id ::ₘ w₁.places) :
    ∃ next, w.onward id = some next ∧ (∀ m, (id, m) ∉ w₁.waiting) ∧
      ∀ r, w₁.resumed? (id, r) = some (id, next r) := by
  obtain ⟨⟨next, hnext⟩, hplaced⟩ := h.placed.take ho.tasks hplaces
  refine ⟨next, ?_, ?_, ?_⟩
  · rw [onward, ← ho.tasks, hnext]
    rfl
  · intro m hm
    refine (hplaced.busy id rfl).1 (Multiset.mem_add.mpr (.inl ?_))
    exact Multiset.mem_map.mpr ⟨(id, m), hm, rfl⟩
  · intro r
    rw [World.resumed?, hnext]

theorem Accounts.resume (hsound : Sound ⟨w, none⟩) (h : Accounts ⟨w, none⟩ holders held)
    (ho : Offers w (.resume id r) w₁) :
    Accounts (Machine.take w₁ (.resume id r)) holders held := by
  obtain ⟨next, hnext, hnot, hturn⟩ := exists_onward hsound ho (ho.places_of_resumed rfl rfl)
  have htake : Machine.take w₁ (.resume id r) = ⟨w₁, some (id, next r)⟩ := congrArg _ (hturn r)
  have hwaiting : w.waiting = w₁.waiting := ho.waiting
  have hfits := (h.fits id).pauses next (by simp) hnext (hwaiting ▸ hnot) r
  rw [htake]
  exact h.goesOn (by simp) (by simp) (fun i _ ↦ congrFun ho.onward i) (fun i _ m ↦ by rw [hwaiting])
    (fits_busy hfits) ho.releasing.symm (by rw [ho.lock]; exact ⟨rfl, rfl⟩)

theorem Accounts.recheck (hsound : Sound ⟨w, none⟩) (h : Accounts ⟨w, none⟩ holders held)
    (ho : Offers w (.recheck id m) w₁) :
    ∃ held', Accounts (Machine.take w₁ (.recheck id m))
      (Grip.after holders (w₁.gripOfJob (.recheck id m))) held' := by
  obtain ⟨next, hnext, -, hturn⟩ := exists_onward hsound ho (ho.places_of_awaited rfl rfl)
  have hwaiting : w.waiting = (id, m) ::ₘ w₁.waiting := ho.waiting
  by_cases hm : w₁.lock.admits m = true
  · have htake : Machine.take w₁ (.recheck id m) =
        ⟨{ w₁ with lock := (w₁.lock.desist m).enter m }, some (id, next (.ok ()))⟩ := by
      rw [Machine.take, deliver, if_pos hm]
      exact congrArg _ (hturn (.ok ()))
    have hfits := (h.fits id).awaits next (m := m) (by simp) hnext (by simp [hwaiting])
    rw [htake, gripOfJob, if_pos hm]
    refine ⟨_, h.taken (ho.lock ▸ hm) (by simp) ho.onward (fun i hi m' ↦ ?_) hfits.1
      ho.releasing.symm ?_⟩
    · rw [hwaiting]
      exact (mem_waiting_cons hi m').symm
    · rw [← ho.lock]
      cases m <;> exact ⟨rfl, rfl⟩
  · have htake : Machine.take w₁ (.recheck id m) =
        ⟨{ w₁ with queue := w₁.queue ++ [(id, m)] }, none⟩ := by
      rw [Machine.take, deliver, if_neg hm]
      rfl
    rw [htake, gripOfJob, if_neg hm]
    exact ⟨held, h.alike ho.lock ((waiting_enqueue w₁ (id, m)).trans hwaiting.symm)
      ho.releasing.symm ho.onward⟩

theorem Accounts.abort (hsound : Sound ⟨w, none⟩) (h : Accounts ⟨w, none⟩ holders held)
    (ho : Offers w (.abort id m) w₁) :
    Accounts (Machine.take w₁ (.abort id m)) holders held := by
  obtain ⟨next, hnext, -, hturn⟩ := exists_onward hsound ho (ho.places_of_awaited rfl rfl)
  have hwaiting : w.waiting = (id, m) ::ₘ w₁.waiting := ho.waiting
  have hfits := (h.fits id).awaits next (m := m) (by simp) hnext (by simp [hwaiting])
  have hothers (i : TaskId) (hi : i ≠ id) (m' : Mode) :
      (i, m') ∈ w₁.waiting ↔ (i, m') ∈ w.waiting := by
    rw [hwaiting]
    exact (mem_waiting_cons hi m').symm
  cases m with
  | read =>
    have htake : Machine.take w₁ (.abort id .read) = ⟨w₁, some (id, next (.error .cancelled))⟩ :=
      congrArg _ (hturn _)
    rw [htake]
    exact h.goesOn (by simp) (by simp) (fun i _ ↦ congrFun ho.onward i) hothers
      (fits_busy (hfits.2 _)) ho.releasing.symm (by rw [ho.lock]; exact ⟨rfl, rfl⟩)
  | write =>
    have htake : Machine.take w₁ (.abort id .write) =
        ⟨{ w₁ with lock := w₁.lock.desist .write }.wake, some (id, next (.error .cancelled))⟩ :=
      congrArg _ (hturn _)
    rw [htake]
    refine h.goesOn (by simp) (by simp) (fun i _ ↦ congrFun ho.onward i) ?_
      (fits_busy (hfits.2 _)) ((releasing_wake _).trans ho.releasing.symm) ?_
    · intro i hi m'
      rw [waiting_wake]
      exact hothers i hi m'
    · rw [← ho.lock]
      exact ⟨rfl, rfl⟩

theorem Accounts.release (h : Accounts ⟨w, none⟩ holders held)
    (ho : Offers w (.release id m ticket) w₁) :
    ∃ held', Accounts (Machine.take w₁ (.release id m ticket))
      (Grip.after holders (w₁.gripOfJob (.release id m ticket))) held' := by
  have hreleasing : w.releasing = (id, m) ::ₘ w₁.releasing := ho.releasing
  have hmem : (id, m) ∈ holders := by
    rw [← Multiset.one_le_count_iff_mem, h.count id m, hreleasing, Multiset.count_cons_self]
    omega
  obtain ⟨w', hw', hwaiting', hreleasing', honward', hreaders, hwriter⟩ :=
    h.exists_letGo? hmem ho.lock
  have htake : Machine.take w₁ (.release id m ticket) =
      ⟨w'.push (.relay id ticket (.ok ())), none⟩ := by
    rw [Machine.take, deliver, perform, hw']
    rfl
  have hgrip : Grip.after holders (w₁.gripOfJob (.release id m ticket)) =
      holders.erase (id, m) := by
    rw [gripOfJob, hw']
    rfl
  rw [htake, hgrip]
  have honward : (w'.push (.relay id ticket (.ok ()))).onward = w.onward := honward'.trans ho.onward
  have hwaiting : (w'.push (.relay id ticket (.ok ()))).waiting = w.waiting := by
    rw [waiting_push, ho.waiting]
    exact hwaiting'
  have hleft : (w'.push (.relay id ticket (.ok ()))).releasing = w₁.releasing := by
    rw [releasing_push]
    exact hreleasing'
  have hid : Fits (w'.push (.relay id ticket (.ok ()))) none id (held id) :=
    (h.fits id).frame (by simp) (by simp) (congrFun honward id) fun m' ↦ by rw [hwaiting]
  refine ⟨_, h.update (by simp) (by simp) (fun i _ ↦ congrFun honward i)
    (fun i _ m' ↦ by rw [hwaiting]) hid ?_ ?_ hreaders hwriter⟩
  · intro m'
    have hcount := h.count id m'
    rw [hreleasing, Multiset.count_cons] at hcount
    rw [hleft, count_erase, hcount]
    by_cases hm' : m' = m
    · simp [hm']
    · simp [hm']
  · intro i hi m'
    rw [hleft, hreleasing, count_erase, count_cons_ne hi m', if_neg (by simp [hi])]
    exact ⟨rfl, rfl⟩

theorem Accounts.relay (h : Accounts ⟨w, none⟩ holders held)
    (ho : Offers w (.relay id ticket r) w₁) :
    Accounts (Machine.take w₁ (.relay id ticket r)) holders held := by
  have halike := alike_relay w₁ id ticket r
  exact h.alike (halike.lock.trans ho.lock) (halike.waiting.trans ho.waiting.symm)
    (halike.releasing.trans ho.releasing.symm) (halike.onward.trans ho.onward)

theorem Accounts.take (hsound : Sound ⟨w, none⟩) (h : Accounts ⟨w, none⟩ holders held)
    {before after : List Job} {j : Job} (hready : w.ready = before ++ j :: after) :
    ∃ held', Accounts (Machine.take { w with ready := before ++ after } j)
      (Grip.after holders ({ w with ready := before ++ after }.gripOfJob j)) held' := by
  have ho := offers hready
  cases j with
  | resume id r => exact ⟨held, h.resume hsound ho⟩
  | recheck id m => exact h.recheck hsound ho
  | abort id m => exact ⟨held, h.abort hsound ho⟩
  | release id m ticket => exact h.release ho
  | relay id ticket r => exact ⟨held, h.relay ho⟩

/-! ## Going on with a task -/

theorem fits_ended (h : w.onward i = none) (hs' : hs = []) : Fits w none i hs where
  busy a ha := by cases ha
  awaits next m _ hnext := by
    rw [h] at hnext
    cases hnext
  pauses next _ hnext := by
    rw [h] at hnext
    cases hnext
  ended _ _ := hs'

/-- A task that waits for anything but the lock. -/
theorem fits_paused {next : Outcome Unit → Action σ Unit} (hnext : w.onward i = some next)
    (hnot : ∀ m, (i, m) ∉ w.waiting) (h : ∀ r, (next r).Balanced (some []) hs) :
    Fits w none i hs where
  busy a ha := by cases ha
  awaits next' m _ _ hm := absurd hm (hnot m)
  pauses next' _ hnext' _ := by
    rw [hnext] at hnext'
    cases hnext'
    exact h
  ended _ hnone := by
    rw [hnext] at hnone
    cases hnone

/-- A task that waits for the lock. -/
theorem fits_awaiting {next : Outcome Unit → Action σ Unit} (hnext : w.onward i = some next)
    (hmode : ∀ m', (i, m') ∈ w.waiting ↔ m' = m)
    (h : (next (.ok ())).Balanced (some []) (m :: hs) ∧
      ∀ f, (next (.error f)).Balanced (some []) hs) : Fits w none i hs where
  busy a ha := by cases ha
  awaits next' m' _ hnext' hm' := by
    rw [hnext] at hnext'
    cases hnext'
    rw [(hmode m').mp hm']
    exact h
  pauses next' _ _ hnot := absurd ((hmode m).mpr rfl) (hnot m)
  ended _ hnone := by
    rw [hnext] at hnone
    cases hnone

/-- The task whose turn it is is there, and waits for nothing. -/
theorem Sound.onward_mark {a : Action σ Unit} (h : Sound ⟨w, some (id, a)⟩)
    (htasks : w'.tasks = w.tasks) (p : Progress σ) :
    (w'.mark id p).onward id = p.onward? ∧ ∀ i ≠ id, (w'.mark id p).onward i = w.onward i := by
  obtain ⟨-, p', hp', -⟩ := h.placed.busy id rfl
  constructor
  · rw [onward, getElem?_mark, if_pos rfl, htasks, hp']
    rfl
  · intro i hi
    rw [onward, onward, getElem?_mark, if_neg (Ne.symm hi), htasks]

theorem Sound.notMem_waiting {a : Action σ Unit} (h : Sound ⟨w, some (id, a)⟩) (m : Mode) :
    (id, m) ∉ w.waiting := by
  intro hm
  refine (h.placed.busy id rfl).1 (Multiset.mem_add.mpr (.inl ?_))
  exact Multiset.mem_map.mpr ⟨(id, m), hm, rfl⟩

/-- The task whose turn it is begins to wait for something other than the lock. -/
theorem Accounts.pause {a : Action σ Unit} {next : Outcome Unit → Action σ Unit} (w' : World σ)
    (hsound : Sound ⟨w, some (id, a)⟩) (h : Accounts ⟨w, some (id, a)⟩ holders held)
    (hnext : ∀ r, (next r).Balanced (some []) (held id)) (htasks : w'.tasks = w.tasks)
    (hwaiting : w'.waiting = w.waiting) (hreleasing : w'.releasing = w.releasing)
    (hlock : w'.lock = w.lock) (ticket : Option Nat) :
    Accounts ⟨w'.mark id (.paused ticket next), none⟩ holders held := by
  obtain ⟨hid, hothers⟩ := hsound.onward_mark htasks (.paused ticket next)
  have hmarked : (w'.mark id (.paused ticket next)).waiting = w.waiting := hwaiting
  refine h.goesOn (by simp) (by simp) hothers (fun i _ m ↦ by rw [hmarked])
    (fits_paused hid ?_ hnext) hreleasing ?_
  · rw [hmarked]
    exact hsound.notMem_waiting
  · exact ⟨congrArg _ hlock, congrArg _ hlock⟩

theorem Accounts.pause_push {a : Action σ Unit} {next : Outcome Unit → Action σ Unit}
    (hsound : Sound ⟨w, some (id, a)⟩) (h : Accounts ⟨w, some (id, a)⟩ holders held)
    (hnext : ∀ r, (next r).Balanced (some []) (held id)) (r : Outcome Unit) :
    Accounts ⟨(w.push (.resume id r)).mark id (.paused none next), none⟩ holders held :=
  h.pause (w.push (.resume id r)) hsound hnext rfl (waiting_push w _) (releasing_push w _) rfl none

theorem Accounts.finish {a : Action σ Unit} (hsound : Sound ⟨w, some (id, a)⟩)
    (h : Accounts ⟨w, some (id, a)⟩ holders held) (hheld : held id = []) (r : Outcome Unit) :
    Accounts ⟨w.mark id (.finished r), none⟩ holders held := by
  obtain ⟨hid, hothers⟩ := hsound.onward_mark rfl (.finished r)
  exact h.goesOn (by simp) (by simp) hothers (fun _ _ _ ↦ Iff.rfl) (fits_ended hid hheld) rfl
    ⟨rfl, rfl⟩

/-- The task whose turn it is does something that is its own business. -/
theorem Accounts.alone {a a' : Action σ Unit} (h : Accounts ⟨w, some (id, a)⟩ holders held)
    (ha' : a'.Balanced (some []) (held id)) (hwaiting : w'.waiting = w.waiting)
    (hreleasing : w'.releasing = w.releasing) (honward : w'.onward = w.onward)
    (hlock : w'.lock = w.lock) : Accounts ⟨w', some (id, a')⟩ holders held :=
  h.goesOn (by simp) (by simp) (fun i _ ↦ congrFun honward i) (fun i _ m ↦ by rw [hwaiting])
    (fits_busy ha') hreleasing ⟨congrArg _ hlock, congrArg _ hlock⟩

/-- A new task has nothing to leave. -/
theorem Accounts.spawn {next : Outcome Unit → Action σ Unit} (hsound : Sound ⟨w, turn⟩)
    (h : Accounts ⟨w, turn⟩ holders held) (hnext : ∀ r, (next r).Balanced (some []) []) :
    Accounts ⟨w.spawn next, turn⟩ holders held := by
  have hwaiting : (w.spawn next).waiting = w.waiting := waiting_push _ _
  have hreleasing : (w.spawn next).releasing = w.releasing := releasing_push _ _
  have hnone : w.tasks[w.tasks.length]? = none := by simp
  refine ⟨fun i m ↦ by rw [hreleasing]; exact h.count i m, fun i ↦ ?_, h.readers, h.writer⟩
  obtain ⟨hbusy, hawaits, hpauses, hended⟩ := h.fits i
  by_cases hi : i = w.tasks.length
  · subst hi
    have hturn : w.tasks.length ∉ turn.map Prod.fst := by
      intro hmem
      obtain ⟨-, p, hp, -⟩ := hsound.placed.busy _ hmem
      rw [hnone] at hp
      cases hp
    have hnot (m : Mode) : (w.tasks.length, m) ∉ w.waiting := by
      intro hm
      obtain ⟨next', hnext'⟩ := hsound.placed.paused _
        (Multiset.mem_add.mpr (.inl (Multiset.mem_map.mpr ⟨_, hm, rfl⟩)))
      rw [hnone] at hnext'
      cases hnext'
    have hnew : (w.spawn next).onward w.tasks.length = some next := by
      rw [onward_spawn, if_pos rfl]
    have hheld : held w.tasks.length = [] := hended hturn (by rw [onward, hnone]; rfl)
    have hfits : Fits (w.spawn next) none w.tasks.length (held w.tasks.length) :=
      fits_paused hnew (fun m ↦ by rw [hwaiting]; exact hnot m) fun r ↦ by
        rw [hheld]
        exact hnext r
    exact hfits.frame (by simp) hturn rfl fun _ ↦ Iff.rfl
  · have honward : (w.spawn next).onward i = w.onward i := by rw [onward_spawn, if_neg hi]
    rw [← honward] at hawaits hpauses hended
    rw [← hwaiting] at hawaits hpauses
    exact ⟨hbusy, hawaits, hpauses, hended⟩

/-- Leaving the lock on the spot. -/
theorem Accounts.letGo {next : Outcome Unit → Action σ Unit}
    (h : Accounts ⟨w, some (id, .ask (.letGo m) next)⟩ holders held) :
    ∃ held', Accounts (Machine.go w id (.ask (.letGo m) next))
      (Grip.after holders (w.gripOfAction id (.ask (.letGo m) next))) held' := by
  obtain ⟨hm, hnext⟩ := (h.fits id).busy _ rfl
  have hmem : (id, m) ∈ holders := by
    have hpos := List.count_pos_iff.mpr hm
    rw [← Multiset.one_le_count_iff_mem, h.count id m]
    omega
  obtain ⟨w', hw', hwaiting, hreleasing, honward, hreaders, hwriter⟩ := h.exists_letGo? hmem rfl
  have hgo : Machine.go w id (.ask (.letGo m) next) = ⟨w', some (id, next (.ok ()))⟩ := by
    rw [Machine.go, serve, hw']
  have hgrip : Grip.after holders (w.gripOfAction id (.ask (.letGo m) next)) =
      holders.erase (id, m) := by
    rw [gripOfAction, hw']
    rfl
  rw [hgo, hgrip]
  refine ⟨_, h.update (by simp) (by simp) (fun i _ ↦ congrFun honward i)
    (fun i _ m' ↦ by rw [hwaiting]) (fits_busy (hnext _)) ?_ ?_ hreaders hwriter⟩
  · intro m'
    have hpos := List.count_pos_iff.mpr hm
    rw [count_erase, hreleasing, h.count id m', List.count_erase]
    by_cases hm' : m' = m
    · subst hm'
      simp
      omega
    · simp [hm', Ne.symm hm']
  · intro i hi m'
    rw [count_erase, if_neg (by simp [hi]), hreleasing]
    exact ⟨rfl, rfl⟩

/-- Leaving the lock by a job, which holds it until then. -/
theorem Accounts.leave {next : Outcome Unit → Action σ Unit}
    (hsound : Sound ⟨w, some (id, .ask (.leave m) next)⟩)
    (h : Accounts ⟨w, some (id, .ask (.leave m) next)⟩ holders held) :
    ∃ held', Accounts (Machine.go w id (.ask (.leave m) next)) holders held' := by
  obtain ⟨hm, hnext⟩ := (h.fits id).busy _ rfl
  have hgo : Machine.go w id (.ask (.leave m) next) =
      ⟨{ w.push (.release id m w.tickets) with tickets := w.tickets + 1 }.mark id
        (.paused (some w.tickets) next), none⟩ := rfl
  rw [hgo]
  generalize hw' : { w.push (.release id m w.tickets) with tickets := w.tickets + 1 } = w'
  have htasks : w'.tasks = w.tasks := by rw [← hw']; rfl
  have hlock : w'.lock = w.lock := by rw [← hw']; rfl
  have hwaiting : w'.waiting = w.waiting := by rw [← hw']; exact waiting_push w _
  have hreleasing : w'.releasing = (id, m) ::ₘ w.releasing := by
    rw [← hw']
    exact releasing_push w _
  obtain ⟨hid, hothers⟩ := hsound.onward_mark htasks (.paused (some w.tickets) next)
  have hfits : Fits (w'.mark id (.paused (some w.tickets) next)) none id ((held id).erase m) :=
    fits_paused hid (fun m' ↦ hwaiting ▸ hsound.notMem_waiting m') hnext
  have hmarked : (w'.mark id (.paused (some w.tickets) next)).waiting = w.waiting := hwaiting
  have hleft : (w'.mark id (.paused (some w.tickets) next)).releasing =
      (id, m) ::ₘ w.releasing := hreleasing
  refine ⟨_, h.update (by simp) (by simp) hothers (fun i _ m' ↦ by rw [hmarked]) hfits ?_ ?_ ?_ ?_⟩
  · intro m'
    have hpos := List.count_pos_iff.mpr hm
    rw [hleft, h.count id m', List.count_erase, Multiset.count_cons]
    by_cases hm' : m' = m
    · subst hm'
      simp
      omega
    · simp [hm', Ne.symm hm']
  · intro i hi m'
    rw [hleft, count_cons_ne hi m']
    exact ⟨rfl, rfl⟩
  · refine Eq.trans ?_ h.readers
    exact congrArg _ hlock
  · refine Eq.trans ?_ h.writer
    exact congrArg (fun l : Lock ↦ if l.writer then 1 else 0) hlock

/-- Entering the lock, or beginning to wait for it. -/
theorem Accounts.enter {next : Outcome Unit → Action σ Unit}
    (hsound : Sound ⟨w, some (id, .ask (.enter m) next)⟩)
    (h : Accounts ⟨w, some (id, .ask (.enter m) next)⟩ holders held) :
    ∃ held', Accounts (Machine.go w id (.ask (.enter m) next))
      (Grip.after holders (w.gripOfAction id (.ask (.enter m) next))) held' := by
  have hnext := (h.fits id).busy _ rfl
  by_cases hm : w.lock.admits m = true
  · have hgo : Machine.go w id (.ask (.enter m) next) =
        ⟨{ w with lock := w.lock.enter m }, some (id, next (.ok ()))⟩ := by
      rw [Machine.go, serve, if_pos hm]
    rw [hgo, gripOfAction, if_pos hm]
    exact ⟨_, h.taken hm (by simp) rfl (fun _ _ _ ↦ Iff.rfl) hnext.1 rfl ⟨rfl, rfl⟩⟩
  · have hgo : Machine.go w id (.ask (.enter m) next) =
        ⟨{ w with lock := w.lock.await m, queue := w.queue ++ [(id, m)] }.mark id
          (.paused none next), none⟩ := by
      rw [Machine.go, serve, if_neg hm]
    rw [hgo, gripOfAction, if_neg hm]
    generalize hw' : { w with lock := w.lock.await m, queue := w.queue ++ [(id, m)] } = w'
    have hwaiting : w'.waiting = (id, m) ::ₘ w.waiting := by
      rw [← hw']
      exact waiting_enqueue { w with lock := w.lock.await m } (id, m)
    have hmarked : (w'.mark id (.paused none next)).waiting = (id, m) ::ₘ w.waiting := hwaiting
    obtain ⟨hid, hothers⟩ := hsound.onward_mark (by rw [← hw'] : w'.tasks = w.tasks)
      (.paused none next)
    refine ⟨held, h.goesOn (by simp) (by simp) hothers ?_ (fits_awaiting hid ?_ hnext) ?_ ?_⟩
    · intro i hi m'
      rw [hmarked]
      exact mem_waiting_cons hi m'
    · intro m'
      rw [hmarked, Multiset.mem_cons, Prod.mk.injEq]
      simp [hsound.notMem_waiting m']
    · subst hw'
      rfl
    · subst hw'
      cases m <;> exact ⟨rfl, rfl⟩

theorem Accounts.ask {q : Request} {next : Outcome Unit → Action σ Unit}
    (hsound : Sound ⟨w, some (id, .ask q next)⟩)
    (h : Accounts ⟨w, some (id, .ask q next)⟩ holders held) :
    ∃ held', Accounts (Machine.go w id (.ask q next))
      (Grip.after holders (w.gripOfAction id (.ask q next))) held' := by
  cases q with
  | enter m => exact h.enter hsound
  | leave m => exact h.leave hsound
  | letGo m => exact h.letGo
  | gate g =>
    have hnext := (h.fits id).busy _ rfl
    rw [Machine.go, serve]
    by_cases hg : w.gates.contains g = true
    · rw [if_pos hg]
      exact ⟨held, h.alone (hnext _) rfl rfl rfl rfl⟩
    · rw [if_neg hg]
      exact ⟨held, h.pause { w with gateQueue := w.gateQueue ++ [(id, g)] } hsound hnext rfl rfl rfl
        rfl none⟩
  | openGate g =>
    have hnext := (h.fits id).busy _ rfl
    have halike := alike_openGate w g
    exact ⟨held, h.alone (hnext _) halike.waiting halike.releasing halike.onward halike.lock⟩
  | cancel i =>
    have hnext := (h.fits id).busy _ rfl
    rw [Machine.go, serve]
    by_cases hi : i = id
    · rw [if_pos hi]
      exact ⟨held, h.pause_push hsound hnext _⟩
    · rw [if_neg hi]
      have halike : Alike w (w.cancel i) :=
        (hsound.placed.cancel (by simpa using Ne.symm hi)).2
      exact ⟨held, h.alone (hnext _) halike.waiting halike.releasing halike.onward halike.lock⟩
  | yield =>
    have hnext := (h.fits id).busy _ rfl
    exact ⟨held, h.pause_push hsound hnext _⟩

theorem Accounts.go {a : Action σ Unit} (hsound : Sound ⟨w, some (id, a)⟩)
    (h : Accounts ⟨w, some (id, a)⟩ holders held) :
    ∃ held', Accounts (Machine.go w id a) (Grip.after holders (w.gripOfAction id a)) held' := by
  cases a with
  | done r => exact ⟨held, h.finish hsound (Option.some.inj ((h.fits id).busy _ rfl)).symm r⟩
  | exit r => exact ⟨held, h.finish hsound ((h.fits id).busy _ rfl) r⟩
  | look next => exact ⟨held, h.alone ((h.fits id).busy _ rfl _) rfl rfl rfl rfl⟩
  | put s next =>
    have hput : (Action.put s next).Balanced (some []) (held id) := (h.fits id).busy _ rfl
    have hnext : next.Balanced (some []) (held id) := hput
    exact ⟨held, h.alone hnext rfl rfl rfl rfl⟩
  | self next => exact ⟨held, h.alone ((h.fits id).busy _ rfl _) rfl rfl rfl rfl⟩
  | lock next => exact ⟨held, h.alone ((h.fits id).busy _ rfl _) rfl rfl rfl rfl⟩
  | ends next => exact ⟨held, h.alone ((h.fits id).busy _ rfl _) rfl rfl rfl rfl⟩
  | fork next =>
    obtain ⟨hown, hchild⟩ := (h.fits id).busy _ rfl
    have hspawn := h.spawn hsound fun r ↦ (hchild r).of_none
    exact ⟨held, hspawn.alone (hown _) rfl rfl rfl rfl⟩
  | ask q next => exact h.ask hsound

/-! ## Every step -/

theorem accounts_start (s : σ) : Accounts ⟨.ofState s, none⟩ 0 fun _ ↦ [] where
  count _ _ := rfl
  fits i := by
    refine fits_ended ?_ rfl
    rw [onward, World.ofState]
    cases i <;> rfl
  readers := rfl
  writer := rfl

/-- Every step changes those who hold the lock as the lock and what is left to do change. -/
theorem Accounts.step {grip : Option Grip} (hsound : Sound M) (h : Accounts M holders held)
    (hstep : Step (Action.Balanced (some []) []) M grip M') :
    ∃ held', Accounts M' (Grip.after holders grip) held' := by
  cases hstep with
  | take hready => exact h.take hsound hready
  | go => exact h.go hsound
  | cancel id =>
    have halike : Alike _ (World.cancel _ id) := (hsound.placed.cancel (by simp)).2
    exact ⟨held, h.alike halike.lock halike.waiting halike.releasing halike.onward⟩
  | spawn hnext => exact ⟨held, h.spawn hsound hnext⟩
  | @assign w id r a hend ha =>
    have hheld : held id = [] := (h.fits id).ended (by simp) (by rw [onward, hend]; rfl)
    refine ⟨held, h.goesOn (by simp) (by simp) (fun _ _ ↦ rfl) (fun _ _ _ ↦ Iff.rfl)
      (fits_busy ?_) rfl ⟨rfl, rfl⟩⟩
    rw [hheld]
    exact ha

theorem Reached.accounts (h : Reached (Action.Balanced (some []) []) M holders) :
    ∃ held, Accounts M holders held := by
  induction h with
  | start s => exact ⟨_, accounts_start s⟩
  | step hbefore hstep ih =>
    obtain ⟨held, ih⟩ := ih
    exact ih.step hbefore.sound hstep

/-! ## Who holds the lock -/

/-- Nobody takes the lock whom it does not admit. -/
theorem Step.admits (h : Step P M (some (.taken i m)) M') : M.world.lock.admits m = true := by
  generalize hgrip : some (Grip.taken i m) = grip at h
  cases h with
  | @take w before after j hready =>
    cases j with
    | recheck id m' =>
      rw [gripOfJob] at hgrip
      split at hgrip
      · rename_i hm
        cases hgrip
        exact hm
      · cases hgrip
    | release id m' ticket =>
      obtain ⟨_, _, hleft⟩ := Option.map_eq_some_iff.mp hgrip.symm
      cases hleft
    | _ => cases hgrip
  | @go w id a =>
    cases a with
    | ask q next =>
      cases q with
      | enter m' =>
        rw [gripOfAction] at hgrip
        split at hgrip
        · rename_i hm
          cases hgrip
          exact hm
        · cases hgrip
      | letGo m' =>
        obtain ⟨_, _, hleft⟩ := Option.map_eq_some_iff.mp hgrip.symm
        cases hleft
      | _ => cases hgrip
    | _ => cases hgrip
  | cancel id => cases hgrip
  | spawn hnext => cases hgrip
  | assign hend ha => cases hgrip

theorem countP_eq_zero {s : Multiset (TaskId × Mode)} :
    s.countP (·.2 = m) = 0 ↔ ∀ i, (i, m) ∉ s := by
  rw [Multiset.countP_eq_zero]
  constructor
  · exact fun h i hi ↦ h _ hi rfl
  · rintro h ⟨i, m'⟩ hi rfl
    exact h i hi

theorem card_eq_countP (s : Multiset (TaskId × Mode)) :
    Multiset.card s = s.countP (·.2 = .read) + s.countP (·.2 = .write) := by
  rw [Multiset.card_eq_countP_add_countP (·.2 = .read)]
  refine congrArg _ (Multiset.countP_congr rfl ?_)
  rintro ⟨i, m⟩ -
  cases m <;> simp

/-- A writer holds the lock alone. -/
theorem Accounts.alone_of_mem (hguarded : Guarded M.world) (h : Accounts M holders held)
    (hi : (i, .write) ∈ holders) : holders = {(i, .write)} := by
  have hcard := card_eq_countP holders
  have hwriter := h.writer
  have hpos : 0 < holders.countP (·.2 = .write) := Multiset.countP_pos.mpr ⟨_, hi, rfl⟩
  cases hw : M.world.lock.writer with
  | false =>
    rw [hw] at hwriter
    simp at hwriter
    omega
  | true =>
    rw [hw] at hwriter
    rw [← h.readers, hguarded.alone hw, ← hwriter] at hcard
    obtain ⟨p, hp⟩ := Multiset.card_eq_one.mp hcard
    rw [hp, Multiset.mem_singleton] at hi
    rw [hp, hi]

/-- However balanced tasks take turns, and whichever of them are cancelled: a writer holds the lock
alone; the lock counts the readers that hold it and the writers that wait for it; no reader takes it
while a writer holds it or waits for it; and whoever sleeps in its queue could not enter it. -/
theorem Reached.excludes (h : Reached (Action.Balanced (some []) []) M holders) :
    (∀ i, (i, .write) ∈ holders → holders = {(i, .write)}) ∧
      M.world.lock.readers = holders.countP (·.2 = .read) ∧
      (M.world.lock.writer = true ↔ ∃ i, (i, .write) ∈ holders) ∧
      M.world.lock.waitingWriters = M.world.waiting.countP (·.2 = .write) ∧
      (∀ i M', Step (Action.Balanced (some []) []) M (some (.taken i .read)) M' →
        ∀ j, (j, .write) ∉ holders ∧ (j, .write) ∉ M.world.waiting) ∧
      ∀ p ∈ M.world.queue, M.world.lock.admits p.2 = false := by
  obtain ⟨held, haccounts⟩ := h.accounts
  have hguarded := h.sound.guarded
  have hholds : M.world.lock.writer = true ↔ ∃ i, (i, .write) ∈ holders := by
    have hwriter := haccounts.writer
    cases hw : M.world.lock.writer with
    | false =>
      rw [hw] at hwriter
      have hnone := countP_eq_zero.mp hwriter.symm
      simpa using hnone
    | true =>
      rw [hw] at hwriter
      obtain ⟨⟨i, m⟩, hi, hm⟩ := Multiset.countP_pos.mp
        (show 0 < holders.countP (·.2 = .write) by rw [← hwriter]; exact Nat.one_pos)
      cases hm
      exact iff_of_true rfl ⟨i, hi⟩
  refine ⟨fun i hi ↦ haccounts.alone_of_mem hguarded hi, haccounts.readers, hholds,
    hguarded.waitingWriters, ?_, hguarded.asleep⟩
  intro i M' hstep j
  have hadmits := hstep.admits
  rw [Lock.admits, Bool.and_eq_true, Bool.not_eq_true', beq_iff_eq] at hadmits
  constructor
  · intro hj
    rw [hholds.mpr ⟨j, hj⟩] at hadmits
    cases hadmits.1
  · exact countP_eq_zero.mp (hguarded.waitingWriters.symm.trans hadmits.2) j

/-- One task holds the lock as a reader while another one waits to write. -/
theorem excludes_held : ∃ M : Machine Farewells,
    Reached (Action.Balanced (some []) []) M {(1, .read)} ∧ M.world.lock.readers = 1 ∧
      M.world.queue = [(2, .write)] ∧ M.world.lock.admits .write = false := by
  have hnext (m : Mode) (name : String) (r : Outcome Unit) :
      ((Action.holdUntilTold m name).afterwards r).Balanced (some []) [] := by
    cases r with
    | ok _ => exact Action.balanced_holdUntilTold m name
    | error f => rfl
  have hstart : Reached (Action.Balanced (some []) []) ⟨.ofState ([] : Farewells), none⟩ 0 :=
    .start []
  have hspawned := (hstart.step (.spawn (hnext .read "reader"))).step
    (.spawn (hnext .write "writer"))
  have htaken := hspawned.step (@Step.take _ _ _ [] _ _ rfl)
  have hwaits := (htaken.step .go).step .go
  have hqueued := (hwaits.step (@Step.take _ _ _ [] _ _ rfl)).step .go
  have hexcludes := hqueued.excludes
  have hasleep := hexcludes.2.2.2.2.2 (2, .write) (List.mem_singleton_self _)
  exact ⟨_, hqueued, hexcludes.2.1, rfl, hasleep⟩

end Machine

end RecordStore
