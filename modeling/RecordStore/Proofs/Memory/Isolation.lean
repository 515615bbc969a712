import RecordStore.Proofs.Memory.Blind

/-!
# Isolation of transactions

However clients take turns and whichever of them are cancelled, transactions come one after another
with the calls that are made beside them: while one is under way nobody else looks at the documents,
and once it has ended they are what the serial history leaves.

* `Run.Ordered` is the invariant of all runs.
* `Run.Reached.serializable` is the theorem above.
-/

namespace RecordStore

variable {ε ρ : Type} {s₀ : Store}

theorem Machine.Sound.leads {σ : Type} {P : Action σ Unit → Prop} {M M' : Machine σ}
    (h : Machine.Sound M) (hleads : Machine.Leads P M M') : Machine.Sound M' := by
  induction hleads with
  | refl => exact h
  | tail _ hstep ih =>
    obtain ⟨grip, hstep⟩ := hstep
    exact ih.step hstep

/-- A lock for which there is a job that leaves it can be left. -/
theorem World.Kept.exists_leave? {es : List Event} {w : World (Memory × ε)} {id : TaskId} {m : Mode}
    {s : Multiset (TaskId × Mode)} (h : World.Kept s₀ es none w)
    (hs : w.releasing = (id, m) ::ₘ s) :
    ∃ l, w.lock.leave? m = .ok l ∧ l.readers = s.countP (·.2 = .read) ∧
      (if l.writer then 1 else 0) =
        s.countP (·.2 = .write) + (if w.memory.owner.isSome then 1 else 0) := by
  have hreaders := h.readers
  have hwriter := h.writer
  rw [hs, Multiset.countP_cons] at hreaders hwriter
  cases m with
  | read =>
    simp only [Mode.among, reduceCtorEq, if_true, if_false, Nat.add_zero] at hreaders hwriter
    refine ⟨{ w.lock with readers := w.lock.readers - 1 }, ?_, ?_, hwriter⟩
    · rw [Lock.leave?, if_neg (by omega)]
      rfl
    · rw [hreaders, Nat.add_sub_cancel]
  | write =>
    simp only [Mode.among, reduceCtorEq, if_true, if_false, Nat.add_zero] at hreaders hwriter
    cases hw : w.lock.writer with
    | false =>
      rw [hw, if_neg Bool.false_ne_true] at hwriter
      omega
    | true =>
      rw [hw, if_pos rfl] at hwriter
      refine ⟨{ w.lock with writer := false }, ?_, hreaders, ?_⟩
      · rw [Lock.leave?, if_pos hw]
        rfl
      · rw [if_neg Bool.false_ne_true]
        omega

/-- The task whose turn it is does not wait for the lock. -/
theorem World.Busy.notMem_waiting {σ : Type} {w : World σ} {id : TaskId} (h : w.Busy id)
    (m : Mode) : (id, m) ∉ w.waiting := fun hmem ↦
  (h.placed.busy id rfl).1 (Multiset.mem_add.mpr (.inl (Multiset.mem_map.mpr ⟨_, hmem, rfl⟩)))

namespace Run

open World

/-- Tasks are where the stages tell, each fit for what has happened so far, and those inside their
wait for the lock are those whose stage tells so; the history is a ledger. -/
structure Ordered (s₀ : Store) (R : Run ε ρ) : Prop where
  sound : Machine.Sound ⟨R.world, none⟩
  kept : Kept s₀ R.history none R.world
  length : R.world.tasks.length = R.stages.length
  onward : ∀ i, R.world.onward i = R.stages[i]?.bind (Stage.onward? i)
  fits : ∀ i (stage : Stage ε ρ), R.stages[i]? = some stage → stage.Fits s₀ R.history i
  waits : ∀ i m, (i, m) ∈ R.world.waiting ↔ R.stages[i]?.bind Stage.awaited? = some m

variable {R R' : Run ε ρ} {w w' w₁ : World (Memory × ε)} {id : TaskId} {m : Mode}
  {told : Outcome Unit} {before after : List Job} {j : Job}

theorem Step.sound (h : Machine.Sound ⟨R.world, none⟩) (hstep : Step s₀ R R') :
    Machine.Sound ⟨R'.world, none⟩ := by
  cases hstep with
  | take hready => exact h.leads (P := fun _ ↦ True) (Machine.leads_perform hready)
  | cancel id => exact h.leads (P := fun _ ↦ True) (Machine.Step.cancel id).leads
  | start hc => exact h.leads (P := fun _ ↦ True) (Machine.Step.spawn fun _ ↦ trivial).leads

theorem Ordered.sound_take (h : Ordered s₀ R) (hready : R.world.ready = before ++ j :: after) :
    Machine.Sound ⟨((R.withReady (before ++ after)).perform j).world, none⟩ :=
  Step.sound h.sound (Step.take hready : Step s₀ R _)

/-- Something that concerns no client. -/
theorem Ordered.moved (h : Ordered s₀ R) (hsound : Machine.Sound ⟨w', none⟩)
    (hkept : Kept s₀ R.history none w') (hw : Steady R.world w') :
    Ordered s₀ { R with world := w' } where
  sound := hsound
  kept := hkept
  length := hw.length.trans h.length
  onward i := by
    rw [hw.onward]
    exact h.onward i
  fits := h.fits
  waits i m := by
    rw [hw.waiting]
    exact h.waits i m

/-- The turn of a client. -/
theorem Ordered.turned {t : Turn ε ρ} (h : Ordered s₀ R)
    (hsound : Machine.Sound ⟨t.settled id, none⟩) (hbusy : Busy w' id)
    (honward : w'.onward = R.world.onward) (hlength : w'.tasks.length = R.world.tasks.length)
    (hothers : ∀ i ≠ id, ∀ m, (i, m) ∈ w'.waiting ↔ (i, m) ∈ R.world.waiting)
    (hafter : Turn.After s₀ R.history id w' t) :
    Ordered s₀ ⟨t.settled id, R.stages.set id t.stage, R.history ++ t.events⟩ := by
  obtain ⟨-, p, hp, -⟩ := hbusy.placed.busy id rfl
  have hlt : id < R.stages.length := by
    rw [← h.length, ← hlength]
    exact (List.getElem?_eq_some_iff.mp hp).1
  have hstages (i : TaskId) : (R.stages.set id t.stage)[i]? =
      if id = i then some t.stage else R.stages[i]? := by
    rw [List.getElem?_set, if_pos hlt]
  have hwaiting : (t.settled id).waiting =
      t.stage.awaited?.elim w'.waiting fun m ↦ (id, m) ::ₘ w'.waiting := hafter.waiting
  have hlt' : id < t.world.tasks.length := by
    rw [hafter.length]
    exact (List.getElem?_eq_some_iff.mp hp).1
  refine ⟨hsound, ?_, ?_, ?_, ?_, ?_⟩
  · exact hafter.kept.congr ⟨rfl, rfl⟩ rfl rfl
  · rw [List.length_set, ← h.length, ← hlength, ← hafter.length]
    exact List.length_set
  · intro i
    rw [hstages, Turn.settled, World.onward, getElem?_mark]
    split
    · rename_i hi
      subst hi
      rw [List.getElem?_eq_getElem hlt', Option.map_some, Option.bind_some, Option.bind_some]
      cases t.stage <;> rfl
    · have hother := congrFun (hafter.onward.trans honward) i
      exact hother.trans (h.onward i)
  · intro i stage hstage
    rw [hstages] at hstage
    split at hstage
    · rename_i hi
      subst hi
      cases hstage
      exact hafter.fits
    · exact (h.fits i stage hstage).append _
  · intro i m
    rw [hstages, hwaiting]
    split
    · rename_i hi
      subst hi
      have hnone : (id, m) ∉ w'.waiting := hbusy.notMem_waiting m
      cases hstage : t.stage.awaited? with
      | none => simp [hstage, hnone]
      | some m' => simp [hstage, hnone, eq_comm]
    · rename_i hi
      have hother : (i, m) ∈ (t.stage.awaited?.elim w'.waiting fun m ↦ (id, m) ::ₘ w'.waiting) ↔
          (i, m) ∈ w'.waiting := by
        cases t.stage.awaited? with
        | none => rfl
        | some m' => simp [Ne.symm hi]
      rw [hother, hothers i (Ne.symm hi) m]
      exact h.waits i m

/-- A job that tells a client something gives it its turn. -/
theorem Ordered.busy {next : Outcome Unit → Action (Memory × ε) Unit} (h : Ordered s₀ R)
    (hready : R.world.ready = before ++ j :: after)
    (hdeliver : (R.withReady (before ++ after)).world.deliver j = (w', some (id, told)))
    (hnext : R.world.onward id = some next) : w'.tasks = R.world.tasks ∧ Busy w' id := by
  have htasks := (R.withReady (before ++ after)).world.tasks_deliver j
  rw [hdeliver] at htasks
  have htasks : w'.tasks = R.world.tasks := htasks rfl
  have htake : Machine.Sound (Machine.take (R.withReady (before ++ after)).world j) :=
    h.sound.take hready
  have hresumed : w'.resumed? (id, told) = some (id, next told) := by
    obtain ⟨p, hp, hgoes⟩ := Option.bind_eq_some_iff.mp hnext
    cases p with
    | finished r => cases hgoes
    | paused ticket next' =>
      cases hgoes
      rw [resumed?, htasks, hp]
  rw [Machine.take, hdeliver, Option.bind_some, hresumed] at htake
  exact ⟨htasks, htake.placed, htake.guarded⟩

/-- A job that tells a client something is its turn. -/
theorem Ordered.take_told (h : Ordered s₀ R) (hready : R.world.ready = before ++ j :: after)
    (hdeliver : (R.withReady (before ++ after)).world.deliver j = (w', some (id, told)))
    (hplace : id ∈ R.world.places)
    (hothers : ∀ i ≠ id, ∀ m, (i, m) ∈ w'.waiting ↔ (i, m) ∈ R.world.waiting)
    (hafter : ∀ stage, R.stages[id]? = some stage → stage.Fits s₀ R.history id → Busy w' id →
      Turn.After s₀ R.history id w' (stage.play id w' told)) :
    Ordered s₀ ((R.withReady (before ++ after)).perform j) := by
  have hsound := h.sound_take hready
  obtain ⟨next, hnext⟩ := h.sound.placed.paused id hplace
  have honward : R.world.onward id = some next := by
    rw [World.onward, hnext]
    rfl
  obtain ⟨htasks, hbusy⟩ := h.busy hready hdeliver honward
  rw [h.onward id] at honward
  obtain ⟨stage, hstage, hgoes⟩ := Option.bind_eq_some_iff.mp honward
  have hturn : (R.withReady (before ++ after)).turn? j = some (id, stage.play id w' told) := by
    have hstage' : (R.withReady (before ++ after)).stages[id]? = some stage := hstage
    simp only [turn?, hdeliver, hstage', hgoes, Option.bind_eq_bind, Option.bind_some,
      Option.pure_def]
  have hperform := perform_world (R := R.withReady (before ++ after)) h.onward j
  rw [hturn, Option.elim_some] at hperform
  have hrun : (R.withReady (before ++ after)).perform j =
      ⟨(stage.play id w' told).settled id, R.stages.set id (stage.play id w' told).stage,
        R.history ++ (stage.play id w' told).events⟩ := by
    rw [perform, hturn, hperform]
    rfl
  rw [hrun] at hsound ⊢
  exact h.turned hsound hbusy (World.onward_eq htasks) (congrArg _ htasks) hothers
    (hafter stage hstage (h.fits id stage hstage) hbusy)

/-- What a stage waits for is told by where its task waits. -/
theorem Ordered.awaited_eq (h : Ordered s₀ R) {stage : Stage ε ρ}
    (hstage : R.stages[id]? = some stage) :
    stage.awaited? = some m ↔ (id, m) ∈ R.world.waiting := by
  rw [h.waits id m, hstage, Option.bind_some]

theorem mem_cons_of_ne {s : Multiset (TaskId × Mode)} {i : TaskId} (hi : i ≠ id) (m' : Mode) :
    (i, m') ∈ (id, m) ::ₘ s ↔ (i, m') ∈ s := by
  simp [hi]

/-- A job that is no client's turn. -/
theorem perform_of_none (h : (R.world.deliver j).2 = none) :
    R.perform j = { R with world := R.world.perform j } := by
  rw [perform, turn?, h]
  simp

/-- A client that was told something while it waited for anything but the lock. -/
theorem Ordered.take_resume {r : Outcome Unit} (h : Ordered s₀ R)
    (hready : R.world.ready = before ++ .resume id r :: after) :
    Ordered s₀ ((R.withReady (before ++ after)).perform (.resume id r)) := by
  have ho : Offers R.world (.resume id r) (R.withReady (before ++ after)).world := offers hready
  have hwaiting : R.world.waiting = (R.withReady (before ++ after)).world.waiting := ho.waiting
  refine h.take_told hready rfl ?_ (fun i _ m ↦ by rw [hwaiting]) ?_
  · rw [ho.places_of_resumed rfl rfl]
    exact Multiset.mem_cons_self _ _
  · intro stage hstage hfits hbusy
    refine hfits.play_after hbusy (h.kept.congr ⟨rfl, rfl⟩ ho.releasing.symm rfl) r (.inl ?_)
    cases hm : stage.awaited? with
    | none => rfl
    | some m =>
      have hmem := (h.awaited_eq hstage).mp hm
      rw [hwaiting] at hmem
      exact absurd hmem (hbusy.notMem_waiting m)

theorem Ordered.take_recheck (h : Ordered s₀ R)
    (hready : R.world.ready = before ++ .recheck id m :: after) :
    Ordered s₀ ((R.withReady (before ++ after)).perform (.recheck id m)) := by
  have hsound := h.sound_take hready
  have ho : Offers R.world (.recheck id m) (R.withReady (before ++ after)).world := offers hready
  have hwaiting : R.world.waiting = (id, m) ::ₘ (R.withReady (before ++ after)).world.waiting :=
    ho.waiting
  by_cases hm : R.world.lock.admits m = true
  · have hdeliver : (R.withReady (before ++ after)).world.deliver (.recheck id m) =
        ({ (R.withReady (before ++ after)).world with
          lock := (R.world.lock.desist m).enter m }, some (id, .ok ())) := by
      rw [deliver]
      exact if_pos hm
    refine h.take_told hready hdeliver ?_ ?_ ?_
    · rw [ho.places_of_awaited rfl rfl]
      exact Multiset.mem_cons_self _ _
    · intro i hi m'
      rw [hwaiting]
      exact (mem_cons_of_ne hi m').symm
    · intro stage hstage hfits hbusy
      have hawaited : stage.awaited? = some m := by
        rw [h.awaited_eq hstage, hwaiting]
        exact Multiset.mem_cons_self _ _
      refine hfits.play_after_entered hbusy hawaited ?_ (h.kept.owner_eq_none hm)
      refine h.kept.enter hm ?_ rfl ho.releasing.symm
      cases m <;> exact ⟨rfl, rfl⟩
  · have hdeliver : (R.withReady (before ++ after)).world.deliver (.recheck id m) =
        ({ (R.withReady (before ++ after)).world with
          queue := (R.withReady (before ++ after)).world.queue ++ [(id, m)] }, none) := by
      rw [deliver]
      exact if_neg hm
    rw [perform_of_none (by rw [hdeliver])] at hsound ⊢
    have hperform := (R.withReady (before ++ after)).world.perform_eq (.recheck id m)
    rw [hdeliver] at hperform
    simp only at hperform
    rw [hperform] at hsound ⊢
    exact h.moved hsound (h.kept.congr ⟨rfl, rfl⟩ ho.releasing.symm rfl)
      ⟨(waiting_enqueue _ (id, m)).trans hwaiting.symm, rfl, rfl⟩

/-- A client that was cancelled while it waited for the lock. -/
theorem Ordered.take_abort (h : Ordered s₀ R)
    (hready : R.world.ready = before ++ .abort id m :: after) :
    Ordered s₀ ((R.withReady (before ++ after)).perform (.abort id m)) := by
  have ho : Offers R.world (.abort id m) (R.withReady (before ++ after)).world := offers hready
  have hwaiting : R.world.waiting = (id, m) ::ₘ (R.withReady (before ++ after)).world.waiting :=
    ho.waiting
  have hplace : id ∈ R.world.places := by
    rw [ho.places_of_awaited rfl rfl]
    exact Multiset.mem_cons_self _ _
  cases m with
  | read =>
    refine h.take_told hready rfl hplace ?_ ?_
    · intro i hi m'
      rw [hwaiting]
      exact (mem_cons_of_ne hi m').symm
    · intro stage hstage hfits hbusy
      exact hfits.play_after hbusy (h.kept.congr ⟨rfl, rfl⟩ ho.releasing.symm rfl) _
        (.inr ⟨_, rfl⟩)
  | write =>
    have hdeliver : (R.withReady (before ++ after)).world.deliver (.abort id .write) =
        ({ (R.withReady (before ++ after)).world with
          lock := R.world.lock.desist .write }.wake, some (id, .error .cancelled)) := rfl
    refine h.take_told hready hdeliver hplace ?_ ?_
    · intro i hi m'
      rw [hwaiting, waiting_wake]
      exact (mem_cons_of_ne hi m').symm
    · intro stage hstage hfits hbusy
      exact hfits.play_after hbusy
        (h.kept.congr ⟨rfl, rfl⟩ ((releasing_wake _).trans ho.releasing.symm) rfl) _
        (.inr ⟨_, rfl⟩)

/-- The lock is left by a job. -/
theorem Ordered.take_release {ticket : Nat} (h : Ordered s₀ R)
    (hready : R.world.ready = before ++ .release id m ticket :: after) :
    Ordered s₀ ((R.withReady (before ++ after)).perform (.release id m ticket)) := by
  have hsound := h.sound_take hready
  have ho : Offers R.world (.release id m ticket) (R.withReady (before ++ after)).world :=
    offers hready
  rw [perform_of_none rfl] at hsound ⊢
  have hreleasing : R.world.releasing =
      (id, m) ::ₘ (R.withReady (before ++ after)).world.releasing := ho.releasing
  -- the lock is held in this mode
  obtain ⟨l, hl, hreaders, hwriter⟩ := h.kept.exists_leave? hreleasing
  obtain ⟨w', hw'⟩ := exists_letGo? (w := (R.withReady (before ++ after)).world) hl
  obtain ⟨l', hleft, halike, -, -, -⟩ := letGo?_eq_ok hw'
  obtain rfl : l = l' := Except.ok.inj (hl.symm.trans hleft)
  have hperform : (R.withReady (before ++ after)).world.perform (.release id m ticket) =
      w'.push (.relay id ticket (.ok ())) := by
    rw [World.perform, hw']
  rw [hperform] at hsound ⊢
  have hwaiting : (w'.push (.relay id ticket (.ok ()))).waiting = R.world.waiting := by
    rw [waiting_push, ho.waiting]
    exact halike.waiting
  have hleaving : (w'.push (.relay id ticket (.ok ()))).releasing =
      (R.withReady (before ++ after)).world.releasing := by
    rw [releasing_push]
    exact halike.releasing
  have hlock : (w'.push (.relay id ticket (.ok ()))).lock = l := halike.lock
  have hmemory : (w'.push (.relay id ticket (.ok ()))).memory = R.world.memory :=
    congrArg Prod.fst halike.state
  refine h.moved hsound ⟨?_, ?_, ?_, ?_, ?_⟩ ⟨hwaiting, halike.onward, halike.length⟩
  · rw [hlock, hleaving, hreaders]
    rfl
  · rw [hlock, hleaving, hwriter, hmemory]
    rfl
  · rw [hmemory]
    exact h.kept.agrees
  · rw [hmemory]
    exact h.kept.openers
  · rw [hmemory]
    exact h.kept.ledger

theorem Ordered.take_relay {r : Outcome Unit} {ticket : Nat} (h : Ordered s₀ R)
    (hready : R.world.ready = before ++ .relay id ticket r :: after) :
    Ordered s₀ ((R.withReady (before ++ after)).perform (.relay id ticket r)) := by
  have hsound := h.sound_take hready
  have ho : Offers R.world (.relay id ticket r) (R.withReady (before ++ after)).world :=
    offers hready
  rw [perform_of_none rfl] at hsound ⊢
  have halike := alike_relay (R.withReady (before ++ after)).world id ticket r
  have hkept : Kept s₀ R.history none (R.withReady (before ++ after)).world :=
    h.kept.congr ⟨rfl, rfl⟩ ho.releasing.symm rfl
  exact h.moved hsound (hkept.alike halike)
    ⟨halike.waiting.trans ho.waiting.symm, halike.onward.trans ho.onward, halike.length⟩

theorem Ordered.take (h : Ordered s₀ R) (hready : R.world.ready = before ++ j :: after) :
    Ordered s₀ ((R.withReady (before ++ after)).perform j) := by
  cases j with
  | resume id r => exact h.take_resume hready
  | recheck id m => exact h.take_recheck hready
  | abort id m => exact h.take_abort hready
  | release id m ticket => exact h.take_release hready
  | relay id ticket r => exact h.take_relay hready

/-- A client that has just been started waits for its first turn. -/
theorem Ordered.start {c : Client ε ρ} (h : Ordered s₀ R) (hc : c.Declared s₀) :
    Ordered s₀ (R.start c) := by
  have hsound : Machine.Sound ⟨(R.start c).world, none⟩ :=
    Step.sound h.sound (Step.start hc : Step s₀ R _)
  have hwaiting : (R.start c).world.waiting = R.world.waiting := waiting_push _ _
  have hstages (i : TaskId) : (R.start c).stages[i]? =
      if i = R.stages.length then some (.first c) else R.stages[i]? := by
    change (R.stages ++ [_])[i]? = _
    split
    · rename_i hi
      rw [hi, List.getElem?_concat_length]
    · rename_i hi
      rcases Nat.lt_or_gt_of_ne hi with hlt | hgt
      · exact List.getElem?_append_left hlt
      · rw [List.getElem?_eq_none (by simp; omega), List.getElem?_eq_none (Nat.le_of_lt hgt)]
  refine ⟨hsound, ?_, ?_, ?_, ?_, ?_⟩
  · exact h.kept.congr ⟨rfl, rfl⟩ (releasing_push _ _) rfl
  · change (R.world.tasks ++ [_]).length = (R.stages ++ [_]).length
    rw [List.length_append, List.length_append, h.length]
    rfl
  · intro i
    have hfirst : c.task.afterwards = (Stage.first c).act i := by
      funext told
      cases told <;> rfl
    change (R.world.spawn c.task.afterwards).onward i = _
    rw [onward_spawn, hstages, h.length]
    split
    · exact congrArg some hfirst
    · exact h.onward i
  · intro i stage hstage
    rw [hstages] at hstage
    split at hstage
    · cases hstage
      intro told
      cases told with
      | ok _ => exact hc
      | error f => trivial
    · exact h.fits i stage hstage
  · intro i m
    rw [hwaiting, hstages, h.waits i m]
    split
    · rename_i hi
      rw [hi, List.getElem?_eq_none (Nat.le_refl _)]
      exact iff_of_false (by simp) (by simp [Stage.first, Stage.awaited?])
    · rfl

theorem Ordered.step (h : Ordered s₀ R) (hstep : Step s₀ R R') : Ordered s₀ R' := by
  cases hstep with
  | take hready => exact h.take hready
  | cancel id =>
    have halike : Alike R.world (R.world.cancel id) := (h.sound.placed.cancel (by simp)).2
    exact h.moved (Step.sound h.sound (Step.cancel id : Step s₀ R _)) (h.kept.alike halike)
      halike.steady
  | start hc => exact h.start hc

theorem ordered_start (e : ε) :
    Ordered (ρ := ρ) s₀ ⟨.ofState ({ store := s₀ }, e), [.ended (.ok ())], []⟩ where
  sound := Machine.sound_start _
  kept := ⟨rfl, rfl, .refl s₀, rfl, .closed .none rfl fun n ↦ rfl⟩
  length := rfl
  onward i := by
    rw [World.onward, World.ofState]
    cases i <;> rfl
  fits i stage hstage := by
    cases i with
    | zero =>
      cases hstage
      trivial
    | succ i => cases hstage
  waits i m := by
    refine iff_of_false (Multiset.notMem_zero _) ?_
    cases i <;> simp [Stage.awaited?]

theorem Reached.ordered (h : Reached s₀ R) : Ordered s₀ R := by
  induction h with
  | start e => exact ordered_start e
  | step _ hstep ih => exact ih.step hstep

/-! ## Isolation -/

/-- The run with other documents. -/
def withStore (R : Run ε ρ) (s : Store) : Run ε ρ := { R with world := R.world.withStore s }

/-- Doing the job neither changes the documents nor looks at them. -/
structure Ignores (R : Run ε ρ) (j : Job) : Prop where
  history : (R.perform j).history = R.history
  memory : (R.perform j).memory = R.memory
  blind : ∀ s, (R.withStore s).perform j = (R.perform j).withStore s

/-- Who is in a transaction holds the lock alone. -/
theorem Ordered.writer_eq_true (h : Ordered s₀ R) (howner : R.memory.owner = some id) :
    R.world.lock.writer = true := by
  have hwriter := h.kept.writer
  have howner' : R.world.memory.owner = some id := howner
  cases hw : R.world.lock.writer with
  | true => rfl
  | false =>
    rw [hw, howner'] at hwriter
    simp only [Bool.false_eq_true, if_false, Option.isSome_some, if_true] at hwriter
    omega

/-- While a transaction is under way, the turn of any other task does not see the documents. -/
theorem Ordered.turn_blind {i : TaskId} {stage : Stage ε ρ} (h : Ordered s₀ R)
    (hready : R.world.ready = before ++ j :: after) (howner : R.memory.owner = some id)
    (hi : i ≠ id)
    (hdeliver : (R.withReady (before ++ after)).world.deliver j = (w', some (i, told)))
    (hstage : R.stages[i]? = some stage) (hbusy : Busy w' i) :
    Turn.Blind w' fun w ↦ stage.play i w told := by
  have hwriter := h.writer_eq_true howner
  have ho : Offers R.world j (R.withReady (before ++ after)).world := offers hready
  have hmemory := (R.withReady (before ++ after)).world.memory_deliver j
  rw [hdeliver] at hmemory
  have hmemory : w'.memory = R.memory := hmemory
  have hinside : ∀ n rest next, stage = .inside n rest next →
      w'.memory.isActive (.inScope n) = false := by
    rintro n rest next rfl
    rw [hmemory, ← Bool.not_eq_true]
    intro hn
    have hother := h.kept.owner_of_active hn (h.fits i _ hstage).1
    exact hi (Option.some.inj (hother.symm.trans howner))
  cases j with
  | resume i' r =>
    cases hdeliver
    refine Stage.play_blind hbusy hwriter hinside (.inl ?_)
    cases hm : stage.awaited? with
    | none => rfl
    | some m =>
      have hmem := (h.awaited_eq hstage).mp hm
      rw [ho.waiting] at hmem
      exact absurd hmem (hbusy.notMem_waiting m)
  | recheck i' m =>
    have hrefused : (R.withReady (before ++ after)).world.lock.admits m = false :=
      admits_eq_false hwriter m
    rw [deliver, hrefused] at hdeliver
    cases hdeliver
  | abort i' m =>
    cases m <;> cases hdeliver <;> exact Stage.play_blind hbusy hwriter hinside (.inr ⟨_, rfl⟩)
  | release i' m ticket => cases hdeliver
  | relay i' ticket r => cases hdeliver

/-- A job does what it does before a client goes on, if none does. -/
theorem perform_of_turn_none (honward : ∀ i, R.world.onward i = R.stages[i]?.bind (Stage.onward? i))
    (h : R.turn? j = none) : R.perform j = { R with world := (R.world.deliver j).1 } := by
  have hworld := perform_world honward j
  rw [h, Option.elim_none] at hworld
  rw [perform, h, hworld]
  simp

theorem perform_of_turn {t : Turn ε ρ}
    (honward : ∀ i, R.world.onward i = R.stages[i]?.bind (Stage.onward? i))
    (h : R.turn? j = some (id, t)) :
    R.perform j = ⟨t.settled id, R.stages.set id t.stage, R.history ++ t.events⟩ := by
  have hworld := perform_world honward j
  rw [h, Option.elim_some] at hworld
  rw [perform, h, hworld]
  rfl

theorem turn?_eq_some {t : Turn ε ρ} : R.turn? j = some (id, t) ↔
    ∃ told stage next, (R.world.deliver j).2 = some (id, told) ∧ R.stages[id]? = some stage ∧
      stage.onward? id = some next ∧ t = stage.play id (R.world.deliver j).1 told := by
  rw [turn?, Option.bind_eq_bind, Option.bind_eq_some_iff]
  constructor
  · rintro ⟨⟨i, told⟩, htold, h⟩
    obtain ⟨stage, hstage, h⟩ := Option.bind_eq_some_iff.mp h
    obtain ⟨next, hnext, h⟩ := Option.bind_eq_some_iff.mp h
    cases h
    exact ⟨told, stage, next, htold, hstage, hnext, rfl⟩
  · rintro ⟨told, stage, next, htold, hstage, hnext, rfl⟩
    refine ⟨(id, told), htold, ?_⟩
    simp only [hstage, hnext, Option.bind_eq_bind, Option.bind_some, Option.pure_def]

/-- The same client has its turn with other documents. -/
theorem turn?_withStore {t : Turn ε ρ} (s : Store) : (R.withStore s).turn? j = some (id, t) ↔
    ∃ told stage next, (R.world.deliver j).2 = some (id, told) ∧ R.stages[id]? = some stage ∧
      stage.onward? id = some next ∧
      t = stage.play id ((R.world.deliver j).1.withStore s) told := by
  have hdeliver : (R.withStore s).world.deliver j = _ := deliver_withStore R.world s j
  rw [turn?_eq_some, hdeliver]
  exact Iff.rfl

/-- While a transaction is under way, no job but the turns of its task changes the documents or
looks at them. -/
theorem Ordered.ignores (h : Ordered s₀ R) (hready : R.world.ready = before ++ j :: after)
    (howner : R.memory.owner = some id)
    (hother : ∀ told, ((R.withReady (before ++ after)).world.deliver j).2 ≠ some (id, told)) :
    (R.withReady (before ++ after)).Ignores j := by
  have hmemory := (R.withReady (before ++ after)).world.memory_deliver j
  cases hturn : (R.withReady (before ++ after)).turn? j with
  | none =>
    have hplain := perform_of_turn_none (R := R.withReady (before ++ after)) h.onward hturn
    refine ⟨by rw [hplain], by rw [hplain]; exact hmemory, fun s ↦ ?_⟩
    have hturn' : ((R.withReady (before ++ after)).withStore s).turn? j = none := by
      refine Option.eq_none_iff_forall_ne_some.mpr ?_
      rintro ⟨i, t⟩ hsome
      obtain ⟨told, stage, next, htold, hstage, hnext, -⟩ := (turn?_withStore s).mp hsome
      have hfound := turn?_eq_some.mpr ⟨told, stage, next, htold, hstage, hnext, rfl⟩
      rw [hturn] at hfound
      cases hfound
    have hplain' := perform_of_turn_none (R := (R.withReady (before ++ after)).withStore s)
      h.onward hturn'
    rw [hplain, hplain']
    refine congrArg (fun w ↦ (⟨w, R.stages, R.history⟩ : Run ε ρ)) ?_
    exact congrArg Prod.fst (deliver_withStore _ s j)
  | some p =>
    obtain ⟨i, t⟩ := p
    obtain ⟨told, stage, next, htold, hstage, hnext, rfl⟩ := turn?_eq_some.mp hturn
    have hi : i ≠ id := by
      rintro rfl
      exact hother told htold
    have hdeliver : (R.withReady (before ++ after)).world.deliver j =
        (((R.withReady (before ++ after)).world.deliver j).1, some (i, told)) :=
      Prod.ext rfl htold
    have honward : R.world.onward i = some next := by
      rw [h.onward i]
      exact Option.bind_eq_some_iff.mpr ⟨stage, hstage, hnext⟩
    have hblind := h.turn_blind hready howner hi hdeliver hstage
      (h.busy hready hdeliver honward).2
    have hplain := perform_of_turn (R := R.withReady (before ++ after)) h.onward hturn
    refine ⟨?_, ?_, fun s ↦ ?_⟩
    · rw [hplain, hblind.events]
      exact List.append_nil _
    · rw [hplain]
      exact hblind.memory.trans hmemory
    · have hturn' : ((R.withReady (before ++ after)).withStore s).turn? j =
          some (i, (stage.play i ((R.withReady (before ++ after)).world.deliver j).1
            told).withStore s) :=
        (turn?_withStore s).mpr ⟨told, stage, next, htold, hstage, hnext, (hblind.blind s).symm⟩
      have hplain' := perform_of_turn (R := (R.withReady (before ++ after)).withStore s)
        h.onward hturn'
      rw [hplain, hplain']
      rfl

/-- While a transaction is under way, nobody else looks at the documents or changes them: they are
what its own calls leave after the history before it.  When none is under way, the documents are
those of the history, in which transactions and single calls come one after another in the order in
which they took the lock, and every call has answered what it answers there. -/
theorem Reached.serializable (h : Reached s₀ R) :
    (∀ id, R.memory.owner = some id →
      (∃ es n calls s, R.history = es ++ .began id n :: calls ∧ Serial s₀ es s ∧
        Calls id n s calls R.memory.store ∧ R.memory.isActive (.inScope n) = true) ∧
      ∀ before j after, R.world.ready = before ++ j :: after →
        (∀ told, ((R.withReady (before ++ after)).world.deliver j).2 ≠ some (id, told)) →
        (R.withReady (before ++ after)).Ignores j) ∧
    (R.memory.owner = none →
      Serial s₀ R.history R.memory.store ∧ ∀ n, R.memory.isActive (.inScope n) = false) := by
  have hordered := h.ordered
  have hledger := hordered.kept.ledger
  refine ⟨fun id howner ↦ ⟨?_, fun before j after hready hother ↦
    hordered.ignores hready howner hother⟩, fun howner ↦ ?_⟩
  · generalize hhistory : R.history = es at hledger
    cases hledger with
    | closed _ howner' _ =>
      cases howner.symm.trans howner'
    | @opened es' calls s id' n hserial _ hcalls howner' hscope _ _ =>
      cases howner.symm.trans howner'
      refine ⟨es', n, calls, s, rfl, hserial, hcalls, ?_⟩
      change ((R.world.memory.scopes[n]?.map Scope.isActive).getD false) = true
      rw [hscope]
      rfl
  · generalize hhistory : R.history = es at hledger
    cases hledger with
    | closed hserial _ hactive => exact ⟨hserial, hactive⟩
    | opened _ _ _ howner' => cases howner.symm.trans howner'

/-- One client gives way in a transaction in which it has added a record; another one, whose turn
has come to count the records, does not look at them. -/
theorem serializable_insert :
    let users : Source := ⟨"users", [("id", .integer)], ["id"], none⟩
    let r : Record := ⟨[("id", ⟨.integer, .integer 7⟩)], []⟩
    let add : Client Unit Unit := .transaction
      (.call (.insert users r) fun _ ↦ .ask .yield rfl fun told ↦ .done told) .done
    let count : Client Unit Unit := .call (.count users none) fun _ ↦ .done (.ok ())
    let empty : Run Unit Unit := ⟨.ofState ({ store := Store.declare {} users }, ()),
      [.ended (.ok ())], []⟩
    let R := (((empty.start add).start count).withReady [.resume 2 (.ok ())]).perform
      (.resume 1 (.ok ()))
    R.history = [.began 1 0, .scoped 1 0 (.insert users r) (.ok .nothing)] ∧
      R.memory.store.tables = [("users", [⟨1, r, []⟩])] ∧
      (R.withReady [.resume 1 (.ok ())]).Ignores (.resume 2 (.ok ())) := by
  intro users r add count empty R
  have hdeclares : (Store.declare {} users).Declares users := ⟨.inr rfl, .inr rfl⟩
  have hadd : add.Declared (Store.declare {} users) :=
    ⟨⟨fun src hsrc ↦ Option.some.inj hsrc ▸ hdeclares, fun _ _ ↦ trivial⟩, fun _ ↦ trivial⟩
  have hcount : count.Declared (Store.declare {} users) :=
    ⟨fun _ hsrc ↦ (by cases hsrc), fun _ ↦ trivial⟩
  have hstarted : Reached (Store.declare {} users) ((empty.start add).start count) :=
    ((Reached.start ()).step (.start hadd)).step (.start hcount)
  have hreached : Reached (Store.declare {} users) R :=
    hstarted.step (@Step.take _ _ _ _ [] _ _ rfl)
  have hisolated := hreached.serializable.1
  -- the rest is a calculation in the run as it is written out
  dsimp only [R, empty, count, add, r, users] at hisolated ⊢
  refine ⟨rfl, rfl, (hisolated 1 rfl).2 [] _ [.resume 1 (.ok ())] rfl ?_⟩
  rintro told ⟨⟩

end Run

end RecordStore
