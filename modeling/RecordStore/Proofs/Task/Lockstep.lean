import RecordStore.Proofs.Outcome
import RecordStore.Task.World

/-!
# Worlds in lockstep

Two actions that do the same thing whenever the states that they look at are related cannot be told
apart by whoever sees what they ask for and what they end with.  Two worlds with such tasks go
through the same turns: whatever happens to both of them, they keep in step.

* `Action.Alike` lifts a relation of states to actions, and `World.InStep` lifts it to worlds.
* `World.after` is what becomes of a world when something happens, and `World.InStep.foldl_after` is
  the statement above.
-/

namespace RecordStore

open Outcome

variable {σ α β : Type} {R : σ → σ → Prop}

/-! ## Lists side by side -/

section Forall₂

variable {S : α → β → Prop} {xs : List α} {ys : List β}

/-- Lists side by side have elements in the same places. -/
theorem forall₂_getElem? (h : List.Forall₂ S xs ys) (i : Nat) :
    (xs[i]? = none ∧ ys[i]? = none) ∨ ∃ x y, xs[i]? = some x ∧ ys[i]? = some y ∧ S x y := by
  induction h generalizing i with
  | nil => exact .inl ⟨rfl, rfl⟩
  | @cons x y _ _ hxy _ ih =>
    cases i with
    | zero => exact .inr ⟨x, y, rfl, rfl, hxy⟩
    | succ i => exact ih i

theorem forall₂_modify (h : List.Forall₂ S xs ys) (i : Nat) {f : α → α} {g : β → β}
    (hfg : ∀ x y, S x y → S (f x) (g y)) : List.Forall₂ S (xs.modify i f) (ys.modify i g) := by
  induction h generalizing i with
  | nil => simp
  | cons hxy hxys ih =>
    cases i with
    | zero => exact .cons (hfg _ _ hxy) hxys
    | succ i => exact .cons hxy (ih i)

theorem forall₂_set (h : List.Forall₂ S xs ys) (i : Nat) {x : α} {y : β} (hxy : S x y) :
    List.Forall₂ S (xs.set i x) (ys.set i y) := by
  rw [List.set_eq_modify, List.set_eq_modify]
  exact forall₂_modify h i fun _ _ _ ↦ hxy

end Forall₂

/-! ## Actions -/

/-- The actions do the same one after the other on states that are related. -/
inductive Action.Alike (R : σ → σ → Prop) : Action σ α → Action σ α → Prop
  | done (r : Outcome α) : Alike R (.done r) (.done r)
  | exit (r : Outcome Unit) : Alike R (.exit r) (.exit r)
  | look {next next' : σ → Action σ α} (h : ∀ s s', R s s' → Alike R (next s) (next' s')) :
    Alike R (.look next) (.look next')
  | put {s s' : σ} {next next' : Action σ α} (hs : R s s') (h : Alike R next next') :
    Alike R (.put s next) (.put s' next')
  | self {next next' : TaskId → Action σ α} (h : ∀ i, Alike R (next i) (next' i)) :
    Alike R (.self next) (.self next')
  | lock {next next' : Lock → Action σ α} (h : ∀ l, Alike R (next l) (next' l)) :
    Alike R (.lock next) (.lock next')
  | ends {next next' : List (Option (Outcome Unit)) → Action σ α}
    (h : ∀ es, Alike R (next es) (next' es)) : Alike R (.ends next) (.ends next')
  | fork {next next' : Side → Action σ α} (h : ∀ side, Alike R (next side) (next' side)) :
    Alike R (.fork next) (.fork next')
  | ask (q : Request) {next next' : Outcome Unit → Action σ α}
    (h : ∀ r, Alike R (next r) (next' r)) : Alike R (.ask q next) (.ask q next')

namespace Action.Alike

theorem andThen {x y : Action σ α} {k l : Outcome α → Action σ β} (h : x.Alike R y)
    (hk : ∀ r, (k r).Alike R (l r)) : (x.andThen k).Alike R (y.andThen l) := by
  induction h with
  | done r => exact hk r
  | exit r => exact .exit r
  | look _ ih => exact .look ih
  | put hs _ ih => exact .put hs ih
  | self _ ih => exact .self ih
  | lock _ ih => exact .lock ih
  | ends _ ih => exact .ends ih
  | fork _ ih => exact .fork ih
  | ask q _ ih => exact .ask q ih

theorem bind {x y : Action σ α} {f g : α → Action σ β} (h : x.Alike R y)
    (hf : ∀ a, (f a).Alike R (g a)) : (x >>= f).Alike R (y >>= g) := by
  refine h.andThen fun r ↦ ?_
  cases r with
  | ok a => exact hf a
  | error e => exact .done (.error e)

theorem start {x y : Action σ Unit} (h : x.Alike R y) :
    (Action.start x).Alike R (Action.start y) := by
  refine .fork fun side ↦ ?_
  cases side with
  | own id => exact .done (.ok id)
  | child r =>
    refine andThen ?_ .exit
    cases r with
    | ok _ => exact h
    | error f => exact .done (.error f)

theorem holding {x y : Action σ α} (h : x.Alike R y) (m : Mode) :
    (Action.holding m x).Alike R (Action.holding m y) :=
  bind (.ask _ .done) fun _ ↦ h.andThen fun r ↦ bind (.ask _ .done) fun _ ↦ .done r

end Action.Alike

/-! ## Worlds -/

/-- The tasks have come equally far and go on alike. -/
inductive Progress.Alike (R : σ → σ → Prop) : Progress σ → Progress σ → Prop
  | paused (ticket : Option Nat) {next next' : Outcome Unit → Action σ Unit}
    (h : ∀ r, (next r).Alike R (next' r)) : Alike R (.paused ticket next) (.paused ticket next')
  | finished (r : Outcome Unit) : Alike R (.finished r) (.finished r)

/-- The worlds are the same but for their states, which are related, and for what their tasks do
next, which is alike. -/
inductive World.InStep (R : σ → σ → Prop) (w : World σ) : World σ → Prop
  | intro {s : σ} {tasks : List (Progress σ)} (hstate : R w.state s)
    (htasks : List.Forall₂ (Progress.Alike R) w.tasks tasks) :
    InStep R w { w with state := s, tasks := tasks }

/-- The requests are answered alike or let their tasks wait, in worlds that keep in step. -/
inductive World.ServedInStep (R : σ → σ → Prop) :
    Sum (World σ × Outcome Unit) (World σ × Option Nat) →
      Sum (World σ × Outcome Unit) (World σ × Option Nat) → Prop
  | inl {w w' : World σ} (h : w.InStep R w') (r : Outcome Unit) :
    ServedInStep R (.inl (w, r)) (.inl (w', r))
  | inr {w w' : World σ} (h : w.InStep R w') (ticket : Option Nat) :
    ServedInStep R (.inr (w, ticket)) (.inr (w', ticket))

theorem Progress.endings_eq {ps ps' : List (Progress σ)}
    (h : List.Forall₂ (Progress.Alike R) ps ps') :
    ps'.map Progress.ending = ps.map Progress.ending := by
  induction h with
  | nil => rfl
  | cons hp _ ih =>
    rw [List.map_cons, List.map_cons, ih]
    cases hp <;> rfl

namespace World

namespace InStep

variable {w w' : World σ}

theorem push (h : w.InStep R w') (j : Job) : (w.push j).InStep R (w'.push j) := by
  cases h with
  | intro hstate htasks => exact ⟨hstate, htasks⟩

theorem mark (h : w.InStep R w') (id : TaskId) {p p' : Progress σ} (hp : p.Alike R p') :
    (w.mark id p).InStep R (w'.mark id p') := by
  cases h with
  | intro hstate htasks => exact ⟨hstate, forall₂_set htasks id hp⟩

theorem letGo? (h : w.InStep R w') (m : Mode) : Agree (InStep R) (w.letGo? m) (w'.letGo? m) := by
  cases h with
  | intro hstate htasks =>
    refine (agree_eq_iff.mpr rfl).bind ?_
    rintro l _ rfl
    refine .ok ?_
    dsimp only
    split <;> exact ⟨hstate, htasks⟩

theorem spawn (h : w.InStep R w') {next next' : Outcome Unit → Action σ Unit}
    (hnext : ∀ r, (next r).Alike R (next' r)) : (w.spawn next).InStep R (w'.spawn next') := by
  cases h with
  | @intro s tasks hstate htasks =>
    have hall := List.rel_append htasks (.cons (.paused none hnext) .nil)
    have hlength := htasks.length_eq
    have hspawned : ({ w with state := s, tasks := tasks } : World σ).spawn next' =
        { w.spawn next with state := s, tasks := tasks ++ [.paused none next'] } := by
      rw [World.spawn, World.spawn, hlength]
      rfl
    rw [hspawned]
    exact ⟨hstate, hall⟩

theorem openGate (h : w.InStep R w') (g : String) : (w.openGate g).InStep R (w'.openGate g) := by
  cases h with
  | intro hstate htasks => exact ⟨hstate, htasks⟩

/-- A task waits in the same place on both sides, so it is cancelled there. -/
theorem cancel (h : w.InStep R w') (id : TaskId) : (w.cancel id).InStep R (w'.cancel id) := by
  cases h with
  | @intro s tasks hstate htasks =>
    rw [World.cancel, World.cancel]
    dsimp only
    rcases forall₂_getElem? htasks id with ⟨hp, hp'⟩ | ⟨p, p', hp, hp', hprogress⟩
    · rw [hp, hp']
      exact ⟨hstate, htasks⟩
    · rw [hp, hp']
      cases hprogress with
      | finished r => exact ⟨hstate, htasks⟩
      | paused ticket hnext =>
        have hmarked := forall₂_set htasks id (.paused none hnext)
        dsimp only [World.mark]
        cases w.queue.find? (·.1 = id) with
        | some _ => exact ⟨hstate, hmarked⟩
        | none =>
          cases w.gateQueue.find? (·.1 = id) with
          | some _ => exact ⟨hstate, hmarked⟩
          | none => cases ticket <;> exact ⟨hstate, hmarked⟩

theorem serve (h : w.InStep R w') (id : TaskId) (q : Request) :
    ServedInStep R (w.serve id q) (w'.serve id q) := by
  cases q with
  | enter m =>
    cases h with
    | intro hstate htasks =>
      rw [World.serve, World.serve]
      dsimp only
      split
      · refine .inl ?_ _
        exact ⟨hstate, htasks⟩
      · refine .inr ?_ _
        exact ⟨hstate, htasks⟩
  | leave m =>
    cases h with
    | intro hstate htasks =>
      rw [World.serve, World.serve]
      refine .inr ?_ _
      exact ⟨hstate, htasks⟩
  | letGo m =>
    have hleft := h.letGo? m
    rw [World.serve, World.serve]
    revert hleft
    generalize w.letGo? m = x
    generalize w'.letGo? m = y
    rintro (hleft | f)
    · exact .inl hleft _
    · exact .inl h _
  | gate g =>
    cases h with
    | intro hstate htasks =>
      rw [World.serve, World.serve]
      dsimp only
      split
      · refine .inl ?_ _
        exact ⟨hstate, htasks⟩
      · refine .inr ?_ _
        exact ⟨hstate, htasks⟩
  | openGate g => exact .inl (h.openGate g) _
  | cancel i =>
    rw [World.serve, World.serve]
    split
    · exact .inr (h.push _) _
    · exact .inl (h.cancel i) _
  | yield => exact .inr (h.push _) _

/-- Tasks that go on alike leave worlds that are alike. -/
theorem advance {a a' : Action σ Unit} (h : w.InStep R w') (id : TaskId) (ha : a.Alike R a') :
    (w.advance id a).InStep R (w'.advance id a') := by
  induction ha generalizing w w' with
  | done r => exact h.mark id (.finished r)
  | exit r => exact h.mark id (.finished r)
  | look _ ih =>
    cases h with
    | intro hstate htasks => exact ih _ _ hstate ⟨hstate, htasks⟩
  | put hs _ ih =>
    cases h with
    | intro hstate htasks => exact ih ⟨hs, htasks⟩
  | self _ ih => exact ih id h
  | lock _ ih =>
    cases h with
    | intro hstate htasks => exact ih _ ⟨hstate, htasks⟩
  | ends _ ih =>
    cases h with
    | intro hstate htasks =>
      rw [World.advance, World.advance, Progress.endings_eq htasks]
      exact ih _ ⟨hstate, htasks⟩
  | fork hnext ih =>
    have hspawned := h.spawn fun r ↦ hnext (.child r)
    cases h with
    | intro hstate htasks =>
      rw [World.advance, World.advance, ← htasks.length_eq]
      exact ih _ hspawned
  | ask q hnext ih =>
    have hserved := h.serve id q
    rw [World.advance, World.advance]
    revert hserved
    generalize w.serve id q = x
    generalize w'.serve id q = y
    rintro (⟨hserved, r⟩ | ⟨hserved, ticket⟩)
    · exact ih r hserved
    · exact hserved.mark id (.paused ticket hnext)

theorem continueWith (h : w.InStep R w') (id : TaskId) (r : Outcome Unit) :
    (w.continueWith id r).InStep R (w'.continueWith id r) := by
  cases h with
  | intro hstate htasks =>
    rw [World.continueWith, World.continueWith]
    rcases forall₂_getElem? htasks id with ⟨hp, hp'⟩ | ⟨p, p', hp, hp', hprogress⟩
    · rw [hp, hp']
      exact ⟨hstate, htasks⟩
    · rw [hp, hp']
      cases hprogress with
      | finished r => exact ⟨hstate, htasks⟩
      | paused ticket hnext => exact advance ⟨hstate, htasks⟩ id (hnext r)

/-- Doing a job keeps worlds in step. -/
theorem perform (h : w.InStep R w') (j : Job) : (w.perform j).InStep R (w'.perform j) := by
  cases j with
  | resume id r => exact h.continueWith id r
  | recheck id m =>
    cases h with
    | intro hstate htasks =>
      rw [World.perform, World.perform]
      dsimp only
      split
      · refine continueWith ?_ id _
        exact ⟨hstate, htasks⟩
      · exact ⟨hstate, htasks⟩
  | abort id m =>
    cases h with
    | intro hstate htasks =>
      rw [World.perform, World.perform]
      dsimp only
      refine continueWith ?_ id _
      split <;> exact ⟨hstate, htasks⟩
  | release id m ticket =>
    have hleft := h.letGo? m
    rw [World.perform, World.perform]
    revert hleft
    generalize w.letGo? m = x
    generalize w'.letGo? m = y
    rintro (hleft | f)
    · exact hleft.push _
    · exact h.push _
  | relay id ticket r =>
    cases h with
    | intro hstate htasks =>
      rw [World.perform, World.perform]
      dsimp only
      rcases forall₂_getElem? htasks id with ⟨hp, hp'⟩ | ⟨p, p', hp, hp', hprogress⟩
      · rw [hp, hp']
        exact ⟨hstate, htasks⟩
      · rw [hp, hp']
        cases hprogress with
        | finished r => exact ⟨hstate, htasks⟩
        | paused t hnext =>
          dsimp only
          split
          · exact (mark ⟨hstate, htasks⟩ id (.paused none hnext)).push _
          · exact ⟨hstate, htasks⟩

end InStep

end World

/-! ## Happenings -/

/-- What happens to a world between turns. -/
inductive Happening (σ : Type) where
  | start (next : Outcome Unit → Action σ Unit)
  /-- Gives a task that has ended something new to do. -/
  | assign (id : TaskId) (a : Action σ Unit)
  | cancel (id : TaskId)
  /-- Takes up the ready job at this place. -/
  | take (n : Nat)

/-- What is given to a task to do has the property. -/
def Happening.Gives (P : Action σ Unit → Prop) : Happening σ → Prop
  | start next => ∀ r, P (next r)
  | assign _ a => P a
  | _ => True

theorem Happening.Gives.mono {P Q : Action σ Unit → Prop} {x : Happening σ} (h : x.Gives P)
    (hPQ : ∀ a, P a → Q a) : x.Gives Q := by
  cases x with
  | start next => exact fun r ↦ hPQ _ (h r)
  | assign id a => exact hPQ a h
  | cancel id => trivial
  | take n => trivial

/-- What becomes of a world. -/
def World.after (w : World σ) : Happening σ → World σ
  | .start next => w.spawn next
  | .assign id a => if w.hasFinished id then w.advance id a else w
  | .cancel id => w.cancel id
  | .take n => match w.ready[n]? with
    | some j => { w with ready := w.ready.eraseIdx n }.perform j
    | none => w

namespace World.InStep

variable {w w' : World σ}

theorem ofState {s s' : σ} (h : R s s') : (World.ofState s).InStep R (World.ofState s') :=
  intro (w := World.ofState s) h (.cons (.finished (.ok ())) .nil)

theorem after (h : w.InStep R w') {x : Happening σ} (hx : x.Gives fun a ↦ a.Alike R a) :
    (w.after x).InStep R (w'.after x) := by
  cases x with
  | start next => exact h.spawn hx
  | assign id a =>
    have hfinished : w'.hasFinished id = w.hasFinished id := by
      cases h with
      | intro hstate htasks =>
        rw [World.hasFinished, World.hasFinished]
        rcases forall₂_getElem? htasks id with ⟨hp, hp'⟩ | ⟨p, p', hp, hp', hprogress⟩
        · rw [hp, hp']
        · rw [hp, hp']
          cases hprogress <;> rfl
    rw [World.after, World.after, hfinished]
    split
    · exact h.advance id hx
    · exact h
  | cancel id => exact h.cancel id
  | take n =>
    cases h with
    | intro hstate htasks =>
      rw [World.after, World.after]
      dsimp only
      cases w.ready[n]? with
      | none => exact ⟨hstate, htasks⟩
      | some j =>
        refine perform ?_ j
        exact ⟨hstate, htasks⟩

/-- Whatever happens to both worlds, they keep in step. -/
theorem foldl_after (h : w.InStep R w') {xs : List (Happening σ)}
    (hxs : ∀ x ∈ xs, x.Gives fun a ↦ a.Alike R a) :
    (xs.foldl World.after w).InStep R (xs.foldl World.after w') := by
  induction xs generalizing w w' with
  | nil => exact h
  | cons x xs ih =>
    exact ih (h.after (hxs x List.mem_cons_self)) fun y hy ↦ hxs y (List.mem_cons_of_mem x hy)

end World.InStep

end RecordStore
