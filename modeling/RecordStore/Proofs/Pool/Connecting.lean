import RecordStore.Proofs.Pool.Opening

/-!
# Connecting and disconnecting

A manager that cannot connect closes the pool that it has made for it, and makes another one when it
is asked to connect again; once it was disconnected it has no pool open and never makes one.

All this holds whatever the driver says, as long as it closes pools and a connect is stopped by
faults of the driver, time-outs and the operating system alone.  Any other fault, such as a
cancellation, leaves the new pool open, and the next connect takes it for one that was opened and
asked whether the database answers.

* `ManagerCall` is a call on a manager, and `ManagerRef.Reached` a run of them.
* `ManagerEvent.Clean` is what is claimed of every call, `ManagerEvent.Strands` the exception.
* `ManagerRef.Standing` is what every call preserves.
* `ManagerRef.clean_iff_of_reached` is the statement above.
-/

namespace RecordStore

variable {ε : Type}

/-! ## Calls -/

/-- A call on a manager. -/
inductive ManagerCall where
  | connect
  | disconnect

namespace ManagerCall

/-- The call as an action. -/
def on (m : ManagerRef) : ManagerCall → Action (Driver × ε) Unit
  | connect => m.connect
  | disconnect => m.disconnect

/-- The call is done at once, leaves this driver, and comes to this. -/
def Does (c : ManagerCall) (m : ManagerRef) (e : ε) (d d' : Driver) (r : Outcome Unit) : Prop :=
  (c.on m).outcome? (d, e) = some ((d', e), r)

theorem Does.eq {c : ManagerCall} {m : ManagerRef} {e : ε} {d d₁ d₂ : Driver}
    {r₁ r₂ : Outcome Unit} (h₁ : c.Does m e d d₁ r₁) (h₂ : c.Does m e d d₂ r₂) :
    d₁ = d₂ ∧ r₁ = r₂ := by
  have h := h₁.symm.trans h₂
  simpa using h

end ManagerCall

/-- A call that was made on a manager, the driver before and after it, and what it has come to. -/
structure ManagerEvent where
  call : ManagerCall
  before : Driver
  after : Driver
  outcome : Outcome Unit

/-- The driver after calls on a manager, one after another; the last one stands first. -/
inductive ManagerRef.Reached (m : ManagerRef) (e : ε) (d₀ : Driver) :
    List ManagerEvent → Driver → Prop
  | start : Reached m e d₀ [] d₀
  | call {past : List ManagerEvent} {d d' : Driver} {r : Outcome Unit} (c : ManagerCall)
    (h : Reached m e d₀ past d) (hc : c.Does m e d d' r) :
    Reached m e d₀ (⟨c, d, d', r⟩ :: past) d'

/-! ## What is claimed -/

namespace ManagerRef

/-- A connect now makes a new pool and asks whether the database answers, unless there is no
connection string. -/
def Retries (m : ManagerRef) (e : ε) (d : Driver) : Prop :=
  ∃ d' r, ManagerCall.connect.Does m e d d' r ∧
    ((∃ f, (m.configIn d).dsn.text? = .error f ∧ d' = d ∧ r = .error f) ∨
      ∃ fault, m.Attempts d fault d' r)

/-- A manager that was never used. -/
structure Unused (m : ManagerRef) (d : Driver) : Prop where
  lt_length : m.number < d.managers.length
  pool : (d.managerState m.number).pool = none
  isClosed : (d.managerState m.number).isClosed = false

end ManagerRef

namespace ManagerEvent

open ManagerRef

/-- The call was a connect that has made a pool and was then stopped by a fault that does not tell
that the database cannot be reached. -/
def Strands (m : ManagerRef) (v : ManagerEvent) : Prop :=
  v.call = .connect ∧ ∃ f, isFailureToConnect f = false ∧ m.Attempts v.before (some f) v.after
    v.outcome

/-- What a call on a manager does after other calls. -/
structure Clean (m : ManagerRef) (e : ε) (d₀ : Driver) (past : List ManagerEvent)
    (v : ManagerEvent) : Prop where
  /-- A connect that fails leaves no pool open that it has made, the manager is not connected, and
  the next connect tries again unless the manager was disconnected. -/
  failed : v.call = .connect → ∀ f, v.outcome = .error f →
    AllClosed v.before.pools.length v.after ∧
      m.isConnected.outcome? (v.after, e) = some ((v.after, e), .ok false) ∧
      ((∀ w ∈ past, w.call ≠ .disconnect) → m.Retries e v.after)
  /-- After a connect that returns the manager has a pool open, for which the database has
  answered. -/
  returned : v.call = .connect → v.outcome = .ok () →
    ∃ n, m.pool.outcome? (v.after, e) = some ((v.after, e), .ok n) ∧
      ∃ w ∈ v :: past, w.call = .connect ∧ m.Opens n w.before w.after
  /-- After a disconnect all pools are closed, and no call does anything any more. -/
  ended : v.call = .disconnect → AllClosed d₀.pools.length v.after ∧
    ∀ later d', m.Reached e v.after later d' → d' = v.after ∧
      ∀ w ∈ later, w.call = .connect → w.outcome = .error disconnected

end ManagerEvent

namespace ManagerRef

open Driver

variable {m : ManagerRef} {d d' : Driver} {n base : Nat}

/-- Once a manager was disconnected, nothing that is done with it does anything. -/
theorem eq_of_reached {e : ε} {later : List ManagerEvent}
    (hclosed : (d.managerState m.number).isClosed = true) (h : m.Reached e d later d') :
    d' = d ∧ ∀ w ∈ later, w.call = .connect → w.outcome = .error disconnected := by
  induction h with
  | start => exact ⟨rfl, nofun⟩
  | @call past d₁ d₂ r c _ hc ih =>
    obtain ⟨rfl, hpast⟩ := ih
    cases c with
    | connect =>
      obtain ⟨rfl, rfl⟩ := hc.eq (outcome?_connect_of_closed hclosed e)
      exact ⟨rfl, List.forall_mem_cons.mpr ⟨fun _ ↦ rfl, hpast⟩⟩
    | disconnect =>
      obtain ⟨rfl, rfl⟩ := hc.eq (outcome?_disconnect_of_closed hclosed e)
      exact ⟨rfl, List.forall_mem_cons.mpr ⟨nofun, hpast⟩⟩

/-! ## Between the calls -/

/-- The manager has no pool, and none is open that was made for it. -/
structure Idle (m : ManagerRef) (base : Nat) (d : Driver) : Prop where
  pool : (d.managerState m.number).pool = none
  allClosed : AllClosed base d

/-- The manager has a pool open, the only one that is. -/
structure Holds (m : ManagerRef) (base n : Nat) (d : Driver) : Prop where
  pool : (d.managerState m.number).pool = some n
  isOpen : (d.poolState n).isClosed = false
  isClosed : (d.managerState m.number).isClosed = false
  others : ∀ k, base ≤ k → k < d.pools.length → k ≠ n → (d.poolState k).isClosed = true

/-- What every call on a manager preserves: an open pool is one for which the database has answered,
or one that a connect has left behind. -/
structure Standing (m : ManagerRef) (base : Nat) (past : List ManagerEvent) (d : Driver) :
    Prop where
  lt_length : m.number < d.managers.length
  closes : ∀ f, .fail f ∉ d.script .closePool
  le_length : base ≤ d.pools.length
  isClosed_iff : (d.managerState m.number).isClosed = true ↔ ∃ v ∈ past, v.call = .disconnect
  idle_or_holds : m.Idle base d ∨ ∃ n, m.Holds base n d ∧
    ∃ v ∈ past, v.call = .connect ∧ (m.Opens n v.before v.after ∨ v.Strands m)

/-- A new pool is the only one that is open. -/
theorem Idle.probed {fault : Option Fault} (h : m.Idle base d) (hm : m.number < d.managers.length)
    (hclosed : (d.managerState m.number).isClosed = false) (hprobed : m.Probed d d' fault) :
    m.Holds base d.pools.length d' where
  pool := congrArg Manager.pool (hprobed.managerState hm)
  isOpen := hprobed.isClosed_poolState
  isClosed := (congrArg Manager.isClosed (hprobed.managerState hm)).trans hclosed
  others := by
    intro k hbase hlt hne
    rw [hprobed.length_pools] at hlt
    have hk : k < d.pools.length := by omega
    rw [hprobed.poolState_of_lt hk]
    exact h.allClosed k hbase hk

theorem Holds.closing (h : m.Holds base n d) (hm : m.number < d.managers.length) :
    m.Idle base (m.closing n d) :=
  ⟨congrArg Manager.pool (managerState_closing hm), allClosed_closing h.others⟩

namespace Standing

variable {past : List ManagerEvent} {r : Outcome Unit} {e : ε}

/-- A connect is refused after a disconnect, does nothing if a pool is open, and makes a pool
otherwise, unless there is no connection string. -/
theorem exists_connect (h : m.Standing base past d) (e : ε) :
    ∃ d' r, ManagerCall.connect.Does m e d d' r ∧
      (((d.managerState m.number).isClosed = true ∧ d' = d ∧ r = .error disconnected) ∨
      (∃ n, m.openIn? d = some n ∧ d' = d ∧ r = .ok ()) ∨
      (m.Idle base d ∧ (d.managerState m.number).isClosed = false ∧
        ((d' = d ∧ ∃ f, r = .error f) ∨ ∃ fault, m.Attempts d fault d' r))) := by
  cases hclosed : (d.managerState m.number).isClosed with
  | true => exact ⟨_, _, outcome?_connect_of_closed hclosed e, .inl ⟨rfl, rfl, rfl⟩⟩
  | false =>
    rcases h.idle_or_holds with hidle | ⟨n, hholds, -⟩
    · obtain ⟨d', r, hdoes, hcases⟩ := ManagerRef.exists_connect h.lt_length hclosed
        (openIn?_eq_none hidle.pool) h.closes e
      refine ⟨d', r, hdoes, .inr (.inr ⟨hidle, rfl, ?_⟩)⟩
      rcases hcases with ⟨f, -, hd, hr⟩ | hattempts
      · exact .inl ⟨hd, f, hr⟩
      · exact .inr hattempts
    · have hopen := openIn?_eq_some hholds.pool hholds.isOpen
      exact ⟨_, _, outcome?_connect_of_some hclosed hopen e, .inr (.inl ⟨n, hopen, rfl, rfl⟩)⟩

theorem isClosed_cons (h : m.Standing base past d) {v : ManagerEvent} (hv : v.call = .connect)
    (hsame : (d'.managerState m.number).isClosed = (d.managerState m.number).isClosed) :
    (d'.managerState m.number).isClosed = true ↔ ∃ w ∈ v :: past, w.call = .disconnect := by
  rw [hsame, h.isClosed_iff]
  simp [hv]

/-- A connect that leaves everything as it is. -/
theorem cons (h : m.Standing base past d) {v : ManagerEvent} (hv : v.call = .connect) :
    m.Standing base (v :: past) d where
  lt_length := h.lt_length
  closes := h.closes
  le_length := h.le_length
  isClosed_iff := h.isClosed_cons hv rfl
  idle_or_holds := by
    rcases h.idle_or_holds with hidle | ⟨n, hholds, w, hw, hmade⟩
    · exact .inl hidle
    · exact .inr ⟨n, hholds, w, List.mem_cons_of_mem v hw, hmade⟩

/-- A connect that leaves its pool open. -/
theorem probed (h : m.Standing base past d) (hholds : m.Holds base d.pools.length d')
    (hclosed : (d.managerState m.number).isClosed = false) {fault : Option Fault}
    (hprobed : m.Probed d d' fault) {v : ManagerEvent} (hv : v.call = .connect)
    (hmade : m.Opens d.pools.length v.before v.after ∨ v.Strands m) :
    m.Standing base (v :: past) d' where
  lt_length := hprobed.lt_length h.lt_length
  closes := by
    rw [hprobed.script]
    exact h.closes
  le_length := by
    rw [hprobed.length_pools]
    exact Nat.le_succ_of_le h.le_length
  isClosed_iff := h.isClosed_cons hv (hholds.isClosed.trans hclosed.symm)
  idle_or_holds := .inr ⟨_, hholds, v, List.mem_cons_self, hv, hmade⟩

theorem attempt (h : m.Standing base past d) (hidle : m.Idle base d)
    (hclosed : (d.managerState m.number).isClosed = false) {fault : Option Fault}
    (hattempt : m.Attempts d fault d' r) :
    m.Standing base (⟨.connect, d, d', r⟩ :: past) d' := by
  cases hattempt with
  | kept hprobed =>
    have hholds := hidle.probed h.lt_length hclosed hprobed
    exact h.probed hholds hclosed hprobed rfl (.inl hprobed.opens)
  | @left _ f hprobed hf =>
    have hholds := hidle.probed h.lt_length hclosed hprobed
    exact h.probed hholds hclosed hprobed rfl (.inr ⟨rfl, f, hf, .left hprobed hf⟩)
  | @closed d₁ f hprobed hf =>
    have hholds := hidle.probed h.lt_length hclosed hprobed
    have hm := hprobed.lt_length h.lt_length
    have hstate := congrArg Manager.isClosed (managerState_closing (n := d.pools.length) hm)
    refine ⟨lt_length_closing hm, ?_, ?_, ?_, .inl (hholds.closing hm)⟩
    · intro g hg
      have hscript := script_closing hg
      rw [hprobed.script] at hscript
      exact h.closes g hscript
    · rw [pools_closing, List.length_modify, hprobed.length_pools]
      exact Nat.le_succ_of_le h.le_length
    · exact h.isClosed_cons rfl (hstate.trans (hholds.isClosed.trans hclosed.symm))

theorem connect (h : m.Standing base past d) (hc : ManagerCall.connect.Does m e d d' r) :
    m.Standing base (⟨.connect, d, d', r⟩ :: past) d' := by
  obtain ⟨d₁, r₁, hdoes, hcases⟩ := h.exists_connect e
  obtain ⟨rfl, rfl⟩ := hc.eq hdoes
  rcases hcases with ⟨-, rfl, -⟩ | ⟨n, -, rfl, -⟩ |
    ⟨hidle, hclosed, ⟨rfl, -⟩ | ⟨fault, hattempt⟩⟩
  · exact h.cons rfl
  · exact h.cons rfl
  · exact h.cons rfl
  · exact h.attempt hidle hclosed hattempt

theorem idle_of_closed (h : m.Standing base past d)
    (hclosed : (d.managerState m.number).isClosed = true) : m.Idle base d := by
  rcases h.idle_or_holds with hidle | ⟨n, hholds, -⟩
  · exact hidle
  · cases hclosed.symm.trans hholds.isClosed

theorem exists_cleanUp (h : m.Standing base past d) (e : ε) :
    ∃ d₁, m.cleanUp.outcome? (d, e) = some ((d₁, e), .ok ()) ∧ m.Idle base d₁ ∧
      m.number < d₁.managers.length ∧ d₁.script .closePool ⊆ d.script .closePool ∧
      d₁.pools.length = d.pools.length := by
  rcases h.idle_or_holds with hidle | ⟨n, hholds, -⟩
  · have hclean := outcome?_cleanUp_of_none (openIn?_eq_none hidle.pool) e
    have hstate := managerState_changed emptied h.lt_length
    exact ⟨_, hclean, ⟨congrArg Manager.pool hstate, hidle.allClosed⟩,
      lt_length_changed emptied h.lt_length, List.Subset.refl _, rfl⟩
  · have hclean :=
      outcome?_cleanUp_of_some (openIn?_eq_some hholds.pool hholds.isOpen) h.closes e
    refine ⟨_, hclean, hholds.closing h.lt_length, lt_length_closing h.lt_length, script_closing,
      ?_⟩
    rw [pools_closing, List.length_modify]

/-- A disconnect leaves a manager that is closed for good, without a pool. -/
theorem exists_disconnect (h : m.Standing base past d) (e : ε) :
    ∃ d' r, ManagerCall.disconnect.Does m e d d' r ∧
      m.Standing base (⟨.disconnect, d, d', r⟩ :: past) d' ∧
      (d'.managerState m.number).isClosed = true := by
  have hiff {v : ManagerEvent} {d₁ : Driver} (hv : v.call = .disconnect)
      (hclosed : (d₁.managerState m.number).isClosed = true) :
      (d₁.managerState m.number).isClosed = true ↔ ∃ w ∈ v :: past, w.call = .disconnect :=
    ⟨fun _ ↦ ⟨v, List.mem_cons_self, hv⟩, fun _ ↦ hclosed⟩
  cases hclosed : (d.managerState m.number).isClosed with
  | true =>
    refine ⟨d, .ok (), outcome?_disconnect_of_closed hclosed e, ?_, hclosed⟩
    exact ⟨h.lt_length, h.closes, h.le_length, hiff rfl hclosed, .inl (h.idle_of_closed hclosed)⟩
  | false =>
    obtain ⟨d₁, hclean, hidle, hm, hscript, hpools⟩ := h.exists_cleanUp e
    have hstate := managerState_changed ended hm
    have hclosed' : ((m.changed ended d₁).managerState m.number).isClosed = true :=
      congrArg Manager.isClosed hstate
    refine ⟨_, _, outcome?_disconnect hclosed hclean, ?_, hclosed'⟩
    refine ⟨lt_length_changed ended hm, fun f hf ↦ h.closes f (hscript hf), ?_, hiff rfl hclosed',
      .inl ⟨(congrArg Manager.pool hstate).trans hidle.pool, hidle.allClosed⟩⟩
    exact hpools ▸ h.le_length

theorem call (h : m.Standing base past d) {c : ManagerCall} (hc : c.Does m e d d' r) :
    m.Standing base (⟨c, d, d', r⟩ :: past) d' := by
  cases c with
  | connect => exact h.connect hc
  | disconnect =>
    obtain ⟨d₁, r₁, hdoes, hstanding, -⟩ := h.exists_disconnect e
    obtain ⟨rfl, rfl⟩ := hc.eq hdoes
    exact hstanding

theorem exists_does (h : m.Standing base past d) (c : ManagerCall) (e : ε) :
    ∃ d' r, c.Does m e d d' r := by
  cases c with
  | connect =>
    obtain ⟨d', r, hdoes, -⟩ := h.exists_connect e
    exact ⟨d', r, hdoes⟩
  | disconnect =>
    obtain ⟨d', r, hdoes, -⟩ := h.exists_disconnect e
    exact ⟨d', r, hdoes⟩

/-- A connect that has failed and has left no pool is clean. -/
theorem failed {v : ManagerEvent} (h : m.Standing base (v :: past) d) (hidle : m.Idle base d)
    (hv : v.call = .connect) (hbase : base ≤ n) (e : ε) :
    AllClosed n d ∧ m.isConnected.outcome? (d, e) = some ((d, e), .ok false) ∧
      ((∀ w ∈ past, w.call ≠ .disconnect) → m.Retries e d) := by
  have hopen := openIn?_eq_none hidle.pool
  refine ⟨fun k hk ↦ hidle.allClosed k (Nat.le_trans hbase hk), ?_, fun hpast ↦ ?_⟩
  · rw [outcome?_isConnected, hopen]
    rfl
  · refine ManagerRef.exists_connect h.lt_length ?_ hopen h.closes e
    rw [← Bool.not_eq_true, h.isClosed_iff]
    rintro ⟨w, hw, hcall⟩
    rcases List.mem_cons.mp hw with rfl | hw
    · cases hv.symm.trans hcall
    · exact hpast w hw hcall

/-- Every call is clean, unless a connect has left a pool behind. -/
theorem clean {d₀ : Driver} (h : m.Standing d₀.pools.length past d) {c : ManagerCall}
    (hc : c.Does m e d d' r) (hnone : ∀ w ∈ ⟨c, d, d', r⟩ :: past, ¬ w.Strands m) :
    ManagerEvent.Clean m e d₀ past ⟨c, d, d', r⟩ := by
  cases c with
  | connect =>
    have h' := h.connect hc
    obtain ⟨d₁, r₁, hdoes, hcases⟩ := h.exists_connect e
    obtain ⟨rfl, rfl⟩ := hc.eq hdoes
    rcases hcases with ⟨hclosed, rfl, rfl⟩ | ⟨n, hopen, rfl, rfl⟩ |
      ⟨hidle, hclosed, ⟨rfl, f, rfl⟩ | ⟨fault, hattempt⟩⟩
    · exact ⟨fun _ _ _ ↦ h'.failed (h.idle_of_closed hclosed) rfl h.le_length e, nofun, nofun⟩
    · refine ⟨nofun, fun _ _ ↦ ⟨n, outcome?_pool_of_some hopen e, ?_⟩, nofun⟩
      rcases h.idle_or_holds with hidle | ⟨k, hholds, w, hw, hcall, hmade⟩
      · cases hopen.symm.trans (openIn?_eq_none hidle.pool)
      · cases hopen.symm.trans (openIn?_eq_some hholds.pool hholds.isOpen)
        have hopens := hmade.resolve_right (hnone w (List.mem_cons_of_mem _ hw))
        exact ⟨w, List.mem_cons_of_mem _ hw, hcall, hopens⟩
    · exact ⟨fun _ _ _ ↦ h'.failed hidle rfl h.le_length e, nofun, nofun⟩
    · cases hattempt with
      | kept hprobed =>
        refine ⟨nofun, fun _ _ ↦ ⟨d.pools.length, ?_, ?_⟩, nofun⟩
        · exact outcome?_pool_of_some (hprobed.openIn? h.lt_length) e
        · exact ⟨_, List.mem_cons_self, rfl, hprobed.opens⟩
      | closed hprobed hf =>
        have hholds := hidle.probed h.lt_length hclosed hprobed
        have hidle' := hholds.closing (hprobed.lt_length h.lt_length)
        exact ⟨fun _ _ _ ↦ h'.failed hidle' rfl h.le_length e, nofun, nofun⟩
      | @left _ f hprobed hf =>
        exact absurd ⟨rfl, f, hf, .left hprobed hf⟩ (hnone _ List.mem_cons_self)
  | disconnect =>
    obtain ⟨d₁, r₁, hdoes, h', hclosed⟩ := h.exists_disconnect e
    obtain ⟨rfl, rfl⟩ := hc.eq hdoes
    exact ⟨nofun, nofun, fun _ ↦ ⟨(h'.idle_of_closed hclosed).allClosed,
      fun later d'' hlater ↦ eq_of_reached hclosed hlater⟩⟩

/-- What holds after a run holds at each of its calls. -/
theorem of_reached {d₀ : Driver} {events : List ManagerEvent} (h₀ : m.Standing base [] d₀)
    (h : m.Reached e d₀ events d) :
    m.Standing base events d ∧ ∀ v past, v :: past <:+ events →
      m.Standing base past v.before ∧ v.call.Does m e v.before v.after v.outcome := by
  induction h with
  | start => exact ⟨h₀, fun v past hsuffix ↦ by cases List.suffix_nil.mp hsuffix⟩
  | @call past d₁ d₂ r c _ hc ih =>
    obtain ⟨hstanding, hpast⟩ := ih
    refine ⟨hstanding.call hc, fun v past' hsuffix ↦ ?_⟩
    rcases List.suffix_cons_iff.mp hsuffix with heq | hsuffix
    · cases heq
      exact ⟨hstanding, hc⟩
    · exact hpast v past' hsuffix

end Standing

theorem Unused.standing (h : m.Unused d) (hclose : ∀ f, .fail f ∉ d.script .closePool) :
    m.Standing d.pools.length [] d where
  lt_length := h.lt_length
  closes := hclose
  le_length := Nat.le_refl _
  isClosed_iff := by simp [h.isClosed]
  idle_or_holds := .inl ⟨h.pool, fun n hle hlt ↦ absurd hlt (Nat.not_lt_of_le hle)⟩

end ManagerRef

namespace ManagerEvent

open ManagerRef

variable {m : ManagerRef} {v : ManagerEvent} {e : ε}

/-- A connect that leaves a pool behind leaves it open. -/
theorem Strands.probed (h : v.Strands m) :
    ∃ f, v.outcome = .error f ∧ m.Probed v.before v.after (some f) := by
  obtain ⟨-, f, hf, hattempts⟩ := h
  exact ⟨f, hattempts.of_stopped hf⟩

theorem Strands.not_clean {d₀ : Driver} {past : List ManagerEvent} (h : v.Strands m) :
    ¬ v.Clean m e d₀ past := by
  intro hclean
  obtain ⟨f, hr, hprobed⟩ := h.probed
  obtain ⟨hclosed, -⟩ := hclean.failed h.1 f hr
  have hlt : v.before.pools.length < v.after.pools.length := by
    rw [hprobed.length_pools]
    exact Nat.lt_succ_self _
  have hnew := hclosed _ (Nat.le_refl _) hlt
  cases hnew.symm.trans hprobed.isClosed_poolState

/-- The next connect takes the pool that was left behind for one that is ready. -/
theorem Strands.left_open (h : v.Strands m) (hm : m.number < v.before.managers.length)
    (hdoes : v.call.Does m e v.before v.after v.outcome) :
    (v.after.poolState v.before.pools.length).isClosed = false ∧
      m.isConnected.outcome? (v.after, e) = some ((v.after, e), .ok true) ∧
      ManagerCall.connect.Does m e v.after v.after (.ok ()) := by
  obtain ⟨f, -, hprobed⟩ := h.probed
  have hopen := hprobed.openIn? hm
  have hclosed : (v.before.managerState m.number).isClosed = false := by
    rw [← Bool.not_eq_true]
    intro hclosed
    rw [h.1] at hdoes
    obtain ⟨hd, -⟩ := hdoes.eq (outcome?_connect_of_closed hclosed e)
    have hlength := hprobed.length_pools
    rw [hd] at hlength
    exact absurd hlength (Nat.ne_of_lt (Nat.lt_succ_self _))
  refine ⟨hprobed.isClosed_poolState, ?_, outcome?_connect_of_some ?_ hopen e⟩
  · rw [outcome?_isConnected, hopen]
    rfl
  · exact (congrArg Manager.isClosed (hprobed.managerState hm)).trans hclosed

end ManagerEvent

namespace ManagerRef

open Driver

variable {m : ManagerRef} {d₀ d : Driver} {e : ε} {events : List ManagerEvent}

/-- Every call of a run is clean exactly if no connect of it was stopped, with a new pool made, by a
fault that does not tell that the database cannot be reached.  A connect that was stopped so leaves
its pool open, the manager counts as connected, and the next connect returns without a call of the
driver.  After every run either call can be made. -/
theorem clean_iff_of_reached (hm : m.Unused d₀) (hclose : ∀ f, .fail f ∉ d₀.script .closePool)
    (h : m.Reached e d₀ events d) :
    ((∀ v past, v :: past <:+ events → v.Clean m e d₀ past) ↔ ∀ v ∈ events, ¬ v.Strands m) ∧
      (∀ v ∈ events, v.Strands m →
        (v.after.poolState v.before.pools.length).isClosed = false ∧
          m.isConnected.outcome? (v.after, e) = some ((v.after, e), .ok true) ∧
          ManagerCall.connect.Does m e v.after v.after (.ok ())) ∧
      ∀ c : ManagerCall, ∃ d' r, c.Does m e d d' r := by
  obtain ⟨hlast, hsteps⟩ := (hm.standing hclose).of_reached h
  have hsuffix {v : ManagerEvent} (hv : v ∈ events) : ∃ past, v :: past <:+ events := by
    obtain ⟨later, past, rfl⟩ := List.append_of_mem hv
    exact ⟨past, later, rfl⟩
  refine ⟨⟨fun hclean v hv hstrands ↦ ?_, fun hnone v past hpast ↦ ?_⟩, fun v hv hstrands ↦ ?_,
    fun c ↦ hlast.exists_does c e⟩
  · obtain ⟨past, hpast⟩ := hsuffix hv
    exact hstrands.not_clean (hclean v past hpast)
  · obtain ⟨hstanding, hdoes⟩ := hsteps v past hpast
    exact hstanding.clean hdoes fun w hw ↦ hnone w (hpast.subset hw)
  · obtain ⟨past, hpast⟩ := hsuffix hv
    obtain ⟨hstanding, hdoes⟩ := hsteps v past hpast
    exact hstrands.left_open hstanding.lt_length hdoes

/-- A pool that could not be opened is closed, another one is made, and it is closed in the end. -/
theorem clean_iff_of_reached_refused :
    let refusal : Fault := .external (.driver .connectivity "OperationalError") none none
    let d₀ : Driver := {
      script := fun p ↦ if p = .openPool then [.fail refusal] else []
      managers := [{ config := {} }] }
    let m : ManagerRef := ⟨0⟩
    ∃ d₁ d₂ d₃,
      let events : List ManagerEvent :=
        [⟨.disconnect, d₂, d₃, .ok ()⟩, ⟨.connect, d₁, d₂, .ok ()⟩,
          ⟨.connect, d₀, d₁, .error (unreachable refusal)⟩]
      m.Unused d₀ ∧ (∀ f, .fail f ∉ d₀.script .closePool) ∧ m.Reached () d₀ events d₃ ∧
        ∀ v past, v :: past <:+ events → v.Clean m () d₀ past := by
  intro refusal d₀ m
  have hm : m.Unused d₀ := ⟨Nat.zero_lt_one, rfl, rfl⟩
  have hclose : ∀ f, .fail f ∉ d₀.script .closePool := nofun
  have hrun : ∃ d₁ d₂ d₃, ManagerCall.connect.Does m () d₀ d₁ (.error (unreachable refusal)) ∧
      ManagerCall.connect.Does m () d₁ d₂ (.ok ()) ∧
      ManagerCall.disconnect.Does m () d₂ d₃ (.ok ()) ∧ (d₁.poolState 0).isClosed = true :=
    ⟨_, _, _, rfl, rfl, rfl, rfl⟩
  obtain ⟨d₁, d₂, d₃, hrefused, hready, hended, hclosed⟩ := hrun
  have h : m.Reached () d₀ [⟨.disconnect, d₂, d₃, .ok ()⟩, ⟨.connect, d₁, d₂, .ok ()⟩,
      ⟨.connect, d₀, d₁, .error (unreachable refusal)⟩] d₃ :=
    .call .disconnect (.call .connect (.call .connect .start hrefused) hready) hended
  refine ⟨d₁, d₂, d₃, hm, hclose, h, (clean_iff_of_reached hm hclose h).1.mpr ?_⟩
  intro v hv hstrands
  obtain ⟨f, hf, hprobed⟩ := hstrands.probed
  simp only [List.mem_cons, List.not_mem_nil, or_false] at hv
  rcases hv with rfl | rfl | rfl
  · cases hstrands.1
  · cases hf
  · cases hclosed.symm.trans hprobed.isClosed_poolState

/-- A connect that is cancelled while its pool is opened: the pool stays open, and the next connect
returns although the database was never asked anything. -/
theorem not_clean_cancelled :
    let cancelled : Fault := .external .cancelled none none
    let d : Driver := {
      script := fun p ↦ if p = .openPool then [.fail cancelled] else []
      managers := [{ config := {} }] }
    let m : ManagerRef := ⟨0⟩
    ∃ d', m.Unused d ∧ ManagerCall.connect.Does m () d d' (.error cancelled) ∧
      (d'.poolState 0).isClosed = false ∧
      m.isConnected.outcome? (d', ()) = some ((d', ()), .ok true) ∧
      ManagerCall.connect.Does m () d' d' (.ok ()) ∧ d'.calls.map Call.isExecute = [false, false] ∧
      ¬ ManagerEvent.Clean m () d [] ⟨.connect, d, d', .error cancelled⟩ := by
  intro cancelled d m
  let d' : Driver := (m.connect.outcome? (d, ())).elim d (·.1.1)
  refine ⟨d', ⟨Nat.zero_lt_one, rfl, rfl⟩, rfl, rfl, rfl, rfl, rfl, fun hclean ↦ ?_⟩
  obtain ⟨hclosed, -⟩ := hclean.failed rfl cancelled rfl
  have hopen : (d'.poolState 0).isClosed = false := rfl
  cases hopen.symm.trans (hclosed 0 (Nat.le_refl 0) Nat.zero_lt_one)

end ManagerRef

end RecordStore
