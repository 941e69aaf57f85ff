import EnvMonitor.Errno
import EnvMonitor.Lib.Machine

/-!
# The BLE advertiser

`ble_advertiser.c` on top of a controller that advertises or not. The flag
`advertising_enabled` is the module's idea of that: `ble_advertiser_start` and
`ble_advertiser_stop` clear it even if the controller refuses to stop, `ble_connected` clears it
only if it does not, and `ble_recycled` restarts advertising whatever was asked for before.

`advertiser_stopped` says what a successful stop is worth, and `advertiser_restart_iff` which
calls of `ble_advertiser_start` work at all: `bt_ready_sem` is given once, by `bt_ready_cb`, and
taken by every start.
-/

namespace EnvMonitor

/-- `BLE_ADV_RETRY_MAX`. -/
def BLE_ADV_RETRY_MAX : ℕ := 5

/-- The static variables of the advertiser, with the count of `bt_ready_sem` and whether the
connection callbacks are registered. `advertising` is the controller. `refused` is history: the
controller has refused a stop by `ble_advertiser_stop` or `ble_advertiser_start`, and has
neither started advertising nor been connected since. -/
structure Advertiser where
  advertisingEnabled : Bool := false
  btReadySem : ℕ := 0
  connCallbacks : Bool := false
  advertising : Bool := false
  refused : Bool := false
deriving DecidableEq, Repr

/-! ### The controller and the kernel -/

/-- `bt_le_adv_start`, which answers `ret`. A failed one leaves the controller as it was. -/
def btLeAdvStart (ret : ℤ) (s : Advertiser) : ℤ × Advertiser :=
  (ret, if ret = 0 then { s with advertising := true, refused := false } else s)

/-- `bt_le_adv_stop`, which answers `ret`. A failed one leaves the controller as it was. -/
def btLeAdvStop (ret : ℤ) (s : Advertiser) : ℤ × Advertiser :=
  (ret, if ret = 0 then { s with advertising := false } else s)

/-- `k_sem_give` on `bt_ready_sem`, whose limit is `1`. -/
def semGive (s : Advertiser) : Advertiser := { s with btReadySem := min (s.btReadySem + 1) 1 }

/-- `k_sem_take` on `bt_ready_sem`. Nobody gives it in the ten seconds after which it fails. -/
def semTake (s : Advertiser) : ℤ × Advertiser :=
  if s.btReadySem = 0 then (-EAGAIN, s) else (0, { s with btReadySem := s.btReadySem - 1 })

/-! ### Initialisation -/

/-- `bt_ready_cb`. -/
def btReadyCb (err : ℤ) (s : Advertiser) : Advertiser := if err ≠ 0 then s else semGive s

/-- `ble_advertiser_init`; `enableRet` is the answer of `bt_enable`. A failure to set the
identity is only logged. -/
def bleAdvertiserInit (enableRet : ℤ) (s : Advertiser) : ℤ × Advertiser :=
  if enableRet ≠ 0 then (enableRet, s) else (0, { s with connCallbacks := true })

/-- The advertiser once Bluetooth is ready. -/
def advertiserReady : Advertiser := btReadyCb 0 (bleAdvertiserInit 0 {}).2

/-! ### Start and stop -/

/-- The retries of `ble_advertiser_start` that are left, from attempt `retry` on; `startRet`
gives the answers of `bt_le_adv_start`, and `ret` the last one so far. -/
def advStartRetries (startRet : ℕ → ℤ) : ℕ → ℕ → ℤ → Advertiser → ℤ × Advertiser
  | 0, _, ret, s => (ret, s)
  | left + 1, retry, _, s =>
    let (ret, s) := btLeAdvStart (startRet retry) s
    if ret = 0 then (0, { s with advertisingEnabled := true })
    else if ret = -EAGAIN then advStartRetries startRet left (retry + 1) ret s
    else (ret, s)

/-- Stop what the flag says is advertising; the flag goes down whatever the controller
answers. -/
def stopExisting (stopRet : ℤ) (s : Advertiser) : ℤ × Advertiser :=
  if s.advertisingEnabled then
    let (ret, s) := btLeAdvStop stopRet s
    (ret, { s with advertisingEnabled := false, refused := s.refused || ret != 0 })
  else (0, s)

/-- `ble_advertiser_start`; `hasData` says that its argument is not `NULL`. -/
def bleAdvertiserStart (hasData : Bool) (stopRet : ℤ) (startRet : ℕ → ℤ) (s : Advertiser) :
    ℤ × Advertiser :=
  if !hasData then (-EINVAL, s)
  else
    let (ret, s) := semTake s
    if ret ≠ 0 then (ret, s)
    else
      -- a refused stop is only logged
      let (_, s) := stopExisting stopRet s
      advStartRetries startRet BLE_ADV_RETRY_MAX 0 0 s

/-- `ble_advertiser_stop`. -/
def bleAdvertiserStop (stopRet : ℤ) (s : Advertiser) : ℤ × Advertiser := stopExisting stopRet s

/-! ### Connections -/

/-- What `ble_connected` does here before it tells the sensor manager and the battery
service. -/
def bleConnected (err stopRet : ℤ) (s : Advertiser) : Advertiser :=
  if err ≠ 0 then s
  else if s.advertisingEnabled then
    let (ret, s) := btLeAdvStop stopRet s
    if ret ≠ 0 then s else { s with advertisingEnabled := false }
  else s

/-- `ble_recycled`. -/
def bleRecycled (startRet : ℤ) (s : Advertiser) : Advertiser :=
  let (ret, s) := btLeAdvStart startRet s
  if ret ≠ 0 then s else { s with advertisingEnabled := true }

/-- A connection that has been established ends advertising. -/
def connectionEstablished (s : Advertiser) : Advertiser :=
  { s with advertising := false, refused := false }

/-! ### The machine -/

/-- What happens to the advertiser, with the answers of the controller. -/
inductive AdvEvent where
  | start (hasData : Bool) (stopRet : ℤ) (startRet : ℕ → ℤ)
  | stop (stopRet : ℤ)
  | connected (err stopRet : ℤ)
  | disconnected
  | recycled (startRet : ℤ)

/-- One event, with the return code of a start or a stop. A connection is called back once the
callbacks are registered. -/
def advStep (e : AdvEvent) (s : Advertiser) : Option (Advertiser × List ℤ) :=
  match e with
  | .start hasData stopRet startRet =>
    let (ret, s) := bleAdvertiserStart hasData stopRet startRet s
    some (s, [ret])
  | .stop stopRet =>
    let (ret, s) := bleAdvertiserStop stopRet s
    some (s, [ret])
  | .connected err stopRet =>
    if s.connCallbacks then
      some (bleConnected err stopRet (if err = 0 then connectionEstablished s else s), [])
    else none
  | .disconnected => if s.connCallbacks then some (s, []) else none
  | .recycled startRet => if s.connCallbacks then some (bleRecycled startRet s, []) else none

/-- The advertiser as a machine. -/
def advMachine : Machine Advertiser AdvEvent ℤ := ⟨advStep⟩

/-! ### What the functions do -/

/-- The state after advertising has been started. -/
def Advertiser.started (s : Advertiser) : Advertiser :=
  { s with advertising := true, refused := false, advertisingEnabled := true }

/-- One attempt: it ends the start, unless it is told to try again. -/
theorem advStartRetries_succ (startRet : ℕ → ℤ) (left retry : ℕ) (ret : ℤ) (s : Advertiser) :
    advStartRetries startRet (left + 1) retry ret s =
      if startRet retry = 0 then (0, s.started)
      else if startRet retry = -EAGAIN then
        advStartRetries startRet left (retry + 1) (startRet retry) s
      else (startRet retry, s) := by
  rw [advStartRetries, btLeAdvStart]
  by_cases hzero : startRet retry = 0
  · simp [hzero, Advertiser.started]
  · simp [hzero]

/-- **The retries** end in advertising and return `0`, or they change nothing. -/
theorem advStartRetries_cases (startRet : ℕ → ℤ) (left retry : ℕ) (ret : ℤ) (s : Advertiser) :
    (advStartRetries startRet left retry ret s).2 = s ∨
      advStartRetries startRet left retry ret s = (0, s.started) := by
  induction left generalizing retry ret with
  | zero => exact Or.inl rfl
  | succ left ih =>
    rw [advStartRetries_succ]
    split_ifs
    · exact Or.inr rfl
    · exact ih (retry + 1) (startRet retry)
    · exact Or.inl rfl

/-- They end in advertising if an attempt succeeds before they run out and those before it are
told to try again. -/
theorem advStartRetries_succeeds {startRet : ℕ → ℤ} {left retry k : ℕ} (hk : k < left)
    (hagain : ∀ i < k, startRet (retry + i) = -EAGAIN) (hzero : startRet (retry + k) = 0)
    (ret : ℤ) (s : Advertiser) :
    advStartRetries startRet left retry ret s = (0, s.started) := by
  induction k generalizing left retry ret with
  | zero =>
    obtain ⟨left, rfl⟩ := Nat.exists_eq_succ_of_ne_zero (Nat.ne_zero_of_lt hk)
    rw [Nat.add_zero] at hzero
    rw [advStartRetries_succ, if_pos hzero]
  | succ k ih =>
    obtain ⟨left, rfl⟩ := Nat.exists_eq_succ_of_ne_zero (Nat.ne_zero_of_lt hk)
    have hfirst : startRet retry = -EAGAIN := hagain 0 k.succ_pos
    have hne : startRet retry ≠ 0 := by
      rw [hfirst]
      decide
    have hshift (i : ℕ) : retry + 1 + i = retry + (i + 1) := by omega
    rw [advStartRetries_succ, if_neg hne, if_pos hfirst]
    refine ih (by omega) (fun i hi => ?_) ?_ _
    · rw [hshift]
      exact hagain (i + 1) (by omega)
    · rwa [hshift]

/-- **A start** that gets past the semaphore stops what is advertising and starts anew. -/
theorem bleAdvertiserStart_eq (hasData : Bool) (stopRet : ℤ) (startRet : ℕ → ℤ)
    (s : Advertiser) :
    bleAdvertiserStart hasData stopRet startRet s =
      if hasData = false then (-EINVAL, s)
      else if s.btReadySem = 0 then (-EAGAIN, s)
      else
        advStartRetries startRet BLE_ADV_RETRY_MAX 0 0
          (stopExisting stopRet { s with btReadySem := s.btReadySem - 1 }).2 := by
  rw [bleAdvertiserStart, semTake]
  cases hasData with
  | false => rfl
  | true => by_cases hsem : s.btReadySem = 0 <;> simp [hsem, EAGAIN]

@[simp]
theorem stopExisting_btReadySem (stopRet : ℤ) (s : Advertiser) :
    (stopExisting stopRet s).2.btReadySem = s.btReadySem := by
  rw [stopExisting, btLeAdvStop]
  dsimp only
  split_ifs <;> rfl

@[simp]
theorem bleConnected_btReadySem (err stopRet : ℤ) (s : Advertiser) :
    (bleConnected err stopRet s).btReadySem = s.btReadySem := by
  rw [bleConnected, btLeAdvStop]
  dsimp only
  split_ifs <;> rfl

@[simp]
theorem bleRecycled_btReadySem (startRet : ℤ) (s : Advertiser) :
    (bleRecycled startRet s).btReadySem = s.btReadySem := by
  rw [bleRecycled, btLeAdvStart]
  dsimp only
  split_ifs <;> rfl

/-- **One event** is a start, a stop, a connection, a restart or nothing. -/
theorem advStep_cases {e : AdvEvent} {s s' : Advertiser} {os : List ℤ}
    (h : advStep e s = some (s', os)) :
    (∃ hasData stopRet startRet, e = .start hasData stopRet startRet ∧
        s' = (bleAdvertiserStart hasData stopRet startRet s).2) ∨
      (∃ stopRet, e = .stop stopRet ∧ s' = (stopExisting stopRet s).2) ∨
      (∃ stopRet, e = .connected 0 stopRet ∧
        s' = bleConnected 0 stopRet (connectionEstablished s)) ∨
      (((∃ err stopRet, e = .connected err stopRet) ∨ e = .disconnected) ∧ s' = s) ∨
      ∃ startRet, e = .recycled startRet ∧ s' = bleRecycled startRet s := by
  cases e with
  | start hasData stopRet startRet =>
    exact Or.inl ⟨hasData, stopRet, startRet, rfl, (Prod.mk.inj (Option.some.inj h)).1.symm⟩
  | stop stopRet =>
    exact Or.inr (Or.inl ⟨stopRet, rfl, (Prod.mk.inj (Option.some.inj h)).1.symm⟩)
  | connected err stopRet =>
    rw [advStep] at h
    split_ifs at h with _ herr
    · subst herr
      exact Or.inr (Or.inr (Or.inl ⟨stopRet, rfl, (Prod.mk.inj (Option.some.inj h)).1.symm⟩))
    · have hsame := (Prod.mk.inj (Option.some.inj h)).1
      rw [bleConnected, if_pos herr] at hsame
      exact Or.inr (Or.inr (Or.inr (Or.inl ⟨Or.inl ⟨err, stopRet, rfl⟩, hsame.symm⟩)))
  | disconnected =>
    rw [advStep] at h
    split_ifs at h
    exact Or.inr (Or.inr (Or.inr (Or.inl
      ⟨Or.inr rfl, (Prod.mk.inj (Option.some.inj h)).1.symm⟩)))
  | recycled startRet =>
    rw [advStep] at h
    split_ifs at h
    exact Or.inr (Or.inr (Or.inr (Or.inr
      ⟨startRet, rfl, (Prod.mk.inj (Option.some.inj h)).1.symm⟩)))

/-- A connection leaves the controller off, whatever it answers to being stopped. -/
theorem bleConnected_advertising (stopRet : ℤ) (s : Advertiser) :
    (bleConnected 0 stopRet (connectionEstablished s)).advertising = false := by
  rw [bleConnected, btLeAdvStop, if_neg (not_not.mpr rfl)]
  dsimp only
  split_ifs <;> rfl

/-- A stop starts nothing. -/
theorem stopExisting_advertising {s : Advertiser} (h : s.advertising = false) (stopRet : ℤ) :
    (stopExisting stopRet s).2.advertising = false := by
  rw [stopExisting, btLeAdvStop]
  dsimp only
  split_ifs
  · rfl
  · exact h
  · exact h

/-! ### A stop that succeeds -/

/-- The flag is up while the controller advertises, unless a stop was refused. -/
def Advertiser.Flagged (s : Advertiser) : Prop :=
  s.advertising = true → s.advertisingEnabled = true ∨ s.refused = true

theorem Advertiser.Flagged.stopExisting {s : Advertiser} (h : s.Flagged) (stopRet : ℤ) :
    (stopExisting stopRet s).2.Flagged := by
  rw [EnvMonitor.stopExisting, btLeAdvStop]
  by_cases henabled : s.advertisingEnabled = true
  · by_cases hret : stopRet = 0
    · simp [Flagged, henabled, hret]
    · simp [Flagged, henabled, hret]
  · rw [if_neg henabled]
    exact h

/-- **Invariant.** Every event keeps the flag up while the controller advertises. -/
theorem Advertiser.flagged_preserves :
    advMachine.Preserves Machine.anyEvent Advertiser.Flagged := by
  intro e s s' os _ h hstep
  rcases advStep_cases hstep with ⟨hasData, stopRet, startRet, -, rfl⟩ | ⟨stopRet, -, rfl⟩ |
    ⟨stopRet, -, rfl⟩ | ⟨-, rfl⟩ | ⟨startRet, -, rfl⟩
  · rw [bleAdvertiserStart_eq]
    split_ifs
    · exact h
    · exact h
    · have htaken : ({ s with btReadySem := s.btReadySem - 1 } : Advertiser).Flagged := h
      rcases advStartRetries_cases startRet BLE_ADV_RETRY_MAX 0 0
        (stopExisting stopRet { s with btReadySem := s.btReadySem - 1 }).2 with hsame | hstarted
      · rw [hsame]
        exact htaken.stopExisting stopRet
      · rw [hstarted]
        exact fun _ => Or.inl rfl
  · exact h.stopExisting stopRet
  · exact fun hon => absurd ((bleConnected_advertising stopRet s).symm.trans hon) (by decide)
  · exact h
  · rw [bleRecycled, btLeAdvStart]
    by_cases hret : startRet = 0
    · simp [Flagged, hret]
    · simpa [hret] using h

/-- The event does not start advertising: it is no start, and no restart that succeeds. -/
def AdvEvent.StartsNothing : AdvEvent → Prop
  | .start .. => False
  | .recycled startRet => startRet ≠ 0
  | _ => True

/-- A controller that is off stays off until something starts it. -/
theorem Advertiser.off_preserves :
    advMachine.Preserves AdvEvent.StartsNothing fun s => s.advertising = false := by
  intro e s s' os he h hstep
  rcases advStep_cases hstep with ⟨hasData, stopRet, startRet, rfl, -⟩ | ⟨stopRet, -, rfl⟩ |
    ⟨stopRet, -, rfl⟩ | ⟨-, rfl⟩ | ⟨startRet, rfl, rfl⟩
  · exact he.elim
  · exact stopExisting_advertising h stopRet
  · exact bleConnected_advertising stopRet s
  · exact h
  · have hfailed : startRet ≠ 0 := he
    rw [bleRecycled, btLeAdvStart]
    simpa [hfailed] using h

/-- **Stopped.** After a `ble_advertiser_stop` that returns `0`, the controller is not
advertising at any later point until `ble_advertiser_start` is called or `ble_recycled` restarts
advertising, provided that the controller has not refused an earlier stop by
`ble_advertiser_stop` or `ble_advertiser_start` since it last started advertising or was
connected. -/
theorem advertiser_stopped {es₁ es₂ : List AdvEvent} {s₁ s₂ s₃ : Advertiser} {os₁ os₂ : List ℤ}
    {stopRet : ℤ} (hbefore : advMachine.run es₁ advertiserReady = some (s₁, os₁))
    (hobeyed : s₁.refused = false) (hstop : bleAdvertiserStop stopRet s₁ = (0, s₂))
    (hquiet : ∀ e ∈ es₂, e.StartsNothing)
    (hafter : advMachine.run es₂ s₂ = some (s₃, os₂)) : s₃.advertising = false := by
  have hflagged : s₁.Flagged :=
    Advertiser.flagged_preserves.run (fun _ _ => trivial) (by simp [Advertiser.Flagged,
      advertiserReady, btReadyCb, bleAdvertiserInit, semGive]) hbefore
  have hoff : s₂.advertising = false := by
    rw [bleAdvertiserStop, stopExisting] at hstop
    split_ifs at hstop with henabled
    · -- the flag is up, so the controller was asked, and it has obeyed
      obtain ⟨hret, rfl⟩ := Prod.mk.inj hstop
      have hret : stopRet = 0 := hret
      simp [hret]
    · obtain ⟨-, rfl⟩ := Prod.mk.inj hstop
      by_contra hon
      rcases hflagged (by simpa using hon) with henabled' | hrefused
      · exact henabled henabled'
      · exact absurd (hobeyed.symm.trans hrefused) Bool.false_ne_true
  exact Advertiser.off_preserves.run hquiet hoff hafter

/-- Advertising is started and a client connects. -/
def clientConnected : List AdvEvent := [.start true 0 fun _ => 0, .connected 0 0]

theorem clientConnected_run :
    advMachine.run clientConnected advertiserReady = some ({ connCallbacks := true }, [0]) := rfl

/-- `advertiser_stopped` for a stop while a client is connected, with a restart that fails. -/
theorem advertiser_stopped_clientConnected :
    ∃ s₃ os₂, advMachine.run [.disconnected, .recycled (-12)] { connCallbacks := true } =
      some (s₃, os₂) ∧ s₃.advertising = false := by
  have hquiet : ∀ e ∈ [AdvEvent.disconnected, .recycled (-12)], e.StartsNothing := by
    simp [AdvEvent.StartsNothing]
  have hafter : advMachine.run [.disconnected, .recycled (-12)] { connCallbacks := true } =
      some ({ connCallbacks := true }, []) := rfl
  have hstop : bleAdvertiserStop 0 { connCallbacks := true } =
      (0, { connCallbacks := true }) := rfl
  exact ⟨_, _, hafter, advertiser_stopped clientConnected_run rfl hstop hquiet hafter⟩

/-- A stop that returned `0` does not keep `ble_recycled` from advertising. -/
theorem advertiser_restarted_by_recycled :
    ¬ ∀ (es₁ es₂ : List AdvEvent) (s₁ s₂ s₃ : Advertiser) (os₁ os₂ : List ℤ) (stopRet : ℤ),
      advMachine.run es₁ advertiserReady = some (s₁, os₁) →
      bleAdvertiserStop stopRet s₁ = (0, s₂) →
      (∀ e ∈ es₂, ∀ hasData stopRet startRet, e ≠ .start hasData stopRet startRet) →
      advMachine.run es₂ s₂ = some (s₃, os₂) → s₃.advertising = false := by
  intro hall
  have hoff := hall clientConnected [.disconnected, .recycled 0] _ _ _ _ _ 0
    clientConnected_run rfl (by simp) rfl
  exact absurd hoff (by decide)

/-! ### Starting again -/

/-- The event is a start that waits for `bt_ready_sem`. -/
def AdvEvent.takesSem : AdvEvent → Bool
  | .start hasData _ _ => hasData
  | _ => false

/-- A start takes the semaphore if it can, and nothing gives it. -/
theorem btReadySem_step {e : AdvEvent} {s s' : Advertiser} {os : List ℤ}
    (h : advStep e s = some (s', os)) :
    s'.btReadySem = s.btReadySem - if e.takesSem then 1 else 0 := by
  rcases advStep_cases h with ⟨hasData, stopRet, startRet, rfl, rfl⟩ | ⟨stopRet, rfl, rfl⟩ |
    ⟨stopRet, rfl, rfl⟩ | ⟨⟨err, stopRet, rfl⟩ | rfl, rfl⟩ | ⟨startRet, rfl, rfl⟩
  · rw [bleAdvertiserStart_eq, AdvEvent.takesSem]
    cases hasData with
    | false => rfl
    | true =>
      simp only [Bool.true_eq_false, if_false, if_true]
      split_ifs with hsem
      · dsimp only
        omega
      · rcases advStartRetries_cases startRet BLE_ADV_RETRY_MAX 0 0
          (stopExisting stopRet { s with btReadySem := s.btReadySem - 1 }).2 with
          hsame | hstarted
        · rw [hsame, stopExisting_btReadySem]
        · rw [hstarted]
          exact stopExisting_btReadySem ..
  · exact stopExisting_btReadySem ..
  · exact bleConnected_btReadySem ..
  · rfl
  · rfl
  · exact bleRecycled_btReadySem ..

/-- So a run leaves what its starts have not taken. -/
theorem btReadySem_run {es : List AdvEvent} {s s' : Advertiser} {os : List ℤ}
    (hrun : advMachine.run es s = some (s', os)) :
    s'.btReadySem = s.btReadySem - es.countP AdvEvent.takesSem := by
  induction es generalizing s os with
  | nil =>
    simp only [Machine.run_nil, Option.some.injEq, Prod.mk.injEq] at hrun
    rw [← hrun.1, List.countP_nil, Nat.sub_zero]
  | cons e es ih =>
    obtain ⟨s₁, o₁, o₂, hstep, hrest, -⟩ := (advMachine.run_cons_eq_some).mp hrun
    rw [ih hrest, btReadySem_step hstep, List.countP_cons]
    omega

/-- **Restarting.** In every run once Bluetooth is ready, a call of `ble_advertiser_start` with
data, to which the controller answers with at most four `-EAGAIN` and then `0`, returns `0` and
leaves the controller advertising with the flag up, if and only if it is the first such call. -/
theorem advertiser_restart_iff {es : List AdvEvent} {s : Advertiser} {os : List ℤ}
    {stopRet : ℤ} {startRet : ℕ → ℤ} {k : ℕ}
    (hrun : advMachine.run es advertiserReady = some (s, os)) (hk : k ≤ 4)
    (hagain : ∀ i < k, startRet i = -EAGAIN) (hzero : startRet k = 0) :
    let r := bleAdvertiserStart true stopRet startRet s
    (r.1 = 0 ∧ r.2.advertising = true ∧ r.2.advertisingEnabled = true) ↔
      ∀ e ∈ es, e.takesSem = false := by
  have hsem : s.btReadySem = 1 - es.countP AdvEvent.takesSem := btReadySem_run hrun
  have hfirst : (∀ e ∈ es, e.takesSem = false) ↔ s.btReadySem ≠ 0 := by
    rw [hsem]
    have hcount : es.countP AdvEvent.takesSem = 0 ↔ ∀ e ∈ es, e.takesSem = false := by
      simp [List.countP_eq_zero]
    rw [← hcount]
    omega
  intro r
  rw [hfirst]
  by_cases hnone : s.btReadySem = 0
  · -- nobody gives the semaphore again
    have hr : r = (-EAGAIN, s) := by
      simp only [r, bleAdvertiserStart_eq, hnone]
      rfl
    have hagain' : (-EAGAIN : ℤ) ≠ 0 := by decide
    refine iff_of_false (fun h => ?_) (not_not.mpr hnone)
    rw [hr] at h
    exact hagain' h.1
  · have hr : r = (0, (stopExisting stopRet
        { s with btReadySem := s.btReadySem - 1 }).2.started) := by
      simp only [r, bleAdvertiserStart_eq, hnone, Bool.true_eq_false, if_false]
      refine advStartRetries_succeeds (k := k) ?_ (fun i hi => ?_) ?_ _ _
      · rw [BLE_ADV_RETRY_MAX]
        omega
      · rw [Nat.zero_add]
        exact hagain i hi
      · rwa [Nat.zero_add]
    refine iff_of_true ?_ hnone
    rw [hr]
    exact ⟨rfl, rfl, rfl⟩

/-- Advertising is started and stopped. -/
def startedAndStopped : List AdvEvent := [.start true 0 fun _ => 0, .stop 0]

theorem startedAndStopped_run :
    advMachine.run startedAndStopped advertiserReady =
      some ({ connCallbacks := true }, [0, 0]) := rfl

/-- `advertiser_restart_iff` for a start after that, with one `-EAGAIN`. -/
theorem advertiser_restart_iff_startedAndStopped :
    let startRet : ℕ → ℤ := fun i => if i = 0 then -EAGAIN else 0
    let r := bleAdvertiserStart true 0 startRet { connCallbacks := true }
    (r.1 = 0 ∧ r.2.advertising = true ∧ r.2.advertisingEnabled = true) ↔
      ∀ e ∈ startedAndStopped, e.takesSem = false := by
  intro startRet
  have hagain : ∀ i < 1, startRet i = -EAGAIN := fun i hi => by
    obtain rfl : i = 0 := by omega
    rfl
  exact advertiser_restart_iff startedAndStopped_run (by omega : 1 ≤ 4) hagain rfl

/-- Advertising cannot be started twice. -/
theorem advertiser_not_restarted :
    ¬ ∀ (es : List AdvEvent) (s : Advertiser) (os : List ℤ),
      (∀ e ∈ es, (∃ startRet, e = .start true 0 startRet ∧
        ∃ k ≤ 4, (∀ i < k, startRet i = -EAGAIN) ∧ startRet k = 0) ∨ e = .stop 0) →
      advMachine.run es advertiserReady = some (s, os) →
      let r := bleAdvertiserStart true 0 (fun _ => 0) s
      r.1 = 0 ∧ r.2.advertising = true ∧ r.2.advertisingEnabled = true := by
  intro hall
  have hevents : ∀ e ∈ startedAndStopped, (∃ startRet, e = .start true 0 startRet ∧
      ∃ k ≤ 4, (∀ i < k, startRet i = -EAGAIN) ∧ startRet k = 0) ∨ e = .stop 0 := by
    intro e he
    simp only [startedAndStopped, List.mem_cons, List.not_mem_nil, or_false] at he
    rcases he with rfl | rfl
    · exact Or.inl ⟨_, rfl, 0, by omega, by simp, rfl⟩
    · exact Or.inr rfl
  obtain ⟨hret, -⟩ := hall _ _ _ hevents startedAndStopped_run
  exact absurd hret (by decide)

end EnvMonitor
