import EnvMonitor.Battery.Bounce
import EnvMonitor.Lib.Signal

/-!
# The recursion through the charging callback

`battery_service_is_charging` calls the callback when the flag it reads is new, the callback
updates, and the update asks `battery_service_is_charging` again, which takes the next reading.
Nothing in the program counts the levels: the recursion goes on as long as every reading differs
from the one before. The readings are a stream here, of which a call consumes as much as it needs.

`chargingRecursion_ends` is the bound. The recursion ends for every stream that does not alternate
for ever, with the readings before the first repetition as the arguments of the callback, or fewer
if a level read fails on the way. `chargingRecursion_forever` is the other half: on a stream that
alternates for ever, and whose level reads succeed, no number of readings is enough.

The arguments are history that the functions of `Battery/Ble.lean` do not record. The traced
functions below are the same functions with that record, and `tracedUpdate_erase` and
`tracedIsCharging_erase` say that without it nothing else has changed.
-/

namespace EnvMonitor

/-! ### The functions with the arguments of the callback -/

/-- An update with the arguments of the callbacks nested in it, the outermost first. -/
abbrev TracedUpdate : Type := BatteryApp → Option (List Bool × ℤ × BatteryApp × List ManualCall)

/-- `charging_status_changed`, traced. -/
def tracedCallback (update : TracedUpdate) (charging : Bool) (app : BatteryApp) :
    Option (List Bool × BatteryApp × List ManualCall) :=
  if !app.ble.initialized ∨ app.connectedCount = 0 then some ([charging], app, [])
  else
    let ble := updateChargeState charging { app.ble with charging := charging }
    (update { app with ble := ble }).map fun r => (charging :: r.1, r.2.2)

/-- `noteCharging`, traced. -/
def tracedNote (update : TracedUpdate) (isCharging : Bool) (app : BatteryApp) :
    Option (List Bool × BatteryApp × List ManualCall) :=
  let (notify, bat) := reportCharging isCharging app.bat
  let app := { app with bat := bat }
  if notify then tracedCallback update isCharging app else some ([], app, [])

/-- `battery_service_is_charging`, traced. -/
def tracedIsCharging (update : TracedUpdate) (pin : ℤ) (app : BatteryApp) :
    Option (List Bool × Bool × BatteryApp × List ManualCall) :=
  if !app.bat.initialized then some ([], false, app, [])
  else (tracedNote update (pin == 0) app).map fun r => (r.1, pin == 0, r.2)

/-- The call of `ble_battery_service_update_manual` that ends an update, after its poll. -/
def endOfUpdate (r : HwReading) (batLevel : ℤ) (poll : Bool × BatteryApp × List ManualCall) :
    ℤ × BatteryApp × List ManualCall :=
  let (charging, app, nested) := poll
  let (ret, app', own) := bleBatteryServiceUpdateManual r.setLevelRet
    (UInt8.ofNat batLevel.toNat) charging app
  (ret, app', nested ++ own)

/-- `ble_battery_service_update`, traced. -/
def tracedUpdate : List HwReading → TracedUpdate
  | [], app => if !app.ble.initialized then some ([], -ENODEV, app, []) else none
  | r :: rs, app =>
    if !app.ble.initialized then some ([], -ENODEV, app, [])
    else
      let (batLevel, bat) := batteryServiceGetLevel r.adc app.bat
      let app := { app with bat := bat }
      if batLevel < 0 then some ([], batLevel, app, [])
      else
        (tracedIsCharging (tracedUpdate rs) r.pin app).map fun (args, poll) =>
          (args, endOfUpdate r batLevel poll)

/-- Without its record a traced poll is the poll, if that holds of the update nested in it. -/
theorem tracedIsCharging_erase {traced : TracedUpdate}
    {update : BatteryApp → Option (ℤ × BatteryApp × List ManualCall)}
    (h : ∀ app, (traced app).map Prod.snd = update app) (pin : ℤ) (app : BatteryApp) :
    (tracedIsCharging traced pin app).map Prod.snd = batteryServiceIsCharging update pin app := by
  have hnote : ∀ isCharging app, (tracedNote traced isCharging app).map Prod.snd =
      noteCharging update isCharging app := by
    intro isCharging app
    simp only [tracedNote, tracedCallback, noteCharging, chargingStatusChanged, ← h]
    split_ifs
    · rfl
    · rw [Option.map_map, Option.map_map]
      rfl
    · rfl
  rw [tracedIsCharging, batteryServiceIsCharging, ← hnote]
  split_ifs
  · rfl
  · simp only [Option.map_map]
    rfl

/-- Without its record a traced update is the update. -/
theorem tracedUpdate_erase (rs : List HwReading) (app : BatteryApp) :
    (tracedUpdate rs app).map Prod.snd = bleBatteryServiceUpdate rs app := by
  induction rs generalizing app with
  | nil =>
    rw [tracedUpdate, bleBatteryServiceUpdate]
    split_ifs <;> rfl
  | cons r rs ih =>
    rw [tracedUpdate, bleBatteryServiceUpdate]
    split_ifs with hinit
    · rfl
    · dsimp only
      split_ifs with hneg
      · rfl
      · rw [← tracedIsCharging_erase ih]
        simp only [Option.map_map]
        rfl

/-! ### One level of the recursion -/

/-- The level read of a reading succeeds. -/
structure HwReading.Measures (r : HwReading) : Prop where
  fetch : r.adc.fetchRet = 0
  channel : r.adc.channelRet = 0

/-- A flag that is not new is only compared. -/
theorem tracedNote_of_eq {charging : Bool} {app : BatteryApp}
    (h : charging = app.bat.lastChargingState) (update : TracedUpdate) :
    tracedNote update charging app = some ([], app, []) := by
  simp [tracedNote, reportCharging, h]

/-- A new flag is remembered before the callback runs. -/
theorem tracedNote_of_ne {charging : Bool} {app : BatteryApp}
    (h : charging ≠ app.bat.lastChargingState) (update : TracedUpdate) :
    tracedNote update charging app =
      if app.bat.chargingChangedCb then tracedCallback update charging (app.noted charging)
      else some ([], app.noted charging, []) := by
  simp only [tracedNote, reportCharging, if_pos h]
  rfl

/-- **A new flag.** It calls the callback, which updates if it gets so far, or there is none. -/
theorem tracedNote_cases {charging : Bool} {app : BatteryApp}
    (h : charging ≠ app.bat.lastChargingState) :
    (¬ app.Listening ∧ ∃ args r, args <+: [charging] ∧
        ∀ update, tracedNote update charging app = some (args, r)) ∨
      ∀ update, tracedNote update charging app =
        (update ((app.noted charging).prewritten charging)).map fun r =>
          (charging :: r.1, r.2.2) := by
  by_cases hcb : app.bat.chargingChangedCb = true
  · have hnote : ∀ update, tracedNote update charging app =
        tracedCallback update charging (app.noted charging) := by
      intro update
      rw [tracedNote_of_ne h, if_pos hcb]
    by_cases hdeaf : (!app.ble.initialized) = true ∨ app.connectedCount = 0
    · refine Or.inl ⟨?_, [charging], (app.noted charging, []), List.prefix_rfl,
        fun update => (hnote update).trans ?_⟩
      · rintro ⟨-, hinit, hcount⟩
        exact hdeaf.elim (by simp [hinit]) hcount
      · exact if_pos hdeaf
    · exact Or.inr fun update => (hnote update).trans (if_neg hdeaf)
  · refine Or.inl ⟨fun hlistening => hcb hlistening.1, [], (app.noted charging, []),
      List.nil_prefix, fun update => ?_⟩
    rw [tracedNote_of_ne h, if_neg hcb]

/-- **A poll.** It ends at once on a flag that is not new, and with one argument at most where the
callback does not get to its update; otherwise the nested update goes on from the new flag. -/
theorem tracedIsCharging_cases (pin : ℤ) (app : BatteryApp) :
    let charging := pin == 0
    (charging = app.bat.lastChargingState ∧
        ∃ r, ∀ update, tracedIsCharging update pin app = some ([], r)) ∨
      (charging ≠ app.bat.lastChargingState ∧ ¬ app.Live ∧
        ∃ args r, args <+: [charging] ∧
          ∀ update, tracedIsCharging update pin app = some (args, r)) ∨
      (charging ≠ app.bat.lastChargingState ∧
        ∀ update, tracedIsCharging update pin app =
          (update ((app.noted charging).prewritten charging)).map fun r =>
            (charging :: r.1, charging, r.2.2)) := by
  intro charging
  by_cases hbat : app.bat.initialized = true
  · have hpoll : ∀ update, tracedIsCharging update pin app =
        (tracedNote update charging app).map fun r => (r.1, charging, r.2) := by
      intro update
      rw [tracedIsCharging, if_neg (by simp [hbat])]
    by_cases hflag : charging = app.bat.lastChargingState
    · refine Or.inl ⟨hflag, (charging, app, []), fun update => ?_⟩
      rw [hpoll, tracedNote_of_eq hflag, Option.map_some]
    · rcases tracedNote_cases hflag with ⟨hdeaf, args, r, hargs, hnote⟩ | hnote
      · refine Or.inr (Or.inl ⟨hflag, fun hlive => hdeaf hlive.listening, args, (charging, r),
          hargs, fun update => ?_⟩)
        rw [hpoll, hnote, Option.map_some]
      · refine Or.inr (Or.inr ⟨hflag, fun update => ?_⟩)
        rw [hpoll, hnote, Option.map_map]
        rfl
  · have hoff : ∀ update, tracedIsCharging update pin app = some ([], false, app, []) := by
      intro update
      rw [tracedIsCharging, if_pos (by simpa using hbat)]
    by_cases hflag : charging = app.bat.lastChargingState
    · exact Or.inl ⟨hflag, _, hoff⟩
    · exact Or.inr (Or.inl ⟨hflag, fun hlive => hbat hlive.hardware, [], _, List.nil_prefix, hoff⟩)

/-- A level read leaves the charge detection alone. -/
theorem batteryServiceGetLevel_frame (adc : AdcSample) (bat : BatteryData) :
    let bat' := (batteryServiceGetLevel adc bat).2
    bat'.initialized = bat.initialized ∧ bat'.lastChargingState = bat.lastChargingState ∧
      bat'.chargingChangedCb = bat.chargingChangedCb := by
  have hframe := batterySample_frame adc bat
  intro bat'
  simp only [bat', batteryServiceGetLevel]
  split_ifs <;> exact hframe

/-- A traced update of an initialised service. -/
theorem tracedUpdate_cons {app : BatteryApp} (hinit : app.ble.initialized = true) (r : HwReading)
    (rs : List HwReading) :
    tracedUpdate (r :: rs) app =
      let read := batteryServiceGetLevel r.adc app.bat
      if read.1 < 0 then some ([], read.1, { app with bat := read.2 }, [])
      else (tracedIsCharging (tracedUpdate rs) r.pin { app with bat := read.2 }).map fun p =>
        (p.1, endOfUpdate r read.1 p.2) := by
  rw [tracedUpdate, if_neg (by simp [hinit])]

/-- **An update.** It ends at once where it is not initialised or its level read fails; otherwise
it polls with the flag remembered unchanged, and adds no argument of its own. -/
theorem tracedUpdate_cons_cases (r : HwReading) (app : BatteryApp) :
    ((app.Live → ¬ r.Measures) ∧ ∃ result, ∀ rs, tracedUpdate (r :: rs) app = some ([], result)) ∨
      ∃ app' : BatteryApp, app'.bat.lastChargingState = app.bat.lastChargingState ∧
        (app.Live → app'.Live) ∧
        ∃ batLevel, ∀ rs, tracedUpdate (r :: rs) app =
          (tracedIsCharging (tracedUpdate rs) r.pin app').map fun p =>
            (p.1, endOfUpdate r batLevel p.2) := by
  by_cases hinit : app.ble.initialized = true
  · obtain ⟨hbat, hlast, hcb⟩ := batteryServiceGetLevel_frame r.adc app.bat
    by_cases hneg : (batteryServiceGetLevel r.adc app.bat).1 < 0
    · refine Or.inl ⟨fun hlive hmeasures => ?_, ((batteryServiceGetLevel r.adc app.bat).1,
        { app with bat := (batteryServiceGetLevel r.adc app.bat).2 }, []), fun rs => ?_⟩
      · rw [batteryServiceGetLevel_of_ok hmeasures.1 hmeasures.2 hlive.hardware] at hneg
        exact Int.not_lt.mpr (Int.natCast_nonneg _) hneg
      · exact (tracedUpdate_cons hinit r rs).trans (if_pos hneg)
    · refine Or.inr ⟨{ app with bat := (batteryServiceGetLevel r.adc app.bat).2 }, hlast,
        fun hlive => ⟨hbat.trans hlive.1, hcb.trans hlive.2.1, hlive.2.2⟩,
        (batteryServiceGetLevel r.adc app.bat).1, fun rs => ?_⟩
      exact (tracedUpdate_cons hinit r rs).trans (if_neg hneg)
  · refine Or.inl ⟨fun hlive => absurd hlive.listening.2.1 hinit, (-ENODEV, app, []),
      fun rs => ?_⟩
    rw [tracedUpdate, if_pos (by simpa using hinit)]

/-! ### The whole recursion -/

/-- The charging flags of a stream of readings. -/
def chargingFlags (readings : Stream' HwReading) : Stream' Bool := readings.map HwReading.charging

/-- The recursion of a poll ends after `args`: the poll takes the pin of the first reading, the
updates nested in it the readings that follow, and from some number on it makes no difference how
many there are. -/
def RecursionEnds (app : BatteryApp) (readings : Stream' HwReading) (args : List Bool) : Prop :=
  ∃ n r, ∀ m ≥ n,
    tracedIsCharging (tracedUpdate (readings.tail.take m)) readings.head.pin app = some (args, r) ∧
    batteryServiceIsCharging (bleBatteryServiceUpdate (readings.tail.take m)) readings.head.pin app
      = some r

/-- It is enough to look at the traced poll. -/
theorem recursionEnds_of_traced {app : BatteryApp} {readings : Stream' HwReading}
    {args : List Bool} {n : ℕ} {r : Bool × BatteryApp × List ManualCall}
    (h : ∀ m ≥ n, tracedIsCharging (tracedUpdate (readings.tail.take m)) readings.head.pin app =
      some (args, r)) : RecursionEnds app readings args := by
  refine ⟨n, r, fun m hm => ⟨h m hm, ?_⟩⟩
  rw [← tracedIsCharging_erase (tracedUpdate_erase _), h m hm, Option.map_some]

/-- The first reading comes first. -/
private theorem take_chargingFlags (readings : Stream' HwReading) (k : ℕ) :
    (chargingFlags readings).take (k + 1) =
      (readings.head.pin == 0) :: (chargingFlags readings.tail).take k :=
  Stream'.take_succ k (chargingFlags readings)

/-- **The measure.** A poll whose first repetition is at `k` takes at most `k` further readings.
The induction is on `k`: the flag that one level remembers is what the next compares with. -/
theorem tracedIsCharging_of_firstRepeat {k : ℕ} {app : BatteryApp} {readings : Stream' HwReading}
    (h : FirstRepeat app.bat.lastChargingState (chargingFlags readings) k) :
    ∃ args r, (∀ m ≥ k, tracedIsCharging (tracedUpdate (readings.tail.take m)) readings.head.pin app
        = some (args, r)) ∧
      args <+: (chargingFlags readings).take k ∧
      (app.Live → (∀ j < k, (readings.tail.get j).Measures) →
        args = (chargingFlags readings).take k) := by
  induction k generalizing app readings with
  | zero =>
    have hsame : readings.head.charging = app.bat.lastChargingState := firstRepeat_zero.mp h
    rcases tracedIsCharging_cases readings.head.pin app with
      ⟨-, r, hpoll⟩ | ⟨hnew, -⟩ | ⟨hnew, -⟩
    · exact ⟨[], r, fun m _ => hpoll _, List.nil_prefix, fun _ _ => rfl⟩
    · exact absurd hsame hnew
    · exact absurd hsame hnew
  | succ k ih =>
    obtain ⟨hhead, htail⟩ := firstRepeat_succ.mp h
    have hhead : readings.head.charging ≠ app.bat.lastChargingState := hhead
    rcases tracedIsCharging_cases readings.head.pin app with
      ⟨hsame, -⟩ | ⟨-, hdead, args, r, hargs, hpoll⟩ | ⟨-, hpoll⟩
    · exact absurd hsame hhead
    · refine ⟨args, r, fun m _ => hpoll _, ?_, fun hlive => absurd hlive hdead⟩
      rw [take_chargingFlags]
      exact hargs.trans (List.cons_prefix_cons.mpr ⟨rfl, List.nil_prefix⟩)
    · set charging := readings.head.pin == 0
      -- the nested update takes the next reading
      have hnested : ∀ m, readings.tail.take (m + 1) =
          readings.tail.head :: readings.tail.tail.take m := fun m => Stream'.take_succ m _
      have hlive₁ : app.Live → ((app.noted charging).prewritten charging).Live :=
        fun hlive => (hlive.noted charging).prewritten charging
      rcases tracedUpdate_cons_cases readings.tail.head ((app.noted charging).prewritten charging)
        with ⟨hfails, result, hupdate⟩ | ⟨app', hlast, hlive', batLevel, hupdate⟩
      · refine ⟨[charging], (charging, result.2), fun m hm => ?_, ?_, fun hlive hmeasures => ?_⟩
        · obtain ⟨m, rfl⟩ := Nat.exists_eq_add_of_le' (Nat.one_le_of_lt hm)
          rw [hpoll, hnested, hupdate, Option.map_some]
        · rw [take_chargingFlags]
          exact List.cons_prefix_cons.mpr ⟨rfl, List.nil_prefix⟩
        · exact absurd (hmeasures 0 (Nat.succ_pos k)) (hfails (hlive₁ hlive))
      · have hrest : FirstRepeat app'.bat.lastChargingState (chargingFlags readings.tail) k := by
          rw [hlast]
          exact htail
        obtain ⟨args, r, hends, hprefix, hexact⟩ := ih hrest
        refine ⟨charging :: args, (charging, (endOfUpdate readings.tail.head batLevel r).2),
          fun m hm => ?_, ?_, fun hlive hmeasures => ?_⟩
        · obtain ⟨m, rfl⟩ := Nat.exists_eq_add_of_le' (Nat.one_le_of_lt hm)
          rw [hpoll, hnested, hupdate, hends m (Nat.le_of_succ_le_succ hm), Option.map_some,
            Option.map_some]
        · rw [take_chargingFlags]
          exact List.cons_prefix_cons.mpr ⟨rfl, hprefix⟩
        · have hargs := hexact (hlive' (hlive₁ hlive)) fun j hj =>
            hmeasures (j + 1) (Nat.succ_lt_succ hj)
          rw [hargs, take_chargingFlags]

/-- **The recursion ends.** On every stream of readings that, behind the flag remembered, does not
alternate for ever, the recursion through the charging callback ends. The arguments of the callback
are readings in order, from the first on and none after the first repetition; with both services
initialised and a client connected, and if every nested level read succeeds, they are exactly the
readings before the first repetition. -/
theorem chargingRecursion_ends {app : BatteryApp} {readings : Stream' HwReading}
    (h : ¬ AlternatesForever app.bat.lastChargingState (chargingFlags readings)) :
    ∃ d args, FirstRepeat app.bat.lastChargingState (chargingFlags readings) d ∧
      RecursionEnds app readings args ∧ args <+: (chargingFlags readings).take d ∧
      (app.Live → (∀ j < d, (readings.tail.get j).Measures) →
        args.length = d ∧ args = (chargingFlags readings).take d) := by
  obtain ⟨d, hd⟩ := exists_firstRepeat h
  obtain ⟨args, r, hends, hprefix, hexact⟩ := tracedIsCharging_of_firstRepeat hd
  refine ⟨d, args, hd, recursionEnds_of_traced hends, hprefix, fun hlive hmeasures => ?_⟩
  have hargs := hexact hlive hmeasures
  exact ⟨by rw [hargs, Stream'.length_take], hargs⟩

/-- A charger whose contact opens again at once and stays open, from here on. -/
def bounceStream : Stream' HwReading :=
  Stream'.cons (halfFullReading 0) (Stream'.const (halfFullReading 1))

theorem bounceStream_not_alternatesForever :
    ¬ AlternatesForever connectedApp.bat.lastChargingState (chargingFlags bounceStream) :=
  fun h => h 2 rfl

/-- `chargingRecursion_ends` at the bouncing contact. -/
theorem chargingRecursion_ends_bounce : ∃ d args,
    FirstRepeat connectedApp.bat.lastChargingState (chargingFlags bounceStream) d ∧
      RecursionEnds connectedApp bounceStream args ∧ args <+: (chargingFlags bounceStream).take d ∧
      (connectedApp.Live → (∀ j < d, (bounceStream.tail.get j).Measures) →
        args.length = d ∧ args = (chargingFlags bounceStream).take d) :=
  chargingRecursion_ends bounceStream_not_alternatesForever

/-- **The recursion need not end.** While the readings alternate, and every nested level read
succeeds, no number of readings is enough. -/
theorem chargingRecursion_forever {app : BatteryApp} (hlive : app.Live)
    {readings : Stream' HwReading}
    (h : AlternatesForever app.bat.lastChargingState (chargingFlags readings))
    (hmeasures : ∀ j, (readings.tail.get j).Measures) (m : ℕ) :
    batteryServiceIsCharging (bleBatteryServiceUpdate (readings.tail.take m)) readings.head.pin app
      = none := by
  rw [← tracedIsCharging_erase (tracedUpdate_erase _), Option.map_eq_none_iff]
  induction m generalizing app readings with
  | zero =>
    rcases tracedIsCharging_cases readings.head.pin app with
      ⟨hsame, -⟩ | ⟨-, hdead, -⟩ | ⟨-, hpoll⟩
    · exact absurd hsame (h 0)
    · exact absurd hlive hdead
    · rw [hpoll, Stream'.take_zero, tracedUpdate, if_neg, Option.map_none]
      simp [((hlive.noted _).prewritten _).listening.2.1]
  | succ m ih =>
    rcases tracedIsCharging_cases readings.head.pin app with
      ⟨hsame, -⟩ | ⟨-, hdead, -⟩ | ⟨-, hpoll⟩
    · exact absurd hsame (h 0)
    · exact absurd hlive hdead
    · rw [hpoll, Stream'.take_succ]
      have hlive₁ := (hlive.noted (readings.head.pin == 0)).prewritten (readings.head.pin == 0)
      rcases tracedUpdate_cons_cases readings.tail.head
          ((app.noted (readings.head.pin == 0)).prewritten (readings.head.pin == 0))
        with ⟨hfails, -⟩ | ⟨app', hlast, hlive', batLevel, hupdate⟩
      · exact absurd (hmeasures 0) (hfails hlive₁)
      · have hrest :
            AlternatesForever app'.bat.lastChargingState (chargingFlags readings.tail) := by
          rw [hlast]
          exact h.tail
        rw [hupdate, ih (hlive' hlive₁) hrest fun j => hmeasures (j + 1), Option.map_none,
          Option.map_none]

end EnvMonitor
