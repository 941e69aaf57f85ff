import EnvMonitor.Ess.Read
import EnvMonitor.Lib.CInt

/-!
# The uptime service

`uptime_service.c`: one characteristic, the seconds since program start as eight little-endian
bytes, computed anew by every read of it.

The clock is an argument of the functions that read it. `k_uptime_get` counts milliseconds from
program start, so it is never negative and never goes back.
-/

namespace EnvMonitor

/-- The static variables of `uptime_service.c`. -/
structure UptimeService where
  initialized : Bool := false
  currentUptimeSeconds : ℕ := 0
deriving DecidableEq, Repr

/-- `k_uptime_get() / MS_PER_SEC`, a division of `uint64_t`. -/
def uptimeSeconds (now : ℤ) : ℕ := toUnsigned 64 now / 1000

/-- `read_uptime` at the uptime `now`. -/
def readUptime (now : ℤ) (len offset : ℕ) (s : UptimeService) :
    Except AttError (List UInt8) × UptimeService :=
  let s := { s with currentUptimeSeconds := uptimeSeconds now }
  (btGattAttrRead len offset (leBytes 8 s.currentUptimeSeconds), s)

/-- `uptime_service_init`. -/
def uptimeServiceInit (now : ℤ) (s : UptimeService) : ℤ × UptimeService :=
  if s.initialized then (0, s)
  else (0, { initialized := true, currentUptimeSeconds := uptimeSeconds now })

/-- Once it is initialised, the service stays so. -/
theorem uptimeServiceInit_initialized (now : ℤ) (s : UptimeService) :
    (uptimeServiceInit now s).2.initialized = true := by
  rw [uptimeServiceInit]
  split_ifs with hinit
  · exact hinit
  · rfl

end EnvMonitor
