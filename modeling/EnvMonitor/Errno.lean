import Mathlib.Data.Int.Notation

/-!
# Error codes

The `errno` constants of the C library that the firmware returns with a minus sign, or
compares a return code with. A return code is an integer throughout: `0` is success, a
negated constant below is an error raised by the firmware itself, and a driver or kernel
call may answer with any other integer.
-/

namespace EnvMonitor

/-- No such entry. -/
def ENOENT : ℤ := 2

/-- I/O error. -/
def EIO : ℤ := 5

/-- Try again: the sensor has no sample yet. -/
def EAGAIN : ℤ := 11

/-- Bad address. -/
def EFAULT : ℤ := 14

/-- No such device, or the service is not initialised. -/
def ENODEV : ℤ := 19

/-- Invalid argument. -/
def EINVAL : ℤ := 22

/-- A value out of its range. -/
def ERANGE : ℤ := 34

/-- No data available. -/
def ENODATA : ℤ := 61

/-- A timer expired. -/
def ETIME : ℤ := 62

/-- An operation timed out. -/
def ETIMEDOUT : ℤ := 116

end EnvMonitor
