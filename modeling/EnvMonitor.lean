import EnvMonitor.Lib.Machine
import EnvMonitor.Lib.Flags
import EnvMonitor.Lib.Exit
import EnvMonitor.Lib.CFloat
import EnvMonitor.Battery.Published
import EnvMonitor.Ess.Isolation
import EnvMonitor.Ess.Wire
import EnvMonitor.Ess.Notify
import EnvMonitor.Ccs811.Threads
import EnvMonitor.System.Acceptance
import EnvMonitor.System.Freshness
import EnvMonitor.System.Staleness
import EnvMonitor.Ccs811.Assigned
import EnvMonitor.Ccs811.Torn
import EnvMonitor.Ble.Advertiser
import EnvMonitor.Ccs811.Baseline
import EnvMonitor.Ess.ValidRange
import EnvMonitor.SensorManager.Truth
import EnvMonitor.SensorManager.Split
import EnvMonitor.Ccs811.Link
import EnvMonitor.Lib.Counter
import EnvMonitor.Lib.DelayableWork
import EnvMonitor.System.Connections
import EnvMonitor.System.Sampling
import EnvMonitor.Ess.Changes
import EnvMonitor.Ess.EncoderLaws
import EnvMonitor.Ess.Getters
import EnvMonitor.Ess.Agreement
import EnvMonitor.Battery.Bounce
import EnvMonitor.Battery.ChargePin
import EnvMonitor.Battery.Derived
import EnvMonitor.Battery.Recursion
import EnvMonitor.Naming.Fallback
import EnvMonitor.Sensors.Lps22hb
import EnvMonitor.Sensors.Hts221
import EnvMonitor.Ccs811.Age
import EnvMonitor.Ccs811.WakeDelay
import EnvMonitor.System.Boot
import EnvMonitor.Battery.Debounce
import EnvMonitor.Shell.Commands
import EnvMonitor.Shell.Parse
import EnvMonitor.Shell.Poll
import EnvMonitor.Shell.Session
import EnvMonitor.Shell.Link
import EnvMonitor.Shell.Read
import EnvMonitor.Shell.Report
import EnvMonitor.Ble.Discovery
import EnvMonitor.Sensors.Lps22hbReads
import EnvMonitor.Ccs811.Preemption
import EnvMonitor.Shell.Measure
