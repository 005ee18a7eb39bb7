/-
How long the steps of a recovery wait.
-/
import BoardRig.Duration

namespace BoardRig

/-- The pauses and time limits of recovery and bench operations. -/
structure Timings where
  /-- Between two passes of a search. -/
  pollInterval : Duration := Duration.ofMillis 500
  /-- After a reset into the update mode. -/
  updateModeSettle : Duration := Duration.ofSeconds 3
  /-- Before the volume of the mask ROM is looked for. -/
  bootselEnumeration : Duration := Duration.ofSeconds 2
  /-- After a UF2 file was copied, while the device reboots by itself. -/
  uf2RebootSettle : Duration := Duration.ofSeconds 3
  /-- After a reboot command. -/
  rebootSettle : Duration := Duration.ofSeconds 3
  /-- Between a serial command and reading its reply. -/
  serialSettle : Duration := Duration.ofSeconds 1
  /-- For finding a serial port. -/
  portTimeout : Duration := Duration.ofSeconds 15
  /-- For finding a volume. -/
  volumeTimeout : Duration := Duration.ofSeconds 15
  /-- For one run of the upload utility. -/
  uploadTimeout : Duration := Duration.ofSeconds 60
deriving DecidableEq, Repr

namespace Timings

/-- The spans by name, in the order of the fields. -/
def entries (t : Timings) : List (String × Duration) := [
  ("poll_interval", t.pollInterval), ("update_mode_settle", t.updateModeSettle),
  ("bootsel_enumeration", t.bootselEnumeration), ("uf2_reboot_settle", t.uf2RebootSettle),
  ("reboot_settle", t.rebootSettle), ("serial_settle", t.serialSettle),
  ("port_timeout", t.portTimeout), ("volume_timeout", t.volumeTimeout),
  ("upload_timeout", t.uploadTimeout)]

/-- The timings with the spans that are given by name in place of their own. -/
def override (t : Timings) (given : String → Option Duration) : Timings where
  pollInterval := (given "poll_interval").getD t.pollInterval
  updateModeSettle := (given "update_mode_settle").getD t.updateModeSettle
  bootselEnumeration := (given "bootsel_enumeration").getD t.bootselEnumeration
  uf2RebootSettle := (given "uf2_reboot_settle").getD t.uf2RebootSettle
  rebootSettle := (given "reboot_settle").getD t.rebootSettle
  serialSettle := (given "serial_settle").getD t.serialSettle
  portTimeout := (given "port_timeout").getD t.portTimeout
  volumeTimeout := (given "volume_timeout").getD t.volumeTimeout
  uploadTimeout := (given "upload_timeout").getD t.uploadTimeout

end Timings

end BoardRig
