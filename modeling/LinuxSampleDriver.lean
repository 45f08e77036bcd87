import LinuxSampleDriver.Columbus.Ownership
import LinuxSampleDriver.Columbus.Pages
import LinuxSampleDriver.Columbus.Alloc
import LinuxSampleDriver.Columbus.AllocRace
import LinuxSampleDriver.Columbus.Channel
import LinuxSampleDriver.Columbus.ChannelRace
import LinuxSampleDriver.Columbus.Sysfs
import LinuxSampleDriver.Columbus.Header
import LinuxSampleDriver.Columbus.Send
import LinuxSampleDriver.Columbus.Receive
import LinuxSampleDriver.Columbus.SendMessage
import LinuxSampleDriver.Columbus.MessageAttribute
import LinuxSampleDriver.Marvell.Attach
import LinuxSampleDriver.Marvell.Message
import LinuxSampleDriver.Marvell.Send
import LinuxSampleDriver.I2c.Test
import LinuxSampleDriver.Pegmatite.Arith
import LinuxSampleDriver.Pegmatite.Clkfd
import LinuxSampleDriver.Pegmatite.Clkgate
import LinuxSampleDriver.Pegmatite.Clkgen
import LinuxSampleDriver.Pegmatite.Lvdsafe
import LinuxSampleDriver.Pegmatite.OcFactor
import LinuxSampleDriver.Pegmatite.Pll
import LinuxSampleDriver.Pegmatite.Rtc
import LinuxSampleDriver.Pegmatite.Watchdog
import LinuxSampleDriver.Pegmatite.WatchdogRace
