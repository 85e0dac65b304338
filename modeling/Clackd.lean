import Clackd.Hal.Via.Refinement
import Clackd.Hal.Via.Deadline
import Clackd.Hal.Via.Pairing
import Clackd.Hal.Legacy.Persistence
import Clackd.Hal.Legacy.Overlay
import Clackd.Hal.Legacy.Decode
import Clackd.Hal.Legacy.Twins
import Clackd.Hal.Legacy.Leak
import Clackd.Engine.Recovery
import Clackd.Engine.Membership
import Clackd.Engine.Called
import Clackd.Boot
import Clackd.Engine.Wear
import Clackd.Engine.Interference
import Clackd.Hal.Via.Firmware
import Clackd.Hal.Legacy.Lighting
import Clackd.Hal.Legacy.Readback
import Clackd.Foundation.Pending
import Clackd.Hal.Via.Refused
import Clackd.Engine.Debounce
import Clackd.Engine.Announce
import Clackd.Engine.Boxed
import Clackd.Engine.Entries
import Clackd.Engine.Shutdown
import Clackd.Hal.Legacy.Descriptor
import Clackd.Cli.Hex
import Clackd.Engine.Configured
import Clackd.Engine.Unplugged
import Clackd.Engine.Settling
import Clackd.Ipc.Calls
import Clackd.Ipc.Linear
import Clackd.Engine.Backoff
import Clackd.Ipc.Signals
import Clackd.Ipc.Keymap
import Clackd.Cli.Values
import Clackd.Cli.Client
import Clackd.Cli.Conduct
import Clackd.Cli.Listing
import Clackd.Cli.Runs
import Clackd.Cli.Session
import Clackd.Cli.Keymap
import Clackd.Cli.Ending
