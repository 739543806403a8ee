import Usbmuxd.Foundation.Memory
import Usbmuxd.Foundation.SlotTable
import Usbmuxd.Foundation.Fifo
import Usbmuxd.Foundation.Delimited
import Usbmuxd.Model.Wire
import Usbmuxd.Model.State
import Usbmuxd.Model.Client
import Usbmuxd.Model.Connection
import Usbmuxd.Model.Device
import Usbmuxd.Model.Command
import Usbmuxd.Model.Loop
import Usbmuxd.Model.Usb
import Usbmuxd.Registry.Registry
import Usbmuxd.Registry.Abstraction
import Usbmuxd.Runs.Blocks
import Usbmuxd.Runs.Frames
import Usbmuxd.Runs.Turns
import Usbmuxd.Runs.Identity
import Usbmuxd.Registry.Teardown
import Usbmuxd.Registry.Refinement
import Usbmuxd.Registry.Release
import Usbmuxd.Registry.Correspondence
import Usbmuxd.Packets.Reassembly
import Usbmuxd.Packets.Drain
import Usbmuxd.Registry.Ports
import Usbmuxd.Streams.Channel
import Usbmuxd.Streams.Integrity
import Usbmuxd.Streams.FlowControl
import Usbmuxd.Streams.Headers
import Usbmuxd.Streams.Framing
import Usbmuxd.Streams.Confined
import Usbmuxd.Streams.Settled
import Usbmuxd.Streams.AtRest
import Usbmuxd.Streams.Wakeups
import Usbmuxd.Streams.Uploads
import Usbmuxd.Streams.Isolation
import Usbmuxd.Runs.Rebuffer
import Usbmuxd.Streams.Leftovers
import Usbmuxd.Streams.DeviceClose
import Usbmuxd.Usb.Listed
import Usbmuxd.Usb.DeviceList
import Usbmuxd.Usb.Monitoring
import Usbmuxd.Usb.Consistent
import Usbmuxd.Foundation.Locking
import Usbmuxd.Threads.LockPrograms
import Usbmuxd.Threads.Deadlock
import Usbmuxd.Packets.Bounds
import Usbmuxd.Registry.FreePorts
import Usbmuxd.Foundation.Iteration
import Usbmuxd.Runs.Kept
import Usbmuxd.Packets.Progress
import Usbmuxd.Streams.Buffers
import Usbmuxd.Runs.Reachable
import Usbmuxd.Runs.Sockets
import Usbmuxd.Model.Conf
import Usbmuxd.Records.Keys
import Usbmuxd.Foundation.Handle
import Usbmuxd.Usb.Ports
import Usbmuxd.Foundation.Ledger
import Usbmuxd.Model.Transmit
import Usbmuxd.Threads.Freed
import Usbmuxd.Model.Receive
import Usbmuxd.Threads.HandOff
import Usbmuxd.Model.Descriptor
import Usbmuxd.Usb.DescriptorWalk
import Usbmuxd.Usb.Endpoints
import Usbmuxd.Records.Stored
import Usbmuxd.Usb.Requests
import Usbmuxd.Streams.Acks
import Usbmuxd.Streams.Answers
import Usbmuxd.Streams.Gone
import Usbmuxd.Streams.Resets
import Usbmuxd.Foundation.Prefixed
import Usbmuxd.Streams.Inbox
import Usbmuxd.Streams.Removal
import Usbmuxd.Streams.Transcripts
import Usbmuxd.Streams.Outlived
import Usbmuxd.Streams.Unplugged
import Usbmuxd.Model.Collection
import Usbmuxd.Model.Pending
import Usbmuxd.Collections.Multiset
import Usbmuxd.Collections.Foreach
import Usbmuxd.Host.Idle
import Usbmuxd.Threads.Completion
import Usbmuxd.Usb.ZeroLength
import Usbmuxd.Streams.Stale
import Usbmuxd.Runs.Upheld
import Usbmuxd.Foundation.Subscription
import Usbmuxd.Threads.Notices
import Usbmuxd.Threads.Listeners
import Usbmuxd.Threads.Announcements
import Usbmuxd.Foundation.History
import Usbmuxd.Foundation.Circular
import Usbmuxd.Foundation.Interleaved
import Usbmuxd.Model.Queue
import Usbmuxd.Model.Blocking
import Usbmuxd.Queue.Blocks
import Usbmuxd.Queue.Sound
import Usbmuxd.Queue.Delivery
import Usbmuxd.Queue.Blocking
import Usbmuxd.Model.Preflight
import Usbmuxd.Threads.Preflight
import Usbmuxd.Model.Shutdown
import Usbmuxd.Registry.Accounts
import Usbmuxd.Usb.Shutdown
import Usbmuxd.Foundation.Exchange
import Usbmuxd.Streams.Replies
import Usbmuxd.Streams.Requests
import Usbmuxd.Foundation.Cells
import Usbmuxd.Model.Config
import Usbmuxd.Records.Buid
import Usbmuxd.Streams.Excuses
import Usbmuxd.Streams.Faults
