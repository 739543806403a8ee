import Usbmuxd.Model.Usb

/-!
# The shutdown

`usbmuxd_Shutdown`, once the main thread has ended: the connections are torn down, the USB
devices are removed, and what is left of the mux layer's devices and of the clients is freed.

## The model

`usbmuxdShutdown` — the four calls, in their order. `usb_shutdown` also frees the commands that
are still waiting, and stops the notifications; both are left out, like the threads that may
still be running.
-/

namespace Usbmuxd

open World

end Usbmuxd
