import Usbmuxd.Foundation.Iteration
import Usbmuxd.Foundation.Memory

/-!
# The search for the mux interface

`usb_configure_mux_interface` is given the configuration descriptor of a device: nine bytes,
and behind them a chain of descriptors, each of which begins with its length and its type. It
goes along the chain until it has seen a bulk endpoint of either direction behind an interface
of the mux protocol, or a descriptor whose length is zero.

## The model

* `InstanceInfo` — the two endpoints and the packet size, as the loop fills them in.
* `Search.visit` — the body of the loop, for the descriptor at the front of a block.
* `Search.reads` — the bytes of that block that one round looks at.
* `Walk`, `muxNext` — the pointer into the descriptor with the rest of the state, and the next round.
* `usbConfigureMuxInterface` — the function, for a number of rounds.
-/

namespace Usbmuxd

/-! ### Constants -/

/-- `USB_INTERFACE_DESCRIPTOR_TYPE`. -/
def usbInterfaceDescriptorType : UInt8 := 4

/-- `USB_ENDPOINT_DESCRIPTOR_TYPE`. -/
def usbEndpointDescriptorType : UInt8 := 5

/-- `INTERFACE_CLASS`. -/
def interfaceClass : UInt8 := 255

/-- `INTERFACE_SUBCLASS`. -/
def interfaceSubclass : UInt8 := 254

/-- `INTERFACE_PROTOCOL`. -/
def interfaceProtocol : UInt8 := 2

/-- `USB_ENDPOINT_TYPE_BULK`. -/
def usbEndpointTypeBulk : UInt8 := 2

/-- `USB_ENDPOINT_DIRECTION_IN`. -/
def usbEndpointDirectionIn (bEndpointAddress : UInt8) : Bool := bEndpointAddress &&& 0x80 != 0

/-- `sizeof(USB_CONFIGURATION_DESCRIPTOR)`. -/
def sizeofConfigurationDescriptor : ℕ := 9

/-! ### Fields -/

section Fields

variable (d : Mem)

/-- `bLength` of the descriptor at the front of a block. -/
def bLength : UInt8 := d 0

/-- `bDescriptorType`. -/
def bDescriptorType : UInt8 := d 1

/-- `bNumEndpoints` of an interface. -/
def bNumEndpoints : UInt8 := d 4

/-- `bInterfaceClass`. -/
def bInterfaceClass : UInt8 := d 5

/-- `bInterfaceSubClass`. -/
def bInterfaceSubClass : UInt8 := d 6

/-- `bInterfaceProtocol`. -/
def bInterfaceProtocol : UInt8 := d 7

/-- `bEndpointAddress` of an endpoint. -/
def bEndpointAddress : UInt8 := d 2

/-- `bmAttributes`. -/
def bmAttributes : UInt8 := d 3

/-- `wMaxPacketSize`. -/
def wMaxPacketSize : UInt16 := readLe16 d 4

end Fields

/-! ### The loop -/

/-- What the loop fills in of `struct usb_device_instance_info`. -/
structure InstanceInfo where
  epIn : UInt8
  epOut : UInt8
  txMaxPacketSize : UInt16
  deriving DecidableEq

/-- `info` after the constructor, or after `SecureZeroMemory`. -/
def InstanceInfo.cleared : InstanceInfo := ⟨0, 0, 0⟩

/-- Both endpoints have been found. -/
def InstanceInfo.isComplete (info : InstanceInfo) : Bool := info.epIn != 0 && info.epOut != 0

/-- An endpoint is written to `info`. -/
def InstanceInfo.store (info : InstanceInfo) (address : UInt8) (maxPacketSize : UInt16) : InstanceInfo :=
  if usbEndpointDirectionIn address then { info with epIn := address }
  else { info with epOut := address, txMaxPacketSize := maxPacketSize }

/-- The local variable of `usb_configure_mux_interface`, and what it writes. -/
structure Search where
  bFoundInterface : Bool
  info : InstanceInfo
  deriving DecidableEq

namespace Search

variable (s : Search) (d : Mem)

/-- The body of the loop; `true` if it returns from there. -/
def visit : Search × Bool :=
  if bDescriptorType d = usbInterfaceDescriptorType then
    if bInterfaceClass d = interfaceClass ∧ bInterfaceSubClass d = interfaceSubclass ∧
        bInterfaceProtocol d = interfaceProtocol then
      if bNumEndpoints d = 2 then ({ s with bFoundInterface := true }, false) else (s, false)
    else (s, false)
  else if bDescriptorType d = usbEndpointDescriptorType then
    if s.bFoundInterface then
      if bmAttributes d = usbEndpointTypeBulk then
        let info := s.info.store (bEndpointAddress d) (wMaxPacketSize d)
        ({ s with info }, info.isComplete)
      else (s, false)
    else (s, false)
  else (s, false)

/-- The bytes of an interface that are read: the comparisons stop at the first that fails, and
of a mux interface the log has the number and the count of endpoints. -/
def interfaceReads : List ℕ :=
  5 :: if bInterfaceClass d = interfaceClass then
    6 :: if bInterfaceSubClass d = interfaceSubclass then
      7 :: if bInterfaceProtocol d = interfaceProtocol then [4, 2] else []
    else []
  else []

/-- The bytes of an endpoint that are read. -/
def endpointReads : List ℕ :=
  3 :: if bmAttributes d = usbEndpointTypeBulk then
    2 :: if usbEndpointDirectionIn (bEndpointAddress d) then [] else [4, 5]
  else []

/-- The bytes that one round reads, from the test of the length on. -/
def reads : List ℕ :=
  0 :: if bLength d = 0 then []
  else
    1 :: if bDescriptorType d = usbInterfaceDescriptorType then interfaceReads d
    else if bDescriptorType d = usbEndpointDescriptorType ∧ s.bFoundInterface then endpointReads d
    else []

end Search

/-- The state of the loop: where `ptCommonHeader` points in the descriptor, and the rest. -/
structure Walk where
  offset : ℕ
  search : Search
  deriving DecidableEq

/-- In front of the loop. -/
def Walk.start (info : InstanceInfo) : Walk := ⟨sizeofConfigurationDescriptor, ⟨false, info⟩⟩

/-- The next round; `none` if the function returns in this one. -/
def muxNext (m : Mem) (w : Walk) : Option Walk :=
  let d := m.shift w.offset
  if bLength d = 0 then none
  else if (w.search.visit d).2 then none
  else some ⟨w.offset + (bLength d).toNat, (w.search.visit d).1⟩

/-- The offsets that a round reads. -/
def Walk.reads (m : Mem) (w : Walk) : List ℕ := (w.search.reads (m.shift w.offset)).map (w.offset + ·)

/-- The loop, for at most so many rounds: what the function returns, and what is in `info` then. -/
def muxLoop (m : Mem) : ℕ → Walk → Option (Bool × InstanceInfo)
  | 0, _ => none
  | rounds + 1, w =>
    let d := m.shift w.offset
    if bLength d = 0 then some (false, w.search.info)
    else if (w.search.visit d).2 then some (true, (w.search.visit d).1.info)
    else muxLoop m rounds ⟨w.offset + (bLength d).toNat, (w.search.visit d).1⟩

/-- `usb_configure_mux_interface`. -/
def usbConfigureMuxInterface (rounds : ℕ) (m : Mem) (info : InstanceInfo) : Option (Bool × InstanceInfo) :=
  muxLoop m rounds (.start info)

end Usbmuxd
