import Usbmuxd.Foundation.Memory

/-!
# Packets on the wire

The headers of `device.cpp` and `netinet/tcp.h` as the bytes that go over USB: the
mux header (8 bytes for a device of version 0 or 1, 16 bytes from version 2 on), the
version header and the TCP header. A header here is in host order; `bytes` is what the
`htons`/`htonl` assignments of the sender leave in memory, and `read` is what the
`ntohs`/`ntohl` of the receiver make of it.

The TCP header's two four-bit fields `th_x2` and `th_off` are kept as the one byte they
share.
-/

namespace Usbmuxd

/-! ### Limits -/

/-- `DEV_MRU`: the size of a device's packet buffer. -/
def devMru : UInt32 := 65536

/-- `USB_MRU`: a transfer of this size may be followed by the rest of its packet. -/
def usbMru : UInt32 := 16384

/-- `USB_MTU`: the largest packet `send_packet` passes on. -/
def usbMtu : ℕ := 3 * 16384

/-- `DEVICE_RX_BUFFER_SIZE`: the size of the buffer a USB transfer is read into. -/
def deviceRxBufferSize : UInt32 := 0x8008

/-- `MAX_MUX_PACKET_SIZE`, from which `max_payload` is computed. -/
def maxMuxPacketSize : UInt32 := 0x7FFC

/-! ### Headers -/

/-- `enum mux_protocol`. -/
inductive MuxProtocol where
  /-- `MUX_PROTO_VERSION`. -/
  | version
  /-- `MUX_PROTO_CONTROL`. -/
  | control
  /-- `MUX_PROTO_SETUP`. -/
  | setup
  /-- `MUX_PROTO_TCP`. -/
  | tcp
  deriving DecidableEq

/-- The number of a protocol; `IPPROTO_TCP` is 6. -/
def MuxProtocol.code : MuxProtocol → UInt32
  | .version => 0
  | .control => 1
  | .setup => 2
  | .tcp => 6

/-- `struct version_header`. -/
structure VersionHeader where
  major : UInt32
  minor : UInt32
  padding : UInt32
  deriving DecidableEq

/-- `struct tcphdr`. -/
structure TcpHdr where
  sport : UInt16
  dport : UInt16
  seq : UInt32
  ack : UInt32
  /-- `th_x2` in the low four bits, `th_off` in the high four. -/
  offX2 : UInt8
  flags : UInt8
  win : UInt16
  sum : UInt16
  urp : UInt16
  deriving DecidableEq

/-- `TH_SYN`. -/
def thSyn : UInt8 := 0x02

/-- `TH_RST`. -/
def thRst : UInt8 := 0x04

/-- `TH_ACK`. -/
def thAck : UInt8 := 0x10

/-- `th_flags & TH_RST`. -/
def TcpHdr.hasRst (th : TcpHdr) : Bool := th.flags &&& thRst != 0

/-- The bytes of a version header. -/
def VersionHeader.bytes (vh : VersionHeader) : List UInt8 :=
  htonl vh.major ++ htonl vh.minor ++ htonl vh.padding

/-- The version header at offset `a`. -/
def VersionHeader.read (m : Mem) (a : ℕ) : VersionHeader := ⟨ntohl m a, ntohl m (a + 4), ntohl m (a + 8)⟩

/-- The bytes of a TCP header. -/
def TcpHdr.bytes (th : TcpHdr) : List UInt8 :=
  htons th.sport ++ htons th.dport ++ htonl th.seq ++ htonl th.ack ++ [th.offX2, th.flags] ++ htons th.win ++
    htons th.sum ++ htons th.urp

/-- The TCP header at offset `a`. -/
def TcpHdr.read (m : Mem) (a : ℕ) : TcpHdr where
  sport := ntohs m a
  dport := ntohs m (a + 2)
  seq := ntohl m (a + 4)
  ack := ntohl m (a + 8)
  offX2 := m (a + 12)
  flags := m (a + 13)
  win := ntohs m (a + 14)
  sum := ntohs m (a + 16)
  urp := ntohs m (a + 18)

/-- `sizeof(struct version_header)`. -/
def versionHeaderSize : ℕ := 12

/-- `sizeof(struct tcphdr)`. -/
def tcphdrSize : ℕ := 20

/-- `sizeof(struct mux_header)`. -/
def sizeofMuxHeader : ℕ := 16

/-- `mux_header_size`: devices below version 2 have no `magic` and no sequence numbers. -/
def muxHeaderSize (version : ℕ) : ℕ := if version < 2 then 8 else sizeofMuxHeader

/-- The mux header of a packet of `total` bytes. -/
def muxHeaderBytes (version : ℕ) (proto : MuxProtocol) (total : ℕ) (txSeq rxSeq : UInt16) : List UInt8 :=
  htonl proto.code ++ htonl (UInt32.ofNat total) ++
    if version < 2 then [] else htonl 0xfeedface ++ htons txSeq ++ htons rxSeq

@[simp] theorem length_versionHeader_bytes (vh : VersionHeader) : vh.bytes.length = versionHeaderSize := rfl

@[simp] theorem length_tcpHdr_bytes (th : TcpHdr) : th.bytes.length = tcphdrSize := rfl

@[simp] theorem length_muxHeaderBytes (version : ℕ) (proto : MuxProtocol) (total : ℕ) (txSeq rxSeq : UInt16) :
    (muxHeaderBytes version proto total txSeq rxSeq).length = muxHeaderSize version := by
  unfold muxHeaderBytes muxHeaderSize
  split <;> rfl

/-- A version header is read back. -/
theorem VersionHeader.read_bytes {m : Mem} {a : ℕ} {vh : VersionHeader} (h : m.HoldsAt a vh.bytes) :
    VersionHeader.read m a = vh := by
  simp only [bytes, Mem.HoldsAt.append, length_htonl, List.length_append] at h
  obtain ⟨⟨h₁, h₂⟩, h₃⟩ := h
  simp only [read, ntohl_htonl h₁, ntohl_htonl h₂, ntohl_htonl h₃]

/-- A TCP header is read back. -/
theorem TcpHdr.read_bytes {m : Mem} {a : ℕ} {th : TcpHdr} (h : m.HoldsAt a th.bytes) : TcpHdr.read m a = th := by
  simp only [bytes, Mem.HoldsAt.append, length_htonl, length_htons, List.length_append, List.length_cons,
    List.length_nil] at h
  obtain ⟨⟨⟨⟨⟨⟨⟨hsport, hdport⟩, hseq⟩, hack⟩, hbits⟩, hwin⟩, hsum⟩, hurp⟩ := h
  have hoff := hbits.getElem 0 (by simp)
  have hflags := hbits.getElem 1 (by simp)
  simp only [List.getElem_cons_zero, List.getElem_cons_succ, Nat.add_zero, Nat.add_assoc, Nat.reduceAdd] at *
  simp only [read, ntohs_htons hsport, ntohs_htons hdport, ntohl_htonl hseq, ntohl_htonl hack, hoff, hflags,
    ntohs_htons hwin, ntohs_htons hsum, ntohs_htons hurp]

end Usbmuxd
