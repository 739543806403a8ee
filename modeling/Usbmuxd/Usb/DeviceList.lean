import Usbmuxd.Registry.Refinement
import Usbmuxd.Usb.Listed

/-!
# What becomes of the mux layer's device list

The USB layer adds a device to the mux layer's list with `device_add` and takes it off with
`device_remove`; everything else can only make that list shorter.

## The model

* `World.Shrinks` — the device list has only lost devices.

## What is proved

* `shrinks_exec` — an operation that does not come from the USB layer only shortens the list.
* `deviceRemove_absent` — after `device_remove` nothing on the list is about the USB device.
* `deviceAdd_list` — what `device_add` leaves on the list.
-/

namespace Usbmuxd

open World Relation

/-- The device list has only lost devices, and what stays is about the same USB device. -/
def World.Shrinks (w w' : World) : Prop :=
  ∀ d ∈ w'.deviceList, d ∈ w.deviceList ∧ (w'.devs d).usbdev = (w.devs d).usbdev

namespace World.Shrinks

variable {env : Env} {w w' w'' : World} {d : Ptr}

theorem refl (w : World) : Shrinks w w := fun _ hd => ⟨hd, rfl⟩

theorem trans (h : Shrinks w w') (h' : Shrinks w' w'') : Shrinks w w'' := fun d hd =>
  ⟨(h d (h' d hd).1).1, (h' d hd).2.trans (h d (h' d hd).1).2⟩

theorem emit (e : Event) (w : World) : Shrinks w (w.emit e) := fun _ hd => ⟨hd, rfl⟩

/-- Traffic leaves the list as it is. -/
theorem traffic (h : Traffic env w w') : Shrinks w w' := by
  intro d hd
  rw [h.devices.deviceList] at hd
  exact ⟨hd, congrArg DeviceCore.usbdev (h.devices.core d)⟩

theorem setDev {f : MuxDevice → MuxDevice} (hf : (f (w.devs d)).usbdev = (w.devs d).usbdev) :
    Shrinks w (w.setDev d f) := by
  refine fun d' hd' => ⟨hd', ?_⟩
  by_cases heq : d' = d
  · subst heq
    simpa using hf
  · simp [heq]

theorem release (d : Ptr) (w : World) : Shrinks w (releaseDev d w) := fun _ hd' =>
  ⟨SlotTable.mem_of_mem_remove hd', rfl⟩

theorem versionInput (env : Env) (d : Ptr) (vh : VersionHeader) (w : World) :
    Shrinks w (deviceVersionInput env d vh w) := by
  have hnote : Shrinks w (w.emit (.versionInput d vh)) := emit _ w
  unfold deviceVersionInput
  refine hnote.trans ?_
  dsimp only
  split
  · exact refl _
  · split
    · exact release d _
    · generalize w.emit (.versionInput d vh) = w
      have hversion : Shrinks w (w.setDev d fun dev => { dev with version := vh.major.toNat }) := setDev (by rfl)
      generalize w.setDev d (fun dev => { dev with version := vh.major.toNat }) = v at hversion ⊢
      have hsetup : Shrinks v (if 2 ≤ vh.major then (sendPacket env d .setup [] [0x07] v).1 else v) := by
        split
        · exact traffic (ConnBlock.packet d .setup [] [0x07] v).one
        · exact refl v
      exact (((hversion.trans hsetup).trans (setDev (by rfl))).trans (emit _ _)).trans (setDev (by rfl))

theorem dispatch {call : Dispatch} (hfits : call.fits) (env : Env) (d : Ptr) (w : World) :
    Shrinks w (dispatch env d call w) := by
  cases call with
  | version vh => exact versionInput env d vh w
  | control payload => exact emit _ w
  | tcp th payload => exact (emit (.tcpInput d th payload) w).trans (traffic (traffic_deviceTcpInput env w d th hfits))

theorem dataInput (env : Env) (u : UsbDevice) (buffer : Mem) (length : UInt32) (w : World) :
    Shrinks w (deviceDataInput env u buffer length w).1 := by
  unfold deviceDataInput
  split
  · exact refl w
  · rename_i d _
    have hframing : Shrinks w (w.setDev d (·.setFraming (decode (w.devs d).framing buffer length).framing)) :=
      setDev (by rfl)
    dsimp only
    split
    · exact hframing
    · rename_i call hcall
      exact hframing.trans (dispatch (decode_fits _ _ _ hcall) env d _)

theorem drain (env : Env) (d : Ptr) (u : UsbDevice) (n : ℕ) (buffer : Mem) (size : UInt32) (w : World) :
    Shrinks w (drain env d u n buffer size w) := by
  induction n generalizing buffer size w with
  | zero => exact emit _ w
  | succ n ih =>
    unfold Usbmuxd.drain
    split
    · exact refl w
    · have hinput := dataInput env u buffer size w
      dsimp only
      split
      · exact hinput.trans (emit _ _)
      · split
        · exact hinput
        · exact hinput.trans (ih _ _ _)

end World.Shrinks

section Operations

variable {env : Env} {w : World}

/-- An operation that does not come from the USB layer only shortens the list. -/
theorem shrinks_exec (env : Env) (w : World) {op : Op} (h : op.isMuxOnly = true) : w.Shrinks (exec env w op) := by
  cases op with
  | clientAccept => exact fun _ hd => ⟨hd, rfl⟩
  | clientReady c events => cases h
  | usb a => cases h
  | acceptSocket u =>
    simp only [exec, deviceAcceptSocket]
    split
    · exact .setDev (by rfl)
    · exact .refl w
  | versionInput d vh =>
    simp only [exec]
    split
    · exact .versionInput env d vh w
    · exact .refl w
  | tcpInput d th payload =>
    simp only [exec]
    split
    · rename_i hd
      exact (Shrinks.emit (.tcpInput d th payload) w).trans (.traffic (traffic_deviceTcpInput env w d th hd.2))
    · exact .refl w
  | transfer d t =>
    simp only [exec]
    split
    · exact .drain env d _ _ _ _ w
    · exact .refl w
  | checkTimeouts => exact .traffic (traffic_deviceCheckTimeouts env w)
  | setVisible id =>
    simp only [exec, deviceSetVisible]
    split
    · exact .setDev (by rfl)
    · exact .refl w
  | announce info => exact .traffic (traffic_announceDevice env w info)
  | pairingEvent info event validate => exact .traffic (traffic_clientDevicePairingEvent env w info event validate)
  | preflightFinished id =>
    simp only [exec, devicePreflightFinished]
    split
    · exact .setDev (by rfl)
    · exact .refl w

/-- No device on the list is about a USB device. -/
def World.Absent (w : World) (u : UsbDevice) : Prop := ∀ d ∈ w.deviceList, (w.devs d).usbdev ≠ u

/-- No two devices on the list are about one USB device. -/
def World.Distinct (w : World) : Prop :=
  ∀ d ∈ w.deviceList, ∀ d' ∈ w.deviceList, (w.devs d).usbdev = (w.devs d').usbdev → d = d'

theorem World.Shrinks.absent {w' : World} (h : w.Shrinks w') {u : UsbDevice} (habsent : w.Absent u) : w'.Absent u :=
  fun d hd => by
    rw [(h d hd).2]
    exact habsent d (h d hd).1

theorem World.Shrinks.distinct {w' : World} (h : w.Shrinks w') (hdistinct : w.Distinct) : w'.Distinct :=
  fun d hd d' hd' heq => by
    rw [(h d hd).2, (h d' hd').2] at heq
    exact hdistinct d (h d hd).1 d' (h d' hd').1 heq

theorem shrinks_deviceRemove (env : Env) (u : UsbDevice) (w : World) : w.Shrinks (deviceRemove env u w) := by
  unfold deviceRemove
  split
  · exact .refl w
  · rename_i d _
    refine Shrinks.trans ?_ (.release _ _)
    split
    · unfold disconnectDevice
      have hdead : w.Shrinks (w.setDev d fun dev => { dev with state := .dead }) := .setDev (by rfl)
      refine ((hdead.trans (.traffic (traffic_tearDownAll env d _))).trans ?_).trans (.setDev (by rfl))
      split
      · exact .traffic (traffic_clientDeviceRemove ..)
      · exact .traffic (traffic_clientDevicePairingEvent ..)
    · exact .refl w

/-- After `device_remove` nothing on the list is about the USB device. -/
theorem deviceRemove_absent (hnodup : w.deviceList.Nodup) (hdistinct : w.Distinct) (env : Env) (u : UsbDevice) :
    (deviceRemove env u w).Absent u := by
  intro d hd
  have hshrinks := shrinks_deviceRemove env u w d hd
  rw [hshrinks.2]
  intro husb
  unfold deviceRemove at hd
  split at hd
  · rename_i hnone
    simpa [husb] using SlotTable.find?_none hnone hshrinks.1
  · rename_i d₀ hfound
    have husb₀ : (w.devs d₀).usbdev = u := by simpa using SlotTable.find?_pred hfound
    obtain rfl := hdistinct d hshrinks.1 d₀ (SlotTable.find?_mem hfound) (husb.trans husb₀.symm)
    have hlist : (if (w.devs d).state = .active then disconnectDevice env d w else w).deviceList = w.deviceList := by
      split
      · unfold disconnectDevice
        have htorn : (tearDownAll env d (w.setDev d fun dev => { dev with state := .dead })).deviceList = w.deviceList :=
          (traffic_tearDownAll env d _).devices.deviceList
        dsimp only
        split
        · exact (traffic_clientDeviceRemove ..).devices.deviceList.trans htorn
        · exact (traffic_clientDevicePairingEvent ..).devices.deviceList.trans htorn
      · rfl
    rw [releaseDev_deviceList, hlist] at hd
    exact ((SlotTable.mem_remove hnodup).mp hd).1 rfl

/-- What is on the list after `device_add`. -/
theorem deviceAdd_list (hbound : ∀ d ∈ w.deviceList, d < w.fresh) (env : Env) (u : UsbDevice) :
    ∀ d ∈ (deviceAdd env u w).deviceList,
      (d ∈ w.deviceList ∧ ((deviceAdd env u w).devs d).usbdev = (w.devs d).usbdev) ∨
        (d = w.fresh ∧ ((deviceAdd env u w).devs d).usbdev = u ∧
          (sendPacket env w.fresh .version (VersionHeader.bytes ⟨1, 0, 0⟩) []
            (allocDev u (getNextDeviceId w) w)).2 = true) := by
  have hsent := ConnFrame.sendPacket env w.fresh .version (VersionHeader.bytes ⟨1, 0, 0⟩) []
    (allocDev u (getNextDeviceId w) w)
  have hold : ∀ d ∈ w.deviceList, ((allocDev u (getNextDeviceId w) w).devs d).usbdev = (w.devs d).usbdev := by
    intro d hd
    simp [(hbound d hd).ne]
  have hnew : ((allocDev u (getNextDeviceId w) w).devs w.fresh).usbdev = u := by simp [MuxDevice.start]
  intro d hd
  unfold deviceAdd at hd ⊢
  dsimp only at hd ⊢
  generalize hr : sendPacket env w.fresh .version (VersionHeader.bytes ⟨1, 0, 0⟩) []
    (allocDev u (getNextDeviceId w) w) = r at hd hsent ⊢
  have husb : (r.1.devs d).usbdev = ((allocDev u (getNextDeviceId w) w).devs d).usbdev :=
    congrArg DeviceCore.usbdev (hsent.core d)
  split at hd
  · rename_i hok
    rw [if_pos hok]
    rcases SlotTable.mem_add.mp hd with rfl | hmem
    · exact .inr ⟨rfl, husb.trans hnew, hok⟩
    · rw [hsent.deviceList] at hmem
      exact .inl ⟨hmem, husb.trans (hold d hmem)⟩
  · rename_i hfail
    rw [if_neg hfail]
    have hmem : d ∈ w.deviceList := hsent.deviceList ▸ hd
    exact .inl ⟨hmem, husb.trans (hold d hmem)⟩

end Operations

end Usbmuxd
