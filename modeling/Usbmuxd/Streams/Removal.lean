import Usbmuxd.Streams.AtRest

/-!
# A device goes

`device_remove` tears down the connections of the device one after the other, and each teardown takes its connection
off the list the loop runs over. A teardown works for one client, and no two connections share one.

## The model

* `InCommand` — a client on the list and in command mode.

## What is proved

* `confined_tearDownAll` — the loop is about the connections of the device and their clients only.
* `InCommand.usbProcess` — a client in command mode stays there, whatever devices come and go.
* `InCommand.clientCommand` — and no command that it sends takes it off the list.
-/

namespace Usbmuxd

open World Relation

section

variable {env : Env} {w w' : World} {d c : Ptr} {P C : Ptr → Prop}

/-! ### The loop -/

/-- A teardown takes one connection off the list of its device. -/
theorem link_tearDown (h : Tracked env w) {p : Ptr} (hl : w.registry.Link d p c) (q x : Ptr) :
    (tearDown env p w).registry.Link d q x ↔ q ≠ p ∧ w.registry.Link d q x := by
  have hgone := unlinked_tearDown h hl
  have hstep : Confined (Eq p) (Eq c) w (tearDown env p w) := .tearDown (h.bound hl) rfl rfl
  constructor
  · intro hl'
    have hne : q ≠ p := by
      rintro rfl
      have hmem := hl'.conn
      rw [hgone.connections] at hmem
      exact ((SlotTable.mem_remove (h.ok.conns_nodup d hl.device)).mp hmem).1 rfl
    exact ⟨hne, hstep.link hl' hne.symm⟩
  · rintro ⟨hne, hl'⟩
    refine ⟨?_, (hstep.connections d q hne.symm).mpr hl'.conn, ?_⟩
    · rw [registry_deviceList, hstep.deviceList]
      exact hl'.device
    · rw [registry_conns, hstep.conns q hne.symm]
      exact hl'.client

/-- The teardown of the connections of a device stays with them and their clients. -/
theorem confined_tearDownAll (h : Tracked env w) (hd : d ∈ w.deviceList) :
    Confined (· ∈ w.connections d) (fun c => ∃ p, w.registry.Link d p c) w (tearDownAll env d w) := by
  refine (SlotTable.forEach_induct (P := fun v => (Tracked env v ∧ d ∈ v.deviceList) ∧
    (∀ p c, v.registry.Link d p c → w.registry.Link d p c) ∧
      Confined (· ∈ w.connections d) (fun c => ∃ p, w.registry.Link d p c) w v) ?_ _ _ _
    ⟨⟨h, hd⟩, fun _ _ hl => hl, .refl w⟩).2.2
  rintro p v hp ⟨⟨hv, hdv⟩, hlinks, hconfined⟩
  obtain ⟨c, hl⟩ := hv.ok.link_of_mem hdv hp
  have hstep : Confined (Eq p) (Eq c) v (tearDown env p v) := .tearDown (hv.bound hl) rfl rfl
  have hsteps : Registry.Steps env.Reliable none v.registry (tearDown env p v).registry := steps_tearDown hv hl
  have hdv' : d ∈ (tearDown env p v).deviceList := hstep.deviceList ▸ hdv
  refine ⟨⟨hv.after hsteps (traffic_tearDown env p v).turns, hdv'⟩,
    fun q x hl' => hlinks q x ((link_tearDown hv hl q x).mp hl').2, ?_⟩
  refine hconfined.trans (hstep.mono ?_ ?_)
  · rintro _ rfl
    exact (hlinks p c hl).conn
  · rintro _ rfl
    exact ⟨p, hlinks p c hl⟩

/-! ### Clients in command mode -/

/-- A client that is on the list and in command mode. -/
structure InCommand (c : Ptr) (w : World) : Prop where
  listed : c ∈ w.clientList
  state : (w.clients c).state = .command

namespace InCommand

theorem apart (h : InCommand c w) (hstep : Confined P C w w') (hc : ¬ C c) : InCommand c w' := by
  refine ⟨(hstep.clientList c hc).mpr h.listed, ?_⟩
  rw [hstep.clients c hc]
  exact h.state

/-- Notifications go to clients that listen. -/
theorem notify (h : InCommand c w) (hstep : Confined (fun _ => False) (fun c => (w.clients c).state = .listen) w w') :
    InCommand c w' := h.apart hstep fun hlisten => absurd (h.state.symm.trans hlisten) (by decide)

theorem disconnectDevice (h : InCommand c w) (hs : Steady env w) (hd : d ∈ w.deviceList)
    (hactive : (w.devs d).state = .active) : InCommand c (disconnectDevice env d w) := by
  have hv : InCommand c (w.setDev d fun dev => { dev with state := .dead }) := ⟨h.listed, h.state⟩
  have htv := hs.tracked.after (steps_dying hs.tracked hd hactive) (DeviceBlock.dead d w).one.turns
  have hdv : d ∈ (w.setDev d fun dev => { dev with state := .dead }).deviceList := hd
  unfold Usbmuxd.disconnectDevice
  dsimp only
  generalize (w.setDev d fun dev => { dev with state := .dead }) = v at hv htv hdv ⊢
  have hu := hv.apart (confined_tearDownAll htv hdv) fun ⟨p, hl⟩ => htv.unlinked hv.state d p hl
  generalize tearDownAll env d v = u at hu ⊢
  split
  · have ht := hu.notify (Confined.clientDeviceRemove env (u.devs d).id u)
    exact ⟨ht.listed, ht.state⟩
  · have ht := hu.notify (Confined.clientDevicePairingEvent env (u.deviceInfo env d) .removedDuringAdd false u)
    exact ⟨ht.listed, ht.state⟩

theorem deviceRemove (h : InCommand c w) (hs : Steady env w) (u : UsbDevice) : InCommand c (deviceRemove env u w) := by
  unfold Usbmuxd.deviceRemove
  split
  · exact h
  · rename_i d hfound
    split
    · have hgone := h.disconnectDevice hs (SlotTable.find?_mem hfound) ‹_›
      exact ⟨hgone.listed, hgone.state⟩
    · exact ⟨h.listed, h.state⟩

theorem deviceAdd (h : InCommand c w) (env : Env) (u : UsbDevice) : InCommand c (deviceAdd env u w) := by
  have hw : InCommand c (allocDev u (getNextDeviceId w) w) := ⟨h.listed, h.state⟩
  unfold Usbmuxd.deviceAdd
  dsimp only
  generalize allocDev u (getNextDeviceId w) w = v at hw ⊢
  have hr : InCommand c _ := hw.apart (Confined.sendPacket (P := fun _ => False) (C := fun _ => False) env w.fresh .version
    (VersionHeader.bytes ⟨1, 0, 0⟩) [] v) id
  split
  · exact ⟨hr.listed, hr.state⟩
  · exact ⟨hr.listed, hr.state⟩

theorem usbAction (h : InCommand c w) (hs : Steady env w) (a : UsbAction) : InCommand c (usbAction env a w) := by
  cases a with
  | deviceAdd u => exact h.deviceAdd env u
  | deviceRemove u => exact h.deviceRemove hs u
  | deviceAddFailed u => exact h.notify (Confined.clientDevicePairingEvent env
      ⟨0, (env.usbInfo u).1, (env.usbInfo u).2.1, (env.usbInfo u).2.2⟩ .removedDuringAdd false w)
  | errorAlreadyExists info =>
    exact h.notify (Confined.clientDevicePairingEvent env info .errorDeviceAlreadyExists false w)

/-- Whatever devices come and go, a client in command mode stays there. -/
theorem usbProcess (h : InCommand c w) (hs : Steady env w) : InCommand c (usbProcess env w) := by
  have htock : InCommand c w.tock := ⟨h.listed, h.state⟩
  have hstock : Steady env w.tock := ⟨⟨hs.tracked.ok, hs.tracked.armed.tock⟩, hs.settled⟩
  unfold Usbmuxd.usbProcess
  generalize w.tock = v at htock hstock ⊢
  induction env.usbProcess w.tick generalizing v with
  | nil => exact htock
  | cons a rest ih =>
    exact ih _ (htock.usbAction hstock a) (hstock.after (phases_usbAction hstock a) (work_usbAction env v a).turns)

/-! ### What it sends -/

theorem clientList_of_registry (hreg : w'.registry = w.registry) : w'.clientList = w.clientList :=
  congrArg Registry.clientList hreg

theorem clientList_sendTcp (env : Env) (p : Ptr) (flags : UInt8) (data : List UInt8) (w : World) :
    (sendTcp env p flags data w).1.clientList = w.clientList := (ConnFrame.sendTcp env p flags data w).clientList

theorem clientList_handleListen (env : Env) (c : Ptr) (hdr : UsbmuxdHeader) (w : World) :
    (handleListen env c hdr w).clientList = w.clientList := by
  have hsent := clientList_of_registry (registry_sendResult env c w hdr.tag resultOk)
  unfold handleListen
  dsimp only
  generalize sendResult env c hdr.tag resultOk w = r at hsent ⊢
  split
  · exact (clientList_of_registry (registry_notifyAll ..)).trans hsent
  · exact hsent

theorem clientList_deviceStartConnect (env : Env) (id : ℕ) (port : UInt16) (c : Ptr) (w : World) :
    (deviceStartConnect env id port c w).1.clientList = w.clientList := by
  have hsyn : ∀ d sport v next, v = w.setDev d (fun dev => { dev with nextSport := next }) →
      (sendTcp env v.fresh thSyn [] (allocConn (.start d c sport port) v)).1.clientList = w.clientList := by
    rintro d sport v next rfl
    rw [clientList_sendTcp, allocConn_clientList, setDev_clientList]
  have hstarted := connectStarted env id port c w
  generalize deviceStartConnect env id port c w = r at hstarted ⊢
  cases hstarted with
  | refused d sport next v _ _ _ _ hv =>
    dsimp only
    rw [emit_clientList, hsyn d sport v next hv]
  | started d sport next v _ _ _ _ hv =>
    dsimp only
    rw [registerConn, setDev_clientList, hsyn d sport v next hv]
  | _ => rfl

theorem clientList_connectRequest (env : Env) (c : Ptr) (hdr : UsbmuxdHeader) (id : ℕ) (port : UInt16) (w : World) :
    (connectRequest env c hdr id port w).clientList = w.clientList := by
  have hstart := clientList_deviceStartConnect env id port c w
  unfold connectRequest
  dsimp only
  split
  · exact (clientList_of_registry (registry_sendResult ..)).trans hstart
  · exact hstart

/-- A command about the device at a location. -/
theorem withLocation (h : c ∈ w.clientList) (hdr : UsbmuxdHeader) (command : Plist) {act : UInt32 → World → World}
    (hact : ∀ location, c ∈ (act location w).clientList) : c ∈ (withLocation env c hdr command act w).clientList := by
  unfold Usbmuxd.withLocation
  split
  · rw [clientList_of_registry (registry_sendResult ..)]
    exact h
  · rw [clientList_of_registry (registry_sendResult ..)]
    exact hact _

theorem handleClientPlistCommand (h : InCommand c w) (hs : Steady env w) (hdr : UsbmuxdHeader)
    (payload : List UInt8) : c ∈ (handleClientPlistCommand env c hdr payload w).clientList := by
  have hreg : (w.setClient c fun cl => { cl with protoVersion := 1 }).registry = w.registry :=
    registry_setClient_same _ rfl
  have hv : InCommand c (w.setClient c fun cl => { cl with protoVersion := 1 }) :=
    ⟨h.listed, (state_eq hreg c).trans h.state⟩
  have hsv : Steady env (w.setClient c fun cl => { cl with protoVersion := 1 }) :=
    hs.after (by rw [hreg]) (ClientBlock.plistVersion c w).one.turns
  have hhandled := plistHandled env c hdr payload w
  generalize Usbmuxd.handleClientPlistCommand env c hdr payload w = u at hhandled ⊢
  generalize (w.setClient c fun cl => { cl with protoVersion := 1 }) = v at hv hsv hhandled
  have hsame : ∀ {u : World}, u.registry = v.registry → c ∈ u.clientList := by
    intro u hu
    rw [clientList_of_registry hu]
    exact hv.listed
  cases hhandled with
  | ignored => exact hv.listed
  | listen =>
    rw [clientList_handleListen]
    exact hv.listed
  | connect command =>
    unfold handleConnectCommand
    split
    · exact hsame (registry_sendResult ..)
    · dsimp only
      split
      · exact hsame (registry_sendResult ..)
      · rw [clientList_connectRequest]
        exact hv.listed
  | listDevices => exact hsame ((registry_sendPlistPkt ..).trans (registry_tock v))
  | readBuid => exact hsame ((registry_sendPlistPkt ..).trans (registry_tock v))
  | readPairRecord command => exact hsame (registry_handlePairRecord env v c hdr command).1
  | savePairRecord command => exact hsame (registry_handlePairRecord env v c hdr command).2.1
  | deletePairRecord command => exact hsame (registry_handlePairRecord env v c hdr command).2.2
  | addDevice command => exact withLocation hv.listed hdr command fun _ => hv.listed
  | removeDevice command => exact withLocation hv.listed hdr command fun _ => hv.listed
  | deviceMonitor command =>
    refine withLocation hv.listed hdr command fun location => ?_
    have hpending : ∀ cmd, Steady env (v.emit (.pending cmd location)) := fun cmd =>
      hsv.after (by rw [registry_emit v rfl]) (ClientBlock.note _ v rfl).one.turns
    exact (show InCommand c (v.emit (.pending _ location)) from ⟨hv.listed, hv.state⟩).usbProcess (hpending _) |>.listed
  | unknown => exact hsame (registry_sendResult ..)

/-- A client in command mode stays on the list, whatever it asks for. -/
theorem clientCommand (h : InCommand c w) (hs : Steady env w) (buffer : Mem) :
    c ∈ (clientCommand env c buffer w).clientList := by
  have hsent : ∀ tag result, c ∈ (sendResult env c tag result w).1.clientList := by
    intro tag result
    rw [clientList_of_registry (registry_sendResult ..)]
    exact h.listed
  unfold Usbmuxd.clientCommand
  dsimp only
  rw [if_neg (not_not.mpr h.state)]
  split_ifs
  · exact hsent _ _
  · exact h.handleClientPlistCommand hs _ _
  · rw [clientList_handleListen]
    exact h.listed
  · rw [clientList_connectRequest]
    exact h.listed
  · exact hsent _ _

/-- Nor does the end of `process_recv`. -/
theorem runCommand (h : InCommand c w) (hs : Steady env w) (buffer : Mem) :
    c ∈ (runCommand env c buffer w).clientList := by
  have hlisted := h.clientCommand hs buffer
  unfold Usbmuxd.runCommand
  dsimp only
  split
  · exact hlisted
  · exact hlisted

end InCommand

end

end Usbmuxd
