import Usbmuxd.Foundation.Iteration
import Usbmuxd.Model.Conf

/-!
# The keys of the pairing records

A record is saved, read and deleted under the identifier of a device. The three commands should
agree on the file that an identifier stands for. They do not: `handle_read_pair_record_command`
takes the first `-` out of the identifier, and the other two handlers do not.

## The model

* `FileSystem.Succeeds` — no operation on a file fails.
* `PlistLibrary.RoundTrips` — the library reads back what it writes for a plist.
* `PairRecordKept` — a record saved under an identifier is what is read under it, until it is
  deleted, and then nothing is.

## What is proved

* `handle_serves` — the handlers of the commands do what `PairRequest.serve` says.
* `pairRecordKept_iff` — the commands keep the record of an identifier if and only if it has no
  `-` and no other identifier stands for its file.
-/

namespace Usbmuxd

open World Iteration

variable {File : Type*} [DecidableEq File] {lib : PlistLibrary} {fs : FileSystem File} {files : Files File}
variable {id other record : List UInt8} {p : Plist} {r : PairRequest}

/-! ### The handlers -/

/-- The handler of a command sends the answer that `PairRequest.serve` gives. -/
theorem handle_serves (lib : PlistLibrary) (fs : FileSystem File) (files : Files File) (r : PairRequest) (env : Env)
    (c : Ptr) (hdr : UsbmuxdHeader) (w : World) : ∃ v, (v = w ∨ v = w.tock) ∧
      r.handle (env.withRecords lib fs files) c hdr w =
        (r.serve lib fs files).2.send (env.withRecords lib fs files) c hdr.tag v := by
  unfold PairRequest.handle PairRequest.serve
  cases r.kind with
  | readPairRecord =>
    dsimp only
    unfold handleReadPairRecordCommand
    cases r.command.getStringVal "PairRecordID" with
    | none => exact ⟨w, .inl rfl, rfl⟩
    | some id =>
      refine ⟨w.tock, .inr rfl, ?_⟩
      dsimp only
      unfold sendPairRecord pairRecordAnswer
      dsimp only
      rw [show (env.withRecords lib fs files).getDeviceRecord w.tick (dropDash id) =
        configGetDeviceRecord fs (dropDash id) files from rfl]
      cases configGetDeviceRecord fs (dropDash id) files with
      | none => rfl
      | some record =>
        dsimp only
        rw [show partialRecord (env.withRecords lib fs files) record = lib.partialRecord record from rfl]
        split <;> rfl
  | savePairRecord =>
    dsimp only
    unfold handleSavePairRecordCommand
    by_cases hbundle : r.command.getStringVal "BundleID" = some (cstr "org.libimobiledevice.usbmuxd")
    · rw [if_pos hbundle, if_pos hbundle]
      cases r.command.getStringVal "PairRecordID" with
      | none => exact ⟨w, .inl rfl, rfl⟩
      | some id =>
        cases r.command.getItem "PairRecordData" with
        | none => exact ⟨w, .inl rfl, rfl⟩
        | some node =>
          cases node with
          | data record => exact ⟨w.tock, .inr rfl, rfl⟩
          | _ => exact ⟨w, .inl rfl, rfl⟩
    · rw [if_neg hbundle, if_neg hbundle]
      exact ⟨w, .inl rfl, rfl⟩
  | deletePairRecord =>
    dsimp only
    unfold handleDeletePairRecordCommand
    cases r.command.getStringVal "PairRecordID" with
    | none => exact ⟨w, .inl rfl, rfl⟩
    | some id => exact ⟨w.tock, .inr rfl, rfl⟩

/-! ### What the commands are about -/

/-- No operation on a file fails. -/
structure FileSystem.Succeeds (fs : FileSystem File) : Prop where
  readable : ∀ f, fs.readable f
  writable : ∀ f, fs.writable f
  removeError : ∀ f, fs.removeError f = none

/-- The file that an identifier stands for. -/
def FileSystem.recordFile (fs : FileSystem File) (id : List UInt8) : File := fs.file (fs.deviceRecordFile id)

/-- No other identifier stands for the same file. -/
def FileSystem.Alone (fs : FileSystem File) (id : List UInt8) : Prop :=
  ∀ other, fs.recordFile other = fs.recordFile id → other = id

/-- The library reads back what it writes. -/
def PlistLibrary.RoundTrips (lib : PlistLibrary) (p : Plist) : Prop :=
  lib.toXml p ≠ [] ∧ lib.fromXml (lib.toXml p) = some p

/-- A pairing record with all that `send_pair_record` looks for. -/
structure Plist.Complete (p : Plist) : Prop where
  deviceCertificate : (p.getItem "DeviceCertificate").isSome
  hostId : (p.getItem "HostID").isSome
  systemBuid : (p.getItem "SystemBUID").isSome

/-- A `SavePairRecord` of libusbmuxd under an identifier. -/
structure PairRequest.SavesUnder (r : PairRequest) (id : List UInt8) : Prop where
  kind : r.kind = .savePairRecord
  bundle : r.command.getStringVal "BundleID" = some (cstr "org.libimobiledevice.usbmuxd")
  id : r.command.getStringVal "PairRecordID" = some id

/-- A `SavePairRecord` of libusbmuxd with a record. -/
structure PairRequest.Saves (r : PairRequest) (lib : PlistLibrary) (id : List UInt8) (p : Plist) : Prop
    extends r.SavesUnder id where
  record : ∃ record, r.command.getItem "PairRecordData" = some (.data record) ∧ lib.parseRecord record = some p

/-- A `DeletePairRecord` for an identifier. -/
structure PairRequest.Deletes (r : PairRequest) (id : List UInt8) : Prop where
  kind : r.kind = .deletePairRecord
  id : r.command.getStringVal "PairRecordID" = some id

/-- A `ReadPairRecord` for an identifier. -/
structure PairRequest.Reads (r : PairRequest) (id : List UInt8) : Prop where
  kind : r.kind = .readPairRecord
  id : r.command.getStringVal "PairRecordID" = some id

/-- None of these commands saves or deletes the record of `id`: those which are about it are not answered OK. -/
def RecordUntouched (lib : PlistLibrary) (fs : FileSystem File) (id : List UInt8) (files : Files File)
    (requests : List PairRequest) : Prop :=
  ∀ before r after, requests = before ++ r :: after → r.SavesUnder id ∨ r.Deletes id →
    (r.serve lib fs (serveAll lib fs files before)).2 ≠ .result resultOk

/-- The record of `id` is kept: after a save of a complete record that was answered OK it is what is read, and after a
delete that was answered OK nothing is, whatever commands come in between. -/
structure PairRecordKept (lib : PlistLibrary) (fs : FileSystem File) (id : List UInt8) : Prop where
  saved : ∀ (files : Files File) (save : PairRequest) between (read : PairRequest) p,
    save.Saves lib id p → p.Complete → lib.RoundTrips p →
    (save.serve lib fs files).2 = .result resultOk → RecordUntouched lib fs id (save.serve lib fs files).1 between →
    read.Reads id →
    ∃ data, (read.serve lib fs (serveAll lib fs (save.serve lib fs files).1 between)).2 = .record data ∧
      lib.fromXml data = some p
  deleted : ∀ (files : Files File) (delete : PairRequest) between (read : PairRequest), delete.Deletes id →
    (delete.serve lib fs files).2 = .result resultOk → RecordUntouched lib fs id (delete.serve lib fs files).1 between →
    read.Reads id →
    (read.serve lib fs (serveAll lib fs (delete.serve lib fs files).1 between)).2 = .result enoent

/-! ### One command -/

omit [DecidableEq File] in
theorem recordFile_eq (fs : FileSystem File) (id : List UInt8) :
    fs.file (fs.deviceRecordFile id) = fs.recordFile id := rfl

theorem FileSystem.Succeeds.remove (hfs : fs.Succeeds) {path data : List UInt8} (h : files (fs.file path) = some data) :
    fs.remove path files = (Function.update files (fs.file path) none, 0) := by
  unfold FileSystem.remove
  rw [h, hfs.removeError]

theorem remove_of_none {path : List UInt8} (h : files (fs.file path) = none) :
    fs.remove path files = (files, enoent) := by
  unfold FileSystem.remove
  rw [h]

/-- `remove` changes one file at most. -/
theorem remove_other {path : List UInt8} {f : File} (h : f ≠ fs.file path) : (fs.remove path files).1 f = files f := by
  unfold FileSystem.remove
  split
  · rfl
  · rfl
  · exact Function.update_of_ne h _ _

theorem FileSystem.Succeeds.write (hfs : fs.Succeeds) (path data : List UInt8) (files : Files File) :
    fs.write path data files = Function.update files (fs.file path) (some data) :=
  if_pos (hfs.writable _)

/-- What a save does that is answered OK. -/
theorem configSet_ok (hfs : fs.Succeeds) (hparse : lib.parseRecord record = some p) (hlength : 8 ≤ record.length) :
    configSetDeviceRecord lib fs id record files =
      (Function.update (fs.remove (fs.deviceRecordFile id) files).1 (fs.recordFile id) (some (lib.toXml p)), 0) := by
  unfold configSetDeviceRecord
  rw [if_neg (by omega), hparse]
  dsimp only
  rw [hfs.write]
  rfl

/-- A save changes only its file, and none if it is not answered OK. -/
theorem configSet_other (hfs : fs.Succeeds) {f : File}
    (h : f ≠ fs.recordFile id ∨ (configSetDeviceRecord lib fs id record files).2 ≠ 0) :
    (configSetDeviceRecord lib fs id record files).1 f = files f := by
  by_cases hlength : record.length < 8
  · unfold configSetDeviceRecord
    rw [if_pos hlength]
  cases hparse : lib.parseRecord record with
  | none =>
    unfold configSetDeviceRecord
    rw [if_neg hlength, hparse]
  | some p =>
    rw [configSet_ok hfs hparse (by omega)] at h ⊢
    obtain hf | hok := h
    · dsimp only
      rw [Function.update_of_ne hf]
      exact remove_other hf
    · exact absurd rfl hok

theorem configRemove_other (hfs : fs.Succeeds) {f : File}
    (h : f ≠ fs.recordFile id ∨ (configRemoveDeviceRecord fs id files).2 ≠ 0) :
    (configRemoveDeviceRecord fs id files).1 f = files f := by
  unfold configRemoveDeviceRecord at *
  obtain hf | hok := h
  · exact remove_other hf
  · cases hfile : files (fs.file (fs.deviceRecordFile id)) with
    | none => rw [remove_of_none hfile]
    | some data =>
      rw [hfs.remove hfile] at hok
      exact absurd rfl hok

theorem PairRequest.SavesUnder.serve (h : r.SavesUnder id)
    (hrecord : r.command.getItem "PairRecordData" = some (.data record)) (files : Files File) :
    r.serve lib fs files =
      ((configSetDeviceRecord lib fs id record files).1, .result (configSetDeviceRecord lib fs id record files).2) := by
  unfold PairRequest.serve
  simp only [h.kind, h.bundle, h.id, hrecord, if_true]

/-- After a save that was answered OK the file holds the record. -/
theorem serve_save (hfs : fs.Succeeds) (hsave : r.Saves lib id p)
    (hok : (r.serve lib fs files).2 = .result resultOk) :
    (r.serve lib fs files).1 (fs.recordFile id) = some (lib.toXml p) := by
  obtain ⟨record, hrecord, hparse⟩ := hsave.record
  rw [hsave.serve hrecord] at hok ⊢
  by_cases hlength : 8 ≤ record.length
  · rw [configSet_ok hfs hparse hlength]
    exact Function.update_self ..
  · unfold configSetDeviceRecord at hok
    rw [if_pos (by omega)] at hok
    exact absurd (PairAnswer.result.inj hok) (show einval ≠ resultOk by decide)

/-- After a delete that was answered OK there is no file. -/
theorem serve_delete (hfs : fs.Succeeds) (hdelete : r.Deletes id)
    (hok : (r.serve lib fs files).2 = .result resultOk) : (r.serve lib fs files).1 (fs.recordFile id) = none := by
  unfold PairRequest.serve configRemoveDeviceRecord at *
  simp only [hdelete.kind, hdelete.id] at *
  cases hfile : files (fs.file (fs.deviceRecordFile id)) with
  | none =>
    rw [remove_of_none hfile] at hok
    exact absurd (PairAnswer.result.inj hok) (show enoent ≠ resultOk by decide)
  | some data =>
    rw [hfs.remove hfile]
    exact Function.update_self ..

/-- Every other command leaves the file as it is. -/
theorem serve_other (hfs : fs.Succeeds) (halone : fs.Alone id)
    (h : r.SavesUnder id ∨ r.Deletes id → (r.serve lib fs files).2 ≠ .result resultOk) :
    (r.serve lib fs files).1 (fs.recordFile id) = files (fs.recordFile id) := by
  have hne : ∀ {other : List UInt8} {res : UInt32}, (other = id → PairAnswer.result res ≠ .result resultOk) →
      fs.recordFile id ≠ fs.recordFile other ∨ res ≠ 0 := by
    intro other res hres
    by_cases hother : other = id
    · exact .inr fun heq => hres hother (congrArg _ heq)
    · exact .inl fun heq => hother (halone _ heq.symm)
  unfold PairRequest.serve at h ⊢
  cases hkind : r.kind with
  | readPairRecord =>
    dsimp only
    split <;> rfl
  | savePairRecord =>
    rw [hkind] at h
    dsimp only at h ⊢
    by_cases hbundle : r.command.getStringVal "BundleID" = some (cstr "org.libimobiledevice.usbmuxd")
    · rw [if_pos hbundle] at h ⊢
      cases hid : r.command.getStringVal "PairRecordID" with
      | none => rfl
      | some other =>
        rw [hid] at h
        split
        · rename_i id' record heq hrecord
          obtain rfl := Option.some.inj heq
          rw [hrecord] at h
          exact configSet_other hfs (hne fun hother => h (.inl ⟨hkind, hbundle, hother ▸ hid⟩))
        · rfl
    · rw [if_neg hbundle]
  | deletePairRecord =>
    rw [hkind] at h
    dsimp only at h ⊢
    cases hid : r.command.getStringVal "PairRecordID" with
    | none => rfl
    | some other =>
      rw [hid] at h
      exact configRemove_other hfs (hne fun hother => h (.inr ⟨hkind, hother ▸ hid⟩))

/-- A read gives what is in the file of the identifier without its first `-`. -/
theorem serve_read (hread : r.Reads id) :
    (r.serve lib fs files).2 = pairRecordAnswer lib fs (dropDash id) files := by
  unfold PairRequest.serve
  simp only [hread.kind, hread.id]

omit [DecidableEq File] in
theorem pairRecordAnswer_none (h : files (fs.recordFile id) = none) :
    pairRecordAnswer lib fs id files = .result enoent := by
  unfold pairRecordAnswer configGetDeviceRecord FileSystem.read
  rw [recordFile_eq, h]
  simp

omit [DecidableEq File] in
theorem pairRecordAnswer_record (hfs : fs.Succeeds) (h : files (fs.recordFile id) = some (lib.toXml p))
    (hcomplete : p.Complete) (hround : lib.RoundTrips p) :
    pairRecordAnswer lib fs id files = .record (lib.toXml p) := by
  have hget : configGetDeviceRecord fs id files = some (lib.toXml p) := by
    unfold configGetDeviceRecord FileSystem.read
    rw [recordFile_eq, if_pos (hfs.readable _), h, Option.filter_some, if_pos]
    simpa using hround.1
  have hwhole : lib.partialRecord (lib.toXml p) = false := by
    unfold PlistLibrary.partialRecord
    rw [hround.2]
    simp [Option.isNone_eq_false_iff.mpr, hcomplete.deviceCertificate, hcomplete.hostId, hcomplete.systemBuid]
  unfold pairRecordAnswer
  rw [hget]
  dsimp only
  rw [hwhole]
  rfl

/-! ### Any commands in between -/

/-- While the record of `id` is not touched, its file stays as it is. -/
theorem serveAll_untouched (hfs : fs.Succeeds) (halone : fs.Alone id) {requests : List PairRequest}
    (h : RecordUntouched lib fs id files requests) :
    serveAll lib fs files requests (fs.recordFile id) = files (fs.recordFile id) :=
  foldl_keeps (P := fun files' : Files File => files' (fs.recordFile id) = files (fs.recordFile id))
    (fun _ _ hr hheld => (serve_other hfs halone hr).trans hheld) h rfl

theorem pairRecordKept_of_noDash (hfs : fs.Succeeds) (hdash : 0x2d ∉ id) (halone : fs.Alone id) :
    PairRecordKept lib fs id := by
  have hid : dropDash id = id := List.erase_of_not_mem hdash
  refine ⟨fun files save between read p hsave hcomplete hround hok huntouched hread => ?_,
    fun files delete between read hdelete hok huntouched hread => ?_⟩
  · have hheld := (serveAll_untouched hfs halone huntouched).trans (serve_save hfs hsave hok)
    refine ⟨lib.toXml p, ?_, hround.2⟩
    rw [serve_read hread, hid]
    exact pairRecordAnswer_record hfs hheld hcomplete hround
  · have hheld := (serveAll_untouched hfs halone huntouched).trans (serve_delete hfs hdelete hok)
    rw [serve_read hread, hid]
    exact pairRecordAnswer_none hheld

/-! ### Where the record is lost -/

/-- The command that saves a record under an identifier. -/
def saveRequest (id record : List UInt8) : PairRequest where
  kind := .savePairRecord
  command := .dict [("BundleID", .string (cstr "org.libimobiledevice.usbmuxd")), ("PairRecordID", .string id),
    ("PairRecordData", .data record)]

/-- The command that reads the record of an identifier. -/
def readRequest (id : List UInt8) : PairRequest := ⟨.readPairRecord, .dict [("PairRecordID", .string id)]⟩

/-- A complete pairing record that the library reads and writes. -/
structure PlistLibrary.Takes (lib : PlistLibrary) (record : List UInt8) (p : Plist) : Prop where
  length : 8 ≤ record.length
  parses : lib.parseRecord record = some p
  complete : p.Complete
  round : lib.RoundTrips p

theorem reads_readRequest (id : List UInt8) : (readRequest id).Reads id := ⟨rfl, rfl⟩

theorem PlistLibrary.Takes.saves (h : lib.Takes record p) (id : List UInt8) : (saveRequest id record).Saves lib id p :=
  ⟨⟨rfl, rfl, rfl⟩, record, rfl, h.parses⟩

theorem PlistLibrary.Takes.serve (hfs : fs.Succeeds) (h : lib.Takes record p) (id : List UInt8) (files : Files File) :
    ((saveRequest id record).serve lib fs files).2 = .result resultOk := by
  rw [(h.saves id).serve (r := saveRequest id record) rfl, configSet_ok hfs h.parses h.length]
  rfl

/-- If the record is kept, reading looks at the file that saving writes. -/
theorem PairRecordKept.sameFile (hkept : PairRecordKept lib fs id) (hfs : fs.Succeeds) (h : lib.Takes record p) :
    fs.recordFile (dropDash id) = fs.recordFile id := by
  by_contra hne
  have hnone : ((saveRequest id record).serve lib fs fun _ => none).1 (fs.recordFile (dropDash id)) = none := by
    rw [(h.saves id).serve (r := saveRequest id record) rfl]
    exact configSet_other hfs (.inl hne)
  obtain ⟨data, hdata, -⟩ := hkept.saved _ _ [] _ p (h.saves id) h.complete h.round
    (h.serve hfs id fun _ => none) (fun before r after heq => by simp at heq) (reads_readRequest id)
  rw [serve_read (reads_readRequest id)] at hdata
  change pairRecordAnswer lib fs (dropDash id) ((saveRequest id record).serve lib fs fun _ => none).1 = _ at hdata
  rw [pairRecordAnswer_none hnone] at hdata
  cases hdata

/-- If the record is kept, no other identifier stands for its file. -/
theorem PairRecordKept.alone (hkept : PairRecordKept lib fs id) (hfs : fs.Succeeds) (h : lib.Takes record p)
    {record' : List UInt8} {p' : Plist} (h' : lib.Takes record' p') (hne : p ≠ p') : fs.Alone id := by
  intro other hfile
  by_contra hother
  have hbetween : RecordUntouched lib fs id ((saveRequest id record).serve lib fs fun _ => none).1
      [saveRequest other record'] := by
    intro before r after heq htouch
    obtain ⟨rfl, rfl, rfl⟩ : before = [] ∧ r = saveRequest other record' ∧ after = [] := by
      cases before with
      | nil => simpa [eq_comm] using heq
      | cons r before => simp at heq
    obtain hsave | hdelete := htouch
    · exact absurd (Option.some.inj hsave.id) hother
    · cases hdelete.kind
  obtain ⟨data, hdata, hparse⟩ := hkept.saved _ _ _ _ p (h.saves id) h.complete h.round
    (h.serve hfs id fun _ => none) hbetween (reads_readRequest id)
  have hheld : ((saveRequest other record').serve lib fs
      ((saveRequest id record).serve lib fs fun _ => none).1).1 (fs.recordFile other) = _ :=
    serve_save hfs (h'.saves other) (h'.serve hfs other _)
  rw [hfile, ← hkept.sameFile hfs h] at hheld
  rw [serve_read (reads_readRequest id)] at hdata
  change pairRecordAnswer lib fs (dropDash id) ((saveRequest other record').serve lib fs _).1 = _ at hdata
  rw [pairRecordAnswer_record hfs hheld h'.complete h'.round] at hdata
  obtain rfl := PairAnswer.record.inj hdata
  exact hne (Option.some.inj (hparse.symm.trans h'.round.2))

/-- The commands keep the record of an identifier if and only if it has no `-` and no other identifier stands for its
file. -/
theorem pairRecordKept_iff (hfs : fs.Succeeds)
    (hlib : ∃ record p record' p', lib.Takes record p ∧ lib.Takes record' p' ∧ p ≠ p') (id : List UInt8) :
    PairRecordKept lib fs id ↔ 0x2d ∉ id ∧ fs.Alone id := by
  constructor
  · intro hkept
    obtain ⟨record, p, record', p', h, h', hne⟩ := hlib
    have halone := hkept.alone hfs h h' hne
    refine ⟨fun hmem => ?_, halone⟩
    have hlength := List.length_erase_of_mem hmem
    rw [show id.erase 0x2d = id from halone _ (hkept.sameFile hfs h)] at hlength
    have hpos := List.length_pos_of_mem hmem
    omega
  · intro h
    exact pairRecordKept_of_noDash hfs h.1 h.2

/-! ### Two identifiers -/

section Hosts

/-- The XML of a pairing record of a host, without the lines in front of the plist. -/
def hostXml (hostId : List UInt8) : List UInt8 :=
  cstr "<plist><dict><key>DeviceCertificate</key><data>AAAA</data><key>HostID</key><string>" ++ hostId ++
    cstr "</string><key>SystemBUID</key><string>B</string></dict></plist>"

/-- The pairing record of a host. -/
def hostRecord (hostId : List UInt8) : Plist :=
  .dict [("DeviceCertificate", .data [0, 0, 0]), ("HostID", .string hostId), ("SystemBUID", .string (cstr "B"))]

/-- The plist library on the records of the hosts `A` and `B`. -/
def hostLibrary : PlistLibrary where
  fromXml xml := ([cstr "A", cstr "B"].find? (hostXml · = xml)).map hostRecord
  fromBin _ := none
  toXml p := match p.getItem "HostID" with
    | some (.string hostId) => hostXml hostId
    | _ => []

/-- A file system on which every path has its own file and nothing fails. -/
def plainFiles : FileSystem (List UInt8) :=
  ⟨cstr "Lockdown", fun path => path, fun _ => true, fun _ => true, fun _ => none⟩

theorem plainFiles_succeeds : plainFiles.Succeeds := ⟨fun _ => rfl, fun _ => rfl, fun _ => rfl⟩

theorem plainFiles_alone (id : List UInt8) : plainFiles.Alone id := by
  intro other hfile
  have hpath : plainFiles.deviceRecordFile other = plainFiles.deviceRecordFile id := hfile
  unfold FileSystem.deviceRecordFile at hpath
  exact List.append_cancel_left (List.append_cancel_right hpath)

theorem hostLibrary_takes {hostId : List UInt8} (h : hostLibrary.fromXml (hostXml hostId) = some (hostRecord hostId)) :
    hostLibrary.Takes (hostXml hostId) (hostRecord hostId) := by
  have htake : (hostXml hostId).take 8 = cstr "<plist><" := by
    unfold hostXml
    rw [List.append_assoc, List.take_append_of_le_length (by decide +kernel)]
    decide +kernel
  have hlength : 8 ≤ (hostXml hostId).length := by
    have h8 := congrArg List.length htake
    rw [List.length_take, show (cstr "<plist><").length = 8 by decide +kernel] at h8
    omega
  refine ⟨hlength, ?_, ⟨rfl, rfl, rfl⟩, fun hnil => ?_, h⟩
  · unfold PlistLibrary.parseRecord
    rw [htake, if_neg (by decide +kernel), h]
    rfl
  · rw [show hostXml hostId = [] from hnil] at hlength
    simp at hlength

theorem hostLibrary_two :
    ∃ record p record' p', hostLibrary.Takes record p ∧ hostLibrary.Takes record' p' ∧ p ≠ p' := by
  have hA : hostLibrary.fromXml (hostXml (cstr "A")) = some (hostRecord (cstr "A")) := by
    unfold hostLibrary
    simp
  have hB : hostLibrary.fromXml (hostXml (cstr "B")) = some (hostRecord (cstr "B")) := by
    have hne : hostXml (cstr "A") ≠ hostXml (cstr "B") := by decide +kernel
    unfold hostLibrary
    simp [hne]
  refine ⟨_, _, _, _, hostLibrary_takes hA, hostLibrary_takes hB, fun heq => ?_⟩
  have hhost : some (Plist.string (cstr "A")) = some (.string (cstr "B")) := congrArg (Plist.getItem "HostID") heq
  exact absurd (Plist.string.inj (Option.some.inj hhost)) (by decide +kernel)

/-- The record of an identifier of the older form is kept. -/
theorem pairRecordKept_iff_old : PairRecordKept hostLibrary plainFiles (cstr "9f1c2b") :=
  (pairRecordKept_iff plainFiles_succeeds hostLibrary_two _).mpr ⟨by decide +kernel, plainFiles_alone _⟩

/-- The record of an identifier of the newer form is not: it is saved under `00008030-0A`, and `ReadPairRecord` with
this identifier looks for `000080300A`. -/
theorem pairRecord_lost : ¬ PairRecordKept hostLibrary plainFiles (cstr "00008030-0A") := by
  intro hkept
  obtain ⟨record, p, -, -, h, -, -⟩ := hostLibrary_two
  exact absurd (plainFiles_alone _ _ (hkept.sameFile plainFiles_succeeds h)) (by decide +kernel)

end Hosts

end Usbmuxd
