import Usbmuxd.Records.Keys

/-!
# Storing a pairing record

`config_set_device_record` takes the old file away before it writes the new one, and
`plist_write_to_filename` reports success whether or not the file could be opened and its bytes
written. So the function returns `0` for every record that is a dictionary.

## The model

* `StoredAs` — what `config_get_device_record` returns parses to a plist.
* `AllOrNothing` — a record that is reported as stored is, and one that is refused leaves the old
  one; and the answer to `SavePairRecord` says the same.
* `Arrives` — the operations on the file end with a file that holds the plist.

## What is proved

* `storeDeviceRecord_all`, `savePairRecord_all` — with room enough these are the functions for an
  ordinary disk, and `handleSave_serves` — the handler sends this answer.
* `allOrNothing_iff` — storing is all or nothing exactly if the record is refused, or arrives.
-/

namespace Usbmuxd

open World

variable {File : Type*} [DecidableEq File] {lib : PlistLibrary} {fs : FileSystem File} {files : Files File}
variable {id udid record data : List UInt8} {p plist : Plist} {room : ℕ} {command : Plist}

/-! ### The same functions -/

/-- With room enough, a record is stored as on any disk. -/
theorem storeDeviceRecord_all (h : ∀ plist, lib.parseRecord record = some plist → (lib.toXml plist).length ≤ room) :
    storeDeviceRecord lib fs room udid record files = configSetDeviceRecord lib fs udid record files := by
  unfold storeDeviceRecord configSetDeviceRecord FileSystem.writeSome
  cases hparse : lib.parseRecord record with
  | none => rfl
  | some plist =>
    dsimp only
    rw [List.take_of_length_le (h plist hparse)]

/-- So is the record of a command. -/
theorem savePairRecord_all (h : ∀ plist, (lib.toXml plist).length ≤ room) :
    savePairRecord lib fs room command files = (PairRequest.mk .savePairRecord command).serve lib fs files := by
  unfold savePairRecord PairRequest.serve
  dsimp only
  by_cases hbundle : command.getStringVal "BundleID" = some (cstr "org.libimobiledevice.usbmuxd")
  · rw [if_pos hbundle, if_pos hbundle]
    cases command.getStringVal "PairRecordID" with
    | none => rfl
    | some id =>
      cases command.getItem "PairRecordData" with
      | none => rfl
      | some node =>
        cases node with
        | data record =>
          dsimp only
          rw [storeDeviceRecord_all fun plist _ => h plist]
        | _ => rfl
  · rw [if_neg hbundle, if_neg hbundle]

/-- The handler sends the answer of `savePairRecord`. -/
theorem handleSave_serves (lib : PlistLibrary) (fs : FileSystem File) (room : ℕ) (files : Files File) (env : Env)
    (c : Ptr) (hdr : UsbmuxdHeader) (command : Plist) (w : World) : ∃ v, (v = w ∨ v = w.tock) ∧
      handleSavePairRecordCommand (env.withRoom lib fs room files) c hdr command w =
        (savePairRecord lib fs room command files).2.send (env.withRoom lib fs room files) c hdr.tag v := by
  unfold handleSavePairRecordCommand savePairRecord
  by_cases hbundle : command.getStringVal "BundleID" = some (cstr "org.libimobiledevice.usbmuxd")
  · rw [if_pos hbundle, if_pos hbundle]
    cases command.getStringVal "PairRecordID" with
    | none => exact ⟨w, .inl rfl, rfl⟩
    | some id =>
      cases command.getItem "PairRecordData" with
      | none => exact ⟨w, .inl rfl, rfl⟩
      | some node =>
        cases node with
        | data record => exact ⟨w.tock, .inr rfl, rfl⟩
        | _ => exact ⟨w, .inl rfl, rfl⟩
  · rw [if_neg hbundle, if_neg hbundle]
    exact ⟨w, .inl rfl, rfl⟩

/-! ### The files -/

/-- What is read under an identifier parses to the plist. -/
def StoredAs (lib : PlistLibrary) (fs : FileSystem File) (udid : List UInt8) (plist : Plist) (files : Files File) : Prop :=
  ∃ data, configGetDeviceRecord fs udid files = some data ∧ lib.parseRecord data = some plist

omit [DecidableEq File] in
/-- It does if the file can be read and holds such bytes. -/
theorem storedAs_iff : StoredAs lib fs udid plist files ↔ fs.readable (fs.recordFile udid) ∧
    ∃ data, files (fs.recordFile udid) = some data ∧ data ≠ [] ∧ lib.parseRecord data = some plist := by
  unfold StoredAs configGetDeviceRecord FileSystem.read FileSystem.recordFile
  constructor
  · rintro ⟨data, hread, hparse⟩
    split_ifs at hread with hreadable
    obtain ⟨hfile, hne⟩ := Option.filter_eq_some_iff.mp hread
    exact ⟨hreadable, data, hfile, by simpa using hne, hparse⟩
  · rintro ⟨hreadable, data, hfile, hne, hparse⟩
    refine ⟨data, ?_, hparse⟩
    rw [if_pos hreadable]
    exact Option.filter_eq_some_iff.mpr ⟨hfile, by simpa using hne⟩

/-- What the file of a record holds after `remove` and `plist_write_to_filename`: what could be
written, or what could not be removed. -/
theorem writeSome_remove (fs : FileSystem File) (room : ℕ) (udid xml : List UInt8) (files : Files File) :
    fs.writeSome room (fs.deviceRecordFile udid) xml (fs.remove (fs.deviceRecordFile udid) files).1 (fs.recordFile udid) =
      if fs.writable (fs.recordFile udid) then some (xml.take room)
      else if (fs.removeError (fs.recordFile udid)).isSome then files (fs.recordFile udid) else none := by
  unfold FileSystem.writeSome FileSystem.write FileSystem.recordFile
  split_ifs with hwritable herror
  · exact Function.update_self ..
  · obtain ⟨errno, herror⟩ := Option.isSome_iff_exists.mp herror
    unfold FileSystem.remove
    rw [herror]
    cases hfile : files (fs.file (fs.deviceRecordFile udid)) <;> exact hfile
  · have hnone := Option.not_isSome_iff_eq_none.mp herror
    unfold FileSystem.remove
    rw [hnone]
    cases hfile : files (fs.file (fs.deviceRecordFile udid)) with
    | none => exact hfile
    | some old => exact Function.update_self ..

/-! ### All or nothing -/

/-- Storing a record is all or nothing. -/
structure AllOrNothing (lib : PlistLibrary) (fs : FileSystem File) (room : ℕ) (udid record : List UInt8)
    (files : Files File) : Prop where
  /-- What is reported as stored is there. -/
  stored : (storeDeviceRecord lib fs room udid record files).2 = 0 →
    ∃ plist, lib.parseRecord record = some plist ∧ StoredAs lib fs udid plist (storeDeviceRecord lib fs room udid record files).1
  /-- After an error the old record is there. -/
  kept : (storeDeviceRecord lib fs room udid record files).2 ≠ 0 →
    (storeDeviceRecord lib fs room udid record files).1 (fs.recordFile udid) = files (fs.recordFile udid)
  /-- libusbmuxd is told `OK` only if the record that it sent is there. -/
  answered : ∀ command, (PairRequest.mk .savePairRecord command).SavesUnder udid →
    command.getItem "PairRecordData" = some (.data record) →
    (savePairRecord lib fs room command files).2 = .result resultOk →
    ∃ plist, lib.parseRecord record = some plist ∧ StoredAs lib fs udid plist (savePairRecord lib fs room command files).1

/-- The bytes that the operations on the file leave in it are those of the plist: the new ones, as
far as there is room for them, or old ones that can be neither removed nor overwritten. -/
def Arrives (lib : PlistLibrary) (fs : FileSystem File) (room : ℕ) (udid : List UInt8) (plist : Plist)
    (files : Files File) : Prop :=
  fs.readable (fs.recordFile udid) ∧ ∃ data, data ≠ [] ∧ lib.parseRecord data = some plist ∧
    if fs.writable (fs.recordFile udid) then data = (lib.toXml plist).take room
    else (fs.removeError (fs.recordFile udid)).isSome ∧ files (fs.recordFile udid) = some data

/-- The record of a command is stored as `config_set_device_record` stores it. -/
theorem savePairRecord_eq (h : (PairRequest.mk .savePairRecord command).SavesUnder udid)
    (hdata : command.getItem "PairRecordData" = some (.data record)) :
    savePairRecord lib fs room command files = ((storeDeviceRecord lib fs room udid record files).1,
      .result (storeDeviceRecord lib fs room udid record files).2) := by
  have hbundle : command.getStringVal "BundleID" = some (cstr "org.libimobiledevice.usbmuxd") := h.bundle
  have hid : command.getStringVal "PairRecordID" = some udid := h.id
  unfold savePairRecord
  rw [if_pos hbundle, hid, hdata]

/-- A record that is refused changes nothing. -/
theorem storeDeviceRecord_refused (h : record.length < 8 ∨ lib.parseRecord record = none) :
    storeDeviceRecord lib fs room udid record files = (files, einval) := by
  unfold storeDeviceRecord
  split_ifs with hlength
  · rfl
  · rw [h.resolve_left hlength]

/-- Any other is reported as stored. -/
theorem storeDeviceRecord_taken (hlength : ¬ record.length < 8) (hparse : lib.parseRecord record = some plist) :
    storeDeviceRecord lib fs room udid record files =
      (fs.writeSome room (fs.deviceRecordFile udid) (lib.toXml plist) (fs.remove (fs.deviceRecordFile udid) files).1, 0) := by
  unfold storeDeviceRecord
  rw [if_neg hlength, hparse]

/-- A plist arrives if it is stored afterwards. -/
theorem storedAs_writeSome : StoredAs lib fs udid plist (fs.writeSome room (fs.deviceRecordFile udid) (lib.toXml plist)
    (fs.remove (fs.deviceRecordFile udid) files).1) ↔ Arrives lib fs room udid plist files := by
  rw [storedAs_iff, writeSome_remove]
  unfold Arrives
  refine and_congr_right fun _ => exists_congr fun data => ?_
  split_ifs with hwritable herror
  · rw [Option.some.injEq, eq_comm (a := data)]
    exact ⟨fun ⟨heq, hne, hparse⟩ => ⟨hne, hparse, heq⟩, fun ⟨hne, hparse, heq⟩ => ⟨heq, hne, hparse⟩⟩
  · exact ⟨fun ⟨heq, hne, hparse⟩ => ⟨hne, hparse, herror, heq⟩, fun ⟨hne, hparse, _, heq⟩ => ⟨heq, hne, hparse⟩⟩
  · exact ⟨fun h => absurd h.1 (by simp), fun h => absurd h.2.2.1 herror⟩

/-- **Storing a pairing record is all or nothing exactly if the record is refused, or arrives.** -/
theorem allOrNothing_iff (lib : PlistLibrary) (fs : FileSystem File) (room : ℕ) (udid record : List UInt8)
    (files : Files File) : AllOrNothing lib fs room udid record files ↔
      record.length < 8 ∨ lib.parseRecord record = none ∨
        ∃ plist, lib.parseRecord record = some plist ∧ Arrives lib fs room udid plist files := by
  by_cases hrefused : record.length < 8 ∨ lib.parseRecord record = none
  · have hstore : storeDeviceRecord lib fs room udid record files = (files, einval) := storeDeviceRecord_refused hrefused
    refine ⟨fun _ => hrefused.imp_right .inl, fun _ => ⟨fun hzero => ?_, fun _ => by rw [hstore], ?_⟩⟩
    · rw [hstore] at hzero
      exact absurd (show einval = 0 from hzero) (by decide)
    · intro command hsaves hdata hok
      rw [savePairRecord_eq hsaves hdata, hstore] at hok
      exact absurd (show einval = resultOk from PairAnswer.result.inj hok) (by decide)
  · obtain ⟨hlength, hparse⟩ := not_or.mp hrefused
    obtain ⟨plist, hplist⟩ := Option.ne_none_iff_exists'.mp hparse
    have hstore : storeDeviceRecord lib fs room udid record files = _ := storeDeviceRecord_taken hlength hplist
    have hstored : (∃ plist, lib.parseRecord record = some plist ∧
        StoredAs lib fs udid plist (storeDeviceRecord lib fs room udid record files).1) ↔
        ∃ plist, lib.parseRecord record = some plist ∧ Arrives lib fs room udid plist files := by
      refine exists_congr fun q => and_congr_right fun hq => ?_
      obtain rfl := Option.some.inj (hplist.symm.trans hq)
      rw [hstore]
      exact storedAs_writeSome
    constructor
    · intro h
      exact .inr (.inr (hstored.mp (h.stored (by rw [hstore]))))
    · intro h
      have harrives := (h.resolve_left hlength).resolve_left hparse
      refine ⟨fun _ => hstored.mpr harrives, fun hne => absurd (by rw [hstore]) hne, ?_⟩
      intro command hsaves hdata _
      rw [savePairRecord_eq hsaves hdata]
      exact hstored.mpr harrives

/-! ### A record that is lost -/

/-- A file system on which no file can be opened for writing. -/
def readOnlyFiles : FileSystem (List UInt8) := { plainFiles with writable := fun _ => false }

/-- The record of host `A` under an identifier, and no other file. -/
def hostFiles : Files (List UInt8) :=
  Function.update (fun _ => none) (readOnlyFiles.recordFile (cstr "9f1c2b")) (some (hostXml (cstr "A")))

/-- `config_set_device_record` removes the record of host `A`, cannot write that of host `B`, and returns `0`. -/
theorem not_allOrNothing_readOnly :
    ¬ AllOrNothing hostLibrary readOnlyFiles 4096 (cstr "9f1c2b") (hostXml (cstr "B")) hostFiles := by
  intro h
  obtain ⟨plist, -, hstored⟩ := h.stored (by decide +kernel)
  obtain ⟨-, data, hdata, -⟩ := storedAs_iff.mp hstored
  have hnone : (storeDeviceRecord hostLibrary readOnlyFiles 4096 (cstr "9f1c2b") (hostXml (cstr "B")) hostFiles).1
      (readOnlyFiles.recordFile (cstr "9f1c2b")) = none := by decide +kernel
  rw [hnone] at hdata
  cases hdata

end Usbmuxd
