import Usbmuxd.Model.Config
import Usbmuxd.Records.Keys
import Mathlib.Data.List.Basic

/-!
# The identity of the host

The system BUID is what devices know the host by. It is made up when somebody asks for it and there is none, by the
main thread or by a preflight thread, and nothing in `conf.cpp` keeps two of them from doing so at once. Once a call has
stored it alone, all agree, as long as no pairing record is given the place of the configuration.

## The model

* `FileSystem.configInUse`, `configValue` — the configuration in use, and what is in it.
* `Storable` — a value can be stored: the file can be opened, what is in it is a dictionary or no property list at all,
  and the library reads back what it writes.
* `IsUuid` — the form of what `config_generate_uuid` makes up.
* `ConfCall.Spares` — a call takes no pairing record away from a file, nor puts one there.
* `ConfAction` — a thread calls, or makes the next operation on a file.

## What is proved

* `run_program` — without an interruption, the commands for pairing records are those of `Usbmuxd.Model.Conf`.
* `config_value_kept` — a value that is stored is found again, and nothing else changes.
* `system_buid_settled` — from the end of the first call on, all calls agree on the BUID.
-/

namespace Usbmuxd

open CellProgram

variable {File : Type*} [DecidableEq File] {lib : PlistLibrary} {fs : FileSystem File} {files : Files File}
variable {key : String} {value : Plist} {path data : List UInt8}

/-! ### Without an interruption -/

@[simp] theorem run_readFile (path : List UInt8) (files : Files File) :
    (fs.readFile path).run files = (files, fs.read path files) := run_access_id ..

@[simp] theorem run_statSize (path : List UInt8) (files : Files File) :
    (fs.statSize path).run files = (files, (files (fs.file path)).map List.length) := run_access_id ..

@[simp] theorem run_writeFile (path data : List UInt8) (files : Files File) :
    (fs.writeFile path data).run files = (fs.write path data files, ()) := by
  unfold FileSystem.writeFile FileSystem.write
  rw [CellProgram.run, run_done]
  split
  · rfl
  · rw [Function.update_eq_self]

@[simp] theorem run_removeFile (path : List UInt8) (files : Files File) :
    (fs.removeFile path).run files = fs.remove path files := by
  have hsame : ∀ contents, files (fs.file path) = contents → Function.update files (fs.file path) contents = files := by
    rintro _ rfl
    exact Function.update_eq_self ..
  unfold FileSystem.removeFile FileSystem.remove
  rw [CellProgram.run, run_done]
  cases hdata : files (fs.file path) with
  | none => rw [ite_self, hsame none hdata]
  | some data =>
    cases herror : fs.removeError (fs.file path) with
    | none => rfl
    | some errno => rw [if_neg (Option.some_ne_none errno), hsame _ hdata]

theorem run_setDeviceRecordProgram (udid record : List UInt8) :
    (setDeviceRecordProgram lib fs udid record).run files = configSetDeviceRecord lib fs udid record files := by
  unfold setDeviceRecordProgram configSetDeviceRecord
  split
  · rfl
  · cases lib.parseRecord record with
    | none => rfl
    | some plist => simp only [plistWriteToFilename, run_bind, run_removeFile, run_writeFile, run_pure]

theorem run_pairRecordProgram (recordId : List UInt8) :
    (pairRecordProgram lib fs recordId).run files = (files, pairRecordAnswer lib fs recordId files) := by
  unfold pairRecordProgram pairRecordAnswer configGetDeviceRecord
  rw [run_bind, run_readFile]
  dsimp only
  cases fs.read (fs.deviceRecordFile recordId) files with
  | none => rfl
  | some record => rfl

/-- The commands for pairing records, without an interruption. -/
theorem run_program (r : PairRequest) : (r.program lib fs).run files = r.serve lib fs files := by
  unfold PairRequest.program PairRequest.serve
  cases r.kind with
  | readPairRecord =>
    dsimp only
    cases r.command.getStringVal "PairRecordID" with
    | none => rfl
    | some id => exact run_pairRecordProgram _
  | savePairRecord =>
    dsimp only
    by_cases hbundle : r.command.getStringVal "BundleID" = some (cstr "org.libimobiledevice.usbmuxd")
    · rw [if_pos hbundle, if_pos hbundle]
      cases r.command.getStringVal "PairRecordID" with
      | none => rfl
      | some id =>
        cases r.command.getItem "PairRecordData" with
        | none => rfl
        | some node =>
          cases node with
          | data record =>
            dsimp only
            rw [run_bind, run_setDeviceRecordProgram]
            rfl
          | _ => rfl
    · rw [if_neg hbundle, if_neg hbundle]
      rfl
  | deletePairRecord =>
    dsimp only
    cases r.command.getStringVal "PairRecordID" with
    | none => rfl
    | some id =>
      dsimp only
      rw [run_bind, removeDeviceRecordProgram, run_removeFile]
      rfl

/-! ### Dictionaries -/

section Dictionaries

variable {items : List (String × Plist)} {other : String}

theorem find?_eraseP (h : other ≠ key) :
    (items.eraseP (·.1 = key)).find? (·.1 = other) = items.find? (·.1 = other) := by
  induction items with
  | nil => rfl
  | cons item rest ih =>
    by_cases hitem : item.1 = key
    · rw [List.eraseP_cons_of_pos (by simpa using hitem), List.find?_cons_of_neg (by simp [hitem, h.symm])]
    · rw [List.eraseP_cons_of_neg (by simpa using hitem), List.find?_cons, List.find?_cons, ih]

theorem find?_replaceF (h : items.any (·.1 = key)) (value : Plist) (other : String) :
    (items.replaceF (itemInPlace key value)).find? (·.1 = other) =
      if other = key then some (key, value) else items.find? (·.1 = other) := by
  induction items with
  | nil => cases h
  | cons item rest ih =>
    by_cases hitem : item.1 = key
    · have hplace : itemInPlace key value item = some (key, value) := if_pos hitem
      rw [List.replaceF_cons_of_some _ hplace]
      by_cases hother : other = key
      · rw [if_pos hother, List.find?_cons_of_pos (by simp [hother])]
      · rw [if_neg hother, List.find?_cons_of_neg (by simpa using Ne.symm hother),
          List.find?_cons_of_neg (by simpa [hitem] using Ne.symm hother)]
    · have hplace : itemInPlace key value item = none := if_neg hitem
      have hrest : rest.any (·.1 = key) := by simpa [hitem] using h
      rw [List.replaceF_cons_of_none _ hplace, List.find?_cons, ih hrest]
      by_cases hother : other = key
      · rw [if_pos hother, hother]
        simp [hitem]
      · rw [if_neg hother, if_neg hother, List.find?_cons]

/-- A value that is put into a dictionary is found in it. -/
theorem getItem_setItem (value : Plist) (other : String) :
    ((Plist.dict items).setItem key value).getItem other =
      if other = key then some value else (Plist.dict items).getItem other := by
  unfold Plist.setItem
  dsimp only
  by_cases hany : items.any (·.1 = key)
  · rw [if_pos hany, Plist.getItem, find?_replaceF hany]
    split <;> rfl
  · rw [if_neg hany, Plist.getItem, List.find?_append]
    by_cases hother : other = key
    · subst hother
      have hnone : items.find? (·.1 = other) = none :=
        List.find?_eq_none.mpr fun item hmem hitem => hany (List.any_eq_true.mpr ⟨item, hmem, hitem⟩)
      rw [hnone, if_pos rfl]
      simp
    · rw [if_neg hother]
      simp [Plist.getItem, Ne.symm hother]

theorem getItem_removeItem (h : other ≠ key) :
    ((Plist.dict items).removeItem key).getItem other = (Plist.dict items).getItem other := by
  rw [Plist.removeItem, Plist.getItem, find?_eraseP h]
  rfl

end Dictionaries

/-! ### The configuration in use -/

/-- The configuration in use. -/
def FileSystem.configInUse (fs : FileSystem File) (files : Files File) : List UInt8 :=
  if (files (fs.file localConfigFile)).any (!·.isEmpty) then localConfigFile else fs.configFile

/-- The property list in it. -/
def configNow (lib : PlistLibrary) (fs : FileSystem File) (files : Files File) : Option Plist :=
  (fs.read (fs.configInUse files) files).bind lib.parseFile

/-- A value in it. -/
def configValue (lib : PlistLibrary) (fs : FileSystem File) (files : Files File) (key : String) : Option Plist :=
  (configNow lib fs files).bind (·.getItem key)

/-- What is written to set a value. -/
def withValue (key : String) (value : Plist) : Option Plist → Plist
  | none => (Plist.dict []).setItem key value
  | some config => (config.removeItem key).setItem key value

/-- A value can be stored. -/
structure Storable (lib : PlistLibrary) (fs : FileSystem File) (files : Files File) (key : String) (value : Plist) :
    Prop where
  readable : fs.readable (fs.file (fs.configInUse files))
  writable : fs.writable (fs.file (fs.configInUse files))
  dict : ∀ config ∈ configNow lib fs files, ∃ items, config = .dict items
  written : lib.toXml (withValue key value (configNow lib fs files)) ≠ []
  parsed : lib.parseFile (lib.toXml (withValue key value (configNow lib fs files))) =
    some (withValue key value (configNow lib fs files))

theorem any_length {contents : Option (List UInt8)} :
    (contents.map List.length).any (· ≠ 0) = contents.any (!·.isEmpty) := by
  cases contents with
  | none => rfl
  | some data => cases data <;> simp

theorem run_configHasLocalConfig :
    (configHasLocalConfig fs).run files = (files, (files (fs.file localConfigFile)).any (!·.isEmpty)) := by
  unfold configHasLocalConfig
  rw [run_bind, run_statSize, run_pure, any_length]

theorem run_internalGetValue (path : List UInt8) (key : String) : (internalGetValue lib fs path key).run files =
    (files, ((fs.read path files).bind lib.parseFile).bind (·.getItem key)) := by
  unfold internalGetValue plistReadFromFilename
  simp only [run_bind, run_readFile, run_pure]

theorem run_configGetValue (key : String) :
    (configGetValue lib fs key).run files = (files, configValue lib fs files key) := by
  unfold configGetValue
  rw [run_bind, run_configHasLocalConfig]
  exact run_internalGetValue ..

/-- What is in the files after a value has been set. -/
theorem run_configSetValue (key : String) (value : Plist) : ((configSetValue lib fs key value).run files).1 =
    fs.write (fs.configInUse files) (lib.toXml (withValue key value (configNow lib fs files)))
      (match configNow lib fs files with
        | none => files
        | some _ => (fs.remove (fs.configInUse files) files).1) := by
  unfold configSetValue internalSetValue plistReadFromFilename plistWriteToFilename
  rw [run_bind, run_configHasLocalConfig, run_bind]
  simp only [run_bind, run_readFile, run_pure]
  change ((match configNow lib fs files with | none => _ | some config => _ : FileProgram File Unit).run files).1 = _
  cases configNow lib fs files with
  | none => exact congrArg Prod.fst (run_writeFile ..)
  | some config =>
    simp only [run_bind, run_removeFile, run_writeFile]
    rfl

/-- What is written does not depend on whether the file has been removed before. -/
theorem write_remove (hwritable : fs.writable (fs.file path)) (data : List UInt8) {before : Files File}
    (h : before = files ∨ before = (fs.remove path files).1) :
    fs.write path data before = Function.update files (fs.file path) (some data) := by
  unfold FileSystem.write
  rw [if_pos hwritable]
  obtain rfl | rfl := h
  · rfl
  · unfold FileSystem.remove
    split
    · rfl
    · rfl
    · exact Function.update_idem ..

/-- A value that can be stored is in the file. -/
theorem Storable.run (h : Storable lib fs files key value) : ((configSetValue lib fs key value).run files).1 =
    Function.update files (fs.file (fs.configInUse files))
      (some (lib.toXml (withValue key value (configNow lib fs files)))) := by
  rw [run_configSetValue]
  apply write_remove h.writable
  split
  · exact .inl rfl
  · exact .inr rfl

/-- The file in use stays in use when it is written. -/
theorem file_configInUse_update (hdata : data ≠ []) : fs.file (fs.configInUse
    (Function.update files (fs.file (fs.configInUse files)) (some data))) = fs.file (fs.configInUse files) := by
  by_cases hlocal : fs.file localConfigFile = fs.file (fs.configInUse files)
  · have hthere : fs.configInUse (Function.update files (fs.file (fs.configInUse files)) (some data)) =
        localConfigFile := by
      rw [FileSystem.configInUse, if_pos]
      rw [hlocal, Function.update_self]
      simpa using hdata
    rw [hthere, hlocal]
  · unfold FileSystem.configInUse at hlocal ⊢
    split at hlocal
    · exact absurd rfl hlocal
    · rename_i hnone
      rw [if_neg hnone, if_neg]
      rwa [Function.update_of_ne hlocal]

theorem Storable.configNow (h : Storable lib fs files key value) :
    configNow lib fs ((configSetValue lib fs key value).run files).1 =
      some (withValue key value (Usbmuxd.configNow lib fs files)) := by
  rw [h.run, Usbmuxd.configNow, FileSystem.read, file_configInUse_update h.written, if_pos h.readable,
    Function.update_self, Option.filter_some, if_pos (by simpa using h.written)]
  exact h.parsed

omit [DecidableEq File] in
/-- A value is found in what is written. -/
theorem Storable.getItem (h : Storable lib fs files key value) (other : String) :
    (withValue key value (Usbmuxd.configNow lib fs files)).getItem other =
      if other = key then some value else configValue lib fs files other := by
  have hdict := h.dict
  unfold configValue
  cases hnow : Usbmuxd.configNow lib fs files with
  | none => exact @getItem_setItem key [] value other
  | some config =>
    obtain ⟨items, rfl⟩ := hdict config hnow
    have hset := @getItem_setItem key (items.eraseP (·.1 = key)) value other
    by_cases hother : other = key
    · rw [if_pos hother] at hset ⊢
      exact hset
    · rw [if_neg hother] at hset ⊢
      exact hset.trans (getItem_removeItem hother)

/-- A value that is stored is found again; no other value of the configuration, and no other file, changes. -/
theorem config_value_kept (h : Storable lib fs files key value) (other : String) :
    ((configGetValue lib fs other).run ((configSetValue lib fs key value).run files).1).2 =
        (if other = key then some value else ((configGetValue lib fs other).run files).2) ∧
      ∀ f ≠ fs.file (fs.configInUse files), ((configSetValue lib fs key value).run files).1 f = files f := by
  rw [run_configGetValue, run_configGetValue]
  refine ⟨?_, fun f hf => ?_⟩
  · rw [configValue, h.configNow]
    exact h.getItem other
  · rw [h.run, Function.update_of_ne hf]

/-! ### A UUID -/

/-- Where a UUID has its dashes. -/
def IsDash (i : ℕ) : Prop := i = 8 ∨ i = 13 ∨ i = 18 ∨ i = 23

/-- The form of what `config_generate_uuid` makes up: `8-4-4-4-12` digits. -/
structure IsUuid (s : List UInt8) : Prop where
  length : s.length = 36
  dash : ∀ i < 36, IsDash i → s.getD i 0 = 0x2d
  digit : ∀ i < 36, ¬ IsDash i → s.getD i 0 ∈ uuidChars

theorem length_uuidLoop (draw : ℕ → ℕ) (n i k : ℕ) : (uuidLoop draw n i k).length = n := by
  induction n generalizing i k with
  | zero => rfl
  | succ n ih =>
    unfold uuidLoop
    split
    · rw [List.length_cons, ih]
    · rw [List.length_cons, ih]

/-- What the loop makes up, from index `i` on. -/
theorem getD_uuidLoop (draw : ℕ → ℕ) {n j : ℕ} (hj : j < n) (i k : ℕ) :
    (IsDash (i + j) → (uuidLoop draw n i k).getD j 0 = 0x2d) ∧
      (¬ IsDash (i + j) → (uuidLoop draw n i k).getD j 0 ∈ uuidChars) := by
  induction n generalizing i j k with
  | zero => cases hj
  | succ n ih =>
    unfold uuidLoop
    cases j with
    | zero =>
      split
      · rename_i hdash
        exact ⟨fun _ => rfl, fun hnot => absurd hdash hnot⟩
      · rename_i hdash
        refine ⟨fun hyes => absurd hyes hdash, fun _ => ?_⟩
        have hlength : uuidChars.length = 16 := by decide +kernel
        have hindex : getRand (draw k) 0 16 < uuidChars.length := by
          rw [hlength]
          exact Nat.mod_lt _ (by decide)
        rw [List.getD_cons_zero, List.getD_eq_getElem _ _ hindex]
        exact List.getElem_mem hindex
    | succ j =>
      have hindex : i + (j + 1) = i + 1 + j := by omega
      rw [hindex]
      split
      · exact ih (Nat.lt_of_succ_lt_succ hj) (i + 1) k
      · exact ih (Nat.lt_of_succ_lt_succ hj) (i + 1) (k + 1)

/-- Whatever `rand` returns. -/
theorem isUuid_configGenerateUuid (draw : ℕ → ℕ) : IsUuid (configGenerateUuid draw) where
  length := length_uuidLoop ..
  dash i hi hdash := (getD_uuidLoop draw hi 0 0).1 ((Nat.zero_add i).symm ▸ hdash)
  digit i hi hdigit := (getD_uuidLoop draw hi 0 0).2 ((Nat.zero_add i).symm ▸ hdigit)

/-! ### Many threads -/

section Keeps

variable {good : File → Option (List UInt8) → Prop}

omit [DecidableEq File] in
/-- A file that is not changed is read. -/
theorem keeps_readFile (h : ∀ contents, good (fs.file path) contents → contents = files (fs.file path)) :
    (fs.readFile path).Keeps good (· = fs.read path files) := by
  rintro contents hgood
  cases h contents hgood
  exact ⟨hgood, rfl⟩

omit [DecidableEq File] in
theorem keeps_access {Answer : Type} {f : File} {answer : Option (List UInt8) → Answer} :
    (CellProgram.access f id fun contents => .done (answer contents)).Keeps good fun _ => True :=
  fun _ hgood => ⟨hgood, trivial⟩

omit [DecidableEq File] in
/-- A file of which nothing is required may be written. -/
theorem keeps_writeFile (h : ∀ contents, good (fs.file path) contents) (data : List UInt8) :
    (fs.writeFile path data).Keeps good fun _ => True :=
  fun _ _ => ⟨h _, trivial⟩

omit [DecidableEq File] in
theorem keeps_removeFile (h : ∀ contents, good (fs.file path) contents) :
    (fs.removeFile path).Keeps good fun _ => True :=
  fun _ _ => ⟨h _, trivial⟩

/-- What is required of the files: the one in use and the local one, which would be in use if it were there, are not
changed. -/
def KeepsConfig (fs : FileSystem File) (files : Files File) (f : File) (contents : Option (List UInt8)) : Prop :=
  f = fs.file localConfigFile ∨ f = fs.file (fs.configInUse files) → contents = files f

omit [DecidableEq File] in
theorem keeps_configHasLocalConfig : (configHasLocalConfig fs).Keeps (KeepsConfig fs files)
    (· = (files (fs.file localConfigFile)).any (!·.isEmpty)) := by
  rintro contents hgood
  cases hgood (.inl rfl)
  exact ⟨hgood, any_length⟩

omit [DecidableEq File] in
theorem keeps_configGetValue (key : String) :
    (configGetValue lib fs key).Keeps (KeepsConfig fs files) (· = configValue lib fs files key) := by
  refine keeps_configHasLocalConfig.bind ?_
  rintro _ rfl
  have hread : (fs.readFile (fs.configInUse files)).Keeps (KeepsConfig fs files)
      (· = fs.read (fs.configInUse files) files) := keeps_readFile fun _ hgood => hgood (.inr rfl)
  have hnow : (plistReadFromFilename lib fs (fs.configInUse files)).Keeps (KeepsConfig fs files)
      (· = configNow lib fs files) := by
    refine hread.bind ?_
    rintro _ rfl
    exact keeps_pure rfl
  refine hnow.bind ?_
  rintro _ rfl
  exact keeps_pure rfl

omit [DecidableEq File] in
/-- A BUID that is stored is returned. -/
theorem keeps_configGetSystemBuid {buid : List UInt8}
    (hstored : (configValue lib fs files "SystemBUID").bind Plist.stringVal = some buid) (draw : ℕ → ℕ) :
    (configGetSystemBuid lib fs draw).Keeps (KeepsConfig fs files) (· = buid) := by
  refine (keeps_configGetValue "SystemBUID").bind ?_
  rintro _ rfl
  rw [hstored]
  exact keeps_pure rfl

omit [DecidableEq File] in
theorem keeps_internalGetValue (path : List UInt8) (key : String) :
    (internalGetValue lib fs path key).Keeps good fun _ => True := by
  have hread : (plistReadFromFilename lib fs path).Keeps good fun _ => True :=
    keeps_access.bind fun _ _ => keeps_pure trivial
  exact hread.bind fun _ _ => keeps_pure trivial

omit [DecidableEq File] in
theorem keeps_hostId (udid : List UInt8) :
    (configDeviceRecordGetHostId lib fs udid).Keeps (KeepsConfig fs files) fun _ => True := by
  have hrecord : (configDeviceRecordGetValue lib fs udid "HostID").Keeps (KeepsConfig fs files) fun _ => True :=
    keeps_internalGetValue _ _
  refine hrecord.bind fun value _ => ?_
  cases value.bind Plist.stringVal with
  | some hostId => exact keeps_pure trivial
  | none => exact (keeps_configGetValue "HostID").bind fun _ _ => keeps_pure trivial

omit [DecidableEq File] in
theorem keeps_setDeviceRecord {udid : List UInt8} (h : ∀ contents, good (fs.recordFile udid) contents)
    (record : List UInt8) : (setDeviceRecordProgram lib fs udid record).Keeps good fun _ => True := by
  unfold setDeviceRecordProgram
  split
  · exact keeps_pure trivial
  · split
    · exact keeps_pure trivial
    · refine (keeps_removeFile h).bind fun _ _ => ?_
      exact (keeps_writeFile h _).bind fun _ _ => keeps_pure trivial

/-- A call takes no pairing record away from a file, nor puts one there. -/
def ConfCall.Spares (fs : FileSystem File) (f : File) : ConfCall → Prop
  | .removeDeviceRecord udid => fs.recordFile udid ≠ f
  | .pair r => r.kind = .readPairRecord ∨ ∀ id ∈ r.command.getStringVal "PairRecordID", fs.recordFile id ≠ f
  | _ => True

/-- What a call does as long as nothing happens to the configuration. -/
structure ConfCall.Harmless (fs : FileSystem File) (files : Files File) (call : ConfCall) : Prop where
  localConfig : call.Spares fs (fs.file localConfigFile)
  inUse : call.Spares fs (fs.file (fs.configInUse files))

omit [DecidableEq File] in
theorem keepsConfig_free {udid : List UInt8} (hlocal : fs.recordFile udid ≠ fs.file localConfigFile)
    (huse : fs.recordFile udid ≠ fs.file (fs.configInUse files)) (contents : Option (List UInt8)) :
    KeepsConfig fs files (fs.recordFile udid) contents := by
  rintro (h | h)
  · exact absurd h hlocal
  · exact absurd h huse

omit [DecidableEq File] in
theorem keeps_pair {r : PairRequest} (h : (ConfCall.pair r).Harmless fs files) :
    (r.program lib fs).Keeps (KeepsConfig fs files) fun _ => True := by
  have hfree : r.kind ≠ .readPairRecord → ∀ id ∈ r.command.getStringVal "PairRecordID", ∀ contents,
      KeepsConfig fs files (fs.recordFile id) contents := by
    intro hkind id hid
    obtain hlocal | hlocal := h.localConfig
    · exact absurd hlocal hkind
    · obtain huse | huse := h.inUse
      · exact absurd huse hkind
      · exact keepsConfig_free (hlocal id hid) (huse id hid)
  unfold PairRequest.program
  cases hkind : r.kind with
  | readPairRecord =>
    dsimp only
    split
    · exact keeps_pure trivial
    · refine Keeps.bind keeps_access fun record _ => ?_
      cases record with
      | none => exact keeps_pure trivial
      | some record => exact keeps_pure trivial
  | savePairRecord =>
    dsimp only
    split
    · split
      · rename_i id record hid _
        exact (keeps_setDeviceRecord (hfree (by rw [hkind]; nofun) id hid) record).bind fun _ _ => keeps_pure trivial
      · exact keeps_pure trivial
    · exact keeps_pure trivial
  | deletePairRecord =>
    dsimp only
    split
    · rename_i id hid
      exact (keeps_removeFile (hfree (by rw [hkind]; nofun) id hid)).bind fun _ _ => keeps_pure trivial
    · exact keeps_pure trivial

omit [DecidableEq File] in
/-- A call that does nothing to the configuration keeps it, and finds the BUID that is stored. -/
theorem ConfCall.Harmless.keeps {call : ConfCall} (h : call.Harmless fs files) {buid : List UInt8}
    (hstored : (configValue lib fs files "SystemBUID").bind Plist.stringVal = some buid) :
    (call.program lib fs).Keeps (KeepsConfig fs files) fun answer => ∀ b, answer = .systemBuid b → b = buid := by
  cases call with
  | systemBuid draw =>
    refine (keeps_configGetSystemBuid hstored draw).bind ?_
    rintro _ rfl
    exact keeps_pure (by rintro _ ⟨⟩; rfl)
  | hostId udid => exact (keeps_hostId udid).bind fun _ _ => keeps_pure nofun
  | hasDeviceRecord udid =>
    have hstat : (configHasDeviceRecord fs udid).Keeps (KeepsConfig fs files) fun _ => True :=
      keeps_access.bind fun _ _ => keeps_pure trivial
    exact hstat.bind fun _ _ => keeps_pure nofun
  | hasLocalConfig => exact keeps_configHasLocalConfig.bind fun _ _ => keeps_pure nofun
  | removeDeviceRecord udid =>
    exact (keeps_removeFile (keepsConfig_free h.localConfig h.inUse)).bind fun _ _ => keeps_pure nofun
  | pair r => exact (keeps_pair h).bind fun _ _ => keeps_pure nofun

end Keeps

/-- What a thread does. -/
inductive ConfAction (Thread : Type*) where
  | call (t : Thread) (call : ConfCall)
  /-- The next operation on a file, or the return. -/
  | step (t : Thread)

/-- The same, with what the calls do. -/
def ConfAction.onFiles {Thread : Type*} (lib : PlistLibrary) (fs : FileSystem File) :
    ConfAction Thread → CellAction Thread File (Option (List UInt8)) ConfAnswer
  | .call t c => .call t (c.program lib fs)
  | .step t => .step t

/-- The system BUID is the one that is stored, or one made up and then stored. -/
theorem run_configGetSystemBuid {draw : ℕ → ℕ}
    (hstore : (configValue lib fs files "SystemBUID").bind Plist.stringVal = none →
      Storable lib fs files "SystemBUID" (.string (configGenerateUuid draw))) :
    let first := (configGetSystemBuid lib fs draw).run files
    ((configValue lib fs files "SystemBUID").bind Plist.stringVal = some first.2 ∨
        (configValue lib fs files "SystemBUID").bind Plist.stringVal = none ∧ IsUuid first.2) ∧
      (configValue lib fs first.1 "SystemBUID").bind Plist.stringVal = some first.2 := by
  unfold configGetSystemBuid
  rw [run_bind, run_configGetValue]
  dsimp only
  cases hvalue : (configValue lib fs files "SystemBUID").bind Plist.stringVal with
  | some buid => exact ⟨.inl rfl, hvalue⟩
  | none =>
    have h := hstore hvalue
    dsimp only
    rw [run_bind, run_pure]
    refine ⟨.inr ⟨rfl, isUuid_configGenerateUuid draw⟩, ?_⟩
    have hfound := h.getItem "SystemBUID"
    rw [if_pos rfl] at hfound
    change (configValue lib fs ((configSetValue lib fs "SystemBUID" _).run files).1 "SystemBUID").bind _ = _
    rw [configValue, h.configNow, Option.bind_some, hfound]
    rfl

/-- Once a call for the system BUID has returned alone, all calls agree on it, however many threads there are and
however their operations on the files are interleaved, unless a pairing record is stored in, or deleted from, the file
of the configuration. The BUID is the one that was stored, or else a UUID. -/
theorem system_buid_settled {Thread : Type*} [DecidableEq Thread] {draw : ℕ → ℕ} {actions : List (ConfAction Thread)}
    (hstore : (configValue lib fs files "SystemBUID").bind Plist.stringVal = none →
      Storable lib fs files "SystemBUID" (.string (configGenerateUuid draw)))
    (hharmless : ∀ t call, .call t call ∈ actions → call.Harmless fs ((configGetSystemBuid lib fs draw).run files).1) :
    let first := (configGetSystemBuid lib fs draw).run files
    ((configValue lib fs files "SystemBUID").bind Plist.stringVal = some first.2 ∨
        (configValue lib fs files "SystemBUID").bind Plist.stringVal = none ∧ IsUuid first.2) ∧
      ∀ buid, .systemBuid buid ∈ ((CellScene.start first.1).run (actions.map (·.onFiles lib fs))).answers →
        buid = first.2 := by
  obtain ⟨hfirst, hstored⟩ := run_configGetSystemBuid hstore
  refine ⟨hfirst, fun buid hanswer => ?_⟩
  generalize (configGetSystemBuid lib fs draw).run files = first at *
  have hstart : CellScene.Kept (KeepsConfig fs first.1) (fun answer => ∀ b, answer = .systemBuid b → b = first.2)
      (CellScene.start first.1 : CellScene Thread File _ ConfAnswer) := .start fun _ _ => rfl
  refine (hstart.run fun t program hmem => ?_).answers _ hanswer buid rfl
  obtain ⟨action, haction, heq⟩ := List.mem_map.mp hmem
  cases action with
  | call t' call =>
    cases heq
    exact (hharmless _ call haction).keeps hstored
  | step t' => cases heq

/-! ### The first calls -/

section First

/-- What stands before a BUID in the XML of a configuration, without the lines in front of the plist. -/
def beforeBuid : List UInt8 := cstr "<plist><dict><key>SystemBUID</key><string>"

/-- What stands behind it. -/
def behindBuid : List UInt8 := cstr "</string></dict></plist>"

/-- The plist library on configurations with nothing but a BUID. -/
def buidLibrary : PlistLibrary where
  fromXml xml :=
    let buid := (xml.drop beforeBuid.length).take (xml.length - beforeBuid.length - behindBuid.length)
    if beforeBuid ++ buid ++ behindBuid = xml then some (.dict [("SystemBUID", .string buid)]) else none
  fromBin _ := none
  toXml p := match p.getItem "SystemBUID" with
    | some (.string buid) => beforeBuid ++ buid ++ behindBuid
    | _ => []

theorem buidLibrary_parses (buid : List UInt8) :
    buidLibrary.parseFile (beforeBuid ++ buid ++ behindBuid) = some (.dict [("SystemBUID", .string buid)]) := by
  have htake : (beforeBuid ++ buid ++ behindBuid).take 8 = cstr "<plist><" := by
    rw [List.append_assoc, List.take_append_of_le_length (by decide +kernel)]
    decide +kernel
  have hcut : ((beforeBuid ++ buid ++ behindBuid).drop beforeBuid.length).take
      ((beforeBuid ++ buid ++ behindBuid).length - beforeBuid.length - behindBuid.length) = buid := by
    rw [List.append_assoc, List.drop_left, List.length_append, List.length_append, Nat.add_sub_cancel_left,
      Nat.add_sub_cancel, List.take_left]
  unfold PlistLibrary.parseFile
  rw [htake, if_neg fun h => absurd h.2 (by decide +kernel)]
  unfold buidLibrary
  dsimp only
  rw [hcut, if_pos rfl]

/-- A directory without files. -/
def noFiles : Files (List UInt8) := fun _ => none

/-- The first BUID can be stored. -/
theorem storable_first (buid : List UInt8) :
    Storable buidLibrary plainFiles noFiles "SystemBUID" (.string buid) where
  readable := rfl
  writable := rfl
  dict _ h := nomatch h
  written h := by
    have hlength := congrArg List.length h
    change (beforeBuid ++ buid ++ behindBuid).length = 0 at hlength
    rw [List.length_append, List.length_append] at hlength
    exact absurd (Nat.add_eq_zero_iff.mp hlength).2 (by decide +kernel)
  parsed := buidLibrary_parses buid

/-- The first value is found again. -/
theorem config_value_kept_first : ((configGetValue buidLibrary plainFiles "SystemBUID").run
    ((configSetValue buidLibrary plainFiles "SystemBUID" (.string (cstr "A"))).run noFiles).1).2 =
      some (.string (cstr "A")) :=
  (config_value_kept (storable_first (cstr "A")) "SystemBUID").1

/-- Two threads ask for the BUID. -/
def twoCalls : List (ConfAction ℕ) :=
  [.call 0 (.systemBuid fun _ => 1), .call 1 (.systemBuid fun _ => 2), .step 0, .step 1, .step 0, .step 1, .step 0,
    .step 1, .step 0, .step 1, .step 0, .step 1, .step 0, .step 1]

/-- They are told the one that has been stored before. -/
theorem system_buid_settled_twice :
    ConfAnswer.systemBuid (cstr "AAAAAAAA-AAAA-AAAA-AAAA-AAAAAAAAAAAA") ∈
        ((CellScene.start ((configGetSystemBuid buidLibrary plainFiles fun _ => 0).run noFiles).1).run
          (twoCalls.map (·.onFiles buidLibrary plainFiles))).answers ∧
      cstr "AAAAAAAA-AAAA-AAAA-AAAA-AAAAAAAAAAAA" =
        ((configGetSystemBuid buidLibrary plainFiles fun _ => 0).run noFiles).2 := by
  have hmem : ConfAnswer.systemBuid (cstr "AAAAAAAA-AAAA-AAAA-AAAA-AAAAAAAAAAAA") ∈
      ((CellScene.start ((configGetSystemBuid buidLibrary plainFiles fun _ => 0).run noFiles).1).run
        (twoCalls.map (·.onFiles buidLibrary plainFiles))).answers := by decide +kernel
  refine ⟨hmem, (system_buid_settled (fun _ => storable_first _) (fun t call hcall => ?_)).2 _ hmem⟩
  simp only [twoCalls, List.mem_cons, ConfAction.call.injEq, reduceCtorEq, List.not_mem_nil, or_false] at hcall
  obtain ⟨-, rfl⟩ | ⟨-, rfl⟩ := hcall
  · exact ⟨trivial, trivial⟩
  · exact ⟨trivial, trivial⟩

/-- If no BUID has been stored before, each makes up its own. -/
example : ((CellScene.start noFiles).run (twoCalls.map (·.onFiles buidLibrary plainFiles))).answers =
    [.systemBuid (configGenerateUuid fun _ => 1), .systemBuid (configGenerateUuid fun _ => 2)] := by decide +kernel

end First

end Usbmuxd
