import Usbmuxd.Model.Conf
import Usbmuxd.Foundation.Cells

/-!
# The configuration of the host

The functions of `conf.cpp` about the identifiers of the host: the system BUID, which is made up at random when there
is none, and the host identifiers. They are kept in a property list, `LOCAL_CONFIG_FILE` if there is one and
`SystemConfiguration.plist` in the configuration directory if not, beside the pairing records.

## The model

The main thread calls these functions for its clients and each preflight thread for its device, and `conf.cpp` has no
lock. So a call is a `FileProgram`, which names its operations on files one after the other, and those of several
calls may be interleaved. The functions of `Usbmuxd.Model.Conf` are the same calls without an interruption.

* `configGetValue`, `configSetValue` — a value of the configuration in use.
* `configGetSystemBuid`, `configGenerateUuid` — the values of `rand` are a function `draw`.
* `configDeviceRecordGetHostId`, `configHasDeviceRecord` — what preflight threads ask for.
* `PairRequest.program` — the commands for pairing records.
* `ConfCall` — one of these calls, and `ConfAnswer` its answer.

An operation on a file is one step: between the `fopen` and the `fclose` of a write no other thread looks at the file.
All files are regular ones, and `stat` finds those that exist.
-/

namespace Usbmuxd

/-! ### Operations on files -/

/-- A call that works on the files. -/
abbrev FileProgram (File : Type*) := CellProgram File (Option (List UInt8))

variable {File : Type*}

/-- `stat`, with `st_size`. -/
def FileSystem.statSize (fs : FileSystem File) (path : List UInt8) : FileProgram File (Option ℕ) :=
  .access (fs.file path) id fun contents => .done (contents.map List.length)

/-- `buffer_read_from_filename`, as one step. -/
def FileSystem.readFile (fs : FileSystem File) (path : List UInt8) : FileProgram File (Option (List UInt8)) :=
  .access (fs.file path) id fun contents =>
    .done (if fs.readable (fs.file path) then contents.filter (!·.isEmpty) else none)

/-- `buffer_write_to_filename`, as one step. -/
def FileSystem.writeFile (fs : FileSystem File) (path data : List UInt8) : FileProgram File Unit :=
  .access (fs.file path) (fun contents => if fs.writable (fs.file path) then some data else contents) fun _ => .done ()

/-- `remove`, as one step. -/
def FileSystem.removeFile (fs : FileSystem File) (path : List UInt8) : FileProgram File UInt32 :=
  .access (fs.file path) (fun contents => if fs.removeError (fs.file path) = none then none else contents)
    fun contents => .done <|
      match contents, fs.removeError (fs.file path) with
      | none, _ => enoent
      | some _, some errno => errno
      | some _, none => 0

/-! ### Dictionaries -/

/-- `plist_dict_remove_item`: the first one with the key. -/
def Plist.removeItem : Plist → String → Plist
  | .dict items, key => .dict (items.eraseP (·.1 = key))
  | p, _ => p

/-- An item with this value in the place of one with the key. -/
def itemInPlace (key : String) (value : Plist) (item : String × Plist) : Option (String × Plist) :=
  if item.1 = key then some (key, value) else none

/-- `plist_dict_set_item`: in the place of the first one with the key, or at the end. Nothing is done to what is not a
dictionary. -/
def Plist.setItem : Plist → String → Plist → Plist
  | .dict items, key, value =>
    if items.any (·.1 = key) then .dict (items.replaceF (itemInPlace key value)) else .dict (items ++ [(key, value)])
  | p, _, _ => p

/-! ### Values -/

/-- `LOCAL_CONFIG_FILE`. -/
def localConfigFile : List UInt8 := cstr "etc\\LockdownConfiguration.plist"

/-- The path of `CONFIG_FILE`. -/
def FileSystem.configFile (fs : FileSystem File) : List UInt8 :=
  fs.configDir ++ cstr "\\" ++ cstr "SystemConfiguration" ++ cstr ".plist"

/-- `config_has_local_config`. -/
def configHasLocalConfig (fs : FileSystem File) : FileProgram File Bool := do
  let size ← fs.statSize localConfigFile
  return size.any (· ≠ 0)

/-- What `plist_read_from_filename` makes of the contents of a file. -/
def PlistLibrary.parseFile (lib : PlistLibrary) (buffer : List UInt8) : Option Plist :=
  if 8 < buffer.length ∧ buffer.take 8 = cstr "bplist00" then lib.fromBin buffer else lib.fromXml buffer

/-- `plist_read_from_filename`. -/
def plistReadFromFilename (lib : PlistLibrary) (fs : FileSystem File) (path : List UInt8) :
    FileProgram File (Option Plist) := do
  let buffer ← fs.readFile path
  return buffer.bind lib.parseFile

/-- `plist_write_to_filename` as XML. -/
def plistWriteToFilename (lib : PlistLibrary) (fs : FileSystem File) (path : List UInt8) (plist : Plist) :
    FileProgram File Unit := fs.writeFile path (lib.toXml plist)

/-- `internal_get_value`. -/
def internalGetValue (lib : PlistLibrary) (fs : FileSystem File) (path : List UInt8) (key : String) :
    FileProgram File (Option Plist) := do
  let config ← plistReadFromFilename lib fs path
  return config.bind (·.getItem key)

/-- `internal_set_value`. -/
def internalSetValue (lib : PlistLibrary) (fs : FileSystem File) (path : List UInt8) (key : String) (value : Plist) :
    FileProgram File Unit := do
  let config ← plistReadFromFilename lib fs path
  match config with
  | none => plistWriteToFilename lib fs path ((Plist.dict []).setItem key value)
  | some config =>
    let config := (config.removeItem key).setItem key value
    let _ ← fs.removeFile path
    plistWriteToFilename lib fs path config

/-- `config_get_value`. -/
def configGetValue (lib : PlistLibrary) (fs : FileSystem File) (key : String) : FileProgram File (Option Plist) := do
  let hasLocal ← configHasLocalConfig fs
  internalGetValue lib fs (if hasLocal then localConfigFile else fs.configFile) key

/-- `config_set_value`. -/
def configSetValue (lib : PlistLibrary) (fs : FileSystem File) (key : String) (value : Plist) :
    FileProgram File Unit := do
  let hasLocal ← configHasLocalConfig fs
  internalSetValue lib fs (if hasLocal then localConfigFile else fs.configFile) key value

/-! ### Identifiers -/

/-- `get_rand`, for the value of `rand`. -/
def getRand (draw min max : ℕ) : ℕ := draw % (max - min) + min

/-- The characters of a UUID. -/
def uuidChars : List UInt8 := cstr "ABCDEF0123456789"

/-- The loop of `config_generate_uuid`, from index `i` on; `k` numbers have been drawn. -/
def uuidLoop (draw : ℕ → ℕ) : ℕ → ℕ → ℕ → List UInt8
  | 0, _, _ => []
  | n + 1, i, k =>
    if i = 8 ∨ i = 13 ∨ i = 18 ∨ i = 23 then 0x2d :: uuidLoop draw n (i + 1) k
    else uuidChars.getD (getRand (draw k) 0 16) 0 :: uuidLoop draw n (i + 1) (k + 1)

/-- `config_generate_uuid`. -/
def configGenerateUuid (draw : ℕ → ℕ) : List UInt8 := uuidLoop draw 36 0 0

/-- `config_set_system_buid`. -/
def configSetSystemBuid (lib : PlistLibrary) (fs : FileSystem File) (buid : List UInt8) : FileProgram File Unit :=
  configSetValue lib fs "SystemBUID" (.string buid)

/-- `config_get_system_buid`. -/
def configGetSystemBuid (lib : PlistLibrary) (fs : FileSystem File) (draw : ℕ → ℕ) :
    FileProgram File (List UInt8) := do
  let value ← configGetValue lib fs "SystemBUID"
  match value.bind Plist.stringVal with
  | some buid => return buid
  | none =>
    let buid := configGenerateUuid draw
    configSetSystemBuid lib fs buid
    return buid

/-- `config_device_record_get_value`. -/
def configDeviceRecordGetValue (lib : PlistLibrary) (fs : FileSystem File) (udid : List UInt8) (key : String) :
    FileProgram File (Option Plist) := internalGetValue lib fs (fs.deviceRecordFile udid) key

/-- `config_device_record_get_host_id`. -/
def configDeviceRecordGetHostId (lib : PlistLibrary) (fs : FileSystem File) (udid : List UInt8) :
    FileProgram File (Option (List UInt8)) := do
  let value ← configDeviceRecordGetValue lib fs udid "HostID"
  match value.bind Plist.stringVal with
  | some hostId => return some hostId
  | none =>
    let value ← configGetValue lib fs "HostID"
    return value.bind Plist.stringVal

/-! ### Pairing records -/

/-- `config_has_device_record`. -/
def configHasDeviceRecord (fs : FileSystem File) (udid : List UInt8) : FileProgram File Bool := do
  let size ← fs.statSize (fs.deviceRecordFile udid)
  return size.isSome

/-- `config_set_device_record`. -/
def setDeviceRecordProgram (lib : PlistLibrary) (fs : FileSystem File) (udid record : List UInt8) :
    FileProgram File UInt32 :=
  if record.length < 8 then return einval
  else
    match lib.parseRecord record with
    | none => return einval
    | some plist => do
      let _ ← fs.removeFile (fs.deviceRecordFile udid)
      plistWriteToFilename lib fs (fs.deviceRecordFile udid) plist
      return 0

/-- `config_remove_device_record`. -/
def removeDeviceRecordProgram (fs : FileSystem File) (udid : List UInt8) : FileProgram File UInt32 :=
  fs.removeFile (fs.deviceRecordFile udid)

/-- `send_pair_record`. -/
def pairRecordProgram (lib : PlistLibrary) (fs : FileSystem File) (recordId : List UInt8) :
    FileProgram File PairAnswer := do
  let record ← fs.readFile (fs.deviceRecordFile recordId)
  match record with
  | none => return .result enoent
  | some record => return if lib.partialRecord record then .result enoent else .record record

/-- What the handler of a pair-record command does. -/
def PairRequest.program (lib : PlistLibrary) (fs : FileSystem File) (r : PairRequest) : FileProgram File PairAnswer :=
  match r.kind with
  | .readPairRecord =>
    match r.command.getStringVal "PairRecordID" with
    | none => return .fault
    | some id => pairRecordProgram lib fs (dropDash id)
  | .savePairRecord =>
    if r.command.getStringVal "BundleID" = some (cstr "org.libimobiledevice.usbmuxd") then
      match r.command.getStringVal "PairRecordID", r.command.getItem "PairRecordData" with
      | some id, some (.data record) => return .result (← setDeviceRecordProgram lib fs id record)
      | _, _ => return .result einval
    else return .result resultOk
  | .deletePairRecord =>
    match r.command.getStringVal "PairRecordID" with
    | some id => return .result (← removeDeviceRecordProgram fs id)
    | none => return .result einval

/-! ### Calls -/

/-- What a thread calls. -/
inductive ConfCall where
  /-- `config_get_system_buid`. -/
  | systemBuid (draw : ℕ → ℕ)
  /-- `config_device_record_get_host_id`. -/
  | hostId (udid : List UInt8)
  /-- `config_has_device_record`. -/
  | hasDeviceRecord (udid : List UInt8)
  /-- `config_has_local_config`. -/
  | hasLocalConfig
  /-- `config_remove_device_record`, for a device that is not paired any more. -/
  | removeDeviceRecord (udid : List UInt8)
  /-- A command of a client. -/
  | pair (r : PairRequest)

/-- What it returns. -/
inductive ConfAnswer where
  | systemBuid (buid : List UInt8)
  | hostId (id : Option (List UInt8))
  | hasDeviceRecord (res : Bool)
  | hasLocalConfig (res : Bool)
  | removed (res : UInt32)
  | pair (answer : PairAnswer)
  deriving DecidableEq

/-- What the call does. -/
def ConfCall.program (lib : PlistLibrary) (fs : FileSystem File) : ConfCall → FileProgram File ConfAnswer
  | .systemBuid draw => return .systemBuid (← configGetSystemBuid lib fs draw)
  | .hostId udid => return .hostId (← configDeviceRecordGetHostId lib fs udid)
  | .hasDeviceRecord udid => return .hasDeviceRecord (← configHasDeviceRecord fs udid)
  | .hasLocalConfig => return .hasLocalConfig (← configHasLocalConfig fs)
  | .removeDeviceRecord udid => return .removed (← removeDeviceRecordProgram fs udid)
  | .pair r => return .pair (← r.program lib fs)

end Usbmuxd
