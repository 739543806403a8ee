import Usbmuxd.Model.Command

/-!
# Pairing records

The functions of `conf.cpp` that keep the pairing records, one file for each device identifier
in the configuration directory, and what the three pair-record commands of `client.cpp` do to
these files and answer.

## The model

The file system is not part of the program. It is a `FileSystem`: which file a path names, and
which operations on a file fail. Two paths may name the same file. What is in the files is a
function `Files`, and `buffer_read_from_filename`, `plist_write_to_filename` and `remove` look
at it or change it at one place. The plist library is a `PlistLibrary` with the two parsers and
the writer of XML. `config_create_config_dir` changes no file and is left out, and so are short
reads.

`PairRequest.serve` is a pair-record command on the files, on a disk with room for all that is
written; `storeDeviceRecord` and `savePairRecord` are the same for a disk that may be full. The handlers of
`Usbmuxd.Model.Command` have `conf.cpp` as a parameter; `Env.withRecords` is the outside in
which this parameter is the code of this module.
-/

namespace Usbmuxd

open World

/-- The file system of the host. -/
structure FileSystem (File : Type*) where
  /-- What `config_get_config_dir` returns. -/
  configDir : List UInt8
  /-- The file that a path names. -/
  file : List UInt8 → File
  /-- Whether `fopen` of an existing file for reading succeeds. -/
  readable : File → Bool
  /-- Whether `fopen` for writing succeeds. -/
  writable : File → Bool
  /-- The `errno` with which the `remove` of an existing file fails. -/
  removeError : File → Option UInt32

/-- The contents of all files that exist. -/
abbrev Files (File : Type*) := File → Option (List UInt8)

/-- The plist library. -/
structure PlistLibrary where
  /-- `plist_from_xml`. -/
  fromXml : List UInt8 → Option Plist
  /-- `plist_from_bin`. -/
  fromBin : List UInt8 → Option Plist
  /-- `plist_to_xml`. -/
  toXml : Plist → List UInt8

variable {File : Type*} [DecidableEq File]

/-! ### Files -/

/-- `buffer_read_from_filename`, which takes an empty file for a missing one. -/
def FileSystem.read (fs : FileSystem File) (path : List UInt8) (files : Files File) : Option (List UInt8) :=
  if fs.readable (fs.file path) then (files (fs.file path)).filter (!·.isEmpty) else none

/-- `plist_write_to_filename` as XML. That the file could not be opened is not reported. -/
def FileSystem.write (fs : FileSystem File) (path data : List UInt8) (files : Files File) : Files File :=
  if fs.writable (fs.file path) then Function.update files (fs.file path) (some data) else files

/-- `remove`, with the `errno` it leaves, `0` for success. -/
def FileSystem.remove (fs : FileSystem File) (path : List UInt8) (files : Files File) : Files File × UInt32 :=
  match files (fs.file path), fs.removeError (fs.file path) with
  | none, _ => (files, enoent)
  | some _, some errno => (files, errno)
  | some _, none => (Function.update files (fs.file path) none, 0)

/-! ### Records -/

/-- The path of the record of a device, `CONFIG_EXT` at its end. -/
def FileSystem.deviceRecordFile (fs : FileSystem File) (udid : List UInt8) : List UInt8 :=
  fs.configDir ++ cstr "\\" ++ udid ++ cstr ".plist"

/-- The dictionary that `record_data` parses to. -/
def PlistLibrary.parseRecord (lib : PlistLibrary) (record : List UInt8) : Option Plist :=
  match (if record.take 8 = cstr "bplist00" then lib.fromBin record else lib.fromXml record) with
  | some (.dict items) => some (.dict items)
  | _ => none

/-- `config_set_device_record`, with its error. -/
def configSetDeviceRecord (lib : PlistLibrary) (fs : FileSystem File) (udid record : List UInt8) (files : Files File) :
    Files File × UInt32 :=
  if record.length < 8 then (files, einval)
  else
    match lib.parseRecord record with
    | none => (files, einval)
    | some plist =>
      (fs.write (fs.deviceRecordFile udid) (lib.toXml plist) (fs.remove (fs.deviceRecordFile udid) files).1, 0)

/-- `config_get_device_record`. -/
def configGetDeviceRecord (fs : FileSystem File) (udid : List UInt8) (files : Files File) : Option (List UInt8) :=
  fs.read (fs.deviceRecordFile udid) files

/-- `config_remove_device_record`, with its error. -/
def configRemoveDeviceRecord (fs : FileSystem File) (udid : List UInt8) (files : Files File) : Files File × UInt32 :=
  fs.remove (fs.deviceRecordFile udid) files

/-! ### Commands -/

/-- What a pair-record command is answered with. -/
inductive PairAnswer where
  | result (res : UInt32)
  | record (data : List UInt8)
  /-- No answer: `strstr` is called on `NULL`. -/
  | fault
  deriving DecidableEq

/-- Whether a pair record parses to a dictionary without its required keys. -/
def PlistLibrary.partialRecord (lib : PlistLibrary) (record : List UInt8) : Bool :=
  match lib.fromXml record with
  | none => false
  | some p => (p.getItem "DeviceCertificate").isNone || (p.getItem "HostID").isNone || (p.getItem "SystemBUID").isNone

/-- `send_pair_record`. -/
def pairRecordAnswer (lib : PlistLibrary) (fs : FileSystem File) (recordId : List UInt8) (files : Files File) :
    PairAnswer :=
  match configGetDeviceRecord fs recordId files with
  | none => .result enoent
  | some record => if lib.partialRecord record then .result enoent else .record record

/-- The `MessageType` of the pair-record commands. -/
inductive PairCommand where
  | readPairRecord
  | savePairRecord
  | deletePairRecord
  deriving DecidableEq

/-- A pair-record command of a client. -/
structure PairRequest where
  kind : PairCommand
  command : Plist

/-- What the handler of a pair-record command does to the files, and its answer. -/
def PairRequest.serve (lib : PlistLibrary) (fs : FileSystem File) (r : PairRequest) (files : Files File) :
    Files File × PairAnswer :=
  match r.kind with
  | .readPairRecord =>
    match r.command.getStringVal "PairRecordID" with
    | none => (files, .fault)
    | some id => (files, pairRecordAnswer lib fs (dropDash id) files)
  | .savePairRecord =>
    if r.command.getStringVal "BundleID" = some (cstr "org.libimobiledevice.usbmuxd") then
      match r.command.getStringVal "PairRecordID", r.command.getItem "PairRecordData" with
      | some id, some (.data record) =>
        ((configSetDeviceRecord lib fs id record files).1, .result (configSetDeviceRecord lib fs id record files).2)
      | _, _ => (files, .result einval)
    else (files, .result resultOk)
  | .deletePairRecord =>
    match r.command.getStringVal "PairRecordID" with
    | some id => ((configRemoveDeviceRecord fs id files).1, .result (configRemoveDeviceRecord fs id files).2)
    | none => (files, .result einval)

/-- The files after some commands. -/
def serveAll (lib : PlistLibrary) (fs : FileSystem File) (files : Files File) (requests : List PairRequest) :
    Files File :=
  requests.foldl (fun files r => (r.serve lib fs files).1) files

/-! ### A full disk -/

/-- `plist_write_to_filename` on a disk with room for some bytes: neither `fopen` nor `fwrite` is looked at. -/
def FileSystem.writeSome (fs : FileSystem File) (room : ℕ) (path data : List UInt8) (files : Files File) : Files File :=
  fs.write path (data.take room) files

/-- `config_set_device_record` on such a disk. -/
def storeDeviceRecord (lib : PlistLibrary) (fs : FileSystem File) (room : ℕ) (udid record : List UInt8)
    (files : Files File) : Files File × UInt32 :=
  if record.length < 8 then (files, einval)
  else
    match lib.parseRecord record with
    | none => (files, einval)
    | some plist =>
      (fs.writeSome room (fs.deviceRecordFile udid) (lib.toXml plist) (fs.remove (fs.deviceRecordFile udid) files).1, 0)

/-- What `handle_save_pair_record_command` does to the files on such a disk, and its answer. -/
def savePairRecord (lib : PlistLibrary) (fs : FileSystem File) (room : ℕ) (command : Plist) (files : Files File) :
    Files File × PairAnswer :=
  if command.getStringVal "BundleID" = some (cstr "org.libimobiledevice.usbmuxd") then
    match command.getStringVal "PairRecordID", command.getItem "PairRecordData" with
    | some id, some (.data record) =>
      ((storeDeviceRecord lib fs room id record files).1, .result (storeDeviceRecord lib fs room id record files).2)
    | _, _ => (files, .result einval)
  else (files, .result resultOk)

/-! ### The handlers -/

/-- The outside whose pairing records are in these files. -/
def Env.withRecords (env : Env) (lib : PlistLibrary) (fs : FileSystem File) (files : Files File) : Env where
  __ := env
  plistFromXml := lib.fromXml
  getDeviceRecord _ id := configGetDeviceRecord fs id files
  setDeviceRecord _ id record := (configSetDeviceRecord lib fs id record files).2
  removeDeviceRecord _ id := (configRemoveDeviceRecord fs id files).2

/-- The outside whose pairing records are stored on a disk that may be full. -/
def Env.withRoom (env : Env) (lib : PlistLibrary) (fs : FileSystem File) (room : ℕ) (files : Files File) : Env where
  __ := env
  setDeviceRecord _ id record := (storeDeviceRecord lib fs room id record files).2

/-- The handler of a pair-record command. -/
def PairRequest.handle (r : PairRequest) (env : Env) (c : Ptr) (hdr : UsbmuxdHeader) : World → World :=
  match r.kind with
  | .readPairRecord => handleReadPairRecordCommand env c hdr r.command
  | .savePairRecord => handleSavePairRecordCommand env c hdr r.command
  | .deletePairRecord => handleDeletePairRecordCommand env c hdr r.command

/-- The answer goes to the client. -/
def PairAnswer.send (env : Env) (c : Ptr) (tag : UInt32) : PairAnswer → World → World
  | .result res, w => (sendResult env c tag res w).1
  | .record data, w => (sendPlistPkt env c tag (.dict [("PairRecordData", .data data)]) w).1
  | .fault, w => w.emit (.fault .nullString)

end Usbmuxd
