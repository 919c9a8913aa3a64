import Mathlib.Data.List.Basic
import Mathlib.Logic.Function.Basic

/-!
# Binary files

Data is read from a file with a buffer that is just as large as the file.  Whether this succeeded
is decided by whether the stream has seen the end of the file, which it has not if just as many
bytes were asked for as there were.
-/

namespace VoxelEngine.Utility

/-- What is reported to the caller. -/
inductive IoError where
  | createDirectories
  | openFileStream
  | readFile
  | writeFile
  deriving DecidableEq

/-- `write_mode` -/
inductive WriteMode where
  | overwrite
  | append

/-- The files, and what can be done with a path. -/
structure FileSystem (π : Type) where
  contents : π → Option (List UInt8)
  createsDirectories : π → Bool
  opensForReading : π → Bool
  opensForWriting : π → Bool
  writes : π → Bool

/-- `std::ios::seekdir` -/
inductive SeekDir where
  | beg
  | cur
  | ending

/-- `std::ifstream`, once it was opened. -/
structure InputStream where
  content : List UInt8
  position : Nat
  eofbit : Bool
  failbit : Bool
  badbit : Bool

namespace InputStream

/-- A stream at the beginning of a file. -/
def ofContent (content : List UInt8) : InputStream :=
  ⟨content, 0, false, false, false⟩

/-- `std::ios::fail` -/
def fail (stream : InputStream) : Bool :=
  stream.failbit || stream.badbit

/-- `std::ios::good` -/
def good (stream : InputStream) : Bool :=
  !(stream.eofbit || stream.fail)

/-- `std::istream::tellg` -/
def tellg (stream : InputStream) : Int :=
  if stream.fail then -1 else stream.position

/-- The position from which a distance is counted. -/
def origin (stream : InputStream) : SeekDir → Nat
  | .beg => 0
  | .cur => stream.position
  | .ending => stream.content.length

/-- `std::istream::seekg`, which forgets that the end of the file was seen. -/
def seekg (stream : InputStream) (distance : Int) (dir : SeekDir) : InputStream :=
  let cleared := { stream with eofbit := false }
  if cleared.fail then cleared
  else if stream.origin dir + distance < 0 then { cleared with failbit := true }
  else { cleared with position := (stream.origin dir + distance).toNat }

/-- `std::istream::read`, with the bytes that were read.  The end of the file is seen only if there
are fewer bytes than were asked for. -/
def read (stream : InputStream) (count : Nat) : List UInt8 × InputStream :=
  if stream.good then
    let available := stream.content.drop stream.position
    if count ≤ available.length then
      (available.take count, { stream with position := stream.position + count })
    else
      (available,
        { stream with
          position := stream.content.length
          eofbit := true
          failbit := true })
  else ([], { stream with failbit := true })

/-- `detail::get_file_size` -/
def getFileSize (stream : InputStream) : Nat × InputStream :=
  let current := stream.tellg
  let atStart := stream.seekg 0 .beg
  let start := atStart.tellg
  let atEnd := atStart.seekg 0 .ending
  let finish := atEnd.tellg
  ((finish - start).toNat, atEnd.seekg current .beg)

end InputStream

variable {π : Type}

/-- `read_data` -/
def readData (files : FileSystem π) (path : π) : Except IoError (List UInt8) :=
  match files.contents path with
  | none => .error .openFileStream
  | some content =>
      if files.opensForReading path then
        let (size, stream) := (InputStream.ofContent content).getFileSize
        let (result, finished) := stream.read size
        -- The buffer has the size of the file, whatever was read.
        let data := result ++ List.replicate (size - result.length) 0
        if finished.eofbit then .ok data else .error .readFile
      else .error .openFileStream

/-- `write_data` -/
def writeData [DecidableEq π] (files : FileSystem π) (path : π) (data : List UInt8)
    (mode : WriteMode) : Except IoError (FileSystem π) :=
  if files.createsDirectories path then
    if files.opensForWriting path then
      let before := match mode with
        | .overwrite => []
        | .append => (files.contents path).getD []
      if files.writes path then
        .ok { files with contents := Function.update files.contents path (some (before ++ data)) }
      else .error .writeFile
    else .error .openFileStream
  else .error .createDirectories

/-- All operations on a path succeed. -/
structure Usable (files : FileSystem π) (path : π) : Prop where
  createsDirectories : files.createsDirectories path = true
  opensForReading : files.opensForReading path = true
  opensForWriting : files.opensForWriting path = true
  writes : files.writes path = true

/-- Data that is written to a path is read from it. -/
def RoundTrips [DecidableEq π] (files : FileSystem π) (path : π) (data : List UInt8) : Prop :=
  ∃ written, writeData files path data .overwrite = .ok written ∧ readData written path = .ok data

/-! ## Streams -/

theorem seekg_of_not_fail {stream : InputStream} {distance : Int} {dir : SeekDir}
    (works : stream.fail = false) (nonneg : 0 ≤ stream.origin dir + distance) :
    stream.seekg distance dir =
      { stream with eofbit := false, position := (stream.origin dir + distance).toNat } := by
  have stillWorks : ({ stream with eofbit := false } : InputStream).fail = false := works
  rw [InputStream.seekg]
  simp only [stillWorks, Bool.false_eq_true, if_false, if_neg (Int.not_lt.mpr nonneg)]

theorem tellg_of_not_fail {stream : InputStream} (works : stream.fail = false) :
    stream.tellg = stream.position := by
  rw [InputStream.tellg, works, if_neg Bool.false_ne_true]

/-- The size of a file is its length, and the stream is at its beginning again. -/
theorem getFileSize_ofContent (content : List UInt8) :
    (InputStream.ofContent content).getFileSize =
      (content.length, InputStream.ofContent content) := by
  have current : (InputStream.ofContent content).tellg = 0 := rfl
  have atStart : (InputStream.ofContent content).seekg 0 .beg = InputStream.ofContent content := rfl
  have atEnd : (InputStream.ofContent content).seekg 0 .ending =
      { InputStream.ofContent content with position := content.length } :=
    seekg_of_not_fail rfl (Int.natCast_nonneg content.length)
  have finish : ({ InputStream.ofContent content with
      position := content.length } : InputStream).tellg = content.length :=
    tellg_of_not_fail rfl
  have back : ({ InputStream.ofContent content with
      position := content.length } : InputStream).seekg 0 .beg = InputStream.ofContent content :=
    rfl
  rw [InputStream.getFileSize]
  simp only [current, atStart, atEnd, finish, back, Int.sub_zero, Int.toNat_natCast]

/-- All bytes of a file can be read without seeing its end. -/
theorem read_ofContent (content : List UInt8) :
    (InputStream.ofContent content).read content.length =
      (content, { InputStream.ofContent content with position := content.length }) := by
  simp [InputStream.ofContent, InputStream.read, InputStream.good, InputStream.fail]

/-- Every file that can be opened is reported as one that cannot be read. -/
theorem readData_of_opens {files : FileSystem π} {path : π} {content : List UInt8}
    (exists_file : files.contents path = some content)
    (opens : files.opensForReading path = true) : readData files path = .error .readFile := by
  rw [readData, exists_file]
  simp only [opens, if_true, getFileSize_ofContent, read_ofContent]
  rfl

theorem writeData_of_usable [DecidableEq π] {files : FileSystem π} {path : π}
    (usable : Usable files path) (data : List UInt8) :
    writeData files path data .overwrite =
      .ok { files with contents := Function.update files.contents path (some data) } := by
  rw [writeData, if_pos usable.createsDirectories, if_pos usable.opensForWriting]
  simp only [usable.writes, if_true, List.nil_append]

/-- Whatever is written to whatever path, reading it is reported as an error. -/
theorem readData_writeData [DecidableEq π] (files : FileSystem π) (path : π) (data : List UInt8)
    (usable : Usable files path) :
    (∃ written, writeData files path data .overwrite = .ok written ∧
      written.contents path = some data ∧ readData written path = .error .readFile) ∧
    ¬RoundTrips files path data := by
  have written := writeData_of_usable usable data
  have stored : Function.update files.contents path (some data) path = some data :=
    Function.update_self path (some data) files.contents
  have read := @readData_of_opens π
    { files with contents := Function.update files.contents path (some data) } path data stored
    usable.opensForReading
  constructor
  · exact ⟨_, written, stored, read⟩
  · rintro ⟨other, otherWritten, otherRead⟩
    rw [written] at otherWritten
    cases otherWritten
    rw [read] at otherRead
    cases otherRead

/-- No file, and a path with which everything can be done. -/
def emptyDisk : FileSystem Unit :=
  ⟨fun _ => none, fun _ => true, fun _ => true, fun _ => true, fun _ => true⟩

theorem readData_writeData_threeBytes : ¬RoundTrips emptyDisk () [1, 2, 3] :=
  (readData_writeData emptyDisk () [1, 2, 3] ⟨rfl, rfl, rfl, rfl⟩).2

/-- A file of one byte is written, and cannot be read. -/
theorem not_roundTrips_byte :
    Usable emptyDisk () ∧ ¬RoundTrips emptyDisk () [7] := by
  constructor
  · exact ⟨rfl, rfl, rfl, rfl⟩
  · rintro ⟨written, writtenEq, readEq⟩
    cases writtenEq
    cases readEq

end VoxelEngine.Utility
