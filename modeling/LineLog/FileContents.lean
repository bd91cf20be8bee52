import LineLog.Bytes

/-!
# Contents of files

The contents of a file are kept in extents: bytes that have been written, and
holes, which read as zero bytes however long they are.  `toBytes` is what is
read.  The laws at the end say what setting the length and overwriting do to it;
nothing else has to be known of the extents.
-/

namespace LineLog

/-- A piece of the contents of a file. -/
inductive Extent where
  | written (bytes : Bytes)
  | hole (length : Nat)
  deriving DecidableEq, Repr

namespace Extent

def toBytes : Extent → Bytes
  | written bytes => bytes
  | hole length => List.replicate length 0

def length : Extent → Nat
  | written bytes => bytes.length
  | hole length => length

/-- The front of an extent. -/
def take (count : Nat) : Extent → Extent
  | written bytes => written (bytes.take count)
  | hole length => hole (min count length)

/-- An extent without its front. -/
def drop (count : Nat) : Extent → Extent
  | written bytes => written (bytes.drop count)
  | hole length => hole (length - count)

/-- The hole of a length, if there is something to it. -/
def holeOf (length : Nat) : List Extent :=
  if length = 0 then [] else [hole length]

/-- The first bytes of some extents. -/
def takeAll (count : Nat) : List Extent → List Extent
  | [] => []
  | extent :: rest =>
      if count = 0 then []
      else if extent.length ≤ count then extent :: takeAll (count - extent.length) rest
      else [extent.take count]

/-- Some extents without their first bytes. -/
def dropAll (count : Nat) : List Extent → List Extent
  | [] => []
  | extent :: rest =>
      if count = 0 then extent :: rest
      else if extent.length ≤ count then dropAll (count - extent.length) rest
      else extent.drop count :: rest

/-- What several extents read as. -/
def readAll (extents : List Extent) : Bytes :=
  extents.flatMap toBytes

@[simp]
theorem length_toBytes (extent : Extent) : extent.toBytes.length = extent.length := by
  cases extent <;> simp [toBytes, length]

@[simp]
theorem toBytes_take (count : Nat) (extent : Extent) :
    (extent.take count).toBytes = extent.toBytes.take count := by
  cases extent <;> simp [toBytes, take]

@[simp]
theorem toBytes_drop (count : Nat) (extent : Extent) :
    (extent.drop count).toBytes = extent.toBytes.drop count := by
  cases extent <;> simp [toBytes, drop]

@[simp]
theorem readAll_append (first second : List Extent) :
    readAll (first ++ second) = readAll first ++ readAll second := by
  simp [readAll]

@[simp]
theorem readAll_holeOf (length : Nat) : readAll (holeOf length) = List.replicate length 0 := by
  by_cases h : length = 0 <;> simp [holeOf, readAll, toBytes, h]

@[simp]
theorem readAll_takeAll (count : Nat) (extents : List Extent) :
    readAll (takeAll count extents) = (readAll extents).take count := by
  induction extents generalizing count with
  | nil => simp [readAll, takeAll]
  | cons extent rest ih =>
      have hrest := ih (count - extent.length)
      simp only [readAll, List.flatMap_cons] at hrest ⊢
      unfold takeAll
      split
      · simp [*]
      · split
        · next hle =>
          have hwhole : extent.toBytes.take count = extent.toBytes :=
            List.take_of_length_le (by simpa using hle)
          rw [List.take_append, List.flatMap_cons, hrest, length_toBytes, hwhole]
        · next hgt =>
          rw [List.take_append_of_le_length (by simp; omega)]
          simp

@[simp]
theorem readAll_dropAll (count : Nat) (extents : List Extent) :
    readAll (dropAll count extents) = (readAll extents).drop count := by
  induction extents generalizing count with
  | nil => simp [readAll, dropAll]
  | cons extent rest ih =>
      have hrest := ih (count - extent.length)
      simp only [readAll, List.flatMap_cons] at hrest ⊢
      unfold dropAll
      split
      · simp [*]
      · split
        · next hle =>
          have hnone : extent.toBytes.drop count = [] :=
            List.drop_of_length_le (by simpa using hle)
          rw [List.drop_append, hrest, length_toBytes, hnone, List.nil_append]
        · next hgt =>
          rw [List.drop_append_of_le_length (by simp; omega)]
          simp

end Extent

structure FileContents where
  extents : List Extent
  deriving DecidableEq, Repr

namespace FileContents

def empty : FileContents where
  extents := []

/-- What is read from the file. -/
def toBytes (contents : FileContents) : Bytes :=
  Extent.readAll contents.extents

def length (contents : FileContents) : Nat :=
  contents.extents.foldr (fun extent length => extent.length + length) 0

/-- The contents cut, or filled with zero bytes, to exactly `length`. -/
def resize (length : Nat) (contents : FileContents) : FileContents where
  extents := Extent.takeAll length contents.extents ++ Extent.holeOf (length - contents.length)

/-- The contents with `bytes` in the place of what was from `position` on.  What
is between the end and the position is filled. -/
def overwrite (position : Nat) (bytes : Bytes) (contents : FileContents) : FileContents where
  extents :=
    (contents.resize position).extents ++
      .written bytes :: Extent.dropAll (position + bytes.length) contents.extents

@[simp]
theorem toBytes_empty : empty.toBytes = [] := rfl

@[simp]
theorem length_empty : empty.length = 0 := rfl

@[simp]
theorem length_toBytes (contents : FileContents) :
    contents.toBytes.length = contents.length := by
  obtain ⟨extents⟩ := contents
  induction extents with
  | nil => rfl
  | cons extent others ih =>
      simp only [toBytes, Extent.readAll, length, List.flatMap_cons, List.length_append,
        Extent.length_toBytes, List.foldr_cons] at ih ⊢
      rw [ih]

@[simp]
theorem toBytes_resize (length : Nat) (contents : FileContents) :
    (contents.resize length).toBytes =
      contents.toBytes.take length ++ List.replicate (length - contents.length) 0 := by
  simp [resize, toBytes]

@[simp]
theorem length_resize (length : Nat) (contents : FileContents) :
    (contents.resize length).length = length := by
  have h := congrArg List.length (toBytes_resize length contents)
  simp only [length_toBytes, List.length_append, List.length_take, List.length_replicate] at h
  omega

/-- Setting the length to what it is changes nothing. -/
theorem toBytes_resize_length (contents : FileContents) :
    (contents.resize contents.length).toBytes = contents.toBytes := by
  rw [toBytes_resize, ← length_toBytes, List.take_length, Nat.sub_self]
  simp

@[simp]
theorem toBytes_overwrite (position : Nat) (bytes : Bytes) (contents : FileContents) :
    (contents.overwrite position bytes).toBytes =
      (contents.resize position).toBytes ++ bytes ++
        contents.toBytes.drop (position + bytes.length) := by
  simp only [overwrite, toBytes, Extent.readAll_append, List.append_assoc]
  congr 1
  rw [← Extent.readAll_dropAll]
  simp [Extent.readAll, Extent.toBytes]

/-- Writing at the end appends. -/
theorem toBytes_overwrite_length (bytes : Bytes) (contents : FileContents) :
    (contents.overwrite contents.length bytes).toBytes = contents.toBytes ++ bytes := by
  rw [toBytes_overwrite, toBytes_resize_length,
    List.drop_of_length_le (by rw [length_toBytes]; omega), List.append_nil]

end FileContents

end LineLog
