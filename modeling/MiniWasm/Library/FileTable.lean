import Mathlib.Logic.Function.Basic
import Mathlib.Tactic.Common

/-!
# Files and cursors

One string of bytes for each file, and for each open descriptor a file, a position in it
and whether sequential writes append.  Any number of descriptors may be open on one file.
A write past the end leaves a gap that reads as zero.
-/

namespace MiniWasm.Library

/-! ## Strings of bytes -/

/-- At most `count` bytes from a position on. -/
def slice (bytes : List UInt8) (start count : Nat) : List UInt8 :=
  (bytes.drop start).take count

/-- The byte at a position, zero where there is none. -/
def byteAt (bytes : List UInt8) (position : Nat) : UInt8 :=
  bytes[position]?.getD 0

/-- The first bytes, padded with zeros to the length. -/
def resized (bytes : List UInt8) (length : Nat) : List UInt8 :=
  (List.range length).map (byteAt bytes)

/-- The payload from a position on, and the old bytes elsewhere. -/
def patched (bytes : List UInt8) (start : Nat) (payload : List UInt8) : List UInt8 :=
  (List.range (max bytes.length (start + payload.length))).map fun position =>
    if start ≤ position ∧ position < start + payload.length then
      byteAt payload (position - start)
    else byteAt bytes position

theorem getElem?_resized (bytes : List UInt8) (length position : Nat) :
    (resized bytes length)[position]? =
      if position < length then some (byteAt bytes position) else none := by
  rw [resized, List.getElem?_map]
  split_ifs with inside
  · rw [List.getElem?_range inside]
    rfl
  · rw [List.getElem?_eq_none (by simpa using inside)]
    rfl

theorem getElem?_patched (bytes : List UInt8) (start : Nat) (payload : List UInt8)
    (position : Nat) :
    (patched bytes start payload)[position]? =
      if position < max bytes.length (start + payload.length) then
        some
          (if start ≤ position ∧ position < start + payload.length then
            byteAt payload (position - start)
          else byteAt bytes position)
      else none := by
  rw [patched, List.getElem?_map]
  split_ifs with inside
  · rw [List.getElem?_range inside, Option.map_some, if_pos ‹_›]
  · rw [List.getElem?_range inside, Option.map_some, if_neg ‹_›]
  · rw [List.getElem?_eq_none (by simpa using inside)]
    rfl

/-! ## Tables -/

/-- An open descriptor. -/
structure Cursor (ι : Type) where
  file : ι
  position : Nat
  append : Bool

/-- Files named by `ι` and descriptors named by `δ`. -/
structure FileTable (ι δ : Type) where
  contents : ι → List UInt8
  cursors : δ → Option (Cursor ι)

namespace FileTable

variable {ι δ : Type} [DecidableEq ι] [DecidableEq δ] (table : FileTable ι δ)

def setContents (file : ι) (bytes : List UInt8) : FileTable ι δ :=
  { table with contents := Function.update table.contents file bytes }

def setCursor (descriptor : δ) (cursor : Cursor ι) : FileTable ι δ :=
  { table with cursors := Function.update table.cursors descriptor (some cursor) }

/-- At most `count` bytes of the file, from a position on. -/
def bytesAt (cursor : Cursor ι) (offset count : Nat) : List UInt8 :=
  slice (table.contents cursor.file) offset count

/-- A sequential write lands at the end of the file or at the cursor. -/
def landing (cursor : Cursor ι) : Nat :=
  if cursor.append then (table.contents cursor.file).length else cursor.position

/-- What a position is relative to: the start, the cursor or the end. -/
def origin (cursor : Cursor ι) : (whence : Nat) → Option Nat
  | 0 => some 0
  | 1 => some cursor.position
  | 2 => some (table.contents cursor.file).length
  | _ => none

end FileTable

/-! ## Events -/

/-- What happens to a table, with the answers that are given. -/
inductive FileEvent (ι δ : Type) where
  | idle
  | read (descriptor : δ) (room : Nat) (bytes : List UInt8)
  | readAt (descriptor : δ) (offset room : Nat) (bytes : List UInt8)
  | write (descriptor : δ) (payload : List UInt8)
  | writeAt (descriptor : δ) (offset : Nat) (payload : List UInt8)
  | seek (descriptor : δ) (whence : Nat) (delta : Int) (position : Nat)
  | tell (descriptor : δ) (position : Nat)
  | resize (descriptor : δ) (length : Nat)
  | reserve (descriptor : δ) (length : Nat)
  | mark (descriptor : δ) (append : Bool)
  | opens (descriptor : δ) (file : ι) (append emptied : Bool)

namespace FileTable

variable {ι δ : Type} [DecidableEq ι] [DecidableEq δ]

/-- The events that a table admits, and what they leave.  Positioned events keep every
cursor, and nothing happens in a write of no bytes. -/
inductive Step (table : FileTable ι δ) : FileEvent ι δ → FileTable ι δ → Prop where
  | idle : Step table .idle table
  | read {descriptor : δ} {cursor : Cursor ι} {room : Nat} {bytes : List UInt8}
      (opened : table.cursors descriptor = some cursor)
      (taken : bytes = table.bytesAt cursor cursor.position room) :
      Step table (.read descriptor room bytes)
        (table.setCursor descriptor { cursor with position := cursor.position + bytes.length })
  | readAt {descriptor : δ} {cursor : Cursor ι} {offset room : Nat} {bytes : List UInt8}
      (opened : table.cursors descriptor = some cursor)
      (taken : bytes = table.bytesAt cursor offset room) :
      Step table (.readAt descriptor offset room bytes) table
  | writeNothing {descriptor : δ} {cursor : Cursor ι}
      (opened : table.cursors descriptor = some cursor) :
      Step table (.write descriptor []) table
  | write {descriptor : δ} {cursor : Cursor ι} {payload : List UInt8}
      (opened : table.cursors descriptor = some cursor) (nonempty : payload ≠ []) :
      Step table (.write descriptor payload)
        ((table.setContents cursor.file
            (patched (table.contents cursor.file) (table.landing cursor) payload)).setCursor
          descriptor { cursor with position := table.landing cursor + payload.length })
  | writeNothingAt {descriptor : δ} {cursor : Cursor ι} {offset : Nat}
      (opened : table.cursors descriptor = some cursor) :
      Step table (.writeAt descriptor offset []) table
  | writeAt {descriptor : δ} {cursor : Cursor ι} {offset : Nat} {payload : List UInt8}
      (opened : table.cursors descriptor = some cursor) (nonempty : payload ≠ []) :
      Step table (.writeAt descriptor offset payload)
        (table.setContents cursor.file (patched (table.contents cursor.file) offset payload))
  | seek {descriptor : δ} {cursor : Cursor ι} {whence base position : Nat} {delta : Int}
      (opened : table.cursors descriptor = some cursor)
      (relative : table.origin cursor whence = some base)
      (moved : (position : Int) = base + delta) :
      Step table (.seek descriptor whence delta position)
        (table.setCursor descriptor { cursor with position })
  | tell {descriptor : δ} {cursor : Cursor ι}
      (opened : table.cursors descriptor = some cursor) :
      Step table (.tell descriptor cursor.position) table
  | resize {descriptor : δ} {cursor : Cursor ι} {length : Nat}
      (opened : table.cursors descriptor = some cursor) :
      Step table (.resize descriptor length)
        (table.setContents cursor.file (resized (table.contents cursor.file) length))
  | reserve {descriptor : δ} {cursor : Cursor ι} {length : Nat}
      (opened : table.cursors descriptor = some cursor) :
      Step table (.reserve descriptor length)
        (table.setContents cursor.file
          (resized (table.contents cursor.file)
            (max (table.contents cursor.file).length length)))
  | mark {descriptor : δ} {cursor : Cursor ι} {append : Bool}
      (opened : table.cursors descriptor = some cursor) :
      Step table (.mark descriptor append) (table.setCursor descriptor { cursor with append })
  | opens {descriptor : δ} {file : ι} {append : Bool}
      (free : table.cursors descriptor = none) :
      Step table (.opens descriptor file append false)
        (table.setCursor descriptor { file, position := 0, append })
  | opensEmpty {descriptor : δ} {file : ι} {append : Bool}
      (free : table.cursors descriptor = none) :
      Step table (.opens descriptor file append true)
        ((table.setContents file []).setCursor descriptor { file, position := 0, append })

/-- One event after the other. -/
inductive Run : FileTable ι δ → List (FileEvent ι δ) → FileTable ι δ → Prop where
  | nil {table : FileTable ι δ} : Run table [] table
  | cons {table next final : FileTable ι δ} {event : FileEvent ι δ}
      {events : List (FileEvent ι δ)} (step : Step table event next)
      (rest : Run next events final) : Run table (event :: events) final

end FileTable

end MiniWasm.Library
