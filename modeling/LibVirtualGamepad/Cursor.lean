import Mathlib.Algebra.Order.Ring.Int
import Mathlib.Data.Int.Bitwise
import Mathlib.Tactic.Common

namespace LibVirtualGamepad

-- The bookkeeping of a ring that lives in a fixed array: where its oldest entry
-- is and how many entries are waiting. Several arrays may share one cursor.
structure Cursor (capacity : Nat) where
  head : Fin capacity
  count : Nat
  count_le : count ≤ capacity

namespace Cursor

variable {capacity : Nat} {α : Type*}

-- The cell that holds the entry `i` places behind the oldest one.
def slot (cursor : Cursor capacity) (i : Nat) : Fin capacity :=
  ⟨(cursor.head + i) % capacity, Nat.mod_lt _ cursor.head.pos⟩

def full (cursor : Cursor capacity) : Bool := cursor.count == capacity

-- Forget the oldest entry.
def pop (cursor : Cursor capacity) : Cursor capacity where
  head := cursor.slot 1
  count := cursor.count - 1
  count_le := Nat.le_trans (Nat.sub_le _ _) cursor.count_le

-- Forget the newest entry.
def shrink (cursor : Cursor capacity) : Cursor capacity where
  head := cursor.head
  count := cursor.count - 1
  count_le := Nat.le_trans (Nat.sub_le _ _) cursor.count_le

-- Count one more entry at the tail. Callers make room first, so the guard is
-- never taken; without it the count could leave its range.
def push (cursor : Cursor capacity) : Cursor capacity :=
  if room : cursor.count < capacity then
    { head := cursor.head, count := cursor.count + 1, count_le := room }
  else
    cursor

def clear (cursor : Cursor capacity) : Cursor capacity where
  head := cursor.head
  count := 0
  count_le := Nat.zero_le _

def read (cursor : Cursor capacity) (cells : Vector α capacity) (i : Nat) : α :=
  cells[cursor.slot i]

def write (cursor : Cursor capacity) (cells : Vector α capacity) (i : Nat) (value : α) :
    Vector α capacity :=
  cells.set (cursor.slot i).val value (cursor.slot i).isLt

-- The waiting entries of one array, oldest first.
def view (cursor : Cursor capacity) (cells : Vector α capacity) : List α :=
  (List.range cursor.count).map (cursor.read cells)

-- Close the gap at `i` by moving the `steps` entries behind it one place forward.
def shift (cursor : Cursor capacity) (cells : Vector α capacity) (i : Nat) : Nat → Vector α capacity
  | 0 => cells
  | steps + 1 => cursor.shift (cursor.write cells i (cursor.read cells (i + 1))) (i + 1) steps

end Cursor

end LibVirtualGamepad
