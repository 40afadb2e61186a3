import Diorama.Geometry

/-!
# Hotspots of an open card

The regions of a card that answer the pointer, in the order the author gave them. Where regions
overlap, the first enabled one is hit. Each hotspot keeps the rectangle of the window in which it
appears; it is worked out when the card opens and whenever the window changes its size, and hit
testing does not use it: a pointer is taken back to the card and tested there.

The tracker remembers which hotspot the pointer is in, at most one. Moving it yields the exit from the
old hotspot before the entry into the new one.
-/

namespace Diorama

/-- A hotspot of an open card. -/
structure Hotspot (R : Type) where
  index : UInt16
  id : UInt16
  rect : CardRect R
  cursor : UInt16
  name : String
  scripts : List Handler
  frame : Rect R
  enabled : Bool

variable {R : Type} [Coordinate R]

namespace Hotspot

/-- The hotspot of a record, at some place of the table. -/
def ofRecord (mapper : Mapper R) (index : Nat) (record : HotspotRecord) : Hotspot R :=
  let rect := CardRect.ofPixels record.rect
  { index := index.toUInt16, id := record.id, rect, cursor := record.cursor, name := record.name,
    scripts := record.scripts, frame := mapper.toWindow rect, enabled := record.enabled }

omit [Coordinate R] in
/-- The hotspot as it appears in the event log: its id, and its name if it has one. -/
def describe (hotspot : Hotspot R) : String :=
  if hotspot.name.isEmpty then s!"{hotspot.id}" else s!"{hotspot.id} {hotspot.name}"

omit [Coordinate R] in
def script? (hotspot : Hotspot R) (event : UInt16) : Option (List Command) :=
  Handler.find? hotspot.scripts event

end Hotspot

/-- The hotspots of one card. -/
structure HotspotTable (R : Type) where
  hotspots : List (Hotspot R)

namespace HotspotTable

def ofRecords (mapper : Mapper R) (records : List HotspotRecord) : HotspotTable R :=
  ⟨records.mapIdx (Hotspot.ofRecord mapper)⟩

/-- The table after the window has changed its size. -/
def resize (table : HotspotTable R) (mapper : Mapper R) : HotspotTable R :=
  ⟨table.hotspots.map fun hotspot => { hotspot with frame := mapper.toWindow hotspot.rect }⟩

omit [Coordinate R] in
/-- The hotspot at a place of the table. -/
def get? (table : HotspotTable R) (index : UInt16) : Option (Hotspot R) :=
  table.hotspots[index.toNat]?

omit [Coordinate R] in
/-- The first hotspot with an id. -/
def find? (table : HotspotTable R) (id : UInt16) : Option (Hotspot R) :=
  table.hotspots.find? (·.id == id)

omit [Coordinate R] in
/-- Enables or disables the first hotspot with an id, if there is one. -/
def setEnabled? (table : HotspotTable R) (id : UInt16) (enabled : Bool) : Option (HotspotTable R) :=
  match table.hotspots.findIdx? (·.id == id) with
  | some place => some ⟨table.hotspots.modify place fun hotspot => { hotspot with enabled }⟩
  | none => none

omit [Coordinate R] in
def active (table : HotspotTable R) : List (Hotspot R) :=
  table.hotspots.filter (·.enabled)

/-- The first enabled hotspot at a point of the card. -/
def hit? (table : HotspotTable R) (point : Point R) : Option (Hotspot R) :=
  table.active.find? (·.rect.contains point)

/-- The first enabled hotspot at a point of the window. -/
def hitWindow? (table : HotspotTable R) (mapper : Mapper R) (point : Point R) :
    Option (Hotspot R) :=
  table.hit? (mapper.pointToCard point)

end HotspotTable

/-- A move of the pointer out of a hotspot or into one, by its place in the table. -/
inductive HotspotMove where
  | exited (index : UInt16)
  | entered (index : UInt16)
  deriving DecidableEq, Repr

/-- The hotspot that the pointer is in. -/
structure HotspotTracker where
  active : Option UInt16 := none
  deriving DecidableEq, Repr

namespace HotspotTracker

/-- The moves that take the pointer to `next`: out of the old hotspot, then into the new one. -/
def moves (tracker : HotspotTracker) (next : Option UInt16) : List HotspotMove :=
  if next = tracker.active then []
  else (tracker.active.map HotspotMove.exited).toList ++ (next.map HotspotMove.entered).toList

/-- The tracker when the pointer is in `next`. -/
def moveTo (_ : HotspotTracker) (next : Option UInt16) : HotspotTracker :=
  ⟨next⟩

end HotspotTracker

end Diorama
