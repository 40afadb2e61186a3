import Diorama.Card.Document
import Diorama.OpenCard

/-!
# Cards on display as JSON

Rectangles, hotspots and snapshots for whoever watches a card from outside. Coordinates are written by a
writer that the watcher chooses; movie slots and the hotspots of a snapshot are rows without keys.
-/

namespace Diorama

open Json

section

variable {R : Type} (coordinate : R → Json)

/-- A rectangle of the window as a row. -/
def Rect.toJson (rect : Rect R) : Json :=
  .array (List.map coordinate [rect.x, rect.y, rect.width, rect.height])

/-- A rectangle of the card as a row. -/
def CardRect.toJson (rect : CardRect R) : Json :=
  .array (List.map coordinate [rect.left, rect.top, rect.right, rect.bottom])

/-- A hotspot of an open card as JSON. -/
def Hotspot.toJson (hotspot : Hotspot R) : Json :=
  .record [("index", .word hotspot.index), ("id", .word hotspot.id), ("name", .text hotspot.name),
    ("describe", .text hotspot.describe), ("cursor", .word hotspot.cursor),
    ("enabled", .bool hotspot.enabled), ("rect", hotspot.rect.toJson coordinate),
    ("world", hotspot.frame.toJson coordinate)]

end

/-- A move of the pointer as a row. -/
def HotspotMove.toJson : HotspotMove → Json
  | .exited index => .array [.text "exit", .word index]
  | .entered index => .array [.text "enter", .word index]

def CardVisual.toJson (visual : CardVisual) : Json :=
  .record [("picture", .orNull (visual.picture.map Picture.toJson)),
    ("sound_group", .orNull (visual.soundGroup.map Json.word)),
    ("movies", .array (visual.movies.entries.map fun slot =>
      .array [.word slot.1, .word slot.2.movie.movie, .bool slot.2.enabled, .bool slot.2.playing])),
    ("cursor", .orNull (visual.cursor.map Json.word))]

def CardFrame.toJson (coordinate : Float32 → Json) (frame : CardFrame) : Json :=
  .record [("location", frame.location.toJson), ("name", .text frame.name),
    ("generation", .nat frame.generation), ("visual", frame.visual.toJson),
    ("hotspots", .array (frame.hotspots.map fun hotspot =>
      .array [.word hotspot.id, .bool hotspot.enabled, hotspot.frame.toJson coordinate]))]

/-- An open card as JSON: what it shows, the hotspots that are enabled, and whether its snapshot is out
of date. -/
def OpenCard.toJson (card : OpenCard) : Json :=
  .record [("location", .text card.location.text), ("name", .text card.record.name),
    ("visual", card.visual.toJson), ("needs_publish", .bool card.needsPublish),
    ("enabled", .words (card.hotspots.active.map (·.id)))]

end Diorama
