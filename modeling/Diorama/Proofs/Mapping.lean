import Diorama.Hotspot
import Mathlib.Algebra.Order.Field.Rat
import Mathlib.Tactic.FieldSimp
import Mathlib.Tactic.Linarith
import Mathlib.Tactic.Ring

/-!
# Card and window, exactly

The engine maps with singles, and so up to rounding. What it maps up to rounding is said by the same definitions
over exact fractions. There the two maps of a mapper that shows the card are inverse to one another, on all
rectangles, and a point of the window lies on the card in a rectangle exactly if it lies in the window where this
rectangle is shown (`Mapper.exact`). So a test of the pointer, which is made on the card, finds the hotspot that
is seen under it.

The vertical axis is turned round on the way, and the sides that belong to a rectangle turn round with it. On the
card those are the left and the top; in the window they are the left and, as what is the top of the card lies at
greater heights, the upper one, while the lower side does not belong.
-/

namespace Diorama

open Coordinate

/-! ## Exact arithmetic -/

/-- Fractions, of which every one is finite. -/
instance : Coordinate ℚ where
  ofPixel n := n.toInt
  below a b := decide (a < b)
  atMost a b := decide (a ≤ b)
  finite _ := true
  infinite _ := false

/-- Fractions are compared exactly. -/
theorem below_iff {a b : ℚ} : below a b = true ↔ a < b :=
  decide_eq_true_iff

/-- Both comparisons are exact. -/
theorem atMost_iff {a b : ℚ} : atMost a b = true ↔ a ≤ b :=
  decide_eq_true_iff

theorem zero_eq : (Coordinate.zero : ℚ) = 0 :=
  rfl

/-! ## Frames with area -/

/-- A size has area if both of its sides are positive. -/
theorem Size.isDegenerate_eq_false_iff {size : Size ℚ} :
    size.isDegenerate = false ↔ 0 < size.width ∧ 0 < size.height := by
  have sides : size.isDegenerate = !(below Coordinate.zero size.width && below Coordinate.zero size.height) :=
    (Bool.or_false _).trans (Bool.or_false _)
  rw [sides, Bool.not_eq_false', Bool.and_eq_true, below_iff, below_iff, zero_eq]

/-- A card with area has an area where there is room for one. -/
theorem fittedSize_pos {viewport : Size ℚ} {aspect available : ℚ} (width : 0 < viewport.width) (shape : 0 < aspect)
    (room : 0 < available) :
    0 < (fittedSize viewport aspect available).width ∧ 0 < (fittedSize viewport aspect available).height := by
  unfold fittedSize
  dsimp only
  split_ifs
  · exact ⟨mul_pos room shape, room⟩
  · exact ⟨width, div_pos width shape⟩
  · exact ⟨width, div_pos width shape⟩
  · exact ⟨mul_pos room shape, room⟩

/-- A frame is the zero rectangle unless window and card have an area and there is room above the margin. -/
theorem effectiveFrame_of_ne_zero {viewport card : Size ℚ} {margin : ℚ}
    (frame : effectiveFrame viewport card margin ≠ .zero) :
    (0 < viewport.width ∧ 0 < viewport.height) ∧ (0 < card.width ∧ 0 < card.height) ∧
      0 < viewport.height - orZero margin ∧
      effectiveFrame viewport card margin =
        let size := fittedSize viewport card.aspect (viewport.height - orZero margin)
        ⟨(viewport.width - size.width) / 2, orZero margin, size.width, size.height⟩ := by
  let available := viewport.height - orZero margin
  have cases : effectiveFrame viewport card margin =
      if viewport.isDegenerate || card.isDegenerate || !below Coordinate.zero available then .zero
      else
        let size := fittedSize viewport card.aspect available
        ⟨(viewport.width - size.width) / 2, orZero margin, size.width, size.height⟩ := rfl
  have fits : ¬ (viewport.isDegenerate || card.isDegenerate || !below Coordinate.zero available) = true :=
    fun none => frame (cases.trans (if_pos none))
  refine ⟨?_, ?_, ?_, cases.trans (if_neg fits)⟩
  all_goals
    simp only [Bool.or_eq_true, not_or, Bool.not_eq_true, Bool.not_eq_false', Size.isDegenerate_eq_false_iff,
      below_iff, zero_eq] at fits
  · exact fits.1.1
  · exact fits.1.2
  · exact fits.2

/-! ## Points in rectangles -/

/-- A rectangle of the card holds its left and its top side, and neither its right nor its bottom side. -/
theorem CardRect.contains_iff {rect : CardRect ℚ} {point : Point ℚ} : rect.contains point = true ↔
    rect.left ≤ point.x ∧ point.x < rect.right ∧ rect.top ≤ point.y ∧ point.y < rect.bottom := by
  simp only [contains, Bool.and_eq_true, below_iff, atMost_iff, and_assoc]

/-- A point of the window lies in a rectangle of the window: the left and upper sides belong to the rectangle, the
others do not. -/
def Rect.Covers (rect : Rect ℚ) (point : Point ℚ) : Prop :=
  rect.x ≤ point.x ∧ point.x < rect.x + rect.width ∧ rect.y < point.y ∧ point.y ≤ rect.y + rect.height

instance (rect : Rect ℚ) (point : Point ℚ) : Decidable (rect.Covers point) :=
  inferInstanceAs (Decidable (_ ∧ _ ∧ _ ∧ _))

/-! ## Mappers that show the card -/

namespace Mapper

/-- The card has an area, and it is shown. -/
structure Shows (mapper : Mapper ℚ) : Prop where
  cardWidth : 0 < mapper.card.width
  cardHeight : 0 < mapper.card.height
  width : 0 < mapper.frame.width
  height : 0 < mapper.frame.height

/-- A mapper whose frame is not the zero rectangle shows the card. -/
theorem shows_of_frame {card viewport : Size ℚ} {margin : ℚ}
    (frame : effectiveFrame viewport card margin ≠ .zero) : (ofViewport card margin viewport).Shows := by
  obtain ⟨⟨width, -⟩, ⟨cardWidth, cardHeight⟩, room, same⟩ := effectiveFrame_of_ne_zero frame
  obtain ⟨wide, high⟩ := fittedSize_pos width (div_pos cardWidth cardHeight) room
  refine ⟨cardWidth, cardHeight, ?_, ?_⟩
  · rwa [ofViewport, same]
  · rwa [ofViewport, same]

namespace Shows

variable {mapper : Mapper ℚ} (shows : mapper.Shows)
include shows

/-- Where the card is shown no division is by zero. -/
theorem sides_ne_zero : mapper.card.width ≠ 0 ∧ mapper.card.height ≠ 0 ∧ mapper.frame.width ≠ 0 ∧
    mapper.frame.height ≠ 0 :=
  ⟨shows.cardWidth.ne', shows.cardHeight.ne', shows.width.ne', shows.height.ne'⟩

/-- What a card pixel takes in the window, from left to right and from top to bottom. -/
theorem scale?_eq : mapper.scale? =
    some (mapper.frame.width / mapper.card.width, mapper.frame.height / mapper.card.height) := by
  rw [scale?, if_pos]
  rw [Bool.and_eq_true, below_iff, below_iff, zero_eq]
  exact ⟨shows.width, shows.height⟩

/-- A rectangle is scaled into the frame and turned upside down. -/
theorem toWindow_eq (rect : CardRect ℚ) : mapper.toWindow rect =
    { x := mapper.frame.x + rect.left * (mapper.frame.width / mapper.card.width)
      y := mapper.frame.y + (mapper.card.height - rect.bottom) * (mapper.frame.height / mapper.card.height)
      width := (rect.right - rect.left) * (mapper.frame.width / mapper.card.width)
      height := (rect.bottom - rect.top) * (mapper.frame.height / mapper.card.height) } := by
  rw [toWindow, shows.scale?_eq]
  rfl

/-- The same read backwards. -/
theorem toCard_eq (rect : Rect ℚ) : mapper.toCard rect =
    { left := (rect.x - mapper.frame.x) / (mapper.frame.width / mapper.card.width)
      top := mapper.card.height - (rect.y - mapper.frame.y) / (mapper.frame.height / mapper.card.height)
        - rect.height / (mapper.frame.height / mapper.card.height)
      right := (rect.x - mapper.frame.x) / (mapper.frame.width / mapper.card.width)
        + rect.width / (mapper.frame.width / mapper.card.width)
      bottom := mapper.card.height - (rect.y - mapper.frame.y) / (mapper.frame.height / mapper.card.height) } := by
  rw [toCard, shows.scale?_eq]
  rfl

/-- A rectangle of the card comes back from the window unchanged. -/
theorem toCard_toWindow (rect : CardRect ℚ) : mapper.toCard (mapper.toWindow rect) = rect := by
  obtain ⟨cardWidth, cardHeight, width, height⟩ := shows.sides_ne_zero
  rw [shows.toWindow_eq, shows.toCard_eq]
  obtain ⟨left, top, right, bottom⟩ := rect
  rw [CardRect.mk.injEq]
  refine ⟨?_, ?_, ?_, ?_⟩
  all_goals
    field_simp
    ring

/-- A rectangle of the window comes back from the card unchanged. -/
theorem toWindow_toCard (rect : Rect ℚ) : mapper.toWindow (mapper.toCard rect) = rect := by
  obtain ⟨cardWidth, cardHeight, width, height⟩ := shows.sides_ne_zero
  rw [shows.toCard_eq, shows.toWindow_eq]
  obtain ⟨x, y, width, height⟩ := rect
  rw [Rect.mk.injEq]
  refine ⟨?_, ?_, ?_, ?_⟩
  all_goals
    field_simp
    ring

/-- A point is scaled out of the frame and turned upside down. -/
theorem pointToCard_eq (point : Point ℚ) : mapper.pointToCard point =
    { x := (point.x - mapper.frame.x) / (mapper.frame.width / mapper.card.width)
      y := mapper.card.height - (point.y - mapper.frame.y) / (mapper.frame.height / mapper.card.height) } := by
  rw [pointToCard, shows.toCard_eq]
  dsimp only
  rw [zero_eq, zero_div, sub_zero]

/-- A point of the window lies on the card in a rectangle if it lies in the window where the rectangle is shown. -/
theorem contains_pointToCard_iff (rect : CardRect ℚ) (point : Point ℚ) :
    rect.contains (mapper.pointToCard point) = true ↔ (mapper.toWindow rect).Covers point := by
  let scaleX := mapper.frame.width / mapper.card.width
  let scaleY := mapper.frame.height / mapper.card.height
  have positiveX : 0 < scaleX := div_pos shows.width shows.cardWidth
  have positiveY : 0 < scaleY := div_pos shows.height shows.cardHeight
  have left : rect.left ≤ (point.x - mapper.frame.x) / scaleX ↔
      mapper.frame.x + rect.left * scaleX ≤ point.x := by
    rw [le_div_iff₀ positiveX]
    exact ⟨fun h => by linarith, fun h => by linarith⟩
  have right : (point.x - mapper.frame.x) / scaleX < rect.right ↔
      point.x < mapper.frame.x + rect.left * scaleX + (rect.right - rect.left) * scaleX := by
    rw [div_lt_iff₀ positiveX]
    exact ⟨fun h => by linarith, fun h => by linarith⟩
  -- The axis is turned round: the side at the top of the card is the one at greater heights in the window.
  have top : rect.top ≤ mapper.card.height - (point.y - mapper.frame.y) / scaleY ↔ point.y ≤
      mapper.frame.y + (mapper.card.height - rect.bottom) * scaleY + (rect.bottom - rect.top) * scaleY := by
    rw [le_sub_comm, div_le_iff₀ positiveY]
    exact ⟨fun h => by linarith, fun h => by linarith⟩
  have bottom : mapper.card.height - (point.y - mapper.frame.y) / scaleY < rect.bottom ↔
      mapper.frame.y + (mapper.card.height - rect.bottom) * scaleY < point.y := by
    rw [sub_lt_comm, lt_div_iff₀ positiveY]
    exact ⟨fun h => by linarith, fun h => by linarith⟩
  rw [CardRect.contains_iff, shows.pointToCard_eq, shows.toWindow_eq]
  exact and_congr left (and_congr right ((and_congr top bottom).trans and_comm))

/-- A test of the pointer finds the first enabled hotspot that is seen under it. -/
theorem hitWindow?_eq (table : HotspotTable ℚ) (point : Point ℚ) : (table.resize mapper).hitWindow? mapper point =
    (table.resize mapper).active.find? fun hotspot => decide (hotspot.frame.Covers point) := by
  have active : (table.resize mapper).active
      = table.active.map fun hotspot => { hotspot with frame := mapper.toWindow hotspot.rect } :=
    List.filter_map
  rw [HotspotTable.hitWindow?, HotspotTable.hit?, active, List.find?_map, List.find?_map]
  congr 2
  funext hotspot
  rw [Bool.eq_iff_iff, Function.comp_apply, Function.comp_apply, decide_eq_true_iff]
  exact shows.contains_pointToCard_iff hotspot.rect point

end Shows

/-- A sample of the pointer, a rectangle that is infinite both ways, is taken for its corner. -/
theorem pointToCard_of_infinite {R : Type} [Coordinate R] (mapper : Mapper R) (point : Point R) {width height : R}
    (wide : infinite width = true) (high : infinite height = true) :
    mapper.pointToCard point = ⟨(mapper.toCard ⟨point.x, point.y, width, height⟩).left,
      (mapper.toCard ⟨point.x, point.y, width, height⟩).top⟩ := by
  have sample : mapper.toCard ⟨point.x, point.y, width, height⟩
      = mapper.toCard ⟨point.x, point.y, Coordinate.zero, Coordinate.zero⟩ := by
    unfold toCard
    dsimp only
    rw [wide, high]
    simp
  rw [sample]
  rfl

/-- Over fractions, and with a frame that is not the zero rectangle, card and window are mapped to one another
without loss, and a point of the window lies on the card in a rectangle exactly if it lies in the window where the
rectangle is shown; there the left and upper sides belong to it. Hence a test of the pointer, on the card, finds
the first enabled hotspot whose rectangle in the window the pointer lies in. Over whatever numbers, a point is
mapped as a rectangle is that has its corner there and is infinite both ways. -/
theorem exact (card viewport : Size ℚ) (margin : ℚ) (frame : effectiveFrame viewport card margin ≠ .zero) :
    let mapper := ofViewport card margin viewport
    (∀ rect, mapper.toCard (mapper.toWindow rect) = rect) ∧
    (∀ rect, mapper.toWindow (mapper.toCard rect) = rect) ∧
    (∀ rect point, rect.contains (mapper.pointToCard point) = true ↔
      (mapper.toWindow rect).x ≤ point.x ∧ point.x < (mapper.toWindow rect).x + (mapper.toWindow rect).width ∧
      (mapper.toWindow rect).y < point.y ∧ point.y ≤ (mapper.toWindow rect).y + (mapper.toWindow rect).height) ∧
    (∀ (table : HotspotTable ℚ) (point : Point ℚ), (table.resize mapper).hitWindow? mapper point =
      (table.resize mapper).active.find? fun hotspot => decide (hotspot.frame.Covers point)) ∧
    ∀ (R : Type) [Coordinate R] (mapper : Mapper R) (point : Point R) (width height : R),
      infinite width = true → infinite height = true →
        let sample := mapper.toCard ⟨point.x, point.y, width, height⟩
        mapper.pointToCard point = ⟨sample.left, sample.top⟩ := by
  have shows := shows_of_frame frame
  exact ⟨shows.toCard_toWindow, shows.toWindow_toCard, shows.contains_pointToCard_iff, shows.hitWindow?_eq,
    fun R _ mapper point width height => mapper.pointToCard_of_infinite point⟩

/-- In a window that is too wide for the card, a rectangle in its upper left corner is mapped there and back; the
upper left corner of what is shown of it belongs to it, and the lower left one does not. Among singles there is a
number that samples of the pointer can have for sizes. -/
theorem exact_corners :
    let mapper := ofViewport ⟨608, 392⟩ 80 ⟨1824, 944⟩
    let rect : CardRect ℚ := ⟨0, 0, 100, 50⟩
    mapper.frame ≠ .zero ∧ mapper.toCard (mapper.toWindow rect) = rect ∧
      rect.contains (mapper.pointToCard ⟨11856 / 49, 944⟩) = true ∧
      rect.contains (mapper.pointToCard ⟨11856 / 49, 40856 / 49⟩) = false ∧
      ∃ far : Float32, infinite far = true ∧ ∀ (mapper : Mapper Float32) (point : Point Float32),
        mapper.pointToCard point = ⟨(mapper.toCard ⟨point.x, point.y, far, far⟩).left,
          (mapper.toCard ⟨point.x, point.y, far, far⟩).top⟩ := by
  intro mapper rect
  have frame : mapper.frame ≠ .zero := by
    intro none
    have flat : mapper.frame.width = 0 := congrArg Rect.width none
    exact absurd flat (by decide +kernel)
  obtain ⟨back, -, inside, -, samples⟩ := exact ⟨608, 392⟩ ⟨1824, 944⟩ 80 frame
  have far : infinite (1 / 0 : Float32) = true := by decide +kernel
  refine ⟨frame, back rect, (inside rect _).mpr (by decide +kernel), ?_, 1 / 0, far,
    fun mapper point => samples Float32 mapper point _ _ far far⟩
  rw [Bool.eq_false_iff]
  exact mt (inside rect _).mp (by decide +kernel)

end Mapper

end Diorama
