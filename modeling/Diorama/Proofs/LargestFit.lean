import Diorama.Proofs.Mapping

/-!
# The largest frame

Where the card is shown, exactly, and how large. The frame is worked out in four arms: the card's aspect is
compared with that of the whole window first, the margin included, and each side of this comparison has a second
look at whether what it has come to fits. What comes out does not depend on the first comparison at all
(`fittedSize_eq`): the card is as wide as the window if it is not too high then, and as high as there is room
above the margin otherwise.

So the frame is a fit (`Rect.Fit`): of the card's aspect, on the margin, in the middle of the window, and no
larger than there is room, which it uses up in one direction at least. No rectangle of that aspect that has
enough room is larger than a fit (`Rect.Fit.largest`), hence there is one fit only. Where window or card have no
area, or there is no room above the margin, the frame is the zero rectangle.
-/

namespace Diorama

open Coordinate

/-- A negative margin counts as none. -/
theorem orZero_eq_max (margin : ℚ) : orZero margin = max margin 0 := by
  simp only [orZero, below_iff, zero_eq]
  by_cases positive : 0 < margin
  · rw [if_pos positive, max_eq_left positive.le]
  · rw [if_neg positive, max_eq_right (not_lt.mp positive)]

/-! ## The size of the card -/

/-- The card is as wide as the window, unless it is too high then. -/
theorem fittedSize_eq (viewport : Size ℚ) {aspect : ℚ} (available : ℚ) (shape : 0 < aspect) :
    fittedSize viewport aspect available =
      if viewport.width < available * aspect then ⟨viewport.width, viewport.width / aspect⟩
      else ⟨available * aspect, available⟩ := by
  unfold fittedSize
  dsimp only
  simp only [below_iff, lt_div_iff₀ shape]
  -- The comparison with the window's aspect leads to the same two sizes on either side.
  by_cases wider : aspect < viewport.aspect
  · rw [if_pos wider]
    rcases lt_trichotomy viewport.width (available * aspect) with narrow | even | ample
    · rw [if_neg (not_lt.mpr narrow.le), if_pos narrow]
    · rw [if_neg (not_lt.mpr even.le), if_neg (not_lt.mpr even.ge), even, mul_div_cancel_right₀ available shape.ne']
    · rw [if_pos ample, if_neg (not_lt.mpr ample.le)]
  · rw [if_neg wider]

/-- The frame, once it is known that there is one. -/
theorem effectiveFrame_eq {viewport card : Size ℚ} {margin : ℚ} (window : 0 < viewport.width ∧ 0 < viewport.height)
    (area : 0 < card.width ∧ 0 < card.height) (room : max margin 0 < viewport.height) :
    effectiveFrame viewport card margin =
      let size := fittedSize viewport card.aspect (viewport.height - max margin 0)
      ⟨(viewport.width - size.width) / 2, max margin 0, size.width, size.height⟩ := by
  have above : below Coordinate.zero (viewport.height - max margin 0) = true := below_iff.mpr (sub_pos.mpr room)
  unfold effectiveFrame
  simp only [orZero_eq_max, Size.isDegenerate_eq_false_iff.mpr window, Size.isDegenerate_eq_false_iff.mpr area, above]
  rfl

/-! ## Fits -/

/-- A rectangle of the window in which the card lies well: it has the card's aspect, it lies on the margin and in
the middle, it has enough room, and it could not be larger both ways. -/
structure Rect.Fit (frame : Rect ℚ) (viewport card : Size ℚ) (bottom : ℚ) : Prop where
  wide : 0 < frame.width
  high : 0 < frame.height
  aspect : frame.width / frame.height = card.width / card.height
  y : frame.y = bottom
  /-- There is as much room at the left as at the right. -/
  centred : frame.x = viewport.width - (frame.x + frame.width)
  x : 0 ≤ frame.x
  width : frame.width ≤ viewport.width
  height : frame.height ≤ viewport.height - bottom
  attained : frame.width = viewport.width ∨ frame.height = viewport.height - bottom

namespace Rect.Fit

variable {frame other : Rect ℚ} {viewport card : Size ℚ} {bottom : ℚ}

/-- No rectangle of that aspect is larger, as long as it has enough room. -/
theorem largest (fit : frame.Fit viewport card bottom) (area : 0 < card.width ∧ 0 < card.height)
    (aspect : other.width / other.height = card.width / card.height) (width : other.width ≤ viewport.width)
    (height : other.height ≤ viewport.height - bottom) :
    other.width ≤ frame.width ∧ other.height ≤ frame.height := by
  have shape : 0 < card.width / card.height := div_pos area.1 area.2
  have level : other.height ≠ 0 := by
    intro flat
    rw [flat, div_zero] at aspect
    exact shape.ne aspect
  have sides : other.width = card.width / card.height * other.height := (div_eq_iff level).mp aspect
  have sides' : frame.width = card.width / card.height * frame.height := (div_eq_iff fit.high.ne').mp fit.aspect
  -- Of one aspect, the narrower is the lower.
  have together : other.width ≤ frame.width ↔ other.height ≤ frame.height := by
    rw [sides, sides', mul_le_mul_iff_right₀ shape]
  rcases fit.attained with whole | whole
  · have narrower : other.width ≤ frame.width := whole ▸ width
    exact ⟨narrower, together.mp narrower⟩
  · have lower : other.height ≤ frame.height := whole ▸ height
    exact ⟨together.mpr lower, lower⟩

/-- There is one fit only. -/
theorem eq (fit : frame.Fit viewport card bottom) (fit' : other.Fit viewport card bottom)
    (area : 0 < card.width ∧ 0 < card.height) : other = frame := by
  obtain ⟨narrower, lower⟩ := fit.largest area fit'.aspect fit'.width fit'.height
  obtain ⟨wider, higher⟩ := fit'.largest area fit.aspect fit.width fit.height
  have width : other.width = frame.width := le_antisymm narrower wider
  have left : other.x = frame.x := by
    have here := fit.centred
    have there := fit'.centred
    linarith
  cases other
  cases frame
  rw [Rect.mk.injEq]
  exact ⟨left, fit'.y.trans fit.y.symm, width, le_antisymm lower higher⟩

end Rect.Fit

/-! ## The frame fits -/

/-- The fitted size has the shape that was asked for. -/
theorem fittedSize_aspect {viewport : Size ℚ} {aspect available : ℚ} (width : 0 < viewport.width)
    (shape : 0 < aspect) (room : 0 < available) :
    (fittedSize viewport aspect available).width / (fittedSize viewport aspect available).height = aspect := by
  rw [fittedSize_eq viewport available shape]
  split
  · exact div_div_cancel₀ width.ne'
  · exact mul_div_cancel_left₀ aspect room.ne'

/-- The fitted size fits. -/
theorem fittedSize_le (viewport : Size ℚ) {aspect : ℚ} (available : ℚ) (shape : 0 < aspect) :
    (fittedSize viewport aspect available).width ≤ viewport.width ∧
      (fittedSize viewport aspect available).height ≤ available := by
  rw [fittedSize_eq viewport available shape]
  split
  next exceeds => exact ⟨le_refl _, ((div_lt_iff₀ shape).mpr exceeds).le⟩
  next fits => exact ⟨not_lt.mp fits, le_refl _⟩

/-- It fills the width or the height that there is. -/
theorem fittedSize_attained (viewport : Size ℚ) {aspect : ℚ} (available : ℚ) (shape : 0 < aspect) :
    (fittedSize viewport aspect available).width = viewport.width ∨
      (fittedSize viewport aspect available).height = available := by
  rw [fittedSize_eq viewport available shape]
  split
  · exact .inl rfl
  · exact .inr rfl

/-- Where there is room the frame fits. -/
theorem effectiveFrame_fit {viewport card : Size ℚ} {margin : ℚ} (window : 0 < viewport.width ∧ 0 < viewport.height)
    (area : 0 < card.width ∧ 0 < card.height) (room : max margin 0 < viewport.height) :
    (effectiveFrame viewport card margin).Fit viewport card (max margin 0) := by
  have shape : 0 < card.aspect := div_pos area.1 area.2
  have above : 0 < viewport.height - max margin 0 := sub_pos.mpr room
  obtain ⟨wide, high⟩ := fittedSize_pos window.1 shape above
  obtain ⟨width, height⟩ := fittedSize_le viewport (viewport.height - max margin 0) shape
  rw [effectiveFrame_eq window area room]
  exact
    { wide, high, width, height, y := rfl
      aspect := fittedSize_aspect window.1 shape above
      attained := fittedSize_attained viewport _ shape
      centred := by
        show _ / 2 = _ - (_ / 2 + _)
        ring
      x := div_nonneg (sub_nonneg.mpr width) zero_le_two }

/-- Where there is no room there is no frame. -/
theorem effectiveFrame_eq_zero {viewport card : Size ℚ} {margin : ℚ}
    (misfit : ¬ ((0 < viewport.width ∧ 0 < viewport.height) ∧ (0 < card.width ∧ 0 < card.height) ∧
      max margin 0 < viewport.height)) : effectiveFrame viewport card margin = .zero := by
  by_contra frame
  obtain ⟨window, area, above, -⟩ := effectiveFrame_of_ne_zero frame
  rw [orZero_eq_max] at above
  exact misfit ⟨window, area, sub_pos.mp above⟩

/-- With a window and a card that have an area, and room above the margin, the frame has the card's aspect, lies on
the margin, in the middle and inside the window, has enough room, and uses all of it up in one direction; every
rectangle of that aspect with enough room is at most as wide and as high, and no other has all these properties. In
all other cases the frame is the zero rectangle. -/
theorem effectiveFrame_largest (viewport card : Size ℚ) (margin : ℚ) :
    let bottom := max margin 0
    let frame := effectiveFrame viewport card margin
    let shown := (0 < viewport.width ∧ 0 < viewport.height) ∧ (0 < card.width ∧ 0 < card.height) ∧
      bottom < viewport.height
    (shown → frame.Fit viewport card bottom ∧
      (∀ other : Rect ℚ, other.width / other.height = card.width / card.height → other.width ≤ viewport.width →
        other.height ≤ viewport.height - bottom → other.width ≤ frame.width ∧ other.height ≤ frame.height) ∧
      ∀ other : Rect ℚ, other.Fit viewport card bottom → other = frame) ∧
    (¬ shown → frame = .zero) := by
  intro bottom frame shown
  refine ⟨?_, effectiveFrame_eq_zero⟩
  rintro ⟨window, area, room⟩
  have fit := effectiveFrame_fit window area room
  exact ⟨fit, fun other => fit.largest area, fun other fit' => fit.eq fit' area⟩

/-- In a window wider than the card the frame is as high as there is room above the margin; in a higher one it is as
wide as the window, and a margin below zero counts as none. A margin as high as the window leaves no frame. -/
theorem effectiveFrame_largest_thrice :
    let card : Size ℚ := ⟨608, 392⟩
    effectiveFrame ⟨1920, 600⟩ card 80 = ⟨27280 / 49, 80, 39520 / 49, 520⟩ ∧
      effectiveFrame ⟨304, 1200⟩ card (-80) = ⟨0, 0, 304, 196⟩ ∧ effectiveFrame ⟨608, 392⟩ card 392 = .zero := by
  intro card
  have area : 0 < card.width ∧ 0 < card.height := by decide +kernel
  obtain ⟨-, -, alone⟩ := (effectiveFrame_largest ⟨1920, 600⟩ card 80).1 ⟨by decide +kernel, area, by decide +kernel⟩
  obtain ⟨-, -, alone'⟩ := (effectiveFrame_largest ⟨304, 1200⟩ card (-80)).1 ⟨by decide +kernel, area, by decide +kernel⟩
  have none := (effectiveFrame_largest ⟨608, 392⟩ card 392).2 fun shown => absurd shown.2.2 (by decide +kernel)
  refine ⟨(alone _ ?_).symm, (alone' _ ?_).symm, none⟩
  · constructor <;> decide +kernel
  · constructor <;> decide +kernel

end Diorama
