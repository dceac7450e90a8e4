import FieldGraph.Image.Hue
import FieldGraph.Proofs.Number.Exact
import Mathlib

/-!
# The hue circle over exact numbers

The conversions are read at the rationals, where nothing is rounded. Places on the hue circle are
counted in sixths of a turn, so that red, green and blue are at zero, two and four. Up to one sixth
away from a primary that primary is full, and the neighbour on the side of the place grows with the
distance. The six sectors of one conversion and the three formulas of the other both come down to
this description, which does not tell on which side of a boundary a place is counted.
-/

namespace FieldGraph.Hue

open Scalar

/-! ## Primaries -/

/-- The components of a colour in the order of the hue circle. -/
inductive Primary where
  | red
  | green
  | blue

namespace Primary

/-- Thirds of a turn from red. -/
def index : Primary → ℕ
  | red => 0
  | green => 1
  | blue => 2

/-- The colour that has given components for a primary, for the next one on the circle and for the
one before. -/
def arrange : Primary → ℚ → ℚ → ℚ → ℚ × ℚ × ℚ
  | red, own, next, before => (own, next, before)
  | green, own, next, before => (before, own, next)
  | blue, own, next, before => (next, before, own)

end Primary

variable {p : Primary} {t q : ℚ}

/-- A place on the circle is at a tilt of at most one sixth from a primary. -/
structure Near (p : Primary) (t q : ℚ) : Prop where
  nonneg : 0 ≤ q
  le_six : q ≤ 6
  tilt_le : |t| ≤ 1
  place : q = 2 * p.index + t ∨ q = 2 * p.index + t + 6

/-! ## From the circle to colours -/

/-- How far the mixed component of a sector has grown. -/
def wave (q : ℚ) : ℚ := 1 - |remainder q 2 - 1|

/-- The colour of a hue at the library's own operations. -/
theorem toRgb_eq (h s v : ℚ) : toRgb h s v =
    let c := s * v
    let x := c * wave (h * 6)
    let colour :=
      if 0 ≤ h ∧ h ≤ 1 / 6 then (c, x, 0)
      else if 1 / 6 < h ∧ h ≤ 2 / 6 then (x, c, 0)
      else if 2 / 6 < h ∧ h ≤ 3 / 6 then (0, c, x)
      else if 3 / 6 < h ∧ h ≤ 4 / 6 then (0, x, c)
      else if 4 / 6 < h ∧ h ≤ 5 / 6 then (x, 0, c)
      else if 5 / 6 < h ∧ h ≤ 1 then (c, 0, x)
      else (0, 0, 0)
    (colour.1 + (v - c), colour.2.1 + (v - c), colour.2.2 + (v - c)) := by
  simp only [toRgb, inSector, Bool.and_eq_true, less_iff, atMost_iff, magnitude_eq_abs, zero_eq,
    one_eq, ratio, natural_eq]
  rfl

/-- The wave goes up and down once every two sixths. -/
theorem wave_two_mul_add (k : ℕ) (hlow : 0 ≤ t) (hhigh : t < 2) :
    wave (2 * k + t) = 1 - |t - 1| := by
  have hrest : remainder (2 * k + t) 2 = t := by
    rw [remainder_of_lt k two_pos (by linarith) (by linarith), add_sub_cancel_left]
  rw [wave, hrest]

/-- The wave is the distance from the nearest primary. -/
theorem wave_eq_abs (k : ℕ) (ht : |t| ≤ 1) (hq : 0 ≤ 2 * k + t) : wave (2 * k + t) = |t| := by
  obtain ⟨hlow, hhigh⟩ := abs_le.mp ht
  rcases lt_or_ge t 0 with hneg | hpos
  · -- counted from the primary before: there is one, for else the place would be negative
    obtain _ | k := k
    · rw [Nat.cast_zero, mul_zero, zero_add] at hq
      exact absurd hq hneg.not_ge
    have hshift : 2 * ((k + 1 : ℕ) : ℚ) + t = 2 * k + (t + 2) := by
      push_cast
      ring
    rw [hshift, wave_two_mul_add k (by linarith) (by linarith), abs_of_neg hneg,
      abs_of_nonneg (by linarith)]
    ring
  · rw [wave_two_mul_add k hpos (by linarith), abs_of_nonneg hpos, abs_of_nonpos (by linarith)]
    ring

theorem Near.wave_eq (h : Near p t q) : wave q = |t| := by
  have hq := h.nonneg
  rcases h.place with rfl | rfl
  · exact wave_eq_abs p.index h.tilt_le hq
  · have hturn : 2 * (p.index : ℚ) + t + 6 = 2 * ((p.index + 3 : ℕ) : ℚ) + t := by
      push_cast
      ring
    rw [hturn] at hq ⊢
    exact wave_eq_abs (p.index + 3) h.tilt_le hq

/-- The components of the full colour at a place of the circle. Green and blue are full for two
sixths around their place and gone for two sixths on the other side; red likewise, on both ends. -/
def full (q : ℚ) : ℚ × ℚ × ℚ :=
  (max 0 (min 1 (|q - 3| - 1)), max 0 (min 1 (2 - |q - 2|)), max 0 (min 1 (2 - |q - 4|)))

/-- Near a primary the full colour has all of it and of the neighbour on the side of the place as
much as the place is away. -/
theorem Near.full_eq (h : Near p t q) : full q = p.arrange 1 (max t 0) (max (-t) 0) := by
  obtain ⟨hnonneg, hsix, htilt, hplace⟩ := h
  obtain ⟨hlow, hhigh⟩ := abs_le.mp htilt
  -- for each primary three components, all of them piecewise linear in the tilt
  cases p <;> simp only [Primary.index] at hplace <;>
    refine Prod.ext ?_ (Prod.ext ?_ ?_) <;> simp only [full, Primary.arrange] <;> grind

/-- A full colour brought to a saturation and a value. -/
def dilute (s v : ℚ) (colour : ℚ × ℚ × ℚ) : ℚ × ℚ × ℚ :=
  (s * v * colour.1 + (v - s * v), s * v * colour.2.1 + (v - s * v),
    s * v * colour.2.2 + (v - s * v))

/-- The sectors that follow a primary. -/
theorem Near.dilute_after (h : Near p t q) (ht : 0 ≤ t) (s v : ℚ) :
    dilute s v (full q) =
      p.arrange (s * v + (v - s * v)) (s * v * wave q + (v - s * v)) (0 + (v - s * v)) := by
  rw [h.full_eq, h.wave_eq, abs_of_nonneg ht, max_eq_left ht, max_eq_right (neg_nonpos.mpr ht)]
  cases p <;> simp only [dilute, Primary.arrange, mul_one, mul_zero]

/-- The sectors that lead to a primary. -/
theorem Near.dilute_before (h : Near p t q) (ht : t ≤ 0) (s v : ℚ) :
    dilute s v (full q) =
      p.arrange (s * v + (v - s * v)) (0 + (v - s * v)) (s * v * wave q + (v - s * v)) := by
  rw [h.full_eq, h.wave_eq, abs_of_nonpos ht, max_eq_right ht, max_eq_left (neg_nonneg.mpr ht)]
  cases p <;> simp only [dilute, Primary.arrange, mul_one, mul_zero]

/-- All around the circle the sectors give the full colour of the place, diluted. -/
theorem toRgb_eq_dilute {h : ℚ} (h0 : 0 ≤ h) (h1 : h ≤ 1) (s v : ℚ) :
    toRgb h s v = dilute s v (full (h * 6)) := by
  have hlow : 0 ≤ h * 6 := by linarith
  have hhigh : h * 6 ≤ 6 := by linarith
  rw [toRgb_eq]
  dsimp only
  symm
  split_ifs with hfirst hsecond hthird hfourth hfifth hsixth
  · have hnear : Near .red (h * 6) (h * 6) :=
      ⟨hlow, hhigh, by grind, .inl (by simp [Primary.index])⟩
    exact hnear.dilute_after (by linarith) s v
  · have hnear : Near .green (h * 6 - 2) (h * 6) :=
      ⟨hlow, hhigh, by grind, .inl (by simp [Primary.index])⟩
    exact hnear.dilute_before (by linarith) s v
  · have hnear : Near .green (h * 6 - 2) (h * 6) :=
      ⟨hlow, hhigh, by grind, .inl (by simp [Primary.index])⟩
    exact hnear.dilute_after (by linarith) s v
  · have hnear : Near .blue (h * 6 - 4) (h * 6) :=
      ⟨hlow, hhigh, by grind, .inl (by norm_num [Primary.index])⟩
    exact hnear.dilute_before (by linarith) s v
  · have hnear : Near .blue (h * 6 - 4) (h * 6) :=
      ⟨hlow, hhigh, by grind, .inl (by norm_num [Primary.index])⟩
    exact hnear.dilute_after (by linarith) s v
  · -- the last sector leads to red a whole turn on
    have hnear : Near .red (h * 6 - 6) (h * 6) :=
      ⟨hlow, hhigh, by grind, .inr (by simp [Primary.index])⟩
    exact hnear.dilute_before (by linarith) s v
  · -- no hue of the circle is left over
    grind

/-! ## From colours to the circle -/

/-- Hue, saturation and value at the library's own operations. -/
theorem ofRgb_eq (r g b : ℚ) : ofRgb r g b =
    let largest := max (max r g) b
    let chroma := largest - min (min r g) b
    let turn :=
      if chroma = 0 then 0
      else if largest = r then (g - b) / (chroma * 6)
      else if largest = g then 1 / 3 + (b - r) / (chroma * 6)
      else if largest = b then 2 / 3 + (r - g) / (chroma * 6)
      else 0
    (if turn < 0 then turn + 1 else turn, if 0 < largest then chroma / largest else 0,
      largest) := by
  simp only [ofRgb, larger_eq_max, smaller_eq_min, same_iff, less_iff, zero_eq, one_eq, ratio,
    natural_eq]
  rfl

/-- A colour read around the circle from one of its largest components. -/
structure Tint where
  peak : Primary
  own : ℚ
  next : ℚ
  before : ℚ
  next_le : next ≤ own
  before_le : before ≤ own

namespace Tint

variable (w : Tint)

/-- The colour in the order red, green, blue. -/
def rgb : ℚ × ℚ × ℚ := w.peak.arrange w.own w.next w.before

/-- The largest component less the smallest one. -/
def chroma : ℚ := w.own - min w.next w.before

/-- By how much the next component outweighs the one before, measured by the chroma. -/
def tilt : ℚ := (w.next - w.before) / w.chroma

/-- The turn from red; before red it is negative. -/
def turn : ℚ := w.peak.index / 3 + (w.next - w.before) / (w.chroma * 6)

def hue : ℚ := if w.turn < 0 then w.turn + 1 else w.turn

def saturation : ℚ := if 0 < w.own then w.chroma / w.own else 0

/-- Hue, saturation and value; the value is the largest component. -/
def hsv : ℚ × ℚ × ℚ := (w.hue, w.saturation, w.own)

theorem chroma_nonneg : 0 ≤ w.chroma := sub_nonneg.mpr (min_le_of_left_le w.next_le)

theorem abs_sub_le_chroma : |w.next - w.before| ≤ w.chroma := by
  have hnext := w.next_le
  have hbefore := w.before_le
  rw [chroma]
  grind

theorem abs_tilt_le_one : |w.tilt| ≤ 1 := by
  rw [tilt, abs_div, abs_of_nonneg w.chroma_nonneg]
  exact div_le_one_of_le₀ w.abs_sub_le_chroma w.chroma_nonneg

/-- The tilt tells the difference of the two smaller components, also for a gray, where both are
nothing. -/
theorem chroma_mul_tilt : w.chroma * w.tilt = w.next - w.before := by
  rcases eq_or_ne w.chroma 0 with hgray | hchroma
  · have hsub := w.abs_sub_le_chroma
    rw [hgray] at hsub ⊢
    rw [zero_mul, abs_nonpos_iff.mp hsub]
  · exact mul_div_cancel₀ _ hchroma

theorem turn_mul_six : w.turn * 6 = 2 * w.peak.index + w.tilt := by
  rw [turn, tilt]
  ring

/-- At most one sixth before red and less than a whole turn after it. -/
theorem turn_bounds : -1 ≤ w.turn * 6 ∧ w.turn * 6 < 6 := by
  obtain ⟨hlow, hhigh⟩ := abs_le.mp w.abs_tilt_le_one
  have hindex : 0 ≤ (w.peak.index : ℚ) ∧ (w.peak.index : ℚ) ≤ 2 := by
    cases w.peak <;> simp [Primary.index]
  rw [turn_mul_six]
  constructor <;> linarith

theorem hue_bounds : 0 ≤ w.hue ∧ w.hue < 1 := by
  obtain ⟨hlow, hhigh⟩ := w.turn_bounds
  rw [hue]
  split_ifs with hneg
  · constructor <;> linarith
  · constructor <;> linarith

theorem near_hue : Near w.peak w.tilt (w.hue * 6) := by
  obtain ⟨hlow, hhigh⟩ := w.hue_bounds
  refine ⟨by linarith, by linarith, w.abs_tilt_le_one, ?_⟩
  rw [← turn_mul_six, hue]
  split_ifs with hneg
  · exact .inr (by ring)
  · exact .inl rfl

/-- A property of all components is one of the components as read from the peak. -/
theorem forall_of_rgb {w : Tint} {r g b : ℚ} {P : ℚ → Prop} (h : w.rgb = (r, g, b)) (hr : P r)
    (hg : P g) (hb : P b) : P w.own ∧ P w.next ∧ P w.before := by
  obtain ⟨peak, own, next, before, _, _⟩ := w
  cases peak <;> simp only [rgb, Primary.arrange, Prod.mk.injEq] at h <;>
    obtain ⟨rfl, rfl, rfl⟩ := h
  · exact ⟨hr, hg, hb⟩
  · exact ⟨hg, hb, hr⟩
  · exact ⟨hb, hr, hg⟩

section Nonnegative

variable {w} (hnext : 0 ≤ w.next) (hbefore : 0 ≤ w.before)

include hnext hbefore

theorem chroma_le_own : w.chroma ≤ w.own := sub_le_self _ (le_min hnext hbefore)

theorem saturation_bounds : 0 ≤ w.saturation ∧ w.saturation ≤ 1 := by
  rw [saturation]
  split_ifs with hown
  · have hle := chroma_le_own hnext hbefore
    exact ⟨div_nonneg w.chroma_nonneg hown.le, div_le_one_of_le₀ hle hown.le⟩
  · exact ⟨le_rfl, zero_le_one⟩

theorem saturation_mul_own : w.saturation * w.own = w.chroma := by
  rw [saturation]
  split_ifs with hown
  · exact div_mul_cancel₀ _ hown.ne'
  · -- black has no chroma
    have hlow := w.chroma_nonneg
    have hhigh := chroma_le_own hnext hbefore
    linarith

/-- The hue, saturation and value of a tint give its colour back, whichever of its largest
components it is read from. -/
theorem toRgb_hue : toRgb w.hue w.saturation w.own = w.rgb := by
  have hfull : w.chroma * 1 + (w.own - w.chroma) = w.own := by ring
  have hup : w.chroma * max w.tilt 0 + (w.own - w.chroma) = w.next := by
    rw [mul_max_of_nonneg _ _ w.chroma_nonneg, chroma_mul_tilt, chroma]
    grind
  have hdown : w.chroma * max (-w.tilt) 0 + (w.own - w.chroma) = w.before := by
    rw [mul_max_of_nonneg _ _ w.chroma_nonneg, mul_neg, chroma_mul_tilt, chroma]
    grind
  have hchroma := saturation_mul_own hnext hbefore
  rw [toRgb_eq_dilute w.hue_bounds.1 w.hue_bounds.2.le, w.near_hue.full_eq, rgb]
  cases w.peak <;> simp only [dilute, Primary.arrange, hchroma, hfull, hup, hdown]

end Nonnegative

end Tint

section Peaks

variable {r g b : ℚ}

/-- Red decides if no component is larger; this includes the grays, which have no tilt. -/
theorem ofRgb_of_red (hg : g ≤ r) (hb : b ≤ r) :
    ofRgb r g b = (Tint.mk .red r g b hg hb).hsv := by
  have hlargest : max (max r g) b = r := by rw [max_eq_left hg, max_eq_left hb]
  have hsmallest : min (min r g) b = min g b := by rw [min_eq_right hg]
  have hturn : (if r - min g b = 0 then 0 else (g - b) / ((r - min g b) * 6)) =
      (Tint.mk .red r g b hg hb).turn := by
    simp only [Tint.turn, Tint.chroma, Primary.index, Nat.cast_zero, zero_div, zero_add]
    split_ifs with hgray
    · rw [hgray, zero_mul, div_zero]
    · rfl
  rw [ofRgb_eq]
  simp only [hlargest, hsmallest, if_true, hturn]
  rfl

/-- Green decides if it is larger than red and blue is not larger than green. -/
theorem ofRgb_of_green (hr : r < g) (hb : b ≤ g) :
    ofRgb r g b = (Tint.mk .green g b r hb hr.le).hsv := by
  have hlargest : max (max r g) b = g := by rw [max_eq_right hr.le, max_eq_left hb]
  have hsmallest : min (min r g) b = min b r := by rw [min_eq_left hr.le, min_comm]
  have hchroma : g - min b r ≠ 0 := (sub_pos.mpr (min_lt_of_right_lt hr)).ne'
  have hturn : 1 / 3 + (b - r) / ((g - min b r) * 6) =
      (Tint.mk .green g b r hb hr.le).turn := by
    simp [Tint.turn, Tint.chroma, Primary.index]
  rw [ofRgb_eq]
  simp only [hlargest, hsmallest, if_true, if_neg hchroma, if_neg hr.ne', hturn]
  rfl

/-- Blue decides if it is larger than both others. -/
theorem ofRgb_of_blue (hr : r < b) (hg : g < b) :
    ofRgb r g b = (Tint.mk .blue b r g hr.le hg.le).hsv := by
  have hlargest : max (max r g) b = b := max_eq_right (max_lt hr hg).le
  have hsmallest : min (min r g) b = min r g := min_eq_left (min_lt_of_left_lt hr).le
  have hchroma : b - min r g ≠ 0 := (sub_pos.mpr (min_lt_of_left_lt hr)).ne'
  have hturn : 2 / 3 + (r - g) / ((b - min r g) * 6) =
      (Tint.mk .blue b r g hr.le hg.le).turn := by
    simp [Tint.turn, Tint.chroma, Primary.index]
  rw [ofRgb_eq]
  simp only [hlargest, hsmallest, if_true, if_neg hchroma, if_neg hr.ne', if_neg hg.ne', hturn]
  rfl

end Peaks

/-- Every colour can be read as a tint that has the colour's hue, saturation and value. -/
theorem exists_tint (r g b : ℚ) : ∃ w : Tint, w.rgb = (r, g, b) ∧ ofRgb r g b = w.hsv := by
  rcases le_or_gt (max g b) r with hred | hred
  · obtain ⟨hg, hb⟩ := max_le_iff.mp hred
    exact ⟨_, rfl, ofRgb_of_red hg hb⟩
  rcases le_or_gt b g with hb | hb
  · rw [max_eq_left hb] at hred
    exact ⟨_, rfl, ofRgb_of_green hred hb⟩
  · rw [max_eq_right hb.le] at hred
    exact ⟨_, rfl, ofRgb_of_blue hred hb⟩

/-- Over exact numbers and for all components from zero to one: the hue is at least zero and less
than one, saturation and value are from zero to one, and the colour of the three is the one they
were taken from. -/
theorem hues_restore_colours (r g b : ℚ) (hr : r ∈ Set.Icc 0 1) (hg : g ∈ Set.Icc 0 1)
    (hb : b ∈ Set.Icc 0 1) :
    ∃ h s v, ofRgb r g b = (h, s, v) ∧ (0 ≤ h ∧ h < 1) ∧ (0 ≤ s ∧ s ≤ 1) ∧ (0 ≤ v ∧ v ≤ 1) ∧
      toRgb h s v = (r, g, b) := by
  obtain ⟨w, hrgb, hof⟩ := exists_tint r g b
  obtain ⟨hown, hnext, hbefore⟩ := Tint.forall_of_rgb hrgb hr hg hb
  have hback : toRgb w.hue w.saturation w.own = (r, g, b) := by
    rw [Tint.toRgb_hue hnext.1 hbefore.1, hrgb]
  exact ⟨w.hue, w.saturation, w.own, hof, w.hue_bounds, Tint.saturation_bounds hnext.1 hbefore.1,
    hown, hback⟩

/-- A red with more blue than green is before red on the circle, a whole turn less an eighteenth. -/
theorem hues_restore_colours_crimson :
    ((1 : ℚ) ∈ Set.Icc 0 1 ∧ (1 / 4 : ℚ) ∈ Set.Icc 0 1 ∧ (1 / 2 : ℚ) ∈ Set.Icc 0 1) ∧
    ofRgb (1 : ℚ) (1 / 4) (1 / 2) = (17 / 18, 3 / 4, 1) ∧
    toRgb (17 / 18 : ℚ) (3 / 4) 1 = (1, 1 / 4, 1 / 2) := by
  have hred : (1 : ℚ) ∈ Set.Icc 0 1 := by norm_num
  have hgreen : (1 / 4 : ℚ) ∈ Set.Icc 0 1 := by norm_num
  have hblue : (1 / 2 : ℚ) ∈ Set.Icc 0 1 := by norm_num
  have hvalue : ofRgb (1 : ℚ) (1 / 4) (1 / 2) = (17 / 18, 3 / 4, 1) := by decide +kernel
  obtain ⟨h, s, v, hof, -, -, -, hback⟩ := hues_restore_colours 1 (1 / 4) (1 / 2) hred hgreen hblue
  rw [hvalue, Prod.mk.injEq, Prod.mk.injEq] at hof
  obtain ⟨rfl, rfl, rfl⟩ := hof
  exact ⟨⟨hred, hgreen, hblue⟩, hvalue, hback⟩

end FieldGraph.Hue
