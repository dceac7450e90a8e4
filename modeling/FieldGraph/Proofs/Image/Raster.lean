import FieldGraph.Image.Raster
import FieldGraph.Proofs.Field.Pool
import FieldGraph.Proofs.Field.Source

/-!
# Pixels and their samples

An image is painted pixel by pixel, in its own coordinates. Setting a run of pixels gives each its
colour and leaves the rest of the plane alone, so rows are painted without regard to each other.
The distances of a row are those of its own points although the buffers are never cleared, because
a row reads no further than it has written. A slice is thus painted with the colours of the
distances at the centres of pixels, in all rows or in those above the first that failed.
-/

namespace FieldGraph

variable {Pixel : Type}

namespace Image

/-- All rows have the same length. -/
structure HasSize (i : Image Pixel) (width height : Nat) : Prop where
  rows : i.rows.length = height
  row : ∀ row ∈ i.rows, row.length = width

/-- The colour of a pixel, if it is in the image. -/
def pixel? (i : Image Pixel) (x y : Int) : Option Pixel :=
  if i.minX ≤ x ∧ i.minY ≤ y then
    i.rows[(y - i.minY).toNat]?.bind fun row => row[(x - i.minX).toNat]?
  else none

/-- A rectangle is as wide and as high as its corners are apart. -/
theorem hasSize_filled (c : Pixel) (x0 y0 x1 y1 : Int) :
    (filled c x0 y0 x1 y1).HasSize (x1 - x0).natAbs (y1 - y0).natAbs := by
  refine ⟨List.length_replicate, ?_⟩
  intro row hrow
  rw [List.eq_of_mem_replicate hrow, List.length_replicate]

/-- The width is the common length of the rows. -/
theorem HasSize.width_eq {i : Image Pixel} {width height : Nat} (h : i.HasSize width height)
    (hheight : 0 < height) : i.width = width := by
  unfold Image.width
  cases hrows : i.rows with
  | nil =>
    have hempty := h.rows
    rw [hrows] at hempty
    exact absurd hempty hheight.ne
  | cons row rest => exact h.row row (by simp [hrows])

/-- A place in the rectangle is a pixel. -/
theorem HasSize.isSome_pixel? {i : Image Pixel} {width height : Nat} (h : i.HasSize width height)
    {a b : Nat} (ha : a < width) (hb : b < height) :
    (i.pixel? (i.minX + a) (i.minY + b)).isSome := by
  have hrow : b < i.rows.length := h.rows ▸ hb
  have hcolumn : a < i.rows[b].length := by
    rw [h.row _ (List.getElem_mem hrow)]
    exact ha
  have hx : (i.minX + a - i.minX).toNat = a := by omega
  have hy : (i.minY + b - i.minY).toNat = b := by omega
  rw [pixel?, if_pos (by omega), hx, hy, List.getElem?_eq_getElem hrow, Option.bind_some,
    List.getElem?_eq_getElem hcolumn]
  rfl

/-! ## Setting pixels -/

@[simp] theorem minX_set (i : Image Pixel) (x y : Int) (c : Pixel) :
    (i.set x y c).minX = i.minX := by
  unfold set
  split <;> rfl

@[simp] theorem minY_set (i : Image Pixel) (x y : Int) (c : Pixel) :
    (i.set x y c).minY = i.minY := by
  unfold set
  split <;> rfl

/-- Setting a pixel changes this pixel if there is one, and no other. -/
theorem pixel?_set (i : Image Pixel) (x y : Int) (c : Pixel) (u v : Int) :
    (i.set x y c).pixel? u v =
      if u = x ∧ v = y then (i.pixel? u v).map fun _ => c else i.pixel? u v := by
  by_cases hplace : i.minX ≤ x ∧ i.minY ≤ y
  · by_cases hseen : i.minX ≤ u ∧ i.minY ≤ v
    · rw [set, if_pos hplace, pixel?, pixel?, if_pos hseen, if_pos hseen, List.getElem?_modify]
      have hcolumn : (x - i.minX).toNat = (u - i.minX).toNat ↔ u = x := by omega
      have hrow : (y - i.minY).toNat = (v - i.minY).toNat ↔ v = y := by omega
      cases i.rows[(v - i.minY).toNat]? with
      | none => simp
      | some row =>
        by_cases hv : v = y
        · by_cases hu : u = x
          · simp [hv, hu, List.getElem?_set_self', Function.const_def]
          · simp [hv, hu, hcolumn]
        · simp [hrow, hv]
    · have hother : ¬ (u = x ∧ v = y) := by
        rintro ⟨rfl, rfl⟩
        exact hseen hplace
      rw [if_neg hother, set, if_pos hplace, pixel?, pixel?, if_neg hseen, if_neg hseen]
  · rw [set, if_neg hplace]
    by_cases hsame : u = x ∧ v = y
    · obtain ⟨rfl, rfl⟩ := hsame
      rw [if_pos ⟨rfl, rfl⟩, pixel?, if_neg hplace, Option.map_none]
    · rw [if_neg hsame]

/-- Setting a pixel makes no pixels. -/
theorem isSome_pixel?_set (i : Image Pixel) (x y : Int) (c : Pixel) (u v : Int) :
    ((i.set x y c).pixel? u v).isSome = (i.pixel? u v).isSome := by
  rw [pixel?_set]
  split
  · exact Option.isSome_map
  · rfl

/-! ## Runs of pixels -/

theorem minX_setRun (i : Image Pixel) (x y : Int) (colours : List Pixel) :
    (i.setRun x y colours).minX = i.minX := by
  induction colours generalizing i x with
  | nil => rfl
  | cons c rest ih => rw [setRun, ih, minX_set]

theorem minY_setRun (i : Image Pixel) (x y : Int) (colours : List Pixel) :
    (i.setRun x y colours).minY = i.minY := by
  induction colours generalizing i x with
  | nil => rfl
  | cons c rest ih => rw [setRun, ih, minY_set]

/-- A run makes no pixels. -/
theorem isSome_pixel?_setRun (i : Image Pixel) (x y : Int) (colours : List Pixel) (u v : Int) :
    ((i.setRun x y colours).pixel? u v).isSome = (i.pixel? u v).isSome := by
  induction colours generalizing i x with
  | nil => rfl
  | cons c rest ih => rw [setRun, ih, isSome_pixel?_set]

/-- A run leaves alone what is not in it. -/
theorem pixel?_setRun_of_not_mem (i : Image Pixel) (x y : Int) (colours : List Pixel) {u v : Int}
    (h : ¬ (v = y ∧ x ≤ u ∧ u < x + colours.length)) :
    (i.setRun x y colours).pixel? u v = i.pixel? u v := by
  induction colours generalizing i x with
  | nil => rfl
  | cons c rest ih =>
    rw [List.length_cons] at h
    rw [setRun, ih (i.set x y c) (x + 1) (by omega), pixel?_set, if_neg (by omega)]

/-- A run gives its pixels their colours. -/
theorem pixel?_setRun_of_mem (i : Image Pixel) (x y : Int) (colours : List Pixel) {a : Nat}
    (ha : a < colours.length) (hpixel : (i.pixel? (x + a) y).isSome) :
    (i.setRun x y colours).pixel? (x + a) y = some colours[a] := by
  induction colours generalizing i x a with
  | nil => exact absurd ha (Nat.not_lt_zero a)
  | cons c rest ih =>
    rw [setRun]
    cases a with
    | zero =>
      -- The first pixel is not in what follows it.
      rw [pixel?_setRun_of_not_mem _ _ _ _ (by omega), pixel?_set, if_pos (by omega)]
      obtain ⟨old, hold⟩ := Option.isSome_iff_exists.mp hpixel
      rw [hold]
      rfl
    | succ a =>
      have hshift : x + ((a + 1 : Nat) : Int) = x + 1 + (a : Int) := by omega
      rw [hshift] at hpixel ⊢
      exact ih _ _ (Nat.lt_of_succ_lt_succ ha) ((isSome_pixel?_set ..).trans hpixel)

/-! ## Rows -/

/-- An image with some rows painted. The colour of a pixel is given by its column and row. -/
def withRows (i : Image Pixel) (colour : Nat → Nat → Pixel) (width : Nat) (rows : List Nat) :
    Image Pixel :=
  rows.foldl
    (fun i (b : Nat) => i.setRun i.minX (b + i.minY) ((List.range width).map (colour · b))) i

theorem withRows_concat (i : Image Pixel) (colour : Nat → Nat → Pixel) (width : Nat)
    (rows : List Nat) (b : Nat) :
    i.withRows colour width (rows ++ [b]) =
      (i.withRows colour width rows).setRun (i.withRows colour width rows).minX
        (b + (i.withRows colour width rows).minY) ((List.range width).map (colour · b)) := by
  rw [withRows, List.foldl_append]
  rfl

/-- The pixels of the first columns and rows have their colours, and nothing else has changed. -/
structure Painted (colour : Nat → Nat → Pixel) (width height : Nat) (before after : Image Pixel) :
    Prop where
  minX : after.minX = before.minX
  minY : after.minY = before.minY
  pixels : ∀ x y, (after.pixel? x y).isSome = (before.pixel? x y).isSome
  inside : ∀ a < width, ∀ b < height,
    after.pixel? (before.minX + a) (before.minY + b) = some (colour a b)
  outside : ∀ x y, ¬ (∃ a < width, ∃ b < height, x = before.minX + a ∧ y = before.minY + b) →
    after.pixel? x y = before.pixel? x y

/-- Rows are painted from the first one on. -/
theorem painted_withRows {i : Image Pixel} {width height n : Nat} (hsize : i.HasSize width height)
    (colour : Nat → Nat → Pixel) (hn : n ≤ height) :
    Painted colour width n i (i.withRows colour width (List.range n)) := by
  induction n with
  | zero =>
    refine ⟨rfl, rfl, fun _ _ => rfl, ?_, fun _ _ _ => rfl⟩
    intro a _ b hb
    exact absurd hb (Nat.not_lt_zero b)
  | succ n ih =>
    have hprevious := ih (by omega)
    have hlength : ((List.range width).map (colour · n)).length = width := by simp
    rw [List.range_succ, withRows_concat, hprevious.minX, hprevious.minY]
    refine ⟨(minX_setRun ..).trans hprevious.minX, (minY_setRun ..).trans hprevious.minY,
      ?_, ?_, ?_⟩
    · intro x y
      rw [isSome_pixel?_setRun, hprevious.pixels]
    · intro a ha b hb
      obtain rfl | hlt := Nat.eq_or_lt_of_le (Nat.le_of_lt_succ hb)
      · -- The new row.
        have hpixel := hsize.isSome_pixel? ha (Nat.lt_of_succ_le hn)
        rw [← hprevious.pixels, Int.add_comm i.minY] at hpixel
        rw [Int.add_comm i.minY, pixel?_setRun_of_mem _ _ _ _ (by omega) hpixel]
        simp
      · rw [pixel?_setRun_of_not_mem _ _ _ _ (by omega), hprevious.inside a ha b hlt]
    · intro x y hout
      rw [pixel?_setRun_of_not_mem, hprevious.outside]
      · rintro ⟨a, ha, b, hb, hplace⟩
        exact hout ⟨a, ha, b, by omega, hplace⟩
      · rintro ⟨hy, hx, hright⟩
        exact hout ⟨(x - i.minX).toNat, by omega, n, by omega, by omega, by omega⟩

end Image

namespace SliceRenderer

/-! ## Painting rows -/

/-- The colour of the distance at the centre of a pixel. -/
def sampled (r : SliceRenderer Pixel) (f : Vec3 → Float32) (left top dx dy : Float32) (a b : Nat) :
    Pixel :=
  r.colour (f ⟨left + a.toFloat32 * dx, top - (b.toFloat32 + 0.5) * dy, r.z⟩)

theorem length_rowPoints (r : SliceRenderer Pixel) (left y dx : Float32) (width : Nat) :
    (r.rowPoints left y dx width).length = width := by
  simp [rowPoints]

section

variable {σ : Type} {source : Source σ} {f : Vec3 → Float32} {afterwards : σ → Prop}
  {left top dx dy : Float32} {width n : Nat} {error : EvalError} {s : σ}

/-- A row reads back the points that it has written, whatever the buffer held before. -/
theorem take_points (r : SliceRenderer Pixel) (left y dx : Float32) (width : Nat) :
    (Pool.overwrite r.points (r.rowPoints left y dx width)).take width =
      r.rowPoints left y dx width := by
  have hread := Pool.take_overwrite r.points (r.rowPoints left y dx width)
  rwa [length_rowPoints] at hread

/-- A row whose batch is evaluated is painted with the colours of its own distances. -/
theorem paintRow_of_ok (r : SliceRenderer Pixel) {y : Float32} {batch : List Vec3}
    (hbatch : r.rowPoints left y dx width = batch)
    (h : ((source.evaluate batch batch.length).run.run s).1 = .ok (batch.map f)) (b : Nat)
    (image : Image Pixel) :
    ∃ points distances, (r.paintRow source left y dx width b image).run s =
      ((none, { r with points, distances }, image.setRun image.minX (b + image.minY)
        ((batch.map f).map r.colour)), ((source.evaluate batch batch.length).run.run s).2) := by
  have hlength : batch.length = width := hbatch ▸ r.length_rowPoints left y dx width
  have hread := Pool.take_overwrite r.distances (batch.map f)
  rw [List.length_map] at hread
  refine ⟨Pool.overwrite r.points batch, Pool.overwrite r.distances (batch.map f), ?_⟩
  unfold paintRow
  dsimp only
  rw [take_points, hbatch, StateT.run_bind, ← hlength]
  cases hrun : (source.evaluate batch batch.length).run.run s with
  | mk answer t =>
    rw [hrun] at h
    cases h
    change ((none, _, image.setRun _ _ (((Pool.overwrite r.distances (batch.map f)).take
      batch.length).map r.colour)), t) = _
    rw [hread]

/-- A row whose batch fails is not painted. -/
theorem paintRow_of_error (r : SliceRenderer Pixel) {y : Float32} {batch : List Vec3}
    (hbatch : r.rowPoints left y dx width = batch)
    (h : ((source.evaluate batch batch.length).run.run s).1 = .error error) (b : Nat)
    (image : Image Pixel) :
    ∃ later t, (r.paintRow source left y dx width b image).run s =
      ((some error, later, image), t) := by
  have hlength : batch.length = width := hbatch ▸ r.length_rowPoints left y dx width
  unfold paintRow
  dsimp only
  rw [take_points, hbatch, StateT.run_bind, ← hlength]
  cases hrun : (source.evaluate batch batch.length).run.run s with
  | mk answer t =>
    rw [hrun] at h
    cases h
    exact ⟨_, _, rfl⟩

/-- The colours of a row are those of its pixels. -/
theorem map_rowPoints (r : SliceRenderer Pixel) (f : Vec3 → Float32) (left top dx dy : Float32)
    (width b : Nat) :
    ((r.rowPoints left (top - (b.toFloat32 + 0.5) * dy) dx width).map f).map r.colour =
      (List.range width).map (r.sampled f left top dx dy · b) := by
  rw [rowPoints, List.map_map, List.map_map]
  rfl

/-- After a row whose batch is evaluated, painting goes on with the row painted. -/
theorem paint_of_served (r : SliceRenderer Pixel) (left top dx dy : Float32) (b : Nat)
    (rest : List Nat) (image : Image Pixel) (hwidth : 0 < width)
    (hserves : source.Serves f afterwards (n + 1) s) :
    ∃ points distances t, source.Serves f afterwards n t ∧
      (r.paint source left top dx dy width (b :: rest) image).run s =
        ({ r with points, distances }.paint source left top dx dy width rest
          (image.setRun image.minX (b + image.minY)
            ((List.range width).map (r.sampled f left top dx dy · b)))).run t := by
  obtain ⟨hanswer, hnext⟩ := hserves (r.rowPoints left (top - (b.toFloat32 + 0.5) * dy) dx width)
    (List.ne_nil_of_length_pos (by rwa [length_rowPoints]))
  obtain ⟨points, distances, hrow⟩ := r.paintRow_of_ok rfl hanswer b image
  refine ⟨points, distances, _, hnext, ?_⟩
  rw [map_rowPoints] at hrow
  rw [paint, StateT.run_bind, hrow]
  rfl

/-- If all batches are evaluated, all rows are painted. -/
theorem paint_of_all (r : SliceRenderer Pixel) (left top dx dy : Float32) (rows : List Nat)
    (image : Image Pixel) (hwidth : 0 < width)
    (hserves : source.Serves f afterwards rows.length s) :
    ∃ t, (r.paint source left top dx dy width rows image).run s =
      ((image.withRows (r.sampled f left top dx dy) width rows, none), t) := by
  induction rows generalizing r image s with
  | nil => exact ⟨s, rfl⟩
  | cons b rest ih =>
    obtain ⟨points, distances, t, hrest, hrun⟩ := r.paint_of_served left top dx dy b rest image
      hwidth hserves
    rw [hrun]
    exact ih { r with points, distances } _ hrest

/-- If a batch fails, the rows before it are painted. -/
theorem paint_of_failed (r : SliceRenderer Pixel) (left top dx dy : Float32) (rows : List Nat)
    (image : Image Pixel) (hwidth : 0 < width) (hn : n < rows.length)
    (hfails : source.FailsAt f n error s) :
    ∃ t, (r.paint source left top dx dy width rows image).run s =
      ((image.withRows (r.sampled f left top dx dy) width (rows.take n), some error), t) := by
  induction rows generalizing r image s n with
  | nil => exact absurd hn (Nat.not_lt_zero n)
  | cons b rest ih =>
    cases n with
    | zero =>
      have hanswer := hfails (r.rowPoints left (top - (b.toFloat32 + 0.5) * dy) dx width)
        (List.ne_nil_of_length_pos (by rwa [length_rowPoints]))
      obtain ⟨later, t, hrow⟩ := r.paintRow_of_error rfl hanswer b image
      refine ⟨t, ?_⟩
      rw [paint, StateT.run_bind, hrow]
      rfl
    | succ n =>
      obtain ⟨points, distances, t, hrest, hrun⟩ := r.paint_of_served left top dx dy b rest image
        hwidth hfails
      rw [hrun]
      exact ih { r with points, distances } _ (Nat.lt_of_succ_lt_succ hn) hrest

end

/-! ## Slices -/

/-- The centre of a pixel of a slice through a box, by column and row. -/
def centre (bounds : Box) (width height : Nat) (z : Float32) (a b : Nat) : Vec3 :=
  let dx := bounds.size.x / width.toFloat32
  let dy := bounds.size.y / height.toFloat32
  ⟨(bounds.min.x + dx / 2) + a.toFloat32 * dx, bounds.max.y - (b.toFloat32 + 0.5) * dy, z⟩

/-- What is left of painting a slice that is not refused. -/
theorem render_eq {σ : Type} (r : SliceRenderer Pixel) (source : Source σ) {image : Image Pixel}
    {width height : Nat} (hsize : image.HasSize width height) (hwidth : 0 < width)
    (hheight : 0 < height) (hbuffer : width ≤ r.distances.length) (state : σ) :
    (r.render source image).run state =
      let dx := source.bounds.size.x / width.toFloat32
      let dy := source.bounds.size.y / height.toFloat32
      let run := (r.paint source (source.bounds.min.x + dx / 2) source.bounds.max.y dx dy width
        (List.range height) image).run state
      ((run.1.1, run.1.2.map .evaluation), run.2) := by
  have hacross := hsize.width_eq hheight
  have hdown : image.height = height := hsize.rows
  unfold render
  rw [hacross, hdown, if_neg (by omega), if_neg (by omega), StateT.run_bind]
  rfl

/-- A slice that is not refused is painted, pixel by pixel and nowhere else, with the colours of
the distances at the centres of pixels, if its batches are evaluated by a function; if one of them
fails, its error is given back and exactly the rows above are painted. -/
theorem slices_paint_samples {σ : Type} (r : SliceRenderer Pixel) (source : Source σ)
    (image : Image Pixel) (state : σ) (width height : Nat) (hsize : image.HasSize width height)
    (hwidth : 0 < width) (hheight : 0 < height) (hbuffer : width ≤ r.distances.length)
    (f : Vec3 → Float32) :
    let outcome := ((r.render source image).run state).1
    let colour := fun a b => r.colour (f (centre source.bounds width height r.z a b))
    ((source.Computes f state ∨ ∃ n ≥ height, ∃ error, source.FailsAt f n error state) →
      outcome.2 = none ∧ Image.Painted colour width height image outcome.1) ∧
    ∀ n < height, ∀ error, source.FailsAt f n error state →
      outcome.2 = some (.evaluation error) ∧ Image.Painted colour width n image outcome.1 := by
  intro outcome colour
  have houtcome : outcome = _ :=
    congrArg Prod.fst (r.render_eq source hsize hwidth hheight hbuffer state)
  rw [houtcome]
  refine ⟨fun hall => ?_, fun n hn error hfails => ?_⟩
  · have hserves := Source.serves_of_late hall
    rw [← List.length_range (n := height)] at hserves
    obtain ⟨t, hrun⟩ := r.paint_of_all _ _ _ _ _ image hwidth hserves
    dsimp only
    rw [hrun]
    exact ⟨rfl, Image.painted_withRows hsize colour le_rfl⟩
  · obtain ⟨t, hrun⟩ := r.paint_of_failed _ _ _ _ (List.range height) image hwidth
      (by rwa [List.length_range]) hfails
    dsimp only
    rw [hrun, List.take_range, Nat.min_eq_left hn.le]
    exact ⟨rfl, Image.painted_withRows hsize colour hn.le⟩

/-- A renderer with distances of an earlier slice in its buffer. -/
def usedRenderer : SliceRenderer Colour where
  points := List.replicate 66 .zero
  distances := List.replicate 66 7
  colour := Shading.twoTone.colour
  z := 0.5

/-- A sphere and its image, on a rectangle that begins left of and above the origin: painted as a
whole, and down to the first row if the second batch fails. -/
theorem slices_paint_mirroredSphere :
    (Image.blank (-3) (-1) 0 1).HasSize 3 2 ∧ 3 ≤ usedRenderer.distances.length ∧
    ∃ field, Field.of ((Graph.empty .standard).run Field.mirroredSphere) [1, 2, 3, 4]
      (.centred 4) = .ok field ∧
    ∃ f, field.source.Computes f field.fresh ∧
      (let outcome := ((usedRenderer.render field.source (.blank (-3) (-1) 0 1)).run field.fresh).1
      outcome.2 = none ∧
        Image.Painted (fun a b => usedRenderer.colour
          (f (centre field.source.bounds 3 2 usedRenderer.z a b))) 3 2
          (.blank (-3) (-1) 0 1) outcome.1) ∧
      (let outcome := ((usedRenderer.render (field.source.failingFrom 1)
        (.blank (-3) (-1) 0 1)).run (0, field.fresh)).1
      outcome.2 = some (.evaluation .failed) ∧
        Image.Painted (fun a b => usedRenderer.colour
          (f (centre field.source.bounds 3 2 usedRenderer.z a b))) 3 1
          (.blank (-3) (-1) 0 1) outcome.1) := by
  have hsize : (Image.blank (-3) (-1) 0 1).HasSize 3 2 := Image.hasSize_filled ..
  have hbuffer : 3 ≤ usedRenderer.distances.length := by simp [usedRenderer]
  refine ⟨hsize, hbuffer, ?_⟩
  obtain ⟨field, hfield, f, hf⟩ := Field.exists_computes_mirroredSphere
  refine ⟨field, hfield, f, hf, ?_, ?_⟩
  · have hpainted := slices_paint_samples usedRenderer field.source (.blank (-3) (-1) 0 1)
      field.fresh 3 2 hsize (by decide) (by decide) hbuffer f
    exact hpainted.1 (.inl hf)
  · have hpainted := slices_paint_samples usedRenderer (field.source.failingFrom 1)
      (.blank (-3) (-1) 0 1) (0, field.fresh) 3 2 hsize (by decide) (by decide) hbuffer f
    exact hpainted.2 1 (by decide) .failed (hf.failsAt 1)

end SliceRenderer

end FieldGraph
