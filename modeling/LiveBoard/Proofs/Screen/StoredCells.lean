import LiveBoard.Proofs.Screen.WrittenTexts

/-!
# Stored cells

The cells of a frame are stored row after row, and the place of a row and column is
`y * width + x`. A `Store` is such a grid of which it is not known how many cells it has: reading,
writing and cutting out a row check that what they touch is there, and give nothing where it is
not. Whatever is done to a new store, there is a cell for every row and column
(`Store.Reached.exists_frame`), so none of this ever fails, and all of it does what it does to
frames (`Store.Follows`).

Places and coordinates determine each other, by quotient and remainder one way
(`Frame.indexOf?_eq_some_iff`), so a cell that is set stands at its own coordinates and no others,
and a span is blanked without a slip into the next row. `Store.cells_faithful` collects this for
all sequences of operations.
-/

set_option autoImplicit false
set_option relaxedAutoImplicit false

namespace LiveBoard.Screen

/-! ### Places -/

section Places

variable {frame : Frame} {x y column row index : Nat}

/-- A place determines its coordinates and they determine it. -/
@[grind =]
theorem Frame.indexOf?_eq_some_iff :
    frame.indexOf? x y = some index ↔
      index < frame.width * frame.height ∧ x = index % frame.width ∧ y = index / frame.width := by
  constructor
  · intro h
    unfold Frame.indexOf? at h
    split_ifs at h with hinside
    obtain ⟨hx, hy⟩ := hinside
    obtain rfl : y * frame.width + x = index := Option.some.inj h
    refine ⟨frame.size_eq ▸ index_lt_size hx hy, ?_, ?_⟩
    · rw [Nat.mul_add_mod_self_right, Nat.mod_eq_of_lt hx]
    · rw [Nat.mul_comm, Nat.mul_add_div (Nat.zero_lt_of_lt hx), Nat.div_eq_of_lt hx, Nat.add_zero]
  · rintro ⟨hindex, rfl, rfl⟩
    have hwidth : 0 < frame.width := Nat.pos_of_mul_pos_right (Nat.zero_lt_of_lt hindex)
    rw [Frame.indexOf?, if_pos ⟨Nat.mod_lt index hwidth, Nat.div_lt_of_lt_mul hindex⟩,
      Nat.div_add_mod']

@[simp]
theorem Frame.isSome_indexOf? :
    (frame.indexOf? x y).isSome ↔ x < frame.width ∧ y < frame.height := by
  unfold Frame.indexOf?
  split_ifs with hinside <;> simp [hinside]

/-- Every stored cell is the one at its coordinates. -/
theorem Frame.get?_of_getElem? {cell : Cell} (h : frame.cells[index]? = some cell) :
    frame.get? (index % frame.width) (index / frame.width) = some cell := by
  obtain ⟨hsize, -⟩ := Array.getElem?_eq_some_iff.mp h
  rw [frame.size_eq] at hsize
  unfold Frame.get?
  rw [Frame.indexOf?_eq_some_iff.mpr ⟨hsize, rfl, rfl⟩]
  exact h

/-- A cell is set at its own coordinates and no others, and nowhere outside of the frame. -/
theorem Frame.get?_set_eq (cell : Cell) :
    (frame.set x y cell).get? column row =
      if frame.contains x y ∧ column = x ∧ row = y then some cell
      else frame.get? column row := by
  by_cases hinside : x < frame.width ∧ y < frame.height
  · have hcontains : frame.contains x y = true := Frame.isSome_indexOf?.mpr hinside
    rw [Frame.get?_set hinside.1 hinside.2, hcontains]
    simp
  · have hcontains : ¬ frame.contains x y = true := mt Frame.isSome_indexOf?.mp hinside
    rw [Frame.set_of_not_lt hinside, if_neg fun h ↦ hcontains h.1]

/-- A span blanks its columns of its row as far as the frame goes. -/
theorem Frame.get?_fill_eq (count : Nat) (style : Style) :
    (frame.fill x y count style).get? column row =
      if frame.contains column row ∧ row = y ∧ x ≤ column ∧ column < x + count then
        some (Cell.blank.withStyle style)
      else frame.get? column row := by
  by_cases hinside : column < frame.width ∧ row < frame.height
  · have hcontains : frame.contains column row = true := Frame.isSome_indexOf?.mpr hinside
    rw [Frame.get?_fill hinside.1 hinside.2, Stroke.ink?, hcontains]
    simp only [true_and]
    split_ifs <;> rfl
  · have hcontains : ¬ frame.contains column row = true := mt Frame.isSome_indexOf?.mp hinside
    obtain ⟨hwidth, hheight⟩ := frame.size_fill x y count style
    rw [if_neg fun h ↦ hcontains h.1, Frame.get?_eq_none hinside, Frame.get?_eq_none]
    rwa [hwidth, hheight]

/-! ### Outside -/

theorem Frame.fill_of_not_lt (houtside : ¬ (x < frame.width ∧ y < frame.height)) (count : Nat)
    (style : Style) : frame.fill x y count style = frame := by
  unfold Frame.fill
  by_cases hx : x < frame.width
  · have hset : ∀ column, frame.set column y (Cell.blank.withStyle style) = frame :=
      fun column ↦ Frame.set_of_not_lt (fun h ↦ houtside ⟨hx, h.2⟩) _
    induction List.range' x (min (x + count) frame.width - x) with
    | nil => rfl
    | cons column rest ih => rw [List.foldl_cons, hset, ih]
  · rw [show min (x + count) frame.width - x = 0 by omega]
    rfl

/-- Assumes: columns that can all be told from the limit. No text is written from outside of a
frame. -/
theorem Frame.put_of_not_lt (hlimit : frame.width < columnLimit)
    (houtside : ¬ (x < frame.width ∧ y < frame.height)) (text : List Char) (style : Style) :
    frame.put x y text style = frame := by
  unfold Frame.put Frame.fittingText
  by_cases hx : x < frame.width
  · exact Frame.placeAll_of_not_lt (fun hy ↦ houtside ⟨hx, hy⟩) x _
  · obtain ⟨kept, hlongest, hkept⟩ := exists_longestFitting hlimit x style text
    have hfits := hlongest.fits
    cases kept with
    | nil =>
      rw [hkept]
      rfl
    | cons c rest =>
      have hpositive := shownWidth_pos c
      rw [textColumns] at hfits
      omega

end Places

/-! ### Stores -/

/-- A grid of cells, of which it is not known that there is one for every row and column. -/
structure Store where
  /-- The number of columns. -/
  width : Nat
  /-- The number of rows. -/
  height : Nat
  /-- The cells, row after row. -/
  cells : Array Cell

/-- The cells of a frame. -/
def Frame.store (frame : Frame) : Store := ⟨frame.width, frame.height, frame.cells⟩

/-- The store of blanks of a size, none where a side is zero. -/
def Store.new? (width height : UInt16) : Option Store :=
  if width = 0 ∨ height = 0 then none
  else some ⟨width.toNat, height.toNat, .replicate (width.toNat * height.toNat) .blank⟩

/-- The place of a row and column among the cells. -/
def Store.indexOf? (store : Store) (x y : UInt16) : Option Nat :=
  if x.toNat < store.width ∧ y.toNat < store.height then
    some (y.toNat * store.width + x.toNat)
  else none

/-- The cell at a row and column, if the grid has them. It fails where no cell is stored there. -/
def Store.get? (store : Store) (x y : UInt16) : Option (Option Cell) :=
  match store.indexOf? x y with
  | some index => store.cells[index]?.map some
  | none => some none

/-- The store with another cell at a row and column, and whether the grid has them. It fails where
no cell is stored there. -/
def Store.set? (store : Store) (x y : UInt16) (cell : Cell) : Option (Store × Bool) :=
  match store.indexOf? x y with
  | some index =>
    if index < store.cells.size then
      some ({ store with cells := store.cells.setIfInBounds index cell }, true)
    else none
  | none => some (store, false)

/-- The store with one cell written, and its continuation if it is wide. -/
def Store.place? (store : Store) (column y : UInt16) (cell : Cell) : Option Store :=
  (store.set? column y cell).bind fun (left, _) ↦
    if cell.width = 2 then
      (columnSum? column 1).bind fun right ↦
        (left.set? right y (.continuation cell.style)).map Prod.fst
    else some left

/-- The store with a text written from a column on, and the column after it. -/
def Store.run? (store : Store) (column y : UInt16) (style : Style) :
    List Char → Option (Store × UInt16)
  | [] => some (store, column)
  | c :: rest =>
    let cell := Cell.styled c style
    let width := cell.width.toUInt16
    if store.width < (cutColumnSum column width).toNat then some (store, column)
    else
      (store.place? column y cell).bind fun placed ↦
        (columnSum? column width).bind fun next ↦ placed.run? next y style rest

/-- The store with a text written from a column on, and the number of columns it takes. -/
def Store.put? (store : Store) (x y : UInt16) (text : List Char) (style : Style) :
    Option (Store × UInt16) :=
  (store.run? x y style text).bind fun (drawn, stop) ↦
    (columnDifference? stop x).map fun used ↦ (drawn, used)

/-- The store with a number of blanks written from a column on. -/
def Store.span? (store : Store) (column y : UInt16) (style : Style) : Nat → Option Store
  | 0 => some store
  | count + 1 =>
    (columnSum? column 1).bind fun next ↦
      (store.set? column y (Cell.blank.withStyle style)).bind fun (after, _) ↦
        after.span? next y style count

/-- The store with a span of a row blanked. -/
def Store.fill? (store : Store) (x y count : UInt16) (style : Style) : Option Store :=
  store.span? x y style (min (cutColumnSum x count).toNat store.width - x.toNat)

/-- The store with every cell blank. -/
def Store.cleared (store : Store) : Store :=
  { store with cells := .replicate store.cells.size .blank }

/-- The store with the cells of another one. It fails where their sizes differ. -/
def Store.copyFrom? (store other : Store) : Option Store :=
  if store.width = other.width ∧ store.height = other.height ∧
      store.cells.size = other.cells.size then
    some { store with cells := other.cells }
  else none

/-- The characters of a row without the white space at its end. It fails where a cell of the row is
not stored. -/
def Store.rowText? (store : Store) (y : UInt16) : Option (List Char) :=
  match store.indexOf? 0 y with
  | some start =>
    if start + store.width ≤ store.cells.size then
      some (Text.trimEnd (characters (store.cells.extract start (start + store.width)).toList))
    else none
  | none => some []

/-- A store as operations on new stores of a size make it. -/
inductive Store.Reached (width height : UInt16) : Store → Prop
  /-- A new store. -/
  | new {store : Store} (hstore : Store.new? width height = some store) :
    Reached width height store
  /-- A cell is set. -/
  | set {store after : Store} (hstore : Reached width height store) (x y : UInt16) (cell : Cell)
    {inside : Bool} (hafter : store.set? x y cell = some (after, inside)) :
    Reached width height after
  /-- A span is blanked. -/
  | fill {store after : Store} (hstore : Reached width height store) (x y count : UInt16)
    (style : Style) (hafter : store.fill? x y count style = some after) :
    Reached width height after
  /-- A text is written. -/
  | put {store after : Store} (hstore : Reached width height store) (x y : UInt16)
    (text : List Char) (style : Style) {used : UInt16}
    (hafter : store.put? x y text style = some (after, used)) : Reached width height after
  /-- The store is cleared. -/
  | clear {store : Store} (hstore : Reached width height store) :
    Reached width height store.cleared
  /-- The cells of another store of the size are copied. -/
  | copy {store other after : Store} (hstore : Reached width height store)
    (hother : Reached width height other) (hafter : store.copyFrom? other = some after) :
    Reached width height after

/-- What is done to a store is what is done to a frame, and none of it fails. -/
structure Store.Follows (store : Store) (frame : Frame) : Prop where
  /-- The store holds the cells of the frame. -/
  same : store = frame.store
  /-- Reading. -/
  get : ∀ x y, store.get? x y = some (frame.get? x.toNat y.toNat)
  /-- Reading a row. -/
  rowText : ∀ y, store.rowText? y = some (frame.rowText y.toNat)
  /-- Setting a cell. -/
  set : ∀ x y cell, store.set? x y cell =
    some ((frame.set x.toNat y.toNat cell).store, frame.contains x.toNat y.toNat)
  /-- Blanking a span. -/
  fill : ∀ x y count style, store.fill? x y count style =
    some (frame.fill x.toNat y.toNat count.toNat style).store
  /-- Writing a text. -/
  put : ∀ x y text style, store.put? x y text style =
    some ((frame.put x.toNat y.toNat text style).store,
      (frame.used x.toNat text style).toUInt16)
  /-- Clearing. -/
  clear : store.cleared = frame.cleared.store

section Stores

variable {frame : Frame}

@[simp]
theorem Frame.store_indexOf? (frame : Frame) (x y : UInt16) :
    frame.store.indexOf? x y = frame.indexOf? x.toNat y.toNat := rfl

theorem Frame.lt_size_of_indexOf? {x y index : Nat} (h : frame.indexOf? x y = some index) :
    index < frame.cells.size :=
  frame.size_eq ▸ (Frame.indexOf?_eq_some_iff.mp h).1

@[simp]
theorem Frame.store_get? (frame : Frame) (x y : UInt16) :
    frame.store.get? x y = some (frame.get? x.toNat y.toNat) := by
  unfold Store.get? Frame.get?
  rw [Frame.store_indexOf?]
  cases hindex : frame.indexOf? x.toNat y.toNat with
  | none => rfl
  | some index =>
    have hstored := Array.getElem?_eq_getElem (Frame.lt_size_of_indexOf? hindex)
    dsimp only [Frame.store, Option.bind_some]
    rw [hstored]
    rfl

@[simp]
theorem Frame.store_set? (frame : Frame) (x y : UInt16) (cell : Cell) :
    frame.store.set? x y cell =
      some ((frame.set x.toNat y.toNat cell).store, frame.contains x.toNat y.toNat) := by
  unfold Store.set? Frame.set Frame.contains
  rw [Frame.store_indexOf?]
  cases hindex : frame.indexOf? x.toNat y.toNat with
  | none => rfl
  | some index => exact if_pos (Frame.lt_size_of_indexOf? hindex)

theorem Frame.store_rowText? (hwidth : 0 < frame.width) (y : UInt16) :
    frame.store.rowText? y = some (frame.rowText y.toNat) := by
  unfold Store.rowText? Frame.rowText
  rw [Frame.store_indexOf?]
  by_cases hy : y.toNat < frame.height
  · have hindex : frame.indexOf? (0 : UInt16).toNat y.toNat = some (y.toNat * frame.width) :=
      if_pos ⟨hwidth, hy⟩
    have hstop : y.toNat * frame.width + frame.width = (y.toNat + 1) * frame.width :=
      (Nat.succ_mul _ _).symm
    have hstored : y.toNat * frame.width + frame.store.width ≤ frame.store.cells.size :=
      hstop.trans_le (row_end_le_size hy)
    rw [hindex, if_pos hy]
    dsimp only
    rw [if_pos hstored, Frame.rowCells, ← hstop]
    rfl
  · have hindex : frame.indexOf? (0 : UInt16).toNat y.toNat = none :=
      if_neg fun h ↦ hy h.2
    rw [hindex, if_neg hy]

theorem Frame.store_place? (frame : Frame) (column y : UInt16) (cell : Cell) :
    frame.store.place? column y cell = (frame.countedPlace? column y cell).map Frame.store := by
  unfold Store.place? Frame.countedPlace?
  rw [Frame.store_set?, Option.bind_some]
  dsimp only
  split_ifs with hwide
  · cases columnSum? column 1 with
    | none => rfl
    | some right =>
      rw [Option.bind_some, Frame.store_set?]
      rfl
  · rfl

theorem Frame.store_run? (frame : Frame) (column y : UInt16) (style : Style) (text : List Char) :
    frame.store.run? column y style text =
      (frame.countedRun? column y style text).map fun (drawn, stop) ↦ (drawn.store, stop) := by
  induction text generalizing frame column with
  | nil => rfl
  | cons c rest ih =>
    unfold Store.run? Frame.countedRun?
    dsimp only
    rw [Frame.store_place?]
    change (if frame.width < _ then _ else _) = _
    split_ifs with hfull
    · rfl
    · cases frame.countedPlace? column y (Cell.styled c style) with
      | none => rfl
      | some placed =>
        rw [Option.map_some, Option.bind_some, Option.bind_some]
        cases columnSum? column (Cell.styled c style).width.toUInt16 with
        | none => rfl
        | some next => exact ih placed next

theorem Frame.store_span? (frame : Frame) (column y : UInt16) (style : Style) (count : Nat) :
    frame.store.span? column y style count =
      (frame.countedSpan? column y style count).map Frame.store := by
  induction count generalizing frame column with
  | zero => rfl
  | succ count ih =>
    unfold Store.span? Frame.countedSpan?
    rw [Frame.store_set?]
    cases columnSum? column 1 with
    | none => rfl
    | some next => exact ih _ next

theorem Frame.store_countedPut? (frame : Frame) (x y : UInt16) (text : List Char)
    (style : Style) :
    frame.store.put? x y text style =
      (frame.countedPut? x y text style).map fun (drawn, used) ↦ (drawn.store, used) := by
  unfold Store.put? Frame.countedPut?
  rw [Frame.store_run?]
  cases frame.countedRun? x y style text with
  | none => rfl
  | some written =>
    obtain ⟨drawn, stop⟩ := written
    rw [Option.map_some, Option.bind_some, Option.bind_some]
    dsimp only
    cases columnDifference? stop x <;> rfl

/-- Assumes: columns that can all be told from the limit. Writing a text never fails. -/
theorem Frame.store_put? (hlimit : frame.width < columnLimit) (x y : UInt16) (text : List Char)
    (style : Style) :
    frame.store.put? x y text style =
      some ((frame.put x.toNat y.toNat text style).store,
        (frame.used x.toNat text style).toUInt16) := by
  have hover : ¬ frame.overruns x.toNat text style := by
    rw [Frame.overruns_iff (Nat.le_of_lt hlimit) (toNat_le_columnLimit x)]
    exact fun h ↦ Nat.ne_of_lt hlimit h.1
  rw [Frame.store_countedPut?, Frame.countedPut?_eq (Nat.le_of_lt hlimit), Frame.put?,
    if_neg hover]
  rfl

/-- Assumes: columns that all have a number. Blanking a span never fails. -/
theorem Frame.store_fill? (hwidth : frame.width ≤ columnLimit) (x y count : UInt16)
    (style : Style) :
    frame.store.fill? x y count style =
      some (frame.fill x.toNat y.toNat count.toNat style).store := by
  have hcounted : frame.countedFill? x y count style =
      some (frame.fill x.toNat y.toNat count.toNat style) :=
    Frame.countedFill?_eq hwidth x count
  unfold Frame.countedFill? at hcounted
  unfold Store.fill?
  rw [Frame.store_span?]
  exact congrArg (Option.map Frame.store) hcounted

@[simp]
theorem Frame.store_cleared (frame : Frame) : frame.store.cleared = frame.cleared.store := by
  unfold Store.cleared Frame.cleared Frame.store Frame.blank
  rw [frame.size_eq]

/-- Copying between frames of one size never fails. -/
theorem Frame.store_copyFrom? {other : Frame} (hwidth : frame.width = other.width)
    (hheight : frame.height = other.height) :
    frame.store.copyFrom? other.store = some other.store := by
  have hsize : frame.cells.size = other.cells.size := by
    rw [frame.size_eq, other.size_eq, hwidth, hheight]
  unfold Store.copyFrom?
  rw [if_pos ⟨hwidth, hheight, hsize⟩]
  unfold Frame.store
  rw [hwidth, hheight]

/-- Assumes: a row of some columns that can all be told from the limit. Whatever is done to the
store of a frame is done to the frame, and never fails. -/
theorem Frame.store_follows (hwidth : 0 < frame.width) (hlimit : frame.width < columnLimit) :
    frame.store.Follows frame where
  same := rfl
  get := frame.store_get?
  rowText := Frame.store_rowText? hwidth
  set := frame.store_set?
  fill := Frame.store_fill? (Nat.le_of_lt hlimit)
  put := Frame.store_put? hlimit
  clear := frame.store_cleared

end Stores

/-! ### Sequences of operations -/

/-- The frame has the sides of a size. -/
structure Frame.OfSize (frame : Frame) (width height : UInt16) : Prop where
  width : frame.width = width.toNat
  height : frame.height = height.toNat

/-- Assumes: columns that can all be told from the limit. Whatever was done to a new store, it holds
the cells of a frame. -/
theorem Store.Reached.exists_frame {width height : UInt16} (hlimit : width.toNat < columnLimit)
    {store : Store} (h : store.Reached width height) :
    ∃ frame : Frame, frame.OfSize width height ∧ store = frame.store := by
  induction h with
  | new hstore =>
    unfold Store.new? at hstore
    split_ifs at hstore
    exact ⟨.blank width.toNat height.toNat, ⟨rfl, rfl⟩, (Option.some.inj hstore).symm⟩
  | set _ x y cell hafter ih =>
    obtain ⟨frame, hsize, rfl⟩ := ih
    rw [Frame.store_set?] at hafter
    cases hafter
    exact ⟨_, ⟨(frame.width_set ..).trans hsize.width, (frame.height_set ..).trans hsize.height⟩,
      rfl⟩
  | fill _ x y count style hafter ih =>
    obtain ⟨frame, hsize, rfl⟩ := ih
    rw [Frame.store_fill? (Nat.le_of_lt (hsize.width ▸ hlimit))] at hafter
    obtain ⟨hwidth, hheight⟩ := frame.size_fill x.toNat y.toNat count.toNat style
    exact ⟨_, ⟨hwidth.trans hsize.width, hheight.trans hsize.height⟩,
      (Option.some.inj hafter).symm⟩
  | put _ x y text style hafter ih =>
    obtain ⟨frame, hsize, rfl⟩ := ih
    rw [Frame.store_put? (hsize.width ▸ hlimit)] at hafter
    cases hafter
    obtain ⟨hwidth, hheight⟩ := frame.size_placeAll x.toNat y.toNat
      (frame.fittingText x.toNat text style)
    exact ⟨_, ⟨hwidth.trans hsize.width, hheight.trans hsize.height⟩, rfl⟩
  | clear _ ih =>
    obtain ⟨frame, hsize, rfl⟩ := ih
    exact ⟨frame.cleared, ⟨hsize.width, hsize.height⟩, frame.store_cleared⟩
  | copy _ _ hafter ih ihOther =>
    obtain ⟨frame, hsize, rfl⟩ := ih
    obtain ⟨other, hother, rfl⟩ := ihOther
    rw [Frame.store_copyFrom? (hsize.width.trans hother.width.symm)
      (hsize.height.trans hother.height.symm)] at hafter
    exact ⟨other, hother, (Option.some.inj hafter).symm⟩

/-- Assumes: sides that are not zero, and columns that can all be told from the limit.

There is a new store, and whatever is done to it, to its copies and to others of its size, there is
a cell for every row and column. So nothing that may be done next fails, and it does what it does
to the frame of these cells. -/
theorem Store.cells_faithful {width height : UInt16} (hwidth : 0 < width)
    (hlimit : width.toNat < columnLimit) (hheight : 0 < height) :
    (Store.new? width height).isSome ∧
    ∀ store, Store.Reached width height store →
      store.cells.size = width.toNat * height.toNat ∧
      ∃ frame : Frame, frame.OfSize width height ∧ store.Follows frame ∧
        (∀ other, Store.Reached width height other → store.copyFrom? other = some other) ∧
        -- places and coordinates inside determine each other
        (∀ x y, frame.contains x y = (frame.indexOf? x y).isSome ∧
          (frame.contains x y = true ↔ x < frame.width ∧ y < frame.height)) ∧
        (∀ x y index, frame.indexOf? x y = some index ↔
          index < width.toNat * height.toNat ∧
            x = index % frame.width ∧ y = index / frame.width) ∧
        (∀ index cell, store.cells[index]? = some cell →
          frame.get? (index % frame.width) (index / frame.width) = some cell) ∧
        -- a cell is set inside only, and at its own coordinates only
        (∀ x y cell column row, (frame.set x y cell).get? column row =
          if frame.contains x y ∧ column = x ∧ row = y then some cell
          else frame.get? column row) ∧
        -- a span blanks its columns of its row and nothing else
        (∀ x y count style column row, (frame.fill x y count style).get? column row =
          if frame.contains column row ∧ row = y ∧ x ≤ column ∧ column < x + count then
            some (Cell.blank.withStyle style)
          else frame.get? column row) ∧
        -- and writing from outside changes nothing
        (∀ x y, ¬ (x < frame.width ∧ y < frame.height) →
          (∀ cell, frame.set x y cell = frame) ∧
          (∀ count style, frame.fill x y count style = frame) ∧
          ∀ text style, frame.put x y text style = frame) := by
  have hsides : ¬ (width = 0 ∨ height = 0) :=
    not_or.mpr ⟨(UInt16.pos_iff_ne_zero).mp hwidth, (UInt16.pos_iff_ne_zero).mp hheight⟩
  refine ⟨?_, ?_⟩
  · rw [Store.new?, if_neg hsides]
    rfl
  intro store hstore
  obtain ⟨frame, hsize, rfl⟩ := hstore.exists_frame hlimit
  have hcells : frame.width * frame.height = width.toNat * height.toNat := by
    rw [hsize.width, hsize.height]
  have hframe : frame.width < columnLimit := hsize.width ▸ hlimit
  have hcolumns : 0 < frame.width := hsize.width ▸ UInt16.lt_iff_toNat_lt.mp hwidth
  refine ⟨frame.size_eq.trans hcells, frame, hsize, Frame.store_follows hcolumns hframe, ?_,
    fun _ _ ↦ ⟨rfl, Frame.isSome_indexOf?⟩, ?_, fun _ _ ↦ Frame.get?_of_getElem?,
    fun _ _ cell _ _ ↦ Frame.get?_set_eq cell,
    fun _ _ count style _ _ ↦ Frame.get?_fill_eq count style, ?_⟩
  · intro other hother
    obtain ⟨copied, hcopied, rfl⟩ := hother.exists_frame hlimit
    exact Frame.store_copyFrom? (hsize.width.trans hcopied.width.symm)
      (hsize.height.trans hcopied.height.symm)
  · intro x y index
    rw [← hcells]
    exact Frame.indexOf?_eq_some_iff
  · intro x y houtside
    exact ⟨Frame.set_of_not_lt houtside, Frame.fill_of_not_lt houtside,
      Frame.put_of_not_lt hframe houtside⟩

/-- In a store of two rows of three columns, a cell set in the last column of the second row is the
last one of six. -/
theorem Store.cells_faithful_six :
    0 < (3 : UInt16) ∧ (3 : UInt16).toNat < columnLimit ∧ 0 < (2 : UInt16) ∧
      ∃ store, Store.Reached 3 2 store ∧ store.cells.size = 6 ∧
        store.cells[5]? = some (.styled 'a' .plain) ∧
        store.get? 2 1 = some (some (.styled 'a' .plain)) := by
  have hwidth : 0 < (3 : UInt16) := by decide
  have hlimit : (3 : UInt16).toNat < columnLimit := by decide
  have hheight : 0 < (2 : UInt16) := by decide
  have hnew : Store.Reached 3 2 (Frame.blank 3 2).store := .new rfl
  have hreached : Store.Reached 3 2 ((Frame.blank 3 2).set 2 1 (.styled 'a' .plain)).store :=
    hnew.set 2 1 _ (Frame.store_set? _ 2 1 _)
  have hstored : ((Frame.blank 3 2).set 2 1 (.styled 'a' .plain)).store.cells[5]? =
      some (.styled 'a' .plain) := by decide
  obtain ⟨-, hstores⟩ := Store.cells_faithful hwidth hlimit hheight
  obtain ⟨hcells, frame, hsize, hfollows, -, -, -, hplaces, -⟩ := hstores _ hreached
  have hcell := hplaces 5 _ hstored
  rw [hsize.width] at hcell
  exact ⟨hwidth, hlimit, hheight, _, hreached, hcells, hstored,
    (hfollows.get 2 1).trans (congrArg some hcell)⟩

end LiveBoard.Screen
