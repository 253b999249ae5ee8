import LiveBoard.Proofs.Screen.FrameSequence

/-!
# Differences on an unknown terminal

The unknown pen is meant for a terminal of which nothing is known: its cursor may stand anywhere,
any colours may be in force, and its input may have broken off anywhere. A difference drawn with it
starts with a cursor address and sets both colours, but it takes the modifiers in force to be none:
what is unknown of them is not reset. On a terminal whose glyphs are bold the first cell that is
drawn comes out bold (`on_change_unknown`), and as a difference touches no place twice it stays so
(`foldl_compare_leaves`).

`Terminal.shows_difference_unknown_iff` is the result: such a difference leaves the second frame on
the screen exactly when glyphs were not bold before, or the first cell drawn is bold.
-/

set_option autoImplicit false
set_option relaxedAutoImplicit false

namespace LiveBoard.Screen

/-! ### Styles on any terminal -/

/-- The drawing goes on to change the attributes in force and nothing else, whether or not the pen
is right about them. -/
structure Drawing.Recoloured (terminal : Terminal) (before after : Drawing) : Prop where
  /-- The terminal changes its attributes only. -/
  on : after.on terminal =
    { before.on terminal with attributes := (after.on terminal).attributes }
  /-- The pen holds on to the cursor. -/
  cursor : after.pen.cursor = before.pen.cursor

section Recoloured

variable {terminal : Terminal} {before middle after : Drawing}

theorem Drawing.Recoloured.refl (terminal : Terminal) (drawing : Drawing) :
    Drawing.Recoloured terminal drawing drawing :=
  ⟨rfl, rfl⟩

theorem Drawing.Recoloured.trans (hfirst : Drawing.Recoloured terminal before middle)
    (hsecond : Drawing.Recoloured terminal middle after) :
    Drawing.Recoloured terminal before after where
  on := by
    rw [hsecond.on, hfirst.on]
  cursor := hsecond.cursor.trans hfirst.cursor

/-- A mark that changes attributes, with a pen that keeps the cursor. -/
theorem Drawing.recoloured_of_mark {mark : Mark} {attributes : Attributes}
    (hmarks : after.marks = before.marks.push mark)
    (hobey : (before.on terminal).obey mark =
      { before.on terminal with attributes := attributes })
    (hcursor : after.pen.cursor = before.pen.cursor) :
    Drawing.Recoloured terminal before after := by
  have hon : after.on terminal = { before.on terminal with attributes := attributes } := by
    refine Eq.trans ?_ ((before.on_mark terminal mark).trans hobey)
    unfold Drawing.on
    rw [hmarks]
    rfl
  exact ⟨by rw [hon], hcursor⟩

/-- Bringing a style into force changes attributes only. -/
theorem Drawing.recoloured_dress (terminal : Terminal) (drawing : Drawing) (style : Style) :
    Drawing.Recoloured terminal drawing (drawing.dress style) := by
  have hdropped : Drawing.Recoloured terminal drawing
      (drawing.dropModifiers style.modifiers) := by
    unfold Drawing.dropModifiers
    split_ifs
    · exact .refl terminal drawing
    · exact Drawing.recoloured_of_mark rfl rfl rfl
  have hforeground : ∀ drawing : Drawing, Drawing.Recoloured terminal drawing
      (drawing.setForeground style.foreground) := by
    intro drawing
    unfold Drawing.setForeground
    split_ifs
    · exact .refl terminal drawing
    · exact Drawing.recoloured_of_mark rfl rfl rfl
  have hbackground : ∀ drawing : Drawing, Drawing.Recoloured terminal drawing
      (drawing.setBackground style.background) := by
    intro drawing
    unfold Drawing.setBackground
    split_ifs
    · exact .refl terminal drawing
    · exact Drawing.recoloured_of_mark rfl rfl rfl
  have hmodifiers : ∀ drawing : Drawing, Drawing.Recoloured terminal drawing
      (drawing.addModifiers style.modifiers) := by
    intro drawing
    unfold Drawing.addModifiers
    dsimp only
    split_ifs
    · exact Drawing.recoloured_of_mark rfl rfl rfl
    · exact ⟨rfl, rfl⟩
  exact ((hdropped.trans (hforeground _)).trans (hbackground _)).trans (hmodifiers _)

end Recoloured

/-! ### Cells on any terminal -/

/-- A cursor position in a frame of a size is the real one, if one is known. -/
def Pen.Locates (pen : Pen) (width height : Nat) (terminal : Terminal) : Prop :=
  ∀ x y, pen.cursor = some (x, y) → x < width → y < height →
    terminal.column = x ∧ terminal.row = y

section Cells

variable {terminal : Terminal} {width height : Nat} {drawing : Drawing} {x y : Nat} {cell : Cell}

/-- Assumes: the pen is right about the cursor. Drawing a cell that differs writes its glyph at its
place, in the attributes that are in force afterwards, and the pen stays right about the cursor. -/
theorem Drawing.change_on_located (hholds : terminal.device.Holds width height)
    (hdrawn : cell.IsDrawn) (hx : x + cell.width ≤ width) (hy : y < height)
    (hlocates : drawing.pen.Locates width height (drawing.on terminal)) :
    let after := drawing.change x y cell
    after.on terminal = { drawing.on terminal with
        column := x, row := y, attributes := (after.on terminal).attributes }.write
          ⟨cell.glyph, cell.width, (after.on terminal).attributes⟩ ∧
      after.pen.Locates width height (after.on terminal) := by
  intro after
  obtain ⟨hglyph, hwidth⟩ := hdrawn.width
  have hcolumns := hholds.columns
  set counted : Drawing := { drawing with cells := drawing.cells + 1 }
  set dressed := (counted.moveTo x y).dress cell.style
  have hdevice : (counted.on terminal).device = terminal.device := Terminal.obeyAll_device ..
  have hmoved : (counted.moveTo x y).on terminal =
      { drawing.on terminal with column := x, row := y } :=
    Drawing.on_moveTo (fun hknown ↦ hlocates x y hknown (by omega) hy)
      (show x < width by omega) hy (by rw [hdevice]; exact hholds.columns)
      (by rw [hdevice]; exact hholds.rows)
  have hdress := Drawing.recoloured_dress terminal (counted.moveTo x y) cell.style
  have hstands : dressed.on terminal = { drawing.on terminal with
      column := x, row := y, attributes := (dressed.on terminal).attributes } := by
    rw [hdress.on, hmoved]
  have hon : after.on terminal = { drawing.on terminal with
      column := x, row := y, attributes := (dressed.on terminal).attributes }.write
        ⟨cell.glyph, cell.width, (dressed.on terminal).attributes⟩ := by
    have hfits : ¬ terminal.device.columns < x + cell.width := by omega
    refine (dressed.on_mark terminal (.glyph cell.glyph)).trans ?_
    rw [hstands]
    change Terminal.print _ cell.glyph = _
    unfold Terminal.print
    rw [hglyph, if_neg (by omega), if_neg]
    change ¬ (counted.on terminal).device.columns < x + cell.width
    rwa [hdevice]
  have hcursor : after.pen.cursor = some (min (x + max cell.width 1) columnLimit, y) := by
    change Option.map _ dressed.pen.cursor = _
    rw [hdress.cursor, Drawing.moveTo_pen]
    rfl
  refine ⟨by rw [hon]; rfl, ?_⟩
  intro column row hknown hcolumn _
  rw [hcursor] at hknown
  cases hknown
  have hlimit := hholds.limit
  rw [hon]
  change x + cell.width = _ ∧ y = y
  exact ⟨by omega, rfl⟩

@[simp]
theorem Terminal.print_attributes (terminal : Terminal) (c : Char) :
    (terminal.print c).attributes = terminal.attributes := by
  unfold Terminal.print Terminal.wrap Terminal.write
  split_ifs <;> rfl

/-- Drawn first with the unknown pen, a cell is addressed, and both colours are set. -/
theorem Drawing.change_unknown_marks (x y : Nat) (cell : Cell) :
    ((Drawing.start .unknown).change x y cell).marks.toList =
      .moveTo x y :: .setForeground cell.style.foreground ::
        .setBackground cell.style.background ::
        ((if cell.style.modifiers.isBold then [.setBold] else []) ++ [.glyph cell.glyph]) := by
  have hadded : (cell.style.modifiers.difference .empty).isBold = cell.style.modifiers.isBold := by
    rw [Modifiers.isBold_difference]
    exact Bool.and_true _
  have hdropped : (Modifiers.empty.difference cell.style.modifiers).isEmpty = true := by
    simp [Modifiers.difference, Modifiers.empty, Modifiers.isEmpty]
  simp only [Drawing.change, Drawing.advance, Drawing.print, Drawing.dress, Drawing.moveTo,
    Drawing.dropModifiers, Drawing.setForeground, Drawing.setBackground, Drawing.addModifiers,
    Drawing.mark, Drawing.start, Pen.unknown, Option.getD_none, hadded, hdropped, if_true,
    reduceCtorEq, if_false]
  split_ifs <;> rfl

/-- The first cell drawn with the unknown pen has its own colours, but stays bold where glyphs
were. -/
theorem Drawing.change_unknown_attributes (terminal : Terminal) (x y : Nat) (cell : Cell) :
    (((Drawing.start .unknown).change x y cell).on terminal).attributes =
      ⟨cell.style.foreground, cell.style.background,
        terminal.attributes.bold || cell.style.modifiers.isBold⟩ := by
  unfold Drawing.on
  rw [Drawing.change_unknown_marks]
  split_ifs with hbold
  · rw [hbold, Bool.or_true]
    exact Terminal.print_attributes _ _
  · rw [Bool.eq_false_iff.mpr hbold, Bool.or_false]
    exact Terminal.print_attributes _ _

end Cells

/-! ### Places that are not drawn again -/

/-- An entry of a difference to a frame stands for a place after the one at a column and row. -/
def Frame.Follows (next : Frame) (x y : Nat) (entry : (Cell × Cell) × Nat) : Prop :=
  ∃ column row, entry.2 = row * next.width + column ∧ next.get? column row = some entry.1.2 ∧
    (y < row ∨ y = row ∧ x < column)

/-- An entry for a place of a well-paired frame can be drawn. -/
theorem Frame.Follows.drawable {next : Frame} {x y : Nat} {entry : (Cell × Cell) × Nat}
    (h : next.Follows x y entry) (hnext : next.WellPaired) :
    Drawable next.width next.height entry := by
  obtain ⟨column, row, hindex, hwanted, -⟩ := h
  obtain ⟨hcolumn, hrow⟩ := Frame.lt_of_get? hwanted
  have hsize := index_lt_size hcolumn hrow
  rw [next.size_eq, ← hindex] at hsize
  exact ⟨hsize, hnext.drawn column row _ hwanted⟩

section Leaves

variable {terminal : Terminal} {next : Frame} {drawing : Drawing} {x y : Nat} {first : Cell}

/-- A glyph of a well-paired frame lies in its row. -/
theorem Frame.WellPaired.column_add_width_le (h : next.WellPaired)
    (hfirst : next.get? x y = some first) (hwhole : first.isContinuation = false) :
    x + first.width ≤ next.width := by
  obtain ⟨hx, -⟩ := Frame.lt_of_get? hfirst
  rcases (h.drawn x y first hfirst hwhole).width.2 with hnarrow | hwide
  · omega
  · obtain ⟨hright, -⟩ := Frame.lt_of_get? (h.wide x y first hfirst hwide)
    omega

/-- Assumes: a place shows a glyph of the width that the frame has there, and the pen is right
about the cursor. An entry for a later place leaves it what it shows. -/
theorem Drawing.compare_leaves (hnext : next.WellPaired)
    (hholds : terminal.device.Holds next.width next.height) (hfirst : next.get? x y = some first)
    {entry : (Cell × Cell) × Nat} (hentry : next.Follows x y entry)
    (hlocates : drawing.pen.Locates next.width next.height (drawing.on terminal))
    (hwidth : ((drawing.on terminal).lines y x).width = first.width) :
    let after := drawing.compare next.width entry
    after.pen.Locates next.width next.height (after.on terminal) ∧
      (after.on terminal).lines y x = (drawing.on terminal).lines y x := by
  obtain ⟨⟨shown, wanted⟩, index⟩ := entry
  obtain ⟨column, row, hindex, hwanted, hlater⟩ := hentry
  dsimp only at hindex hwanted
  subst hindex
  obtain ⟨hcolumn, hrow⟩ := Frame.lt_of_get? hwanted
  intro after
  have hafter : after = _ := drawing.compare_at shown wanted hcolumn
  split_ifs at hafter with hskip
  · rw [hafter]
    exact ⟨hlocates, rfl⟩
  · rw [not_or, Bool.not_eq_true] at hskip
    have hroom := hnext.column_add_width_le hwanted hskip.2
    obtain ⟨hon, hlocated⟩ := Drawing.change_on_located hholds
      (hnext.drawn column row wanted hwanted hskip.2) hroom hrow hlocates
    rw [hafter]
    refine ⟨hlocated, ?_⟩
    rw [hon]
    rcases hlater with hbelow | ⟨rfl, hright⟩
    · exact congrFun (Terminal.write_line_of_ne _ _ (Nat.ne_of_lt hbelow)) x
    · refine (congrFun (Terminal.write_line _ _) x).trans (Line.print_before ?_ hright)
      -- Directly after a wide glyph stands its continuation, which is not drawn.
      intro hnear hwide
      have hpair := hnext.wide x y first hfirst (hwidth.symm.trans hwide)
      rw [hnear, hwanted] at hpair
      cases hpair
      cases hskip.2

theorem Drawing.foldl_compare_leaves (hnext : next.WellPaired)
    (hholds : terminal.device.Holds next.width next.height) (hfirst : next.get? x y = some first)
    {entries : List ((Cell × Cell) × Nat)} (hentries : ∀ entry ∈ entries, next.Follows x y entry)
    (hlocates : drawing.pen.Locates next.width next.height (drawing.on terminal))
    (hwidth : ((drawing.on terminal).lines y x).width = first.width) :
    ((entries.foldl (Drawing.compare next.width) drawing).on terminal).lines y x =
      (drawing.on terminal).lines y x := by
  induction entries generalizing drawing with
  | nil => rfl
  | cons entry rest ih =>
    obtain ⟨hlocated, hleft⟩ := Drawing.compare_leaves hnext hholds hfirst
      (hentries entry List.mem_cons_self) hlocates hwidth
    rw [List.foldl_cons, ih (fun other hother ↦ hentries other (List.mem_cons_of_mem _ hother))
      hlocated (by rw [hleft, hwidth]), hleft]

end Leaves

/-! ### The first cell that is drawn -/

/-- Whether an entry of a difference is drawn. -/
def isDrawnEntry (entry : (Cell × Cell) × Nat) : Bool :=
  entry.1.1 != entry.1.2 && !entry.1.2.isContinuation

/-- The first cell that a difference draws. -/
def firstDrawn? (current next : Frame) : Option Cell :=
  ((current.cells.toList.zip next.cells.toList).zipIdx.find? isDrawnEntry).map fun entry ↦ entry.1.2

section FirstDrawn

variable {terminal : Terminal} {current next : Frame} {width height : Nat}

/-- Of two places, counted row after row, the later one lies in a later row or further right. -/
theorem row_or_column_lt {width k l : Nat} (h : k < l) :
    k / width < l / width ∨ k / width = l / width ∧ k % width < l % width := by
  have hrows : k / width ≤ l / width := Nat.div_le_div_right (Nat.le_of_lt h)
  rcases Nat.lt_or_eq_of_le hrows with hrow | hrow
  · exact Or.inl hrow
  · have hk := Nat.div_add_mod k width
    have hl := Nat.div_add_mod l width
    rw [hrow] at hk
    exact Or.inr ⟨hrow, by omega⟩

/-- The entries of a difference stand for the places of the frame. -/
theorem Frame.get?_of_entry (next : Frame) {current : List Cell} {k : Nat}
    {entry : (Cell × Cell) × Nat}
    (hentry : (current.zip next.cells.toList).zipIdx[k]? = some entry) :
    entry.2 = k ∧ next.get? (k % next.width) (k / next.width) = some entry.1.2 := by
  rw [List.getElem?_zipIdx, Option.map_eq_some_iff] at hentry
  obtain ⟨⟨shown, wanted⟩, hpair, rfl⟩ := hentry
  obtain ⟨-, hwanted⟩ := List.getElem?_zip_eq_some.mp hpair
  rw [Array.getElem?_toList] at hwanted
  obtain ⟨hsize, -⟩ := Array.getElem?_eq_some_iff.mp hwanted
  rw [next.size_eq] at hsize
  have hwidth : 0 < next.width := Nat.pos_of_mul_pos_right (Nat.zero_lt_of_lt hsize)
  refine ⟨Nat.zero_add k, ?_⟩
  rw [Frame.get?_eq (Nat.mod_lt k hwidth) (Nat.div_lt_of_lt_mul hsize), Nat.mul_comm,
    Nat.div_add_mod]
  exact hwanted

/-- Entries that are not drawn leave a drawing as it is. -/
theorem Drawing.foldl_compare_of_not_drawn {entries : List ((Cell × Cell) × Nat)}
    (h : ∀ entry ∈ entries, isDrawnEntry entry = false) (columns : Nat) (drawing : Drawing) :
    entries.foldl (Drawing.compare columns) drawing = drawing := by
  refine Drawing.foldl_compare_skip ?_ _
  intro entry hentry
  have hskip := h entry hentry
  simpa [isDrawnEntry, Decidable.or_iff_not_imp_left] using hskip

/-- A difference that draws a cell first draws that cell at its place, and afterwards only places
after it. -/
theorem difference_of_firstDrawn {first : Cell} (h : firstDrawn? current next = some first)
    (pen : Pen) :
    ∃ (x y : Nat) (entries : List ((Cell × Cell) × Nat)),
      next.get? x y = some first ∧ first.isContinuation = false ∧
      (∀ entry ∈ entries, next.Follows x y entry) ∧
      difference current next pen =
        entries.foldl (Drawing.compare next.width) ((Drawing.start pen).change x y first) := by
  unfold firstDrawn? at h
  obtain ⟨entry, hfound, rfl⟩ := Option.map_eq_some_iff.mp h
  obtain ⟨hdrawn, before, after, hsplit, hskipped⟩ := List.find?_eq_some_iff_append.mp hfound
  have hplace : ∀ (k : Nat) (other : (Cell × Cell) × Nat),
      (before ++ entry :: after)[k]? = some other → other.2 = k ∧
        next.get? (k % next.width) (k / next.width) = some other.1.2 := by
    rw [← hsplit]
    exact fun k other ↦ next.get?_of_entry
  obtain ⟨hindex, hfirst⟩ := hplace before.length entry (by simp)
  obtain ⟨⟨shown, wanted⟩, index⟩ := entry
  dsimp only [isDrawnEntry] at hindex hfirst hdrawn ⊢
  simp only [Bool.and_eq_true, bne_iff_ne, ne_eq, Bool.not_eq_true'] at hdrawn
  refine ⟨_, _, after, hfirst, hdrawn.2, ?_, ?_⟩
  · intro other hother
    obtain ⟨k, hk⟩ := List.getElem?_of_mem hother
    have hlater : (before ++ ((shown, wanted), index) :: after)[before.length + (k + 1)]? =
        some other := by
      rw [List.getElem?_append_right (Nat.le_add_right _ _), Nat.add_sub_cancel_left,
        List.getElem?_cons_succ]
      exact hk
    obtain ⟨hnext, hwanted⟩ := hplace _ other hlater
    exact ⟨_, _, by rw [hnext, Nat.mul_comm, Nat.div_add_mod], hwanted,
      row_or_column_lt (by omega)⟩
  · unfold difference
    have hbefore : before.foldl (Drawing.compare next.width) (.start pen) = .start pen :=
      Drawing.foldl_compare_of_not_drawn
        (fun other hother ↦ by simpa using hskipped other hother) next.width _
    have hchange : (Drawing.start pen).compare next.width ((shown, wanted), index) =
        (Drawing.start pen).change (before.length % next.width) (before.length / next.width)
          wanted := by
      rw [← hindex]
      exact if_neg (by simp [hdrawn])
    rw [hsplit, List.foldl_append, List.foldl_cons, hbefore, hchange]

/-- A difference that draws no cell makes no mark. -/
theorem difference_of_firstDrawn_none (h : firstDrawn? current next = none) (pen : Pen) :
    difference current next pen = .start pen := by
  unfold firstDrawn? at h
  rw [Option.map_eq_none_iff, List.find?_eq_none] at h
  exact Drawing.foldl_compare_of_not_drawn
    (fun entry hentry ↦ by simpa using h entry hentry) next.width _

end FirstDrawn

/-! ### Differences with the unknown pen -/

/-- The terminal ready for text, whose glyphs are not bold. -/
def Terminal.unbolded (terminal : Terminal) : Terminal :=
  { terminal.ready with attributes := { terminal.attributes with bold := false } }

section Unknown

variable {terminal : Terminal} {current next : Frame} {width height : Nat}

theorem Terminal.unbolded_of_bold (hbold : terminal.attributes.bold = false) :
    terminal.unbolded = terminal.ready := by
  unfold Terminal.unbolded
  rw [← hbold]
  rfl

/-- Of a terminal whose glyphs are not bold the unknown pen says nothing wrong. -/
theorem Terminal.shows_difference_unbolded (hcurrent : current.PairedOfSize width height)
    (hnext : next.PairedOfSize width height) (hholds : terminal.device.Holds width height)
    (hshows : terminal.Shows current) :
    ((difference current next .unknown).on terminal.unbolded).Shows next := by
  obtain ⟨hpaired, rfl, rfl⟩ := hnext
  have hstyle : Pen.unknown.KnowsStyle terminal.unbolded.attributes := by
    refine ⟨?_, ?_, ?_, fun _ ↦ rfl⟩
    · intro color hknown
      cases hknown
    · intro color hknown
      cases hknown
    · intro known hknown
      cases hknown
  have hagrees : Pen.unknown.Agrees next.width next.height terminal.unbolded := by
    refine ⟨?_, hstyle⟩
    intro x y hknown
    cases hknown
  have hholds' : terminal.unbolded.device.Holds next.width next.height := hholds
  have hshows' : terminal.unbolded.Shows current := hshows
  exact (Drawing.difference_rows hcurrent.paired hpaired hcurrent.width hcurrent.height hholds'
    hshows' hagrees).2.1

/-- A difference that draws a cell begins with a control sequence, so its bytes have the effects of
its marks, whatever the terminal was reading. -/
theorem Terminal.feed_difference_of_firstDrawn {first : Cell} (terminal : Terminal)
    (hnext : next.WellPaired) (hfirst : firstDrawn? current next = some first) :
    terminal.feed (difference current next .unknown).bytes =
      (difference current next .unknown).on terminal.ready := by
  obtain ⟨x, y, entries, -, -, hentries, hdifference⟩ := difference_of_firstDrawn hfirst .unknown
  have hrest := Drawing.adds_foldl_compare ((Drawing.start .unknown).change x y first)
    fun entry hentry ↦ (hentries entry hentry).drawable hnext
  have hadds : (Drawing.start .unknown).Adds next.width next.height
      (difference current next .unknown) := Drawing.adds_difference hnext.legible .unknown
  have hfits := hadds.fits fun mark hmark ↦ by cases hmark
  obtain ⟨marks, hmarks, -⟩ := hrest
  rw [← hdifference, Drawing.change_unknown_marks, List.cons_append] at hmarks
  unfold Drawing.bytes Drawing.on
  rw [hmarks] at hfits ⊢
  exact terminal.feed_bytesOfMarks_cons rfl _ fun mark hmark ↦
    (hfits mark (List.mem_cons_of_mem _ hmark)).isPlain

/-- Where the first cell drawn is not bold and glyphs were, it stays bold on the screen. -/
theorem Terminal.not_shows_difference_unknown {first : Cell} (hnext : next.WellPaired)
    (hholds : terminal.device.Holds next.width next.height)
    (hfirst : firstDrawn? current next = some first)
    (hbold : terminal.attributes.bold = true)
    (hplain : first.style.modifiers.isBold = false) :
    ¬ ((difference current next .unknown).on terminal).Shows next := by
  obtain ⟨x, y, entries, hget, hwhole, hentries, hdifference⟩ :=
    difference_of_firstDrawn hfirst .unknown
  set opened := (Drawing.start .unknown).change x y first
  have hdrawn := hnext.drawn x y first hget hwhole
  have hlocated : (Drawing.start .unknown).pen.Locates next.width next.height
      ((Drawing.start .unknown).on terminal) := fun _ _ hknown ↦ by cases hknown
  obtain ⟨hon, hlocates⟩ := Drawing.change_on_located hholds hdrawn
    (hnext.column_add_width_le hget hwhole) (Frame.lt_of_get? hget).2 hlocated
  have hopened : (opened.on terminal).lines y x =
      ⟨first.glyph, first.width, (opened.on terminal).attributes⟩ := by
    rw [hon]
    exact (congrFun (Terminal.write_line _ _) x).trans Line.print_self
  have hleft := Drawing.foldl_compare_leaves hnext hholds hget hentries hlocates
    (by rw [hopened])
  intro hshows
  have hshown := hshows y x first hget
  rw [hdifference, hleft, hopened, Drawing.change_unknown_attributes, hbold] at hshown
  have hweight := congrArg (fun look ↦ look.attributes.bold) hshown
  change true = first.style.modifiers.isBold at hweight
  rw [hplain] at hweight
  cases hweight

/-- Where the first cell drawn is bold, it does not matter whether glyphs were. -/
theorem Drawing.on_unbolded_of_firstDrawn {first : Cell} (hnext : next.WellPaired)
    (hholds : terminal.device.Holds next.width next.height)
    (hfirst : firstDrawn? current next = some first)
    (hbold : first.style.modifiers.isBold = true) :
    (difference current next .unknown).on terminal.ready =
      (difference current next .unknown).on terminal.unbolded := by
  obtain ⟨x, y, entries, hget, hwhole, hentries, hdifference⟩ :=
    difference_of_firstDrawn hfirst .unknown
  set opened := (Drawing.start .unknown).change x y first
  have hdrawn := hnext.drawn x y first hget hwhole
  have hopened : opened.on terminal.ready = opened.on terminal.unbolded := by
    have hon : ∀ other : Terminal, other.device = terminal.device → _ := fun other hdevice ↦ by
      have hholds' : other.device.Holds next.width next.height := hdevice ▸ hholds
      have hlocated : (Drawing.start .unknown).pen.Locates next.width next.height
          ((Drawing.start .unknown).on other) := fun _ _ hknown ↦ by cases hknown
      exact (Drawing.change_on_located hholds' hdrawn (hnext.column_add_width_le hget hwhole)
        (Frame.lt_of_get? hget).2 hlocated).1
    rw [hon terminal.ready rfl, hon terminal.unbolded rfl, Drawing.change_unknown_attributes,
      Drawing.change_unknown_attributes, hbold, Bool.or_true, Bool.or_true]
    rfl
  obtain ⟨marks, hmarks, -⟩ := Drawing.adds_foldl_compare opened
    fun entry hentry ↦ (hentries entry hentry).drawable hnext
  rw [← hdifference] at hmarks
  unfold Drawing.on at hopened ⊢
  rw [hmarks, Terminal.obeyAll, Terminal.obeyAll, List.foldl_append, List.foldl_append]
  exact congrArg (fun terminal ↦ marks.foldl Terminal.obey terminal) hopened

/-- Assumes: well-paired frames of one size with no more columns than can be counted, and a screen
that is large enough and shows the first, whatever the cursor, the colours, the weight and the input
that broke off. Their difference drawn with the unknown pen leaves the second on the screen, every
cell by its glyph, its colours and its weight, exactly when glyphs were not bold before or the first
cell that is drawn is bold. -/
theorem Terminal.shows_difference_unknown_iff (hcurrent : current.PairedOfSize width height)
    (hnext : next.PairedOfSize width height) (hcolumns : width ≤ columnLimit)
    (hscreen : width ≤ terminal.device.columns ∧ height ≤ terminal.device.rows)
    (hshows : terminal.Shows current) :
    (terminal.feed (difference current next .unknown).bytes).Shows next ↔
      terminal.attributes.bold = false ∨
        ∀ first, firstDrawn? current next = some first → first.style.modifiers.isBold = true := by
  have hholds : terminal.device.Holds width height := ⟨hscreen.1, hscreen.2, hcolumns⟩
  have hunbolded := Terminal.shows_difference_unbolded hcurrent hnext hholds hshows
  obtain ⟨hpaired, rfl, rfl⟩ := hnext
  cases hfirst : firstDrawn? current next with
  | none =>
    have hshown : (terminal.feed (difference current next .unknown).bytes).Shows next := by
      rw [difference_of_firstDrawn_none hfirst] at hunbolded ⊢
      exact hunbolded
    exact iff_of_true hshown (Or.inr fun first hnone ↦ by cases hnone)
  | some first =>
    rw [terminal.feed_difference_of_firstDrawn hpaired hfirst]
    by_cases hsafe : terminal.attributes.bold = false ∨ first.style.modifiers.isBold = true
    · refine iff_of_true ?_ (hsafe.imp_right fun hbold other hsome ↦ by cases hsome; exact hbold)
      rcases hsafe with hlight | hbold
      · rwa [← Terminal.unbolded_of_bold hlight]
      · rwa [Drawing.on_unbolded_of_firstDrawn hpaired hholds hfirst hbold]
    · rw [not_or, Bool.not_eq_false, Bool.not_eq_true] at hsafe
      refine iff_of_false
        (Terminal.not_shows_difference_unknown hpaired hholds hfirst hsafe.1 hsafe.2) ?_
      rintro (hlight | hbold)
      · rw [hsafe.1] at hlight
        cases hlight
      · rw [hbold first rfl] at hsafe
        cases hsafe.2

/-- A terminal with a blank screen, whose glyphs are bold or not. -/
def Terminal.blank (columns rows : Nat) (bold : Bool) : Terminal where
  device := ⟨columns, rows, fun _ attributes ↦ attributes⟩
  lines := fun _ _ ↦ Cell.blank.look
  column := 0
  row := 0
  attributes := ⟨.standard, .standard, bold⟩
  cursorShown := true
  reading := .text

theorem Terminal.shows_blank (columns rows : Nat) (bold : Bool) (width height : Nat) :
    (Terminal.blank columns rows bold).Shows (.blank width height) := by
  intro y x cell hcell
  rw [Frame.get?_blank hcell]
  rfl

/-- A bold terminal draws a first wide glyph right if it is to be bold, and wrong otherwise. -/
theorem Terminal.shows_difference_unknown_iff_wide :
    let shows := fun style ↦ let next := (Frame.blank 2 1).put 0 0 ['日'] style
      ((Terminal.blank 80 24 true).feed (difference (.blank 2 1) next .unknown).bytes).Shows next
    shows Style.plain.bold ∧ ¬ shows .plain := by
  have hblank : (Frame.blank 2 1).PairedOfSize 2 1 := ⟨Frame.wellPaired_blank 2 1, rfl, rfl⟩
  have hnext : ∀ style, ((Frame.blank 2 1).put 0 0 ['日'] style).PairedOfSize 2 1 := by
    intro style
    have hwrites := Frame.writes_put (by decide) (Frame.wellPaired_blank 2 1)
      (Frame.openFrom_blank 2 1 0 0) ['日'] style
    exact ⟨hwrites.paired, hwrites.width, hwrites.height⟩
  have hiff := fun style ↦ Terminal.shows_difference_unknown_iff hblank (hnext style) (by decide)
    (by decide) (Terminal.shows_blank 80 24 true 2 1)
  have hfirst : ∀ style ∈ [Style.plain, Style.plain.bold],
      firstDrawn? (.blank 2 1) ((Frame.blank 2 1).put 0 0 ['日'] style) =
        some ⟨'日', 2, style⟩ := by decide +kernel
  constructor
  · refine (hiff _).mpr (Or.inr fun first hsome ↦ ?_)
    rw [hfirst _ (by simp)] at hsome
    cases hsome
    rfl
  · intro hshows
    rcases (hiff _).mp hshows with hlight | hbold
    · cases hlight
    · exact absurd (hbold _ (hfirst _ (by simp))) (by decide)

end Unknown

/-! ### A style that lingers -/

/-- A bold glyph and a blank. -/
def Frame.boldRow : Frame := (Frame.blank 2 1).put 0 0 ['A'] Style.plain.bold

/-- A bold glyph and one that is not. -/
def Frame.mixedRow : Frame := Frame.boldRow.put 1 0 ['B'] .plain

/-- A blank screen shows a bold glyph and forgets what is known of it. The next glyph is to be not
bold, and comes out bold. -/
theorem Terminal.bold_lingers :
    let terminal := (Terminal.blank 2 1 false).feed
      (difference (.blank 2 1) .boldRow .unknown).bytes
    Frame.boldRow.PairedOfSize 2 1 ∧ Frame.mixedRow.PairedOfSize 2 1 ∧
      terminal.Shows .boldRow ∧
      ¬ (terminal.feed (difference .boldRow .mixedRow .unknown).bytes).Shows .mixedRow := by
  intro terminal
  have hfirst := Frame.writes_put (by decide) (Frame.wellPaired_blank 2 1)
    (Frame.openFrom_blank 2 1 0 0) ['A'] Style.plain.bold
  have hopen : Frame.boldRow.OpenFrom 1 0 := hfirst.opened.mono (by decide)
  have hsecond := Frame.writes_put (by decide) hfirst.paired hopen ['B'] .plain
  have hbold : Frame.boldRow.PairedOfSize 2 1 := ⟨hfirst.paired, hfirst.width, hfirst.height⟩
  refine ⟨hbold, ⟨hsecond.paired, hsecond.width, hsecond.height⟩, ?_, ?_⟩
  · have hdrawn : firstDrawn? (.blank 2 1) .boldRow = some ⟨'A', 1, Style.plain.bold⟩ := by
      decide +kernel
    have hblank : (Frame.blank 2 1).PairedOfSize 2 1 := ⟨Frame.wellPaired_blank 2 1, rfl, rfl⟩
    have hshown := Terminal.shows_difference_unbolded hblank hbold (by constructor <;> decide)
      (Terminal.shows_blank 2 1 false 2 1)
    have hfed := (Terminal.blank 2 1 false).feed_difference_of_firstDrawn hbold.paired hdrawn
    rw [Terminal.unbolded_of_bold rfl, ← hfed] at hshown
    exact hshown
  · intro hshows
    have hcell : Frame.mixedRow.get? 1 0 = some ⟨'B', 1, .plain⟩ := by decide +kernel
    have hlook : (terminal.feed (difference .boldRow .mixedRow .unknown).bytes).lines 0 1 =
        ⟨'B', 1, ⟨.standard, .standard, true⟩⟩ := by decide +kernel
    have hwrong := hshows 0 1 _ hcell
    rw [hlook] at hwrong
    exact absurd hwrong (by decide)

end LiveBoard.Screen
