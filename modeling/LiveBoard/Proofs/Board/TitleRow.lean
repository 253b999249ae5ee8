import LiveBoard.Proofs.Board.Position
import LiveBoard.Proofs.Board.Timestamps
import LiveBoard.Proofs.Json.LongestTexts
import LiveBoard.Proofs.Text.Trimming

/-!
# The row of the title

On a blank frame of the usual size the first row shows the title of a timestamp that was read. The
frame is as wide as the title of a timestamp with twenty-three characters, and a longer text is one
of the longest that there are, that of a negative double. Its title loses the bracket at the end
(`State.title_whole_iff`).
-/

set_option autoImplicit false
set_option relaxedAutoImplicit false

namespace LiveBoard.Screen

/-! ### Texts of rows -/

section Rows

variable {frame : Frame} {shown : List Char} {last : Char} {y : Nat}

/-- Assumes: a row of narrow cells that show a text and blanks behind it. The text of the row is
this text. -/
theorem Frame.rowText_of_cells (hy : y < frame.height) (hfits : shown.length ≤ frame.width)
    (hcells : ∀ x, x < frame.width →
      ∃ cell, frame.get? x y = some cell ∧ cell.width = 1 ∧ cell.glyph = shown[x]?.getD ' ')
    (hlast : shown.getLast? = some last) (hspace : Text.isWhiteSpace last = false) :
    frame.rowText y = shown := by
  have hnarrow : ∀ cell ∈ frame.rowCells y, (!cell.isContinuation) = true := by
    intro cell hcell
    obtain ⟨x, hx⟩ := List.getElem?_of_mem hcell
    rw [Frame.getElem?_rowCells hy] at hx
    obtain ⟨found, hfound, hwidth, -⟩ := hcells x (Frame.lt_of_get? hx).1
    rw [hx, Option.some_inj] at hfound
    simp [Cell.isContinuation, hfound, hwidth]
  have hglyphs : (frame.rowCells y).map Cell.glyph =
      shown ++ List.replicate (frame.width - shown.length) ' ' := by
    apply List.ext_getElem?
    intro x
    rw [List.getElem?_map, Frame.getElem?_rowCells hy, List.getElem?_append,
      List.getElem?_replicate]
    by_cases hx : x < frame.width
    · obtain ⟨cell, hcell, -, hglyph⟩ := hcells x hx
      rw [hcell, Option.map_some, hglyph]
      split_ifs with hshown hblank
      · rw [List.getElem?_eq_getElem hshown, Option.getD_some]
      · rw [List.getElem?_eq_none (Nat.le_of_not_lt hshown), Option.getD_none]
      · omega
    · rw [Frame.get?_eq_none fun h ↦ hx h.1, if_neg (by omega), if_neg (by omega)]
      rfl
  have hblanks : ∀ c ∈ List.replicate (frame.width - shown.length) ' ',
      Text.isWhiteSpace c = true := by
    intro c hc
    rw [List.eq_of_mem_replicate hc]
    decide
  rw [Frame.rowText, if_pos hy, List.filter_eq_self.mpr hnarrow, hglyphs,
    Text.trimEnd_append hblanks, Text.trimEnd_eq_self hlast hspace]

end Rows

end LiveBoard.Screen

namespace LiveBoard.Board

open Screen

/-! ### Titles -/

section Titles

variable {state : State} {payload : List UInt8} {update : Update} {number : Json.Number}

/-- The title with the blanks that centre it. -/
def State.titleRow (state : State) : List Char :=
  List.replicate (titleColumn state.view.title) ' ' ++ state.view.title

/-- Each cell of the first row is narrow and shows what the title has there. -/
theorem State.exists_cell_titleRow (h : state.timestamp.InRange) {x : Nat} (hx : x < frameWidth) :
    ∃ cell, state.view.painting.get? x 0 = some cell ∧ cell.width = 1 ∧
      cell.glyph = (state.titleRow.take frameWidth)[x]?.getD ' ' := by
  have hin : x < (Frame.blank frameWidth frameHeight).width ∧
      0 < (Frame.blank frameWidth frameHeight).height := ⟨hx, by decide⟩
  have hblank : (Frame.blank frameWidth frameHeight).get? x 0 = some .blank := by
    obtain ⟨cell, hcell⟩ := Option.isSome_iff_exists.mp (Frame.isSome_get?.mpr hin)
    rw [hcell, Frame.get?_blank hcell]
  rw [View.painting, State.get?_paint h hin.1 hin.2, hblank, State.cellAt?, if_pos rfl,
    ← titleColumn_eq, State.titleRow, List.getElem?_take_of_lt hx, List.getElem?_append,
    List.length_replicate, List.getElem?_replicate]
  by_cases hstart : titleColumn state.view.title ≤ x
  · rw [if_pos hstart, if_neg (Nat.not_lt_of_le hstart)]
    cases state.view.title[x - titleColumn state.view.title]? with
    | none => exact ⟨_, rfl, rfl, rfl⟩
    | some c => exact ⟨_, rfl, rfl, rfl⟩
  · have hbefore := Nat.lt_of_not_le hstart
    rw [if_neg hstart, if_pos hbefore, if_pos hbefore]
    exact ⟨_, rfl, rfl, rfl⟩

/-- The first row shows the title as far as it goes. -/
theorem State.rowText_title (h : state.timestamp.InRange) {last : Char}
    (hlast : (state.titleRow.take frameWidth).getLast? = some last)
    (hspace : Text.isWhiteSpace last = false) :
    state.view.painting.rowText 0 = state.titleRow.take frameWidth := by
  obtain ⟨hwidth, hheight⟩ :=
    (Frame.blank frameWidth frameHeight).size_drawAll state.view.strokes
  change state.view.painting.width = frameWidth at hwidth
  change state.view.painting.height = frameHeight at hheight
  refine Frame.rowText_of_cells (by rw [hheight]; decide) ?_ ?_ hlast hspace
  · rw [hwidth, List.length_take]
    exact Nat.min_le_left _ _
  · intro x hx
    exact State.exists_cell_titleRow h (hwidth ▸ hx)

theorem State.titleColumn_view (state : State) :
    titleColumn state.view.title = (2 - state.timestamp.text.length) / 2 := by
  have hlength : state.view.title.length = _ := length_titleOf state.timestamp
  rw [titleColumn_eq, hlength]
  omega

/-- A title that fits is shown as a whole. -/
theorem State.rowText_of_short (h : state.timestamp.InRange)
    (hshort : state.timestamp.text.length ≤ 23) :
    state.view.painting.rowText 0 = state.titleRow := by
  have htitle : state.view.title.length = _ := length_titleOf state.timestamp
  have hlast : state.titleRow.getLast? = some ')' := by
    rw [State.titleRow, List.getLast?_append]
    exact congrArg (Option.or · _) List.getLast?_concat
  have hfits : state.titleRow.length ≤ frameWidth := by
    rw [State.titleRow, List.length_append, List.length_replicate, state.titleColumn_view, htitle,
      frameWidth]
    omega
  have hrow := @State.rowText_title state h ')'
  rw [List.take_of_length_le hfits] at hrow
  exact hrow hlast (by decide)

/-- The longest titles lose their last character. -/
theorem State.rowText_of_long (h : state.timestamp.InRange)
    (hlong : state.timestamp.text.length = 24) :
    state.view.painting.rowText 0 = state.view.title.dropLast := by
  have htitle : state.view.title.length = _ := length_titleOf state.timestamp
  rw [hlong] at htitle
  have hrow : state.titleRow.take frameWidth = state.view.title.dropLast := by
    rw [State.titleRow, state.titleColumn_view, hlong, List.dropLast_eq_take, htitle]
    rfl
  have hsome : state.timestamp.text ≠ [] := by
    rw [List.ne_nil_iff_length_pos, hlong]
    decide
  have hlast : state.view.title.dropLast.getLast? = some (state.timestamp.text.getLast hsome) := by
    change (_ ++ state.timestamp.text ++ [')']).dropLast.getLast? = _
    rw [List.dropLast_concat, List.getLast?_append, List.getLast?_eq_some_getLast hsome,
      Option.some_or]
  rw [← hrow] at hlast ⊢
  refine State.rowText_title h hlast (Text.isWhiteSpace_of_printed ?_)
  exact Numeric.toNat_of_isNumberChar
    (state.timestamp.isNumberChar_text _ (List.getLast_mem hsome))

/-- Assumes: a payload that decodes to a timestamp. On a blank frame of the usual size the first row
is the title behind the blanks that centre it exactly where the text of the timestamp is none of the
longest ones. Behind one of those the bracket is cut off, and nothing else. -/
theorem State.title_whole_iff (state : State) (hdecode : Update.decode payload = .ok update)
    (htimestamp : update.timestamp = some number) :
    let view := (state.receive payload).view
    ∃ painted, view.paint? (.blank frameWidth frameHeight) = some painted ∧
      (painted.rowText 0 = List.replicate (titleColumn view.title) ' ' ++ view.title ↔
        ¬ Json.IsLongest number.text) ∧
      (Json.IsLongest number.text → painted.rowText 0 = view.title.dropLast) := by
  dsimp only
  have hcarried := timestampIn_of_decode hdecode htimestamp
  have hnumber : (state.receive payload).timestamp = number := by
    rw [State.receive_timestamp, hcarried]
    rfl
  have hrange : (state.receive payload).timestamp.InRange :=
    hnumber ▸ inRange_of_timestampIn hcarried
  have hlength := Json.Number.length_text_le hrange
  have htitle : (state.receive payload).view.title.length = _ :=
    length_titleOf (state.receive payload).timestamp
  rw [← hnumber, Json.Number.isLongest_iff hrange]
  refine ⟨(state.receive payload).view.painting,
    Frame.drawAll?_of_fits _ (State.fits_view hrange), ?_⟩
  by_cases hlong : 23 < (state.receive payload).timestamp.text.length
  · have hrow := State.rowText_of_long hrange (by omega)
    refine ⟨iff_of_false (fun hwhole ↦ ?_) (not_not.mpr hlong), fun _ ↦ hrow⟩
    have hshorter := congrArg List.length (hwhole.symm.trans hrow)
    rw [List.length_append, List.length_dropLast] at hshorter
    omega
  · have hrow := State.rowText_of_short hrange (Nat.le_of_not_lt hlong)
    exact ⟨iff_of_true hrow hlong, fun h ↦ absurd h hlong⟩

end Titles

/-! ### The largest double -/

/-- The largest double, with a minus sign or not. -/
def largestNumeral (negative : Bool) : Json.Numeral :=
  { Json.Numeral.powerOfTen ⟨false, .absent, ['3', '0', '8'], List.cons_ne_nil _ _,
      List.all_eq_true.mp (by decide)⟩ with
    negative := negative
    fraction := "7976931348623157".toList
    isDigit_fraction := List.all_eq_true.mp (by decide) }

/-- Its title just fits. -/
theorem State.title_whole_iff_largest :
    ∃ update number, Update.decode (timestampPayload (largestNumeral false)) = .ok update ∧
      update.timestamp = some number ∧
      ∃ painted, (State.initial.receive (timestampPayload (largestNumeral false))).view.paint?
          (.blank frameWidth frameHeight) = some painted ∧
        painted.rowText 0 = "Chess Board (timestamp: 1.7976931348623157e+308)".toList := by
  have hfound : (timestampIn (timestampPayload (largestNumeral false))).map Json.Number.text =
      some "1.7976931348623157e+308".toList := by
    decide +kernel
  obtain ⟨number, hnumber, htext⟩ := Option.map_eq_some_iff.mp hfound
  obtain ⟨update, hdecode, htimestamp⟩ := Update.exists_of_bind hnumber
  obtain ⟨painted, hpainted, hwhole, -⟩ := State.initial.title_whole_iff hdecode htimestamp
  refine ⟨update, number, hdecode, htimestamp, painted, hpainted, ?_⟩
  have hshort : ¬ Json.IsLongest number.text := by
    intro hlong
    have hlength := hlong.length_eq
    rw [htext] at hlength
    exact absurd hlength (by decide +kernel)
  rw [hwhole.mpr hshort, State.title_receive _ hdecode htimestamp, htext]
  decide +kernel

/-- With a minus sign its title loses the bracket. -/
theorem largest_title_clipped :
    (timestampIn (timestampPayload (largestNumeral true))).isSome = true ∧
      let view := (State.initial.receive (timestampPayload (largestNumeral true))).view
      view.title = titleText "-1.7976931348623157e+308".toList ∧
        view.painting.rowText 0 = "Chess Board (timestamp: -1.7976931348623157e+308".toList ∧
        view.painting.rowText 0 ≠
          List.replicate (titleColumn view.title) ' ' ++ view.title := by
  have hclipped (payload : List UInt8)
      (hlong : (State.initial.receive payload).timestamp.text.length = 24) :
      (State.initial.receive payload).view.painting.rowText 0 =
        (State.initial.receive payload).view.title.dropLast :=
    State.rowText_of_long (State.inRange_receive State.inRange_initial payload) hlong
  have htitle : (State.initial.receive (timestampPayload (largestNumeral true))).view.title =
      titleText "-1.7976931348623157e+308".toList := by decide +kernel
  have hrow := hclipped (timestampPayload (largestNumeral true)) (by decide +kernel)
  rw [htitle] at hrow
  refine ⟨by decide +kernel, htitle, hrow.trans (by decide +kernel), fun hwhole ↦ ?_⟩
  have hequal := hrow.symm.trans hwhole
  rw [htitle] at hequal
  exact absurd hequal (by decide +kernel)

end LiveBoard.Board
