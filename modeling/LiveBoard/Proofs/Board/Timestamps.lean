import LiveBoard.Board.View
import LiveBoard.Proofs.Board.Squares
import LiveBoard.Proofs.Json.ShownNumerals

/-!
# Timestamps and the numbers in the text

The title shows the timestamp of a payload by the text of the number that was read, which need not
be the text that was received: `State.title_of_numeral` says which numerals are shown as they are
spelled, and `hundred_rewritten` shows one that is not.
-/

set_option autoImplicit false
set_option relaxedAutoImplicit false

namespace LiveBoard.Board

open Json

/-- The path of the timestamp inside a payload. -/
def timestampPath : List Step := [.member "timestamp".toList]

/-- The title with a text in the place of the timestamp. -/
def titleText (text : List Char) : List Char :=
  "Chess Board (timestamp: ".toList ++ text ++ [')']

@[simp]
theorem titleText_inj {first second : List Char} : titleText first = titleText second ↔
    first = second := by
  unfold titleText
  rw [List.append_left_inj, List.append_right_inj]

section Timestamps

variable {payload : List UInt8} {update : Update} {number : Number}

/-- The timestamp of an update is the number at its path. -/
theorem Update.timestamp_eq_some_iff (hdecode : Update.decode payload = .ok update) :
    ∃ value, parse payload = .ok value ∧ ∀ number, update.timestamp = some number ↔
      value.at? timestampPath = some (.number number) := by
  obtain ⟨members, -, hobject, -⟩ := (Update.decode_eq_ok_iff payload update).mp hdecode
  refine ⟨_, hobject, fun number ↦ ?_⟩
  rw [(Update.follows_of_decode hobject hdecode).timestamp number]
  simp only [timestampPath, Value.at?, Value.child?, Value.member?, Option.bind_fun_some]

theorem timestampIn_of_decode (hdecode : Update.decode payload = .ok update)
    (htimestamp : update.timestamp = some number) : timestampIn payload = some number := by
  rw [timestampIn, hdecode]
  exact htimestamp

/-- The title shows the timestamp of the payload that was received. -/
theorem State.title_receive (state : State) (hdecode : Update.decode payload = .ok update)
    (htimestamp : update.timestamp = some number) :
    (state.receive payload).view.title = titleText number.text := by
  change titleOf (state.receive payload).timestamp = _
  rw [State.receive_timestamp, timestampIn_of_decode hdecode htimestamp]
  rfl

/-- Assumes: a payload that decodes to a timestamp. A numeral stands in the place of it. Every
integer in that place is shown as it is spelled exactly where it is not negative zero and in the
range of integers. Every other numeral is shown as it is spelled only where it is spelled as a
double is, in twenty-four characters at most; and so it is shown where it has fifteen digits at
most and a small power of ten. -/
theorem State.title_of_numeral (state : State) (hdecode : Update.decode payload = .ok update)
    (htimestamp : update.timestamp.isSome = true) :
    (∃ numeral, NumeralAt timestampPath numeral payload) ∧
      ∀ numeral, NumeralAt timestampPath numeral payload →
        (numeral.IsInteger →
          ((state.receive payload).view.title = titleText numeral.text ↔
            numeral.text ≠ ['-', '0'] ∧ -2 ^ 63 ≤ numeral.value ∧ numeral.value < 2 ^ 64)) ∧
        (¬ numeral.IsInteger →
          ((state.receive payload).view.title = titleText numeral.text →
            numeral.IsCanonical ∧ numeral.text.length ≤ 24) ∧
          (numeral.significand < 10 ^ 15 → numeral.scale.natAbs ≤ 22 → numeral.IsCanonical →
            (state.receive payload).view.title = titleText numeral.text)) := by
  obtain ⟨number, hnumber⟩ := Option.isSome_iff_exists.mp htimestamp
  obtain ⟨value, hparse, hfound⟩ := Update.timestamp_eq_some_iff hdecode
  have hvalue := (hfound number).mp hnumber
  rw [state.title_receive hdecode hnumber]
  constructor
  · obtain ⟨numeral, hnumeral, -⟩ := exists_numeralAt hparse hvalue
    exact ⟨numeral, hnumeral⟩
  · intro numeral hnumeral
    obtain ⟨found, hfound, hmade⟩ := hnumeral.exists_number hparse
    rw [hvalue, Option.some.injEq, Value.number.injEq] at hfound
    subst hfound
    rw [titleText_inj]
    exact ⟨fun hinteger ↦ numeral.text_eq_iff_of_isInteger hinteger hmade, fun hinteger ↦
      ⟨numeral.isCanonical_of_text_eq hinteger hmade,
        fun hdigits hscale ↦ numeral.text_eq_of_isCanonical hinteger hdigits hscale hmade⟩⟩

end Timestamps

/-! ### A timestamp alone -/

/-- A payload of nothing but a timestamp that is spelled by a numeral. -/
def timestampPayload (numeral : Numeral) : List UInt8 :=
  '{'.toUInt8 :: '"'.toUInt8 ::
    (Text.encodeText ['t', 'i', 'm', 'e', 's', 't', 'a', 'm', 'p', '"'] ++
      ':'.toUInt8 :: (Text.encodeText numeral.text ++ ['}'.toUInt8]))

/-- A numeral that is read stands in the place of the timestamp. -/
theorem numeralAt_timestampPayload {numeral : Numeral} (h : numeral.number?.isSome = true) :
    NumeralAt timestampPath numeral (timestampPayload numeral) := by
  have htoken := numeral.exists_spells h
  have hkey : StringText "timestamp".toList
      (Text.encodeText ['t', 'i', 'm', 'e', 's', 't', 'a', 'm', 'p', '"']) := rfl
  refine ⟨[], timestampPayload numeral, [], blanks_nil, ?_, blanks_nil, (List.append_nil _).symm⟩
  exact .step (childText_single hkey htoken) (.here htoken)

/-- A short decimal. -/
def decimalNumeral : Numeral where
  negative := false
  whole := ['1', '2']
  fraction := ['5']
  exponent := none
  whole_ne_nil := List.cons_ne_nil _ _
  eq_nil_of_leading_zero := by
    rintro rest ⟨⟩
  isDigit_whole := List.all_eq_true.mp (by decide)
  isDigit_fraction := List.all_eq_true.mp (by decide)

/-- It is shown as it is spelled. -/
theorem State.title_of_numeral_decimal :
    ∃ update, Update.decode (timestampPayload decimalNumeral) = .ok update ∧
      update.timestamp.isSome = true ∧
      (State.initial.receive (timestampPayload decimalNumeral)).view.title =
        titleText ['1', '2', '.', '5'] := by
  have hfound : (timestampIn (timestampPayload decimalNumeral)).isSome = true := by
    decide +kernel
  obtain ⟨number, hnumber⟩ := Option.isSome_iff_exists.mp hfound
  obtain ⟨update, hdecode, htimestamp⟩ := Update.exists_of_bind hnumber
  have hsome := Option.isSome_of_eq_some htimestamp
  obtain ⟨-, htitles⟩ := State.initial.title_of_numeral hdecode hsome
  obtain ⟨-, hother⟩ := htitles decimalNumeral (numeralAt_timestampPayload (by decide +kernel))
  have hcanonical : decimalNumeral.IsCanonical :=
    Or.inr ⟨by decide, fun hwhole ↦ by cases hwhole⟩
  obtain ⟨-, hshown⟩ := hother fun hinteger ↦ List.cons_ne_nil _ _ hinteger.1
  exact ⟨update, hdecode, hsome, hshown (by decide) (by decide) hcanonical⟩

/-- A hundred, by its exponent. -/
def hundredNumeral : Numeral :=
  .powerOfTen ⟨false, .absent, ['2'], List.cons_ne_nil _ _, List.all_eq_true.mp (by decide)⟩

/-- It is shown in another spelling. -/
theorem hundred_rewritten :
    NumeralAt timestampPath hundredNumeral (timestampPayload hundredNumeral) ∧
      (∃ update, Update.decode (timestampPayload hundredNumeral) = .ok update ∧
        update.timestamp.isSome = true) ∧
      (State.initial.receive (timestampPayload hundredNumeral)).view.title =
        titleText ['1', '0', '0', '.', '0'] ∧
      titleText ['1', '0', '0', '.', '0'] ≠ titleText hundredNumeral.text := by
  have hfound : (timestampIn (timestampPayload hundredNumeral)).isSome = true := by
    decide +kernel
  obtain ⟨number, hnumber⟩ := Option.isSome_iff_exists.mp hfound
  obtain ⟨update, hdecode, htimestamp⟩ := Update.exists_of_bind hnumber
  refine ⟨numeralAt_timestampPayload (by decide +kernel), ?_, by decide +kernel, by decide⟩
  exact ⟨update, hdecode, Option.isSome_of_eq_some htimestamp⟩

end LiveBoard.Board
