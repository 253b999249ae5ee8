import LiveBoard.Json.Reader
import Mathlib.Data.List.TakeWhile

/-!
# Tokens of a JSON text

A token is read from its own bytes alone. `Takes` says what that means for a reader: what it reads
is a beginning of the bytes, the token, and the same token is read in front of any other bytes that
do not go on with a number (`Ends`). Numbers are read digit run by digit run, so the equations for
runs come first (`gather_run`, `readExponentDigits_run`); `takes_number` and `takes_string` follow
the readers from the end of a token to its start.
-/

set_option autoImplicit false
set_option relaxedAutoImplicit false

namespace LiveBoard.Json

/-! ### Ends of numbers -/

/-- Whether a byte goes on with a number that stands before it. -/
def continuesNumber (b : UInt8) : Bool := isDigit b || b == '.'.toUInt8 || isExponentMark b

/-- The bytes do not go on with a number. -/
def Ends (rest : List UInt8) : Prop := ∀ b, rest.head? = some b → continuesNumber b = false

/-- The bytes do not go on with a run of digits. -/
def EndsRun (rest : List UInt8) : Prop := ∀ b, rest.head? = some b → isDigit b = false

theorem ends_nil : Ends [] := by
  intro b hb
  cases hb

theorem Ends.endsRun {rest : List UInt8} (h : Ends rest) : EndsRun rest := by
  intro b hb
  have hb := h b hb
  simp only [continuesNumber, Bool.or_eq_false_iff] at hb
  exact hb.1.1

theorem Ends.plain {rest : List UInt8} (h : Ends rest) :
    ∀ b, rest.head? = some b → (b == '.'.toUInt8) = false ∧ isExponentMark b = false := by
  intro b hb
  have hb := h b hb
  simp only [continuesNumber, Bool.or_eq_false_iff] at hb
  exact ⟨hb.1.2, hb.2⟩

section Taking

variable {α : Type} {read inner : List UInt8 → Reading α} {bytes rest : List UInt8} {value : α}

/-- Reading takes a token off the bytes, and takes the same token off any other bytes. -/
def TakesToken (read : List UInt8 → Reading α) (bytes : List UInt8) (value : α)
    (rest : List UInt8) : Prop :=
  ∃ token, bytes = token ++ rest ∧ ∀ after, Ends after → read (token ++ after) = .ok (value, after)

/-- What is read is the token that was taken, whatever follows it. -/
def Takes (read : List UInt8 → Reading α) : Prop :=
  ∀ bytes value rest, read bytes = .ok (value, rest) → TakesToken read bytes value rest

/-- A byte that hands over to another reader belongs to the token. -/
theorem Takes.takesToken_cons (hinner : Takes inner) {b : UInt8}
    (hread : ∀ more, read (b :: more) = inner more)
    (h : read (b :: bytes) = .ok (value, rest)) : TakesToken read (b :: bytes) value rest := by
  obtain ⟨token, rfl, htaken⟩ := hinner bytes value rest (hread bytes ▸ h)
  exact ⟨b :: token, rfl, fun after hafter ↦ (hread _).trans (htaken after hafter)⟩

end Taking

/-! ### Runs of digits -/

section Runs

variable {digits rest : List UInt8}

theorem takeWhile_digits (hdigits : ∀ b ∈ digits, isDigit b = true) (hrest : EndsRun rest) :
    (digits ++ rest).takeWhile isDigit = digits ∧ (digits ++ rest).dropWhile isDigit = rest := by
  rw [List.takeWhile_append_of_pos hdigits, List.dropWhile_append_of_pos hdigits]
  cases rest with
  | nil => simp
  | cons b rest =>
    have hb := hrest b rfl
    simp [hb]

/-- The bytes are a run of digits and what follows it. -/
theorem exists_run (bytes : List UInt8) :
    ∃ digits rest, bytes = digits ++ rest ∧ (∀ b ∈ digits, isDigit b = true) ∧ EndsRun rest := by
  refine ⟨bytes.takeWhile isDigit, bytes.dropWhile isDigit,
    List.takeWhile_append_dropWhile.symm, fun b hb ↦ List.mem_takeWhile_imp hb, ?_⟩
  intro b hb
  have hfirst := List.head?_dropWhile_not isDigit bytes
  rw [hb] at hfirst
  exact hfirst

theorem gather_run (significand : Nat) (digits : List UInt8) (hrest : EndsRun rest) :
    gather significand (digits ++ rest) =
      ((gather significand digits).1, (gather significand digits).2 ++ rest) := by
  induction digits generalizing significand with
  | nil =>
    cases rest with
    | nil => rfl
    | cons b rest =>
      have hb := hrest b rfl
      simp [gather, hb]
  | cons d digits ih =>
    by_cases hfits : (isDigit d && significand * 10 + digitValue d ≤ largestNatural) = true
    · simp only [List.cons_append, gather, if_pos hfits, ih]
    · simp only [List.cons_append, gather, if_neg hfits]

/-- What does not fit of a run of digits is an end of it. -/
theorem gather_unfit_mem (significand : Nat) (digits : List UInt8) :
    ∀ b ∈ (gather significand digits).2, b ∈ digits := by
  induction digits generalizing significand with
  | nil => simp [gather]
  | cons d digits ih =>
    intro b hb
    by_cases hfits : (isDigit d && significand * 10 + digitValue d ≤ largestNatural) = true
    · simp only [gather, if_pos hfits] at hb
      exact List.mem_cons_of_mem _ (ih _ b hb)
    · simpa only [gather, if_neg hfits] using hb

theorem countDigits_run (hdigits : ∀ b ∈ digits, isDigit b = true) (hrest : EndsRun rest) :
    countDigits (digits ++ rest) = digits.length := by
  rw [countDigits, (takeWhile_digits hdigits hrest).1]

theorem skipDigits_run (hdigits : ∀ b ∈ digits, isDigit b = true) (hrest : EndsRun rest) :
    skipDigits (digits ++ rest) = rest :=
  (takeWhile_digits hdigits hrest).2

theorem readExponentDigits_run (exponent : Nat) (digits : List UInt8) (hrest : EndsRun rest) :
    readExponentDigits exponent (digits ++ rest) =
      ((readExponentDigits exponent digits).1, (readExponentDigits exponent digits).2 ++ rest) := by
  induction digits generalizing exponent with
  | nil =>
    cases rest with
    | nil => rfl
    | cons b rest =>
      have hb := hrest b rfl
      simp [readExponentDigits, hb]
  | cons d digits ih =>
    by_cases hdigit : isDigit d = true
    · by_cases hfits : exponent * 10 + digitValue d ≤ largestExponent
      · simp only [List.cons_append, readExponentDigits, if_pos hdigit, if_pos hfits, ih]
      · simp only [List.cons_append, readExponentDigits, if_pos hdigit, if_neg hfits]
    · simp only [List.cons_append, readExponentDigits, if_neg hdigit]

theorem readExponentDigits_unread (exponent : Nat) (digits : List UInt8)
    (hdigits : ∀ b ∈ digits, isDigit b = true) :
    (∀ b ∈ (readExponentDigits exponent digits).2, isDigit b = true) ∧
      ((readExponentDigits exponent digits).1 ≠ none →
        (readExponentDigits exponent digits).2 = []) := by
  induction digits generalizing exponent with
  | nil => simp [readExponentDigits]
  | cons d digits ih =>
    have hrest : ∀ b ∈ digits, isDigit b = true := fun b hb ↦ hdigits b (by simp [hb])
    by_cases hfits : exponent * 10 + digitValue d ≤ largestExponent
    · simpa only [readExponentDigits, if_pos (hdigits d List.mem_cons_self), if_pos hfits] using
        ih _ hrest
    · simpa [readExponentDigits, hdigits d List.mem_cons_self, hfits] using hrest

end Runs

/-! ### Numbers -/

theorem EndsRun.append {token rest after : List UInt8} (h : EndsRun (token ++ rest))
    (hafter : Ends after) : EndsRun (token ++ after) := by
  cases token with
  | nil => exact hafter.endsRun
  | cons b token =>
    intro c hc
    exact h c hc

section Numbers

variable {negative : Bool} {significand : Nat}

/-- Finishing a number takes nothing. -/
theorem finishDouble_eq_ok {exponent : Int} {bytes rest : List UInt8} {value : Number}
    (h : finishDouble negative significand exponent bytes = .ok (value, rest)) :
    bytes = rest ∧
      ∀ after, finishDouble negative significand exponent after = .ok (value, after) := by
  unfold finishDouble at h
  split at h
  case h_1 units hunits =>
    cases h
    refine ⟨rfl, fun after ↦ ?_⟩
    rw [finishDouble, hunits]
  case h_2 => cases h

/-- The sign of an exponent stands in front of its digits. -/
theorem exists_exponentSign {bytes rest : List UInt8} {down : Bool} {b : UInt8}
    (h : readExponentSign bytes = (down, b :: rest)) :
    ∃ sign, bytes = sign ++ b :: rest ∧
      ∀ after, readExponentSign (sign ++ b :: after) = (down, b :: after) := by
  cases bytes with
  | nil => cases h
  | cons c bytes =>
    have hcons : ∀ after, readExponentSign (c :: after) =
        if c == '-'.toUInt8 then (true, after)
        else if c == '+'.toUInt8 then (false, after) else (false, c :: after) := fun _ ↦ rfl
    rw [hcons] at h
    split_ifs at h with hminus hplus
    · cases h
      exact ⟨[c], rfl, fun after ↦ (hcons _).trans (if_pos hminus)⟩
    · cases h
      refine ⟨[c], rfl, fun after ↦ (hcons _).trans ?_⟩
      rw [if_neg hminus, if_pos hplus]
      rfl
    · cases h
      refine ⟨[], rfl, fun after ↦ (hcons _).trans ?_⟩
      rw [if_neg hminus, if_neg hplus]

/-- An exponent is read by the run of its digits. -/
theorem readExponent_run (start : Int) {bytes digits rest : List UInt8} {down : Bool} {b : UInt8}
    (hsign : readExponentSign bytes = (down, b :: (digits ++ rest))) (hb : isDigit b = true)
    (hdigits : ∀ d ∈ digits, isDigit d = true) (hrest : EndsRun rest) :
    readExponent negative significand start bytes =
      match readExponentDigits (digitValue b) digits with
      | (some exponent, _) =>
        finishDouble negative significand
          (saturated (if down then start - exponent else start + exponent)) rest
      | (none, unread) =>
        if !down && significand != 0 then .error (.here .numberOutOfRange (unread ++ rest))
        else .ok (.double ⟨negative, 0⟩, rest) := by
  obtain ⟨hunread, hwhole⟩ := readExponentDigits_unread (digitValue b) digits hdigits
  unfold readExponent
  rw [hsign]
  dsimp only
  rw [if_pos hb, readExponentDigits_run _ _ hrest]
  generalize readExponentDigits (digitValue b) digits = result at hunread hwhole
  obtain ⟨exponent | exponent, unread⟩ := result
  · dsimp only
    rw [skipDigits_run hunread hrest]
  · dsimp only at hwhole ⊢
    rw [hwhole (by simp), List.nil_append]

theorem takes_exponent (start : Int) : Takes (readExponent negative significand start) := by
  intro bytes value rest hread
  have hsigned : ∃ down b following,
      readExponentSign bytes = (down, b :: following) ∧ isDigit b = true := by
    unfold readExponent at hread
    split at hread
    case h_1 => cases hread
    case h_2 down b following hsign =>
      by_cases hb : isDigit b = true
      · exact ⟨down, b, following, hsign, hb⟩
      · rw [if_neg hb] at hread
        cases hread
  obtain ⟨down, b, following, hsign, hb⟩ := hsigned
  obtain ⟨digits, tail, rfl, hdigits, htail⟩ := exists_run following
  obtain ⟨sign, rfl, hsigns⟩ := exists_exponentSign hsign
  rw [readExponent_run start hsign hb hdigits htail] at hread
  split at hread
  case h_1 exponent unread hexponent =>
    obtain ⟨rfl, hfinish⟩ := finishDouble_eq_ok hread
    refine ⟨sign ++ b :: digits, by simp, fun after hafter ↦ ?_⟩
    rw [List.append_assoc, List.cons_append,
      readExponent_run start (hsigns _) hb hdigits hafter.endsRun, hexponent]
    exact hfinish after
  case h_2 unread hexponent =>
    split_ifs at hread with hlarge
    cases hread
    refine ⟨sign ++ b :: digits, by simp, fun after hafter ↦ ?_⟩
    rw [List.append_assoc, List.cons_append,
      readExponent_run start (hsigns _) hb hdigits hafter.endsRun, hexponent]
    exact if_neg hlarge

theorem readScale_of_plain (exponent : Int) {bytes : List UInt8}
    (hplain : ∀ b, bytes.head? = some b → isExponentMark b = false) :
    readScale negative significand exponent bytes =
      finishDouble negative significand exponent bytes := by
  cases bytes with
  | nil => rfl
  | cons b rest => simp [readScale, hplain b rfl]

theorem takes_scale (exponent : Int) : Takes (readScale negative significand exponent) := by
  intro bytes value rest hread
  by_cases hplain : ∀ b, bytes.head? = some b → isExponentMark b = false
  · rw [readScale_of_plain exponent hplain] at hread
    obtain ⟨rfl, hfinish⟩ := finishDouble_eq_ok hread
    refine ⟨[], rfl, fun after hafter ↦ ?_⟩
    rw [List.nil_append, readScale_of_plain exponent fun b hb ↦ (hafter.plain b hb).2]
    exact hfinish after
  · obtain ⟨b, hb, hmark⟩ := by simpa only [not_forall, exists_prop] using hplain
    obtain ⟨following, rfl⟩ := List.head?_eq_some_iff.mp hb
    exact (takes_exponent exponent).takesToken_cons
      (fun _ ↦ if_pos (by simpa using hmark)) hread

/-- Assumes: a run of digits that is not empty. A fraction is read by it. -/
theorem readFraction_run (start : Int) {digits rest : List UInt8} (hsome : digits ≠ [])
    (hdigits : ∀ b ∈ digits, isDigit b = true) (hrest : EndsRun rest) :
    readFraction negative significand start (digits ++ rest) =
      readScale negative (gather significand digits).1
        (start - (digits.length - (gather significand digits).2.length : Nat)) rest := by
  have hunfit : ∀ b ∈ (gather significand digits).2, isDigit b = true := fun b hb ↦
    hdigits b (gather_unfit_mem significand digits b hb)
  cases digits with
  | nil => exact absurd rfl hsome
  | cons d digits =>
    unfold readFraction
    rw [List.cons_append]
    dsimp only
    rw [if_pos (hdigits d List.mem_cons_self), ← List.cons_append, gather_run _ _ hrest,
      countDigits_run hdigits hrest, countDigits_run hunfit hrest, skipDigits_run hunfit hrest]

theorem takes_fraction (start : Int) : Takes (readFraction negative significand start) := by
  intro bytes value rest hread
  obtain ⟨digits, tail, rfl, hdigits, htail⟩ := exists_run bytes
  have hsome : digits ≠ [] := by
    rintro rfl
    cases tail with
    | nil => cases hread
    | cons b tail =>
      have hb : isDigit b = false := htail b rfl
      rw [List.nil_append, readFraction, if_neg (by simp [hb])] at hread
      cases hread
  rw [readFraction_run start hsome hdigits htail] at hread
  obtain ⟨token, rfl, htaken⟩ := takes_scale _ _ _ _ hread
  refine ⟨digits ++ token, by simp, fun after hafter ↦ ?_⟩
  rw [List.append_assoc, readFraction_run start hsome hdigits (htail.append hafter)]
  exact htaken after hafter

theorem readTail_of_plain (dropped : Nat) {bytes : List UInt8}
    (hplain : ∀ b, bytes.head? = some b → (b == '.'.toUInt8) = false ∧ isExponentMark b = false) :
    readTail negative significand dropped bytes =
      if dropped = 0 then .ok (wholeNumber negative significand, bytes)
      else finishDouble negative significand dropped bytes := by
  cases bytes with
  | nil => rfl
  | cons b rest => simp [readTail, hplain b rfl]

theorem takes_tail (dropped : Nat) : Takes (readTail negative significand dropped) := by
  intro bytes value rest hread
  by_cases hplain : ∀ b, bytes.head? = some b →
      (b == '.'.toUInt8) = false ∧ isExponentMark b = false
  · rw [readTail_of_plain dropped hplain] at hread
    split_ifs at hread with hfits
    · cases hread
      refine ⟨[], rfl, fun after hafter ↦ ?_⟩
      rw [List.nil_append, readTail_of_plain dropped hafter.plain, if_pos hfits]
    · obtain ⟨rfl, hfinish⟩ := finishDouble_eq_ok hread
      refine ⟨[], rfl, fun after hafter ↦ ?_⟩
      rw [List.nil_append, readTail_of_plain dropped hafter.plain, if_neg hfits]
      exact hfinish after
  · obtain ⟨b, hb, hmarked⟩ := by simpa only [not_forall, exists_prop] using hplain
    obtain ⟨following, rfl⟩ := List.head?_eq_some_iff.mp hb
    by_cases hpoint : (b == '.'.toUInt8) = true
    · exact (takes_fraction dropped).takesToken_cons (fun _ ↦ if_pos hpoint) hread
    · have hmark : isExponentMark b = true := by simpa [hpoint] using hmarked
      exact (takes_exponent dropped).takesToken_cons
        (fun _ ↦ (if_neg hpoint).trans (if_pos hmark)) hread

/-- Assumes: a run of digits in which a leading zero stands alone. The integer part of a number is
read by it. -/
theorem readNumber_run {b : UInt8} {digits rest : List UInt8} (hb : isDigit b = true)
    (hdigits : ∀ d ∈ digits, isDigit d = true) (hzero : b = '0'.toUInt8 → digits = [])
    (hrest : EndsRun rest) :
    readNumber negative (b :: (digits ++ rest)) =
      readTail negative (gather (digitValue b) digits).1 (gather (digitValue b) digits).2.length
        rest := by
  by_cases hleading : b = '0'.toUInt8
  · subst hleading
    obtain rfl := hzero rfl
    have hvalue : digitValue '0'.toUInt8 = 0 := by decide
    cases rest with
    | nil => rw [hvalue]; rfl
    | cons c rest => simp [readNumber, hrest c rfl, gather, hvalue]
  · have hunfit : ∀ d ∈ (gather (digitValue b) digits).2, isDigit d = true := fun d hd ↦
      hdigits d (gather_unfit_mem _ digits d hd)
    have hread : readNumber negative (b :: (digits ++ rest)) =
        if isDigit b then
          readTail negative (gather (digitValue b) (digits ++ rest)).1
            (countDigits (gather (digitValue b) (digits ++ rest)).2)
            (skipDigits (gather (digitValue b) (digits ++ rest)).2)
        else .error (.here .badNumber (digits ++ rest)) := if_neg (by simpa using hleading)
    rw [hread, if_pos hb, gather_run _ _ hrest, countDigits_run hunfit hrest,
      skipDigits_run hunfit hrest]

theorem takes_number : Takes (readNumber negative) := by
  intro bytes value rest hread
  cases bytes with
  | nil => cases hread
  | cons b following =>
    obtain ⟨digits, tail, rfl, hdigits, htail⟩ := exists_run following
    have hb : isDigit b = true := by
      by_contra hother
      have hzero : ¬ (b == '0'.toUInt8) = true := by
        intro hzero
        obtain rfl := eq_of_beq hzero
        exact hother (by decide)
      simp [readNumber, hzero, hother] at hread
    have hzero : b = '0'.toUInt8 → digits = [] := by
      rintro rfl
      cases digits with
      | nil => rfl
      | cons d digits =>
        simp [readNumber, hdigits d List.mem_cons_self] at hread
    rw [readNumber_run hb hdigits hzero htail] at hread
    obtain ⟨token, rfl, htaken⟩ := takes_tail _ _ _ _ hread
    refine ⟨b :: (digits ++ token), by simp, fun after hafter ↦ ?_⟩
    rw [List.cons_append, List.append_assoc,
      readNumber_run hb hdigits hzero (htail.append hafter)]
    exact htaken after hafter

end Numbers

/-! ### Strings -/

theorem exists_of_bind_eq_ok {ε α β : Type} {action : Except ε α} {next : α → Except ε β}
    {result : β} (h : (action >>= next) = .ok result) :
    ∃ value, action = .ok value ∧ next value = .ok result := by
  cases action with
  | error cause => cases h
  | ok value => exact ⟨value, rfl, h⟩

@[simp]
theorem ok_bind {ε α β : Type} (value : α) (next : α → Except ε β) :
    (Except.ok value >>= next) = next value :=
  rfl

section Strings

/-- A token that ends by itself is taken off any bytes. -/
def TakesWhole {α : Type} (read : List UInt8 → Reading α) : Prop :=
  ∀ bytes value rest, read bytes = .ok (value, rest) →
    ∃ token, bytes = token ++ rest ∧ ∀ after, read (token ++ after) = .ok (value, after)

theorem takesWhole_codeUnit : TakesWhole readCodeUnit := by
  intro bytes value rest hread
  unfold readCodeUnit at hread
  split at hread
  case h_1 a b c d following =>
    cases hunit : codeUnit? a b c d with
    | some unit =>
      rw [hunit] at hread
      cases hread
      exact ⟨[a, b, c, d], rfl, fun after ↦ by simp [readCodeUnit, hunit]⟩
    | none =>
      rw [hunit] at hread
      cases hread
  case h_2 => cases hread

theorem readPairByte_eq_ok {expected : UInt8} {bytes rest : List UInt8}
    (h : readPairByte expected bytes = .ok rest) :
    bytes = expected :: rest ∧ ∀ after, readPairByte expected (expected :: after) = .ok after := by
  cases bytes with
  | nil => cases h
  | cons b following =>
    by_cases hb : (b == expected) = true
    · obtain rfl := eq_of_beq hb
      simp only [readPairByte, beq_self_eq_true, ↓reduceIte, Except.ok.injEq] at h
      subst h
      exact ⟨rfl, fun after ↦ if_pos hb⟩
    · simp [readPairByte, hb] at h

theorem takesWhole_pairEnd (leading : Nat) : TakesWhole (readPairEnd leading) := by
  intro bytes value rest hread
  obtain ⟨second, hslash, hmore⟩ := exists_of_bind_eq_ok hread
  obtain ⟨third, hletter, hmore⟩ := exists_of_bind_eq_ok hmore
  obtain ⟨⟨trailing, fourth⟩, hunit, -⟩ := exists_of_bind_eq_ok hmore
  obtain ⟨rfl, hslashes⟩ := readPairByte_eq_ok hslash
  obtain ⟨rfl, hletters⟩ := readPairByte_eq_ok hletter
  obtain ⟨token, rfl, htaken⟩ := takesWhole_codeUnit _ _ _ hunit
  have hend : ∀ after,
      readPairEnd leading ('\\'.toUInt8 :: 'u'.toUInt8 :: (token ++ after)) =
        if isTrailingSurrogate trailing then
          .ok (Text.encodeChar (Char.ofNat (pairedCodePoint leading trailing)), after)
        else .error (.here .loneSurrogate after) := by
    intro after
    rw [readPairEnd, hslashes, ok_bind, hletters, ok_bind, htaken, ok_bind]
    by_cases htrailing : isTrailingSurrogate trailing = true
    · simp only [htrailing, ↓reduceIte]
      rfl
    · simp only [htrailing, Bool.false_eq_true, ↓reduceIte]
      rfl
  rw [hend] at hread
  by_cases htrailing : isTrailingSurrogate trailing = true
  · rw [if_pos htrailing] at hread
    simp only [Except.ok.injEq, Prod.mk.injEq] at hread
    obtain ⟨rfl, rfl⟩ := hread
    refine ⟨'\\'.toUInt8 :: 'u'.toUInt8 :: token, by simp, fun after ↦ ?_⟩
    exact (hend after).trans (if_pos htrailing)
  · rw [if_neg htrailing] at hread
    cases hread

theorem takesWhole_codePoint : TakesWhole readCodePoint := by
  intro bytes value rest hread
  obtain ⟨⟨unit, following⟩, hunit, -⟩ := exists_of_bind_eq_ok hread
  obtain ⟨token, rfl, htaken⟩ := takesWhole_codeUnit _ _ _ hunit
  have hpoint : ∀ after, readCodePoint (token ++ after) =
      if isTrailingSurrogate unit then .error (.here .loneSurrogate after)
      else if isLeadingSurrogate unit then readPairEnd unit after
      else .ok (Text.encodeChar (Char.ofNat unit), after) := by
    intro after
    simp only [readCodePoint, htaken, bind, Except.bind]
    rfl
  rw [hpoint] at hread
  by_cases htrailing : isTrailingSurrogate unit = true
  · rw [if_pos htrailing] at hread
    cases hread
  · rw [if_neg htrailing] at hread
    by_cases hleading : isLeadingSurrogate unit = true
    · rw [if_pos hleading] at hread
      obtain ⟨second, rfl, hsecond⟩ := takesWhole_pairEnd unit _ _ _ hread
      refine ⟨token ++ second, by simp, fun after ↦ ?_⟩
      rw [List.append_assoc, hpoint, if_neg htrailing, if_pos hleading, hsecond]
    · rw [if_neg hleading] at hread
      cases hread
      exact ⟨token, rfl, fun after ↦ by rw [hpoint, if_neg htrailing, if_neg hleading]⟩

theorem takesWhole_escape : TakesWhole readEscape := by
  intro bytes value rest hread
  cases bytes with
  | nil => cases hread
  | cons b following =>
    by_cases hpoint : (b == 'u'.toUInt8) = true
    · have hescape : ∀ more, readEscape (b :: more) = readCodePoint more := fun _ ↦ if_pos hpoint
      rw [hescape] at hread
      obtain ⟨token, rfl, htaken⟩ := takesWhole_codePoint _ _ _ hread
      exact ⟨b :: token, rfl, fun after ↦ (hescape _).trans (htaken after)⟩
    · cases hletter : letterEscape? b with
      | some byte =>
        have hescape : ∀ more, readEscape (b :: more) = .ok ([byte], more) := by
          intro more
          simp [readEscape, hpoint, hletter]
        rw [hescape] at hread
        cases hread
        exact ⟨[b], rfl, hescape⟩
      | none => simp [readEscape, hpoint, hletter] at hread

theorem finishString_eq_ok {held bytes rest : List UInt8} {text : List Char}
    (h : finishString held bytes = .ok (text, rest)) :
    bytes = rest ∧ ∀ after, finishString held after = .ok (text, after) := by
  unfold finishString at h
  split at h
  case h_1 found hfound =>
    cases h
    refine ⟨rfl, fun after ↦ ?_⟩
    rw [finishString, hfound]
  case h_2 => cases h

/-- The first byte of a string ends it, begins an escape or is held. -/
theorem readStringOnto_cons (fuel : Nat) (held more : List UInt8) (b : UInt8) :
    readStringOnto (fuel + 1) held (b :: more) =
      if b == '"'.toUInt8 then finishString held.reverse more
      else if b == '\\'.toUInt8 then
        match readEscape more with
        | .ok (escaped, rest) => readStringOnto fuel (escaped.reverse ++ held) rest
        | .error stop => .error stop
      else if b < 0x20 then .error (.here .controlCharacter more)
      else readStringOnto fuel (b :: held) more :=
  rfl

/-- A string is read by the bytes up to its closing quote, with a step for each of them at most. -/
theorem readStringOnto_takes {fuel : Nat} {held bytes rest : List UInt8} {text : List Char}
    (hread : readStringOnto fuel held bytes = .ok (text, rest)) :
    ∃ token, bytes = token ++ rest ∧ ∀ after steps, token.length ≤ steps →
      readStringOnto steps held (token ++ after) = .ok (text, after) := by
  have hpositive : ∀ {b : UInt8} {token : List UInt8} {steps : Nat},
      (b :: token).length ≤ steps → ∃ left, steps = left + 1 ∧ token.length ≤ left := by
    intro b token steps hsteps
    rw [List.length_cons] at hsteps
    exact ⟨steps - 1, by omega, by omega⟩
  induction fuel generalizing held bytes with
  | zero => cases hread
  | succ fuel ih =>
    cases bytes with
    | nil => cases hread
    | cons b following =>
      rw [readStringOnto_cons] at hread
      by_cases hquote : (b == '"'.toUInt8) = true
      · rw [if_pos hquote] at hread
        obtain ⟨rfl, hfinish⟩ := finishString_eq_ok hread
        refine ⟨[b], rfl, fun after steps hsteps ↦ ?_⟩
        obtain ⟨left, rfl, -⟩ := hpositive hsteps
        rw [List.singleton_append, readStringOnto_cons, if_pos hquote, hfinish]
      · rw [if_neg hquote] at hread
        by_cases hslash : (b == '\\'.toUInt8) = true
        · rw [if_pos hslash] at hread
          cases hescape : readEscape following with
          | error stop =>
            rw [hescape] at hread
            cases hread
          | ok found =>
            obtain ⟨escaped, more⟩ := found
            rw [hescape] at hread
            obtain ⟨first, rfl, hfirst⟩ := takesWhole_escape _ _ _ hescape
            obtain ⟨second, rfl, hsecond⟩ := ih hread
            refine ⟨b :: (first ++ second), by simp, fun after steps hsteps ↦ ?_⟩
            obtain ⟨left, rfl, hleft⟩ := hpositive hsteps
            rw [List.cons_append, readStringOnto_cons, if_neg hquote, if_pos hslash,
              List.append_assoc, hfirst]
            refine hsecond after left ?_
            rw [List.length_append] at hleft
            omega
        · rw [if_neg hslash] at hread
          by_cases hcontrol : b < 0x20
          · rw [if_pos hcontrol] at hread
            cases hread
          · rw [if_neg hcontrol] at hread
            obtain ⟨token, rfl, htaken⟩ := ih hread
            refine ⟨b :: token, rfl, fun after steps hsteps ↦ ?_⟩
            obtain ⟨left, rfl, hleft⟩ := hpositive hsteps
            rw [List.cons_append, readStringOnto_cons, if_neg hquote, if_neg hslash,
              if_neg hcontrol]
            exact htaken after left hleft

end Strings

/-! ### Words and scalars -/

theorem readWord_takes {word bytes rest : List UInt8} {value found : Value}
    (h : readWord value word bytes = .ok (found, rest)) :
    found = value ∧ bytes = word ++ rest := by
  induction word generalizing bytes with
  | nil =>
    cases h
    exact ⟨rfl, rfl⟩
  | cons letter word ih =>
    cases bytes with
    | nil => cases h
    | cons b following =>
      by_cases hb : (b == letter) = true
      · obtain rfl := eq_of_beq hb
        have hfollowing : readWord value word following = .ok (found, rest) := by
          simpa [readWord] using h
        obtain ⟨hfound, rfl⟩ := ih hfollowing
        exact ⟨hfound, rfl⟩
      · simp [readWord, hb] at h

@[simp]
theorem readWord_append (value : Value) (word after : List UInt8) :
    readWord value word (word ++ after) = .ok (value, after) := by
  induction word with
  | nil => rfl
  | cons letter word ih => simpa [readWord] using ih

theorem takes_word (value : Value) (word : List UInt8) : Takes (readWord value word) := by
  intro bytes found rest hread
  obtain ⟨rfl, rfl⟩ := readWord_takes hread
  exact ⟨word, rfl, fun after _ ↦ readWord_append found word after⟩

theorem Takes.map {α β : Type} {read : List UInt8 → Reading α} (hread : Takes read) (f : α → β) :
    Takes fun bytes ↦ (read bytes).map fun found ↦ (f found.1, found.2) := by
  intro bytes value rest h
  dsimp only at h
  cases hfound : read bytes with
  | error stop =>
    rw [hfound] at h
    cases h
  | ok found =>
    rw [hfound] at h
    cases h
    obtain ⟨token, htoken, htaken⟩ := hread _ _ _ hfound
    exact ⟨token, htoken, fun after hafter ↦ by simp [htaken after hafter, Except.map]⟩

theorem byte_ne_of_isDigit {b c : UInt8} (hb : isDigit b = true) (hc : isDigit c = false) :
    (b == c) = false := by
  rw [beq_eq_false_iff_ne]
  rintro rfl
  rw [hb] at hc
  cases hc

/-- A scalar that starts with a digit is a number. -/
theorem readScalar_of_isDigit {b : UInt8} (hb : isDigit b = true) (rest : List UInt8) :
    readScalar (b :: rest) = (readNumber false (b :: rest)).map fun read ↦
      (.number read.1, read.2) := by
  simp only [readScalar, byte_ne_of_isDigit hb (c := 'n'.toUInt8) (by decide),
    byte_ne_of_isDigit hb (c := 't'.toUInt8) (by decide),
    byte_ne_of_isDigit hb (c := 'f'.toUInt8) (by decide),
    byte_ne_of_isDigit hb (c := '-'.toUInt8) (by decide), hb, Bool.false_eq_true, ↓reduceIte]

/-- The first byte of a scalar. -/
def startsScalar (b : UInt8) : Bool :=
  b == 'n'.toUInt8 || b == 't'.toUInt8 || b == 'f'.toUInt8 || b == '-'.toUInt8 || isDigit b

theorem startsScalar_of_readScalar {bytes rest : List UInt8} {value : Value}
    (h : readScalar bytes = .ok (value, rest)) :
    ∃ b following, bytes = b :: following ∧ startsScalar b = true := by
  cases bytes with
  | nil => cases h
  | cons b following =>
    refine ⟨b, following, rfl, ?_⟩
    by_contra hstart
    simp only [startsScalar, Bool.or_eq_true, not_or, Bool.not_eq_true] at hstart
    obtain ⟨⟨⟨⟨hn, ht⟩, hf⟩, hminus⟩, hdigit⟩ := hstart
    simp [readScalar, hn, ht, hf, hminus, hdigit] at h

/-- A scalar is a word or a number. -/
theorem readScalar_eq_ok {bytes rest : List UInt8} {value : Value}
    (h : readScalar bytes = .ok (value, rest)) :
    value = .null ∨ (∃ held, value = .bool held) ∨
      ∃ negative digits number, value = .number number ∧
        readNumber negative digits = .ok (number, rest) := by
  have hnumber : ∀ negative digits,
      ((readNumber negative digits).map fun read ↦ (Value.number read.1, read.2)) =
        .ok (value, rest) →
      ∃ negative digits number, value = .number number ∧
        readNumber negative digits = .ok (number, rest) := by
    intro negative digits hread
    cases hfound : readNumber negative digits with
    | error stop =>
      rw [hfound] at hread
      cases hread
    | ok found =>
      rw [hfound] at hread
      cases hread
      exact ⟨negative, digits, found.1, rfl, hfound⟩
  obtain ⟨b, following, rfl, hstart⟩ := startsScalar_of_readScalar h
  by_cases hdigit : isDigit b = true
  · rw [readScalar_of_isDigit hdigit] at h
    exact Or.inr (Or.inr (hnumber _ _ h))
  · simp only [startsScalar, hdigit, Bool.or_false, Bool.or_eq_true, beq_iff_eq] at hstart
    obtain ((rfl | rfl) | rfl) | rfl := hstart
    · exact Or.inl (readWord_takes h).1
    · exact Or.inr (Or.inl ⟨true, (readWord_takes h).1⟩)
    · exact Or.inr (Or.inl ⟨false, (readWord_takes h).1⟩)
    · exact Or.inr (Or.inr (hnumber _ _ h))

theorem readScalar_ne_string {bytes rest : List UInt8} {text : List Char} :
    readScalar bytes ≠ .ok (.string text, rest) := by
  intro h
  simpa using readScalar_eq_ok h

theorem readScalar_ne_object {bytes rest : List UInt8} {members : List (List Char × Value)} :
    readScalar bytes ≠ .ok (.object members, rest) := by
  intro h
  simpa using readScalar_eq_ok h

theorem takes_scalar : Takes readScalar := by
  intro bytes value rest hread
  obtain ⟨b, following, rfl, hstart⟩ := startsScalar_of_readScalar hread
  by_cases hdigit : isDigit b = true
  · have hnumber := takes_number.map Value.number _ _ _ (readScalar_of_isDigit hdigit _ ▸ hread)
    obtain ⟨token, htoken, htaken⟩ := hnumber
    cases token with
    | nil => cases htaken [] ends_nil
    | cons c token =>
      obtain ⟨rfl, rfl⟩ := List.cons.inj htoken
      exact ⟨b :: token, rfl, fun after hafter ↦
        (readScalar_of_isDigit hdigit _).trans (htaken after hafter)⟩
  · simp only [startsScalar, hdigit, Bool.or_false, Bool.or_eq_true, beq_iff_eq] at hstart
    obtain ((rfl | rfl) | rfl) | rfl := hstart
    · exact (takes_word .null _).takesToken_cons (fun _ ↦ rfl) hread
    · exact (takes_word (.bool true) _).takesToken_cons (fun _ ↦ rfl) hread
    · exact (takes_word (.bool false) _).takesToken_cons (fun _ ↦ rfl) hread
    · exact (takes_number.map Value.number).takesToken_cons (fun _ ↦ rfl) hread

end LiveBoard.Json
