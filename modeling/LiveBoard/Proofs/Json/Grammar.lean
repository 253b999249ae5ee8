import LiveBoard.Proofs.Json.Tokens

/-!
# The texts that are read

`ValueText` lists the texts of a value as a grammar: a scalar, a quoted string, or brackets around
items or members, with blanks between the tokens and a comma in front of every item but the first.
The grammar counts the brackets that may still be opened, as the reader does. What the reader reads
is a text of the grammar (`valueText_of_read`), and it reads every text of the grammar
(`read_of_valueText`), so `parse_eq_ok_iff` says which bytes hold a value, and which value it is.
-/

set_option autoImplicit false
set_option relaxedAutoImplicit false

namespace LiveBoard.Json

/-! ### Blanks -/

/-- The bytes may stand between tokens. -/
def Blanks (bytes : List UInt8) : Prop := ∀ b ∈ bytes, isBlank b = true

theorem blanks_nil : Blanks [] := by
  intro b hb
  cases hb

theorem Blanks.append {before after : List UInt8} (hbefore : Blanks before)
    (hafter : Blanks after) : Blanks (before ++ after) := by
  intro b hb
  obtain hb | hb := List.mem_append.mp hb
  · exact hbefore b hb
  · exact hafter b hb

/-- The bytes are blanks and what starts with the next token. -/
theorem exists_blanks (bytes : List UInt8) :
    ∃ blanks, Blanks blanks ∧ bytes = blanks ++ skipBlanks bytes :=
  ⟨bytes.takeWhile isBlank, fun _ hb ↦ List.mem_takeWhile_imp hb,
    List.takeWhile_append_dropWhile.symm⟩

theorem skipBlanks_cons {blanks rest : List UInt8} {b : UInt8} (hblanks : Blanks blanks)
    (hb : isBlank b = false) : skipBlanks (blanks ++ b :: rest) = b :: rest := by
  rw [skipBlanks, List.dropWhile_append_of_pos hblanks]
  simp [hb]

theorem skipBlanks_blanks {blanks : List UInt8} (hblanks : Blanks blanks) :
    skipBlanks blanks = [] := by
  simpa [skipBlanks, Blanks] using hblanks

/-- Bytes whose first is a blank or closes or parts items do not go on with a number. -/
theorem ends_cons {b : UInt8} {rest : List UInt8} (hb : continuesNumber b = false) :
    Ends (b :: rest) := by
  intro c hc
  obtain rfl := Option.some.inj hc
  exact hb

theorem continuesNumber_of_isBlank {b : UInt8} (hb : isBlank b = true) :
    continuesNumber b = false := by
  simp only [isBlank, Bool.or_eq_true, beq_iff_eq] at hb
  obtain ((rfl | rfl) | rfl) | rfl := hb <;> decide

theorem Ends.blanks_append {blanks after : List UInt8} (hafter : Ends after)
    (hblanks : Blanks blanks) : Ends (blanks ++ after) := by
  cases blanks with
  | nil => exact hafter
  | cons b blanks => exact ends_cons (continuesNumber_of_isBlank (hblanks b List.mem_cons_self))

/-! ### The grammar -/

/-- What stands in front of an item: a comma between blanks, and blanks alone in front of the
first. -/
inductive LeadIn : Bool → List UInt8 → Prop
  /-- Blanks in front of the first item. -/
  | first {blanks : List UInt8} (hblanks : Blanks blanks) : LeadIn true blanks
  /-- A comma between blanks in front of another item. -/
  | next {before after : List UInt8} (hbefore : Blanks before) (hafter : Blanks after) :
      LeadIn false (before ++ ','.toUInt8 :: after)

theorem LeadIn.append_blanks {first : Bool} {lead blanks : List UInt8} (hlead : LeadIn first lead)
    (hblanks : Blanks blanks) : LeadIn first (lead ++ blanks) := by
  cases hlead with
  | first hfirst => exact .first (hfirst.append hblanks)
  | next hbefore hafter =>
    rw [List.append_assoc, List.cons_append]
    exact .next hbefore (hafter.append hblanks)

theorem LeadIn.ends_append {lead after : List UInt8} (hlead : LeadIn false lead) :
    Ends (lead ++ after) := by
  cases hlead with
  | next hbefore hafter =>
    rw [List.append_assoc, List.cons_append]
    exact (ends_cons (by decide)).blanks_append hbefore

/-- The bytes of a string after its opening quote. -/
def StringText (text : List Char) (bytes : List UInt8) : Prop :=
  readString bytes.length bytes = .ok (text, [])

mutual

/-- The texts of a value, with `levels` brackets left to open. -/
inductive ValueText : Nat → Value → List UInt8 → Prop
  /-- A word or a number. -/
  | scalar {levels : Nat} {value : Value} {bytes : List UInt8}
      (hread : readScalar bytes = .ok (value, [])) : ValueText levels value bytes
  /-- A quoted string. -/
  | string {levels : Nat} {text : List Char} {bytes : List UInt8} (htext : StringText text bytes) :
      ValueText levels (.string text) ('"'.toUInt8 :: bytes)
  /-- Items between brackets. -/
  | array {levels : Nat} {items : List Value} {bytes : List UInt8}
      (hitems : ItemsText levels true items bytes) :
      ValueText (levels + 1) (.array items) ('['.toUInt8 :: bytes)
  /-- Members between braces. -/
  | object {levels : Nat} {members : List (List Char × Value)} {bytes : List UInt8}
      (hmembers : MembersText levels true members bytes) :
      ValueText (levels + 1) (.object members) ('{'.toUInt8 :: bytes)

/-- The texts of items up to the bracket that closes them. -/
inductive ItemsText : Nat → Bool → List Value → List UInt8 → Prop
  /-- No more items. -/
  | closed {levels : Nat} {first : Bool} {blanks : List UInt8} (hblanks : Blanks blanks) :
      ItemsText levels first [] (blanks ++ [']'.toUInt8])
  /-- An item and those after it. -/
  | item {levels : Nat} {first : Bool} {lead text rest : List UInt8} {item : Value}
      {items : List Value} (hlead : LeadIn first lead) (hitem : ValueText levels item text)
      (hrest : ItemsText levels false items rest) :
      ItemsText levels first (item :: items) (lead ++ (text ++ rest))

/-- The texts of members up to the brace that closes them. -/
inductive MembersText : Nat → Bool → List (List Char × Value) → List UInt8 → Prop
  /-- No more members. -/
  | closed {levels : Nat} {first : Bool} {blanks : List UInt8} (hblanks : Blanks blanks) :
      MembersText levels first [] (blanks ++ ['}'.toUInt8])
  /-- A member and those after it. -/
  | member {levels : Nat} {first : Bool} {lead keyText before after text rest : List UInt8}
      {key : List Char} {value : Value} {members : List (List Char × Value)}
      (hlead : LeadIn first lead) (hkey : StringText key keyText) (hbefore : Blanks before)
      (hafter : Blanks after) (hvalue : ValueText levels value text)
      (hrest : MembersText levels false members rest) :
      MembersText levels first ((key, value) :: members)
        (lead ++ '"'.toUInt8 :: (keyText ++ (before ++ ':'.toUInt8 :: (after ++ (text ++ rest)))))

end

/-! ### What is read is a text of the grammar -/

section Soundness

variable {first : Bool} {bytes rest : List UInt8}

theorem stringText_of_read {fuel : Nat} {text : List Char}
    (h : readString fuel bytes = .ok (text, rest)) :
    ∃ token, bytes = token ++ rest ∧ StringText text token := by
  obtain ⟨token, rfl, htaken⟩ := readStringOnto_takes h
  refine ⟨token, rfl, ?_⟩
  have hwhole := htaken [] token.length le_rfl
  rwa [List.append_nil] at hwhole

theorem readColon_eq_ok (h : readColon bytes = .ok rest) :
    ∃ blanks, Blanks blanks ∧ bytes = blanks ++ ':'.toUInt8 :: rest := by
  obtain ⟨blanks, hblanks, hbytes⟩ := exists_blanks bytes
  unfold readColon at h
  split at h
  case h_1 => cases h
  case h_2 b following hskip =>
    by_cases hcolon : (b == ':'.toUInt8) = true
    · rw [if_pos hcolon] at h
      cases h
      obtain rfl := eq_of_beq hcolon
      exact ⟨blanks, hblanks, hskip ▸ hbytes⟩
    · rw [if_neg hcolon] at h
      cases h

/-- Finding the next item names the blanks and the comma in front of it. -/
theorem nextItem_closed (h : nextItem first bytes = .ok (.closed rest)) :
    ∃ blanks, Blanks blanks ∧ bytes = blanks ++ ']'.toUInt8 :: rest := by
  obtain ⟨blanks, hblanks, hbytes⟩ := exists_blanks bytes
  refine ⟨blanks, hblanks, hbytes.trans ?_⟩
  unfold nextItem at h
  split at h
  case h_1 => cases h
  case h_2 b following hskip =>
    rw [hskip]
    split_ifs at h with hclosed hfirst hcomma
    · cases h
      rw [eq_of_beq hclosed]
    · cases h
    · split at h
      case h_1 => cases h
      case h_2 =>
        split_ifs at h
        cases h

theorem nextItem_item (h : nextItem first bytes = .ok (.item rest)) :
    ∃ lead, LeadIn first lead ∧ bytes = lead ++ rest := by
  obtain ⟨blanks, hblanks, hbytes⟩ := exists_blanks bytes
  unfold nextItem at h
  split at h
  case h_1 => cases h
  case h_2 b following hskip =>
    rw [hskip] at hbytes
    split_ifs at h with hclosed hfirst hcomma
    · cases h
    · cases h
      exact ⟨blanks, hfirst ▸ .first hblanks, hbytes⟩
    · obtain ⟨more, hmore, hfollowing⟩ := exists_blanks following
      split at h
      case h_1 => cases h
      case h_2 c left hafter =>
        split_ifs at h with htrailing
        cases h
        refine ⟨blanks ++ b :: more, ?_, ?_⟩
        · obtain rfl := eq_of_beq hcomma
          simp only [Bool.not_eq_true] at hfirst
          exact hfirst ▸ .next hblanks hmore
        · rw [hbytes, hfollowing, hafter]
          simp

theorem nextMember_closed (h : nextMember first bytes = .ok (.closed rest)) :
    ∃ blanks, Blanks blanks ∧ bytes = blanks ++ '}'.toUInt8 :: rest := by
  obtain ⟨blanks, hblanks, hbytes⟩ := exists_blanks bytes
  refine ⟨blanks, hblanks, hbytes.trans ?_⟩
  unfold nextMember at h
  split at h
  case h_1 => cases h
  case h_2 b following hskip =>
    rw [hskip]
    split_ifs at h with hclosed hfirst hquote hcomma
    · cases h
      rw [eq_of_beq hclosed]
    · cases h
    · split at h
      case h_1 => cases h
      case h_2 =>
        split_ifs at h
        cases h

theorem nextMember_item (h : nextMember first bytes = .ok (.item rest)) :
    ∃ lead, LeadIn first lead ∧ bytes = lead ++ '"'.toUInt8 :: rest := by
  obtain ⟨blanks, hblanks, hbytes⟩ := exists_blanks bytes
  unfold nextMember at h
  split at h
  case h_1 => cases h
  case h_2 b following hskip =>
    rw [hskip] at hbytes
    split_ifs at h with hclosed hfirst hquote hcomma
    · cases h
    · cases h
      obtain rfl := eq_of_beq hquote
      exact ⟨blanks, hfirst ▸ .first hblanks, hbytes⟩
    · obtain ⟨more, hmore, hfollowing⟩ := exists_blanks following
      split at h
      case h_1 => cases h
      case h_2 c left hafter =>
        split_ifs at h with hquote htrailing
        cases h
        refine ⟨blanks ++ b :: more, ?_, ?_⟩
        · obtain rfl := eq_of_beq hcomma
          simp only [Bool.not_eq_true] at hfirst
          exact hfirst ▸ .next hblanks hmore
        · rw [hbytes, hfollowing, hafter, eq_of_beq hquote]
          simp

mutual

/-- What is read as a value is a text of it after blanks. -/
theorem valueText_of_read {fuel levels : Nat} {bytes rest : List UInt8} {value : Value}
    (h : readValue fuel levels bytes = .ok (value, rest)) :
    ∃ blanks text, Blanks blanks ∧ bytes = blanks ++ (text ++ rest) ∧
      ValueText levels value text := by
  cases fuel with
  | zero => cases h
  | succ fuel =>
    obtain ⟨blanks, hblanks, hbytes⟩ := exists_blanks bytes
    unfold readValue at h
    split at h
    case h_1 => cases h
    case h_2 b following hskip =>
      rw [hskip] at hbytes
      split_ifs at h with hquote hbracket hbrace
      · obtain rfl := eq_of_beq hquote
        cases hstring : readString fuel following with
        | error stop =>
          rw [hstring] at h
          cases h
        | ok found =>
          rw [hstring] at h
          cases h
          obtain ⟨token, htoken, htext⟩ := stringText_of_read hstring
          exact ⟨blanks, _, hblanks, by rw [hbytes, htoken]; rfl, .string htext⟩
      · obtain rfl := eq_of_beq hbracket
        cases levels with
        | zero => cases h
        | succ levels =>
          obtain ⟨items, text, rfl, rfl, hitems⟩ := itemsText_of_read h
          exact ⟨blanks, _, hblanks, by rw [hbytes]; rfl, .array hitems⟩
      · obtain rfl := eq_of_beq hbrace
        cases levels with
        | zero => cases h
        | succ levels =>
          obtain ⟨members, text, rfl, rfl, hmembers⟩ := membersText_of_read h
          exact ⟨blanks, _, hblanks, by rw [hbytes]; rfl, .object hmembers⟩
      · obtain ⟨token, htoken, htaken⟩ := takes_scalar _ _ _ h
        refine ⟨blanks, token, hblanks, by rw [hbytes, htoken], .scalar ?_⟩
        rw [← List.append_nil token]
        exact htaken [] ends_nil
termination_by fuel

/-- What is read as the items of an array is a text of those that were not read yet. -/
theorem itemsText_of_read {fuel levels : Nat} {read : List Value} {bytes rest : List UInt8}
    {value : Value} (h : readItems fuel levels read bytes = .ok (value, rest)) :
    ∃ items text, value = .array (read.reverse ++ items) ∧ bytes = text ++ rest ∧
      ItemsText levels read.isEmpty items text := by
  cases fuel with
  | zero => cases h
  | succ fuel =>
    unfold readItems at h
    split at h
    case h_1 => cases h
    case h_2 following hnext =>
      obtain ⟨blanks, hblanks, rfl⟩ := nextItem_closed hnext
      cases h
      exact ⟨[], _, by simp, by simp, .closed hblanks⟩
    case h_3 following hnext =>
      obtain ⟨lead, hlead, rfl⟩ := nextItem_item hnext
      split at h
      case h_1 => cases h
      case h_2 item left hitem =>
        obtain ⟨blanks, text, hblanks, rfl, htext⟩ := valueText_of_read hitem
        obtain ⟨items, more, rfl, rfl, hitems⟩ := itemsText_of_read h
        exact ⟨item :: items, _, by simp, by simp,
          .item (hlead.append_blanks hblanks) htext hitems⟩
termination_by fuel

/-- What is read as the members of an object is a text of those that were not read yet. -/
theorem membersText_of_read {fuel levels : Nat} {read : List (List Char × Value)}
    {bytes rest : List UInt8} {value : Value}
    (h : readMembers fuel levels read bytes = .ok (value, rest)) :
    ∃ members text, value = .object (read.reverse ++ members) ∧ bytes = text ++ rest ∧
      MembersText levels read.isEmpty members text := by
  cases fuel with
  | zero => cases h
  | succ fuel =>
    unfold readMembers at h
    split at h
    case h_1 => cases h
    case h_2 following hnext =>
      obtain ⟨blanks, hblanks, rfl⟩ := nextMember_closed hnext
      cases h
      exact ⟨[], _, by simp, by simp, .closed hblanks⟩
    case h_3 following hnext =>
      obtain ⟨lead, hlead, rfl⟩ := nextMember_item hnext
      split at h
      case h_1 => cases h
      case h_2 key left hkey =>
        obtain ⟨keyText, rfl, hkeyText⟩ := stringText_of_read hkey
        split at h
        case h_1 => cases h
        case h_2 left hcolon =>
          obtain ⟨before, hbefore, rfl⟩ := readColon_eq_ok hcolon
          split at h
          case h_1 => cases h
          case h_2 value left hvalue =>
            obtain ⟨after, text, hafter, rfl, htext⟩ := valueText_of_read hvalue
            obtain ⟨members, more, rfl, rfl, hmembers⟩ := membersText_of_read h
            exact ⟨(key, value) :: members, _, by simp, by simp,
              .member hlead hkeyText hbefore hafter htext hmembers⟩
termination_by fuel

end

end Soundness

/-! ### Texts of the grammar are read -/

section Completeness

variable {levels : Nat} {first : Bool}

theorem StringText.read {text : List Char} {bytes : List UInt8} (h : StringText text bytes)
    (after : List UInt8) {fuel : Nat} (hfuel : bytes.length ≤ fuel) :
    readString fuel (bytes ++ after) = .ok (text, after) := by
  obtain ⟨token, htoken, htaken⟩ := readStringOnto_takes h
  rw [List.append_nil] at htoken
  subst htoken
  exact htaken after fuel hfuel

/-- The first byte of a value. -/
def startsValue (b : UInt8) : Bool :=
  b == '"'.toUInt8 || b == '['.toUInt8 || b == '{'.toUInt8 || startsScalar b

theorem startsScalar_plain {b : UInt8} (hb : startsScalar b = true) :
    isBlank b = false ∧ (b == ']'.toUInt8) = false ∧ (b == '"'.toUInt8) = false ∧
      (b == '['.toUInt8) = false ∧ (b == '{'.toUInt8) = false := by
  by_cases hdigit : isDigit b = true
  · refine ⟨?_, byte_ne_of_isDigit hdigit (by decide), byte_ne_of_isDigit hdigit (by decide),
      byte_ne_of_isDigit hdigit (by decide), byte_ne_of_isDigit hdigit (by decide)⟩
    simp only [isBlank, byte_ne_of_isDigit hdigit (c := 0x20) (by decide),
      byte_ne_of_isDigit hdigit (c := 0x0A) (by decide),
      byte_ne_of_isDigit hdigit (c := 0x09) (by decide),
      byte_ne_of_isDigit hdigit (c := 0x0D) (by decide), Bool.or_false]
  · simp only [startsScalar, hdigit, Bool.or_false, Bool.or_eq_true, beq_iff_eq] at hb
    obtain ((rfl | rfl) | rfl) | rfl := hb <;> decide

theorem startsValue_plain {b : UInt8} (hb : startsValue b = true) :
    isBlank b = false ∧ (b == ']'.toUInt8) = false := by
  simp only [startsValue, Bool.or_eq_true, beq_iff_eq] at hb
  obtain ((rfl | rfl) | rfl) | hscalar := hb
  · decide
  · decide
  · decide
  · exact ⟨(startsScalar_plain hscalar).1, (startsScalar_plain hscalar).2.1⟩

/-- The text of a value is not empty. -/
theorem ValueText.exists_cons {value : Value} {text : List UInt8}
    (h : ValueText levels value text) :
    ∃ b following, text = b :: following ∧ startsValue b = true := by
  cases h with
  | scalar hread =>
    obtain ⟨b, following, rfl, hb⟩ := startsScalar_of_readScalar hread
    exact ⟨b, following, rfl, by simp [startsValue, hb]⟩
  | string => exact ⟨_, _, rfl, by decide⟩
  | array => exact ⟨_, _, rfl, by decide⟩
  | object => exact ⟨_, _, rfl, by decide⟩

theorem ItemsText.length_pos {items : List Value} {text : List UInt8}
    (h : ItemsText levels first items text) : 0 < text.length := by
  cases h with
  | closed => simp
  | item _ hitem _ =>
    obtain ⟨b, following, rfl, -⟩ := hitem.exists_cons
    simp only [List.length_append, List.length_cons]
    omega

theorem ItemsText.ends_append {items : List Value} {text : List UInt8}
    (h : ItemsText levels false items text) (after : List UInt8) : Ends (text ++ after) := by
  cases h with
  | closed hblanks =>
    rw [List.append_assoc]
    exact (ends_cons (by decide)).blanks_append hblanks
  | item hlead _ _ =>
    rw [List.append_assoc]
    exact hlead.ends_append

theorem MembersText.length_pos {members : List (List Char × Value)} {text : List UInt8}
    (h : MembersText levels first members text) : 0 < text.length := by
  cases h with
  | closed => simp
  | member =>
    simp only [List.length_append, List.length_cons]
    omega

theorem MembersText.ends_append {members : List (List Char × Value)} {text : List UInt8}
    (h : MembersText levels false members text) (after : List UInt8) : Ends (text ++ after) := by
  cases h with
  | closed hblanks =>
    rw [List.append_assoc]
    exact (ends_cons (by decide)).blanks_append hblanks
  | member hlead _ _ _ _ _ =>
    rw [List.append_assoc]
    exact hlead.ends_append

theorem nextItem_of_closed {blanks : List UInt8} (hblanks : Blanks blanks) (rest : List UInt8) :
    nextItem first (blanks ++ ']'.toUInt8 :: rest) = .ok (.closed rest) := by
  rw [nextItem, skipBlanks_cons hblanks (by decide)]
  exact if_pos (by decide)

theorem nextItem_of_lead {lead rest : List UInt8} {b : UInt8} (hlead : LeadIn first lead)
    (hb : startsValue b = true) : nextItem first (lead ++ b :: rest) = .ok (.item (b :: rest)) := by
  obtain ⟨hblank, hclosed⟩ := startsValue_plain hb
  cases hlead with
  | first hblanks => simp [nextItem, skipBlanks_cons hblanks hblank, hclosed]
  | next hbefore hafter =>
    rw [List.append_assoc, List.cons_append, nextItem, skipBlanks_cons hbefore (by decide)]
    dsimp only
    rw [if_neg (by decide), if_neg (by decide), if_pos (by decide), skipBlanks_cons hafter hblank]
    simp [hclosed]

theorem nextMember_of_closed {blanks : List UInt8} (hblanks : Blanks blanks) (rest : List UInt8) :
    nextMember first (blanks ++ '}'.toUInt8 :: rest) = .ok (.closed rest) := by
  rw [nextMember, skipBlanks_cons hblanks (by decide)]
  exact if_pos (by decide)

theorem nextMember_of_lead {lead : List UInt8} (hlead : LeadIn first lead) (rest : List UInt8) :
    nextMember first (lead ++ '"'.toUInt8 :: rest) = .ok (.item rest) := by
  cases hlead with
  | first hblanks =>
    rw [nextMember, skipBlanks_cons hblanks (by decide)]
    rfl
  | next hbefore hafter =>
    rw [List.append_assoc, List.cons_append, nextMember, skipBlanks_cons hbefore (by decide)]
    dsimp only
    rw [if_neg (by decide), if_neg (by decide), if_pos (by decide),
      skipBlanks_cons hafter (by decide)]
    rfl

theorem readColon_of_blanks {blanks : List UInt8} (hblanks : Blanks blanks) (rest : List UInt8) :
    readColon (blanks ++ ':'.toUInt8 :: rest) = .ok rest := by
  rw [readColon, skipBlanks_cons hblanks (by decide)]
  rfl

mutual

/-- The text of a value is read after blanks, with two steps for each of its bytes. -/
theorem read_of_valueText {fuel levels : Nat} {value : Value} {blanks text after : List UInt8}
    (h : ValueText levels value text) (hblanks : Blanks blanks) (hafter : Ends after)
    (hfuel : 2 * text.length ≤ fuel) :
    readValue fuel levels (blanks ++ (text ++ after)) = .ok (value, after) := by
  obtain ⟨b, following, htext, hb⟩ := h.exists_cons
  cases fuel with
  | zero => simp [htext] at hfuel
  | succ fuel =>
    have hskip : skipBlanks (blanks ++ (text ++ after)) = text ++ after := by
      rw [htext, List.cons_append]
      exact skipBlanks_cons hblanks (startsValue_plain hb).1
    rw [readValue, hskip]
    cases h with
    | scalar hread =>
      obtain ⟨token, htoken, htaken⟩ := takes_scalar _ _ _ hread
      rw [List.append_nil] at htoken
      subst htoken
      obtain ⟨c, _, hc, hstart⟩ := startsScalar_of_readScalar hread
      obtain ⟨rfl, rfl⟩ := List.cons.inj (htext.symm.trans hc)
      obtain ⟨-, -, hquote, hbracket, hbrace⟩ := startsScalar_plain hstart
      rw [← htaken after hafter, htext]
      simp [hquote, hbracket, hbrace]
    | string hstring =>
      rw [List.length_cons] at hfuel
      have hread := hstring.read after (show _ ≤ fuel by omega)
      simp [hread, Except.map]
    | array hitems =>
      rw [List.length_cons] at hfuel
      exact read_of_itemsText hitems [] rfl after (by omega)
    | object hmembers =>
      rw [List.length_cons] at hfuel
      exact read_of_membersText hmembers [] rfl after (by omega)
termination_by fuel

/-- The text of items is read onto those that stand before it. -/
theorem read_of_itemsText {fuel levels : Nat} {first : Bool} {items : List Value}
    {text : List UInt8} (h : ItemsText levels first items text) (read : List Value)
    (hfirst : read.isEmpty = first) (after : List UInt8) (hfuel : 2 * text.length ≤ fuel) :
    readItems fuel levels read (text ++ after) = .ok (.array (read.reverse ++ items), after) := by
  have htext := h.length_pos
  cases fuel with
  | zero => omega
  | succ fuel =>
    rw [readItems, hfirst]
    cases h with
    | closed hblanks =>
      rw [List.append_assoc, List.singleton_append, nextItem_of_closed hblanks]
      simp
    | @item _ _ lead text rest item items hlead hitem hrest =>
      obtain ⟨b, following, rfl, hb⟩ := hitem.exists_cons
      have hpositive := hrest.length_pos
      simp only [List.length_append, List.length_cons] at hfuel
      have hvalue : readValue fuel levels ([] ++ ((b :: following) ++ (rest ++ after))) =
          .ok (item, rest ++ after) :=
        read_of_valueText hitem blanks_nil (hrest.ends_append after)
          (by rw [List.length_cons]; omega)
      have hitems := read_of_itemsText hrest (item :: read) rfl after (show _ ≤ fuel by omega)
      rw [List.nil_append, List.cons_append] at hvalue
      rw [List.append_assoc, List.append_assoc, List.cons_append, nextItem_of_lead hlead hb]
      simp [hvalue, hitems]
termination_by fuel

/-- The text of members is read onto those that stand before it. -/
theorem read_of_membersText {fuel levels : Nat} {first : Bool}
    {members : List (List Char × Value)} {text : List UInt8}
    (h : MembersText levels first members text) (read : List (List Char × Value))
    (hfirst : read.isEmpty = first) (after : List UInt8) (hfuel : 2 * text.length ≤ fuel) :
    readMembers fuel levels read (text ++ after) =
      .ok (.object (read.reverse ++ members), after) := by
  have htext := h.length_pos
  cases fuel with
  | zero => omega
  | succ fuel =>
    rw [readMembers, hfirst]
    cases h with
    | closed hblanks =>
      rw [List.append_assoc, List.singleton_append, nextMember_of_closed hblanks]
      simp
    | @member _ _ lead keyText before gap text rest key value members hlead hkey hbefore hgap
        hvalue hrest =>
      have hpositive := hrest.length_pos
      simp only [List.length_append, List.length_cons] at hfuel
      have hname := hkey.read (before ++ ':'.toUInt8 :: (gap ++ (text ++ (rest ++ after))))
        (show _ ≤ fuel by omega)
      have hfound : readValue fuel levels (gap ++ (text ++ (rest ++ after))) =
          .ok (value, rest ++ after) :=
        read_of_valueText hvalue hgap (hrest.ends_append after) (by omega)
      have hmembers := read_of_membersText hrest ((key, value) :: read) rfl after
        (show _ ≤ fuel by omega)
      simp only [List.append_assoc, List.cons_append, nextMember_of_lead hlead, hname,
        readColon_of_blanks hbefore, hfound, hmembers, List.reverse_cons, List.nil_append]
termination_by fuel

end

end Completeness

/-! ### Depth -/

mutual

/-- The number of brackets that are open at once inside a value, with its own. -/
def Value.depth : Value → Nat
  | .array items => itemsDepth items + 1
  | .object members => membersDepth members + 1
  | _ => 0

/-- The largest depth of some items. -/
def itemsDepth : List Value → Nat
  | [] => 0
  | item :: items => max item.depth (itemsDepth items)

/-- The largest depth of the values of some members. -/
def membersDepth : List (List Char × Value) → Nat
  | [] => 0
  | (_, value) :: members => max value.depth (membersDepth members)

end

mutual

/-- A text needs no more brackets than its value is deep. -/
theorem ValueText.relevel {levels limit : Nat} {value : Value} {text : List UInt8}
    (h : ValueText levels value text) (hdepth : value.depth ≤ limit) :
    ValueText limit value text := by
  match h with
  | .scalar hread => exact .scalar hread
  | .string htext => exact .string htext
  | .array hitems =>
    cases limit with
    | zero => simp [Value.depth] at hdepth
    | succ limit => exact .array (hitems.relevel (by simpa [Value.depth] using hdepth))
  | .object hmembers =>
    cases limit with
    | zero => simp [Value.depth] at hdepth
    | succ limit => exact .object (hmembers.relevel (by simpa [Value.depth] using hdepth))

/-- The text of items needs no more brackets than they are deep. -/
theorem ItemsText.relevel {levels limit : Nat} {first : Bool} {items : List Value}
    {text : List UInt8} (h : ItemsText levels first items text)
    (hdepth : itemsDepth items ≤ limit) : ItemsText limit first items text := by
  match h with
  | .closed hblanks => exact .closed hblanks
  | .item hlead hitem hrest =>
    simp only [itemsDepth, Nat.max_le] at hdepth
    exact .item hlead (hitem.relevel hdepth.1) (hrest.relevel hdepth.2)

/-- The text of members needs no more brackets than their values are deep. -/
theorem MembersText.relevel {levels limit : Nat} {first : Bool}
    {members : List (List Char × Value)} {text : List UInt8}
    (h : MembersText levels first members text) (hdepth : membersDepth members ≤ limit) :
    MembersText limit first members text := by
  match h with
  | .closed hblanks => exact .closed hblanks
  | .member hlead hkey hbefore hafter hvalue hrest =>
    simp only [membersDepth, Nat.max_le] at hdepth
    exact .member hlead hkey hbefore hafter (hvalue.relevel hdepth.1) (hrest.relevel hdepth.2)

end

/-! ### Documents -/

/-- The bytes are a text between blanks. -/
def Padded (texts : List UInt8 → Prop) (bytes : List UInt8) : Prop :=
  ∃ before text after, Blanks before ∧ texts text ∧ Blanks after ∧
    bytes = before ++ (text ++ after)

/-- The text of a value between blanks. -/
def DocumentText (value : Value) : List UInt8 → Prop := Padded (ValueText levelLimit value)

/-- The texts that hold a value are those of the grammar. -/
theorem parse_eq_ok_iff {bytes : List UInt8} {value : Value} :
    parse bytes = .ok value ↔ DocumentText value bytes := by
  constructor
  · intro h
    unfold parse at h
    split at h
    case h_1 => cases h
    case h_2 found rest hread =>
      obtain ⟨before, text, hbefore, rfl, htext⟩ := valueText_of_read hread
      split at h
      case h_1 hskip =>
        cases h
        obtain ⟨after, hafter, hrest⟩ := exists_blanks rest
        rw [hskip, List.append_nil] at hrest
        exact ⟨before, text, after, hbefore, htext, hafter, by rw [hrest]⟩
      case h_2 => cases h
  · rintro ⟨before, text, after, hbefore, htext, hafter, rfl⟩
    have hends : Ends (after ++ []) := ends_nil.blanks_append hafter
    rw [List.append_nil] at hends
    have hfuel : 2 * text.length ≤ fuelFor (before ++ (text ++ after)) := by
      simp only [fuelFor, List.length_append]
      omega
    have hread := read_of_valueText htext hbefore hends hfuel
    simp [parse, hread, skipBlanks_blanks hafter]

end LiveBoard.Json
