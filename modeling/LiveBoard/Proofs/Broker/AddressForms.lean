import LiveBoard.Broker.Address
import LiveBoard.Proofs.Text.Trimming

/-!
# The forms of an address

A text is cut at the first occurrence of a character (`cutAt?_eq_some_iff`), so what `split` finds
is told by the four forms in which an address is written (`split_eq_ok_iff`): each form says where
the brackets and colons of the text are, and none of them looks into the host any further. An
address is read where its trimmed text has one of these forms, with a host that is not empty and a
port that is a number (`Address.parse_eq_ok_iff`).

The text of an address has the form that `Address.text` chooses by the host alone: brackets around
a host that holds a colon, nothing around any other one. `ReadsBack` says for which hosts that text
leads back to the address (`Address.parse_text_iff`). Reading lets in two kinds of host that are
lost again in writing: those without a colon that need their brackets, as in `[ host]` or `[[host]`,
and those with colons and a closing bracket, as in `::]`.
-/

set_option autoImplicit false
set_option relaxedAutoImplicit false

namespace LiveBoard.Broker

open Text

/-! ### Cutting -/

section Cutting

variable {mark : Char} {text before after : List Char}

@[simp]
theorem cutAt?_append (habsent : mark ∉ before) (after : List Char) :
    cutAt? mark (before ++ mark :: after) = some (before, after) := by
  have hother : ∀ c ∈ before, (c != mark) = true := by
    intro c hc
    simpa using ne_of_mem_of_not_mem hc habsent
  simp [cutAt?, List.dropWhile_append_of_pos hother, List.takeWhile_append_of_pos hother]

theorem eq_append_of_cutAt? (h : cutAt? mark text = some (before, after)) :
    text = before ++ mark :: after ∧ mark ∉ before := by
  unfold cutAt? at h
  split at h
  case h_1 c rest hdrop =>
    cases h
    have hc : c = mark := by
      have hfirst := List.head?_dropWhile_not (· != mark) text
      rw [hdrop] at hfirst
      simpa using hfirst
    subst hc
    constructor
    · rw [← hdrop, List.takeWhile_append_dropWhile]
    · intro hmem
      simpa using List.mem_takeWhile_imp hmem
  case h_2 => cases h

/-- A text is cut at the first occurrence of the character. -/
@[grind =]
theorem cutAt?_eq_some_iff :
    cutAt? mark text = some (before, after) ↔ text = before ++ mark :: after ∧ mark ∉ before := by
  constructor
  · exact eq_append_of_cutAt?
  · rintro ⟨rfl, habsent⟩
    exact cutAt?_append habsent after

@[grind =]
theorem cutAt?_eq_none_iff : cutAt? mark text = none ↔ mark ∉ text := by
  constructor
  · intro h hmem
    obtain ⟨before, after, rfl, habsent⟩ := List.eq_append_cons_of_mem hmem
    rw [cutAt?_append habsent] at h
    cases h
  · intro hmem
    cases hcut : cutAt? mark text with
    | none => rfl
    | some parts =>
      obtain ⟨rfl, -⟩ := cutAt?_eq_some_iff.mp hcut
      exact absurd (List.mem_append_right _ List.mem_cons_self) hmem

end Cutting

/-! ### Forms -/

/-- The forms of an address: a host, the text of a port or none, and how they are written. -/
inductive Form : List Char → Option (List Char) → List Char → Prop
  /-- A host in brackets. -/
  | bracketed {host : List Char} (hclosed : ']' ∉ host) : Form host none ('[' :: host ++ [']'])
  /-- A host in brackets, with a port. -/
  | bracketedPort {host port : List Char} (hclosed : ']' ∉ host) :
    Form host (some port) ('[' :: host ++ ']' :: ':' :: port)
  /-- A text with one colon: a host and a port. -/
  | barePort {host port : List Char} (hbare : (host ++ ':' :: port).head? ≠ some '[')
    (hhost : ':' ∉ host) (hport : ':' ∉ port) : Form host (some port) (host ++ ':' :: port)
  /-- A text with no colon, or with more than one: a host as a whole. -/
  | bare {host : List Char} (hbare : host.head? ≠ some '[') (hcount : host.count ':' ≠ 1) :
    Form host none host

theorem split_bracketed (rest : List Char) :
    split ('[' :: rest) =
      match cutAt? ']' rest with
      | some (host, []) => .ok (host, none)
      | some (host, ':' :: port) => .ok (host, some port)
      | _ => .error (.unbalanced ('[' :: rest)) :=
  rfl

theorem split_bare {text : List Char} (hbare : text.head? ≠ some '[') :
    split text =
      if text.count ':' = 1 then
        match cutAt? ':' text with
        | some (host, port) => .ok (host, some port)
        | none => .ok (text, none)
      else .ok (text, none) := by
  unfold split
  split
  · exact absurd rfl hbare
  · rfl

theorem Form.split_eq {host text : List Char} {port : Option (List Char)}
    (h : Form host port text) : split text = .ok (host, port) := by
  cases h with
  | bracketed hclosed => rw [List.cons_append, split_bracketed, cutAt?_append hclosed]
  | bracketedPort hclosed =>
    rw [List.cons_append, split_bracketed, cutAt?_append hclosed]
    rfl
  | @barePort port hbare hhost hport =>
    have hcount : (host ++ ':' :: port).count ':' = 1 := by
      rw [List.count_append, List.count_cons_self, List.count_eq_zero.mpr hhost,
        List.count_eq_zero.mpr hport]
    rw [split_bare hbare, if_pos hcount, cutAt?_append hhost]
  | bare hbare hcount => rw [split_bare hbare, if_neg hcount]

theorem form_of_split {host text : List Char} {port : Option (List Char)}
    (h : split text = .ok (host, port)) : Form host port text := by
  by_cases hbracket : text.head? = some '['
  · obtain ⟨rest, rfl⟩ := List.head?_eq_some_iff.mp hbracket
    rw [split_bracketed] at h
    split at h
    case h_1 hcut =>
      cases h
      obtain ⟨rfl, hclosed⟩ := cutAt?_eq_some_iff.mp hcut
      exact .bracketed hclosed
    case h_2 hcut =>
      cases h
      obtain ⟨rfl, hclosed⟩ := cutAt?_eq_some_iff.mp hcut
      exact .bracketedPort hclosed
    case h_3 => cases h
  · rw [split_bare hbracket] at h
    by_cases hcount : text.count ':' = 1
    · rw [if_pos hcount] at h
      split at h
      case h_1 hcut =>
        cases h
        obtain ⟨rfl, hhost⟩ := cutAt?_eq_some_iff.mp hcut
        rw [List.count_append, List.count_cons_self] at hcount
        exact .barePort hbracket hhost (List.count_eq_zero.mp (by omega))
      case h_2 hcut =>
        rw [List.count_eq_zero.mpr (cutAt?_eq_none_iff.mp hcut)] at hcount
        cases hcount
    · rw [if_neg hcount] at h
      cases h
      exact .bare hbracket hcount

/-- What `split` finds is what the forms say. -/
@[grind =]
theorem split_eq_ok_iff {text host : List Char} {port : Option (List Char)} :
    split text = .ok (host, port) ↔ Form host port text :=
  ⟨form_of_split, Form.split_eq⟩

/-! ### Addresses -/

/-- The port of an address by its text, the default one where there is none. -/
def effectivePort : Option (List Char) → Except AddressError Nat
  | none => .ok defaultPort
  | some text => readPort text

theorem Address.parse_of_split {text host : List Char} {port : Option (List Char)}
    (hsplit : split (trim text) = .ok (host, port)) (hhost : host ≠ []) :
    Address.parse text = (effectivePort port).map (Address.mk host) := by
  unfold Address.parse
  rw [hsplit]
  cases host with
  | nil => exact absurd rfl hhost
  | cons c rest =>
    cases port with
    | none => rfl
    | some port =>
      change (readPort port >>= fun number ↦ pure (Address.mk (c :: rest) number)) =
        (readPort port).map _
      cases readPort port <;> rfl

/-- An address is read from a text that has a form, without the white space around it. -/
theorem Address.parse_eq_ok_iff {text : List Char} {address : Address} :
    Address.parse text = .ok address ↔
      address.host ≠ [] ∧
        ∃ port, Form address.host port (trim text) ∧ effectivePort port = .ok address.port := by
  constructor
  · intro h
    cases hsplit : split (trim text) with
    | error cause =>
      unfold Address.parse at h
      rw [hsplit] at h
      cases h
    | ok parts =>
      obtain ⟨host, port⟩ := parts
      have hhost : host ≠ [] := by
        rintro rfl
        unfold Address.parse at h
        rw [hsplit] at h
        cases h
      rw [Address.parse_of_split hsplit hhost] at h
      cases hport : effectivePort port with
      | error cause =>
        rw [hport] at h
        cases h
      | ok number =>
        rw [hport] at h
        cases h
        exact ⟨hhost, port, split_eq_ok_iff.mp hsplit, hport⟩
  · rintro ⟨hhost, port, hform, hport⟩
    rw [Address.parse_of_split (split_eq_ok_iff.mpr hform) hhost, hport]
    rfl

/-! ### Texts of ports -/

/-- A port is written as digits, with any number of zeros and a plus sign in front or not. -/
def PortText (text : List Char) (port : Nat) : Prop :=
  ∃ digits, (text = digits ∨ text = '+' :: digits) ∧ digits ≠ [] ∧
    (∀ c ∈ digits, c.isDigit = true) ∧ Nat.ofDigitChars 10 digits 0 = port ∧ port ≤ portLimit

section Ports

variable {text digits : List Char} {port : Nat}

theorem digitsValue_eq (digits : List Char) :
    digitsValue digits = Nat.ofDigitChars 10 digits 0 := by
  simp [digitsValue, Nat.ofDigitChars, Nat.mul_comm]

@[grind =]
theorem decimal?_eq_some_iff : decimal? text = some port ↔
    text ≠ [] ∧ (∀ c ∈ text, c.isDigit = true) ∧ Nat.ofDigitChars 10 text 0 = port := by
  have hdecimal : (!text.isEmpty && text.all Char.isDigit) = true ↔
      text ≠ [] ∧ ∀ c ∈ text, c.isDigit = true := by simp
  unfold decimal?
  rw [digitsValue_eq]
  split_ifs with h
  · obtain ⟨hsome, hdigits⟩ := hdecimal.mp h
    exact ⟨fun hvalue ↦ ⟨hsome, hdigits, Option.some_inj.mp hvalue⟩,
      fun hport ↦ congrArg some hport.2.2⟩
  · exact ⟨nofun, fun hport ↦ absurd (hdecimal.mpr ⟨hport.1, hport.2.1⟩) h⟩

theorem dropPlus_of_digits (hdigits : ∀ c ∈ digits, c.isDigit = true) :
    dropPlus digits = digits := by
  unfold dropPlus
  split
  · cases hdigits '+' List.mem_cons_self
  · rfl

@[grind =]
theorem unsigned?_eq_some_iff : unsigned? text = some port ↔
    ∃ digits, (text = digits ∨ text = '+' :: digits) ∧ decimal? digits = some port := by
  unfold unsigned?
  constructor
  · intro h
    unfold dropPlus at h
    split at h
    case h_1 digits => exact ⟨digits, .inr rfl, h⟩
    case h_2 => exact ⟨text, .inl rfl, h⟩
  · rintro ⟨digits, rfl | rfl, hvalue⟩
    · rwa [dropPlus_of_digits (decimal?_eq_some_iff.mp hvalue).2.1]
    · exact hvalue

theorem portText_iff : PortText text port ↔ unsigned? text = some port ∧ port ≤ portLimit := by
  rw [unsigned?_eq_some_iff]
  constructor
  · rintro ⟨digits, htext, hsome, hdigits, hvalue, hlimit⟩
    exact ⟨⟨digits, htext, decimal?_eq_some_iff.mpr ⟨hsome, hdigits, hvalue⟩⟩, hlimit⟩
  · rintro ⟨⟨digits, htext, hvalue⟩, hlimit⟩
    obtain ⟨hsome, hdigits, hvalue⟩ := decimal?_eq_some_iff.mp hvalue
    exact ⟨digits, htext, hsome, hdigits, hvalue, hlimit⟩

@[grind =]
theorem readPort_eq_ok_iff : readPort text = .ok port ↔ PortText text port := by
  rw [portText_iff]
  unfold readPort
  cases unsigned? text with
  | none => exact ⟨nofun, fun h ↦ nomatch h.1⟩
  | some number =>
    dsimp only
    split_ifs with hlimit
    · constructor
      · rintro ⟨⟩
        exact ⟨rfl, hlimit⟩
      · rintro ⟨⟨⟩, -⟩
        rfl
    · constructor
      · nofun
      · rintro ⟨⟨⟩, hport⟩
        exact absurd hport hlimit

/-- The digits of a number are read as the number. -/
theorem readPort_toDigits (hlimit : port ≤ portLimit) :
    readPort (Nat.toDigits 10 port) = .ok port :=
  readPort_eq_ok_iff.mpr ⟨_, .inl rfl, Nat.toDigits_ne_nil,
    fun _ hc ↦ Nat.isDigit_of_mem_toDigits (by decide) (by decide) hc,
    Nat.ofDigitChars_toDigits (by decide) (by decide), hlimit⟩

theorem le_portLimit_of_effectivePort {written : Option (List Char)}
    (h : effectivePort written = .ok port) : port ≤ portLimit := by
  cases written with
  | none =>
    cases h
    decide
  | some text => exact (portText_iff.mp (readPort_eq_ok_iff.mp h)).2

end Ports

/-! ### Reading back -/

/-- Whether the text of an address with this host leads back to it. A host with a colon is written
in brackets and must not close them; any other one is written first, where a bracket would open a
host in brackets and white space would be trimmed. -/
def ReadsBack (host : List Char) : Prop :=
  if ':' ∈ host then ']' ∉ host
  else ∀ c, host.head? = some c → c ≠ '[' ∧ isWhiteSpace c = false

section ReadingBack

variable {address : Address}

theorem Address.text_of_colon (hcolon : ':' ∈ address.host) :
    address.text = '[' :: address.host ++ ']' :: ':' :: Nat.toDigits 10 address.port :=
  if_pos hcolon

theorem Address.text_of_no_colon (hcolon : ':' ∉ address.host) :
    address.text = address.host ++ ':' :: Nat.toDigits 10 address.port :=
  if_neg hcolon

theorem not_mem_toDigits {c : Char} (hc : c.isDigit = false) (n : Nat) :
    c ∉ Nat.toDigits 10 n := by
  intro hmem
  rw [Nat.isDigit_of_mem_toDigits (by decide) (by decide) hmem] at hc
  cases hc

/-- The text of an address ends with a digit, so only its start can be trimmed. -/
theorem Address.trim_text {first : Char} (hfirst : address.text.head? = some first)
    (hspace : isWhiteSpace first = false) : trim address.text = address.text := by
  obtain ⟨last, hlast⟩ : ∃ last, (Nat.toDigits 10 address.port).getLast? = some last :=
    Option.isSome_iff_exists.mp (by simp [Nat.toDigits_ne_nil])
  have hdigit : last.isDigit = true :=
    Nat.isDigit_of_mem_toDigits (by decide) (by decide) (List.mem_of_getLast? hlast)
  refine trim_eq_self hfirst ?_ hspace (isWhiteSpace_of_isDigit hdigit)
  by_cases hcolon : ':' ∈ address.host
  · simp [address.text_of_colon hcolon, List.getLast?_append, List.getLast?_cons, hlast]
  · simp [address.text_of_no_colon hcolon, List.getLast?_append, List.getLast?_cons, hlast]

/-- A host that reads back is found again in the text of its address. -/
theorem Address.form_text (hhost : address.host ≠ []) (hreads : ReadsBack address.host) :
    Form address.host (some (Nat.toDigits 10 address.port)) (trim address.text) := by
  by_cases hcolon : ':' ∈ address.host
  · have htext := address.text_of_colon hcolon
    have hhead : address.text.head? = some '[' := by simp [htext]
    rw [ReadsBack, if_pos hcolon] at hreads
    rw [Address.trim_text hhead (by decide), htext]
    exact .bracketedPort hreads
  · have htext := address.text_of_no_colon hcolon
    obtain ⟨first, hfirst⟩ : ∃ first, address.host.head? = some first :=
      Option.isSome_iff_exists.mp (by simpa using hhost)
    rw [ReadsBack, if_neg hcolon] at hreads
    obtain ⟨hbracket, hspace⟩ := hreads first hfirst
    have hhead : address.text.head? = some first := by simp [htext, List.head?_append, hfirst]
    rw [Address.trim_text hhead hspace, htext]
    refine .barePort ?_ hcolon (not_mem_toDigits (by decide) _)
    rw [← htext, hhead]
    simpa using hbracket

/-- A host that is found in the text of its address reads back. -/
theorem Address.readsBack_of_form {port : Option (List Char)}
    (hform : Form address.host port (trim address.text)) : ReadsBack address.host := by
  by_cases hcolon : ':' ∈ address.host
  · have hhead : address.text.head? = some '[' := by simp [address.text_of_colon hcolon]
    have htrim := Address.trim_text hhead (by decide)
    rw [ReadsBack, if_pos hcolon]
    rw [htrim] at hform
    generalize htext : address.text = text at hform hhead
    cases hform with
    | bracketed hclosed => exact hclosed
    | bracketedPort hclosed => exact hclosed
    | barePort hbare => exact absurd hhead hbare
    | bare hbare => exact absurd hhead hbare
  · rw [ReadsBack, if_neg hcolon]
    intro c hc
    -- Bare text has no closing bracket but those of its host, so it has none to close a bracket.
    have hcount : (trim address.text).count ']' ≤ address.host.count ']' := by
      refine (count_trim_le ']' address.text).trans_eq ?_
      rw [address.text_of_no_colon hcolon, List.count_append, List.count_cons_of_ne (by decide),
        List.count_eq_zero.mpr (not_mem_toDigits (by decide) _), Nat.add_zero]
    have hspace : (trim address.text).head? = some c → isWhiteSpace c = false :=
      isWhiteSpace_of_head?_trim
    generalize trim address.text = text at hform hcount hspace
    cases hform with
    | bracketed =>
      rw [List.cons_append, List.count_cons_of_ne (by decide), List.count_append,
        List.count_singleton_self] at hcount
      omega
    | bracketedPort =>
      rw [List.cons_append, List.count_cons_of_ne (by decide), List.count_append,
        List.count_cons_self] at hcount
      omega
    | @barePort port hbare =>
      have hhead : (address.host ++ ':' :: port).head? = some c := by
        simp [List.head?_append, hc]
      rw [hhead] at hbare
      exact ⟨by simpa using hbare, hspace hhead⟩
    | bare hbare =>
      rw [hc] at hbare
      exact ⟨by simpa using hbare, hspace hc⟩

end ReadingBack

/-- Assumes: an address that was read from a text. Its own text is read as the same address where,
and only where, its host reads back. -/
theorem Address.parse_text_iff {text : List Char} {address : Address}
    (hread : Address.parse text = .ok address) :
    Address.parse address.text = .ok address ↔ ReadsBack address.host := by
  obtain ⟨hhost, written, hform, hport⟩ := Address.parse_eq_ok_iff.mp hread
  constructor
  · intro hagain
    obtain ⟨-, port, hform, -⟩ := Address.parse_eq_ok_iff.mp hagain
    exact address.readsBack_of_form hform
  · intro hreads
    refine Address.parse_eq_ok_iff.mpr ⟨hhost, _, address.form_text hhost hreads, ?_⟩
    exact readPort_toDigits (le_portLimit_of_effectivePort hport)

/-- An address of eight groups, with white space around it. -/
theorem Address.parse_text_iff_groups :
    Address.parse " [fe80::1]:0080 ".toList = .ok ⟨"fe80::1".toList, 80⟩ ∧
      Address.parse "[fe80::1]:80".toList = .ok ⟨"fe80::1".toList, 80⟩ := by
  have hread : Address.parse " [fe80::1]:0080 ".toList = .ok ⟨"fe80::1".toList, 80⟩ := by
    decide +kernel
  have hreads : ReadsBack "fe80::1".toList := by
    rw [ReadsBack, if_pos (by decide)]
    decide
  exact ⟨hread, (Address.parse_text_iff hread).mpr hreads⟩

/-- Brackets let in a host that starts with a bracket, and its address is shown without them. -/
theorem Address.text_not_read_back :
    Address.parse "[[a]".toList = .ok ⟨"[a".toList, 1883⟩ ∧
      Address.text ⟨"[a".toList, 1883⟩ = "[a:1883".toList ∧
      Address.parse "[a:1883".toList = .error (.unbalanced "[a:1883".toList) := by
  decide +kernel

end LiveBoard.Broker
