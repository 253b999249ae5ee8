import LiveBoard.Proofs.Broker.AddressForms

/-!
# The grammar of addresses

Which texts are read as which address, and which are refused for what cause, is told without reading
them (`Address.parse_grammar`): between its white space a text has to have one of the four forms,
with a host that is not empty and a port of sixteen bits. A text without a form opens a bracket that
is not closed, or closed in front of something that is no port (`Unbalanced`). Where a text could be
refused for several causes the first of them is named: its brackets, then its host, then its port.
-/

set_option autoImplicit false
set_option relaxedAutoImplicit false

namespace LiveBoard.Broker

open Text

/-! ### Brackets -/

/-- A text opens a bracket and does not close it, or something other than a port follows it. -/
def Unbalanced (text : List Char) : Prop :=
  ∃ rest, text = '[' :: rest ∧ (']' ∉ rest ∨
    ∃ host tail, rest = host ++ ']' :: tail ∧ ']' ∉ host ∧ tail ≠ [] ∧ tail.head? ≠ some ':')

section Brackets

variable {text host : List Char}

/-- After the first closing bracket nothing may follow but a port. -/
theorem unbalanced_iff {tail : List Char} (hclosed : ']' ∉ host) :
    Unbalanced ('[' :: (host ++ ']' :: tail)) ↔ tail ≠ [] ∧ tail.head? ≠ some ':' := by
  constructor
  · rintro ⟨rest, hrest, hopen | ⟨other, after, hparts, habsent, hafter⟩⟩
    · cases hrest
      exact absurd (List.mem_append_right _ List.mem_cons_self) hopen
    · cases hrest
      have hcut := cutAt?_append hclosed tail
      rw [hparts, cutAt?_append habsent] at hcut
      cases hcut
      exact hafter
  · exact fun htail ↦ ⟨_, rfl, .inr ⟨host, tail, rfl, hclosed, htail⟩⟩

/-- A bracket that is opened has to be balanced. -/
theorem split_bracketed_eq_error_iff {rest : List Char} {cause : AddressError} :
    split ('[' :: rest) = .error cause ↔
      cause = .unbalanced ('[' :: rest) ∧ Unbalanced ('[' :: rest) := by
  rw [split_bracketed]
  split
  case h_1 host hcut =>
    obtain ⟨rfl, hclosed⟩ := cutAt?_eq_some_iff.mp hcut
    exact ⟨nofun, fun h ↦ absurd rfl ((unbalanced_iff hclosed).mp h.2).1⟩
  case h_2 host port hcut =>
    obtain ⟨rfl, hclosed⟩ := cutAt?_eq_some_iff.mp hcut
    exact ⟨nofun, fun h ↦ absurd rfl ((unbalanced_iff hclosed).mp h.2).2⟩
  case h_3 hnone hport =>
    have hunbalanced : Unbalanced ('[' :: rest) := by
      cases hcut : cutAt? ']' rest with
      | none => exact ⟨rest, rfl, .inl (cutAt?_eq_none_iff.mp hcut)⟩
      | some parts =>
        obtain ⟨host, tail⟩ := parts
        obtain ⟨rfl, hclosed⟩ := cutAt?_eq_some_iff.mp hcut
        refine (unbalanced_iff hclosed).mpr ⟨?_, fun hcolon ↦ ?_⟩
        · rintro rfl
          exact hnone host hcut
        · obtain ⟨port, rfl⟩ := List.head?_eq_some_iff.mp hcolon
          exact hport host port hcut
    rw [Except.error.injEq]
    exact ⟨fun h ↦ ⟨h.symm, hunbalanced⟩, fun h ↦ h.1.symm⟩

theorem split_bare_ne_error (hbare : text.head? ≠ some '[') (cause : AddressError) :
    split text ≠ .error cause := by
  intro h
  rw [split_bare hbare] at h
  split at h
  · split at h <;> cases h
  · cases h

/-- A text is split unless it is unbalanced. -/
theorem split_eq_error_iff {cause : AddressError} :
    split text = .error cause ↔ cause = .unbalanced text ∧ Unbalanced text := by
  by_cases hbracket : text.head? = some '['
  · obtain ⟨rest, rfl⟩ := List.head?_eq_some_iff.mp hbracket
    exact split_bracketed_eq_error_iff
  · refine iff_of_false (split_bare_ne_error hbracket cause) ?_
    rintro ⟨-, rest, rfl, -⟩
    exact hbracket rfl

end Brackets

/-! ### Addresses -/

/-- The port of an address by its text, the default one where none is written. -/
def WrittenPort : Option (List Char) → Nat → Prop
  | none, port => port = defaultPort
  | some text, port => PortText text port

/-- The cause for which a text without white space around it is refused. -/
def Refused (text : List Char) : AddressError → Prop
  | .unbalanced shown => shown = text ∧ Unbalanced text
  | .emptyHost => ∃ written, Form [] written text
  | .invalidPort port => ∃ host, host ≠ [] ∧ Form host (some port) text ∧
      ∀ number, ¬ PortText port number

@[grind =]
theorem effectivePort_eq_ok_iff {written : Option (List Char)} {port : Nat} :
    effectivePort written = .ok port ↔ WrittenPort written port := by
  cases written with
  | none => exact ⟨fun h ↦ (Except.ok.inj h).symm, fun h ↦ congrArg Except.ok h.symm⟩
  | some text => exact readPort_eq_ok_iff

/-- Only a port that is written can be refused. -/
theorem effectivePort_eq_error_iff {written : Option (List Char)} {cause : AddressError} :
    effectivePort written = .error cause ↔
      ∃ text, written = some text ∧ cause = .invalidPort text ∧ ∀ port, ¬ PortText text port := by
  cases written with
  | none => exact ⟨nofun, fun ⟨_, h, _⟩ ↦ nomatch h⟩
  | some text =>
    constructor
    · intro h
      refine ⟨text, rfl, ?_, fun port hport ↦ ?_⟩
      · change readPort text = _ at h
        unfold readPort at h
        split at h
        · split_ifs at h
          exact (Except.error.inj h).symm
        · exact (Except.error.inj h).symm
      · rw [effectivePort, readPort_eq_ok_iff.mpr hport] at h
        cases h
    · rintro ⟨text, ⟨⟩, rfl, hnone⟩
      change readPort text = _
      unfold readPort
      split
      case h_1 number hnumber =>
        exact if_neg fun hlimit ↦ hnone number (portText_iff.mpr ⟨hnumber, hlimit⟩)
      case h_2 => rfl

section Parsing

variable {text : List Char} {cause : AddressError}

theorem Address.parse_of_split_error (h : split (trim text) = .error cause) :
    Address.parse text = .error cause := by
  unfold Address.parse
  rw [h]
  rfl

theorem Address.parse_of_no_host {written : Option (List Char)}
    (h : split (trim text) = .ok ([], written)) : Address.parse text = .error .emptyHost := by
  unfold Address.parse
  rw [h]
  rfl

/-- The cause of an error is the first that applies. -/
theorem Address.parse_eq_error_iff :
    Address.parse text = .error cause ↔ Refused (trim text) cause := by
  constructor
  · intro h
    cases hsplit : split (trim text) with
    | error shown =>
      rw [Address.parse_of_split_error hsplit] at h
      cases h
      obtain ⟨rfl, hunbalanced⟩ := split_eq_error_iff.mp hsplit
      exact ⟨rfl, hunbalanced⟩
    | ok parts =>
      obtain ⟨host, written⟩ := parts
      by_cases hhost : host = []
      · subst hhost
        rw [Address.parse_of_no_host hsplit] at h
        cases h
        exact ⟨written, split_eq_ok_iff.mp hsplit⟩
      · rw [Address.parse_of_split hsplit hhost] at h
        cases hport : effectivePort written with
        | ok port =>
          rw [hport] at h
          cases h
        | error shown =>
          rw [hport] at h
          cases h
          obtain ⟨port, rfl, rfl, hnone⟩ := effectivePort_eq_error_iff.mp hport
          exact ⟨host, hhost, split_eq_ok_iff.mp hsplit, hnone⟩
  · intro h
    cases cause with
    | unbalanced shown =>
      obtain ⟨rfl, hunbalanced⟩ := h
      exact Address.parse_of_split_error (split_eq_error_iff.mpr ⟨rfl, hunbalanced⟩)
    | emptyHost =>
      obtain ⟨written, hform⟩ := h
      exact Address.parse_of_no_host (split_eq_ok_iff.mpr hform)
    | invalidPort port =>
      obtain ⟨host, hhost, hform, hnone⟩ := h
      rw [Address.parse_of_split (split_eq_ok_iff.mpr hform) hhost,
        effectivePort_eq_error_iff.mpr ⟨port, rfl, rfl, hnone⟩]
      rfl

end Parsing

/-- The text without the white space around it is read as an address where it has a form with a
host that is not empty and a port; every other text is refused, and for which cause is told by the
text, too. -/
theorem Address.parse_grammar (text : List Char) :
    (∃ front back, text = front ++ trim text ++ back ∧
      (∀ c ∈ front ++ back, isWhiteSpace c = true) ∧
      ∀ c, (trim text).head? = some c ∨ (trim text).getLast? = some c → isWhiteSpace c = false) ∧
    (∀ host port, Address.parse text = .ok ⟨host, port⟩ ↔
      host ≠ [] ∧ ∃ written, Form host written (trim text) ∧ WrittenPort written port) ∧
    ∀ cause, Address.parse text = .error cause ↔ Refused (trim text) cause := by
  refine ⟨?_, fun host port ↦ ?_, fun cause ↦ Address.parse_eq_error_iff⟩
  · obtain ⟨front, back, htext, hspace⟩ := exists_trim text
    exact ⟨front, back, htext, hspace, fun c hc ↦
      hc.elim isWhiteSpace_of_head?_trim isWhiteSpace_of_getLast?_trim⟩
  · simp only [Address.parse_eq_ok_iff, effectivePort_eq_ok_iff]

end LiveBoard.Broker
