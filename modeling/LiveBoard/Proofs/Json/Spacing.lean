import LiveBoard.Proofs.Json.Grammar

/-!
# Tokens and the blanks between them

A text is written as a list of tokens with any blanks around each of them (`Spaced`). `Written` says
that tokens stand for something however they are spaced. Tokens written one after another, with
commas between them and inside brackets, stand for a list of what they stand for (`written_list`),
which gives the texts of arrays and objects (`written_array`, `written_object`).
-/

set_option autoImplicit false
set_option relaxedAutoImplicit false

namespace LiveBoard.Json

/-! ### Spacing -/

/-- The bytes are tokens with blanks around them. -/
inductive Spaced : List (List UInt8) → List UInt8 → Prop
  /-- Blanks after the last token. -/
  | blanks {blanks : List UInt8} (hblanks : Blanks blanks) : Spaced [] blanks
  /-- Blanks, a token and the tokens after it. -/
  | token {blanks token rest : List UInt8} {tokens : List (List UInt8)} (hblanks : Blanks blanks)
      (hrest : Spaced tokens rest) : Spaced (token :: tokens) (blanks ++ (token ++ rest))

theorem Spaced.blanks_append {tokens : List (List UInt8)} {before bytes : List UInt8}
    (h : Spaced tokens bytes) (hbefore : Blanks before) : Spaced tokens (before ++ bytes) := by
  cases h with
  | blanks hblanks => exact .blanks (hbefore.append hblanks)
  | token hblanks hrest =>
    rw [← List.append_assoc]
    exact .token (hbefore.append hblanks) hrest

/-- Spaced tokens can be cut between any two of them. -/
theorem Spaced.exists_append {first second : List (List UInt8)} {bytes : List UInt8}
    (h : Spaced (first ++ second) bytes) :
    ∃ before after, Spaced first before ∧ Spaced second after ∧ bytes = before ++ after := by
  induction first generalizing bytes with
  | nil => exact ⟨[], bytes, .blanks blanks_nil, h, rfl⟩
  | cons token first ih =>
    cases h with
    | token hblanks hrest =>
      obtain ⟨before, after, hbefore, hafter, rfl⟩ := ih hrest
      exact ⟨_, after, .token hblanks hbefore, hafter, by simp⟩

theorem Spaced.singleton {token bytes : List UInt8} (h : Spaced [token] bytes) :
    ∃ before after, Blanks before ∧ Blanks after ∧ bytes = before ++ (token ++ after) := by
  cases h with
  | token hbefore hrest =>
    cases hrest with
    | blanks hafter => exact ⟨_, _, hbefore, hafter, rfl⟩

/-- Tokens may stand next to each other. -/
theorem spaced_flatten (tokens : List (List UInt8)) : Spaced tokens tokens.flatten := by
  induction tokens with
  | nil => exact .blanks blanks_nil
  | cons token tokens ih => exact Spaced.token blanks_nil ih

/-! ### What tokens stand for -/

/-- However the tokens are spaced, they are one of the texts between blanks. -/
def Written (texts : List UInt8 → Prop) (tokens : List (List UInt8)) : Prop :=
  ∀ bytes, Spaced tokens bytes → Padded texts bytes

theorem Padded.blanks_around {texts : List UInt8 → Prop} {before bytes after : List UInt8}
    (h : Padded texts bytes) (hbefore : Blanks before) (hafter : Blanks after) :
    Padded texts (before ++ (bytes ++ after)) := by
  obtain ⟨first, text, last, hfirst, htext, hlast, rfl⟩ := h
  exact ⟨before ++ first, text, last ++ after, hbefore.append hfirst, htext,
    hlast.append hafter, by simp⟩

/-- One token may have blanks of its own. -/
theorem written_token {texts : List UInt8 → Prop} {token : List UInt8} (h : Padded texts token) :
    Written texts [token] := by
  intro bytes hspaced
  obtain ⟨before, after, hbefore, hafter, rfl⟩ := hspaced.singleton
  exact h.blanks_around hbefore hafter

theorem padded_self {texts : List UInt8 → Prop} {text : List UInt8} (h : texts text) :
    Padded texts text :=
  ⟨[], text, [], blanks_nil, h, blanks_nil, by simp⟩

/-- The tokens of some items between two brackets. -/
def bracketed (opening closing : UInt8) (items : List (List (List UInt8))) :
    List (List UInt8) :=
  [opening] :: (List.intercalate [[','.toUInt8]] items ++ [[closing]])

theorem intercalate_cons {τ : Type} (parting first : List τ) (rest : List (List τ)) :
    List.intercalate parting (first :: rest) = first ++ rest.flatMap (parting ++ ·) := by
  induction rest generalizing first with
  | nil => simp
  | cons second rest ih =>
    rw [List.intercalate_cons_cons, ih, List.flatMap_cons]
    simp

section Lists

variable {σ α : Type} {One : α → List UInt8 → Prop} (Listed : Bool → List α → List UInt8 → Prop)
  {closing : UInt8} {tokens : σ → List (List UInt8)} {item : σ → α} {sources : List σ}

/-- Assumes: lists that are closed by a byte and go on with an item after what leads it in. Items
behind commas are such a list, with the blanks after it. -/
theorem listed_of_spaced
    (hclosed : ∀ first blanks, Blanks blanks → Listed first [] (blanks ++ [closing]))
    (hitem : ∀ first lead text rest item items, LeadIn first lead → One item text →
      Listed false items rest → Listed first (item :: items) (lead ++ (text ++ rest)))
    (hwritten : ∀ source ∈ sources, Written (One (item source)) (tokens source))
    {bytes : List UInt8}
    (hspaced : Spaced ((sources.map tokens).flatMap ([[','.toUInt8]] ++ ·) ++ [[closing]]) bytes) :
    ∃ text after, Listed false (sources.map item) text ∧ Blanks after ∧ bytes = text ++ after := by
  induction sources generalizing bytes with
  | nil =>
    obtain ⟨before, after, hbefore, hafter, rfl⟩ := hspaced.singleton
    exact ⟨before ++ [closing], after, hclosed false before hbefore, hafter, by simp⟩
  | cons source sources ih =>
    rw [List.map_cons, List.flatMap_cons, List.append_assoc, List.append_assoc,
      List.singleton_append] at hspaced
    cases hspaced with
    | @token blanks _ _ _ hblanks hmore =>
      obtain ⟨inner, following, hinner, hfollowing, rfl⟩ := hmore.exists_append
      obtain ⟨before, text, between, hbefore, htext, hbetween, rfl⟩ :=
        hwritten source List.mem_cons_self inner hinner
      obtain ⟨rest, after, hlisted, hafter, hbytes⟩ :=
        ih (fun other hother ↦ hwritten other (List.mem_cons_of_mem source hother))
          (hfollowing.blanks_append hbetween)
      refine ⟨_, after, hitem false _ _ _ _ _ (.next hblanks hbefore) htext hlisted, hafter, ?_⟩
      simp [hbytes]

/-- Assumes: the same. Items between brackets are such a list behind the opening one. -/
theorem written_list {opening : UInt8}
    (hclosed : ∀ first blanks, Blanks blanks → Listed first [] (blanks ++ [closing]))
    (hitem : ∀ first lead text rest item items, LeadIn first lead → One item text →
      Listed false items rest → Listed first (item :: items) (lead ++ (text ++ rest)))
    (hwritten : ∀ source ∈ sources, Written (One (item source)) (tokens source)) :
    Written (fun text ↦ ∃ inner, Listed true (sources.map item) inner ∧ text = opening :: inner)
      (bracketed opening closing (sources.map tokens)) := by
  intro bytes hspaced
  cases hspaced with
  | @token start _ _ _ hstart hmore =>
    cases sources with
    | nil =>
      obtain ⟨before, after, hbefore, hafter, rfl⟩ := Spaced.singleton hmore
      exact ⟨start, _, after, hstart, ⟨_, hclosed true before hbefore, rfl⟩, hafter, by simp⟩
    | cons source sources =>
      rw [List.map_cons, intercalate_cons, List.append_assoc] at hmore
      obtain ⟨inner, following, hinner, hfollowing, rfl⟩ := hmore.exists_append
      obtain ⟨before, text, between, hbefore, htext, hbetween, rfl⟩ :=
        hwritten source List.mem_cons_self inner hinner
      obtain ⟨rest, after, hlisted, hafter, hbytes⟩ := listed_of_spaced Listed hclosed hitem
        (fun other hother ↦ hwritten other (List.mem_cons_of_mem source hother))
        (hfollowing.blanks_append hbetween)
      refine ⟨start, _, after, hstart,
        ⟨_, hitem true _ _ _ _ _ (.first hbefore) htext hlisted, rfl⟩, hafter, ?_⟩
      simp [hbytes]

end Lists

/-! ### Arrays and objects -/

section Values

variable {σ : Type} {levels : Nat} {tokens : σ → List (List UInt8)} {sources : List σ}

theorem Written.mono {texts others : List UInt8 → Prop} {written : List (List UInt8)}
    (h : Written texts written) (hothers : ∀ text, texts text → others text) :
    Written others written := by
  intro bytes hspaced
  obtain ⟨before, text, after, hbefore, htext, hafter, hbytes⟩ := h bytes hspaced
  exact ⟨before, text, after, hbefore, hothers text htext, hafter, hbytes⟩

/-- The tokens of values, written as an array. -/
theorem written_array {item : σ → Value}
    (hwritten : ∀ source ∈ sources, Written (ValueText levels (item source)) (tokens source)) :
    Written (ValueText (levels + 1) (.array (sources.map item)))
      (bracketed '['.toUInt8 ']'.toUInt8 (sources.map tokens)) := by
  refine Written.mono (written_list (ItemsText levels)
    (fun _ _ hblanks ↦ .closed hblanks) ?_ hwritten) ?_
  · intro first lead text rest item items hlead htext hrest
    exact .item hlead htext hrest
  · rintro text ⟨inner, hinner, rfl⟩
    exact .array hinner

/-- The text of a member: a key, a colon between blanks and a value. -/
def MemberText (levels : Nat) (member : List Char × Value) (bytes : List UInt8) : Prop :=
  ∃ keyText before after text, StringText member.1 keyText ∧ Blanks before ∧ Blanks after ∧
    ValueText levels member.2 text ∧
    bytes = '"'.toUInt8 :: (keyText ++ (before ++ ':'.toUInt8 :: (after ++ text)))

/-- The tokens of members, written as an object. -/
theorem written_object {member : σ → List Char × Value}
    (hwritten : ∀ source ∈ sources, Written (MemberText levels (member source)) (tokens source)) :
    Written (ValueText (levels + 1) (.object (sources.map member)))
      (bracketed '{'.toUInt8 '}'.toUInt8 (sources.map tokens)) := by
  refine Written.mono (written_list (MembersText levels)
    (fun _ _ hblanks ↦ .closed hblanks) ?_ hwritten) ?_
  · rintro first lead text rest ⟨key, value⟩ members hlead
      ⟨keyText, before, after, valueText, hkey, hbefore, hafter, hvalue, rfl⟩ hrest
    simpa using MembersText.member hlead hkey hbefore hafter hvalue hrest
  · rintro text ⟨inner, hinner, rfl⟩
    exact .object hinner

/-- A key, a colon and a value are the tokens of a member. -/
theorem written_member {name : List Char} {value : Value} {key : List UInt8}
    {written : List (List UInt8)}
    (hkey : Padded (fun text ↦ ∃ keyText, StringText name keyText ∧ text = '"'.toUInt8 :: keyText)
      key)
    (hvalue : Written (ValueText levels value) written) :
    Written (MemberText levels (name, value)) (key :: [':'.toUInt8] :: written) := by
  intro bytes hspaced
  cases hspaced with
  | @token start _ _ _ hstart hmore =>
    cases hmore with
    | @token gap _ rest _ hgap hrest =>
      obtain ⟨before, _, between, hbefore, ⟨keyText, htext, rfl⟩, hbetween, rfl⟩ := hkey
      obtain ⟨lead, text, after, hlead, hvalueText, hafter, rfl⟩ := hvalue rest hrest
      exact ⟨start ++ before, _, after, hstart.append hbefore,
        ⟨keyText, between ++ gap, lead, text, htext, hbetween.append hgap, hlead, hvalueText, rfl⟩,
        hafter, by simp⟩

end Values

end LiveBoard.Json
