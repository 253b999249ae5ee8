import LiveBoard.Proofs.Json.Grammar
import LiveBoard.Proofs.Json.Numerals
import Mathlib.Data.List.Forall2

/-!
# Tokens inside a text

A path names a place inside a value by the members and items on the way to it. `TokenAt` says which
piece of a text stands at a path by the grammar alone: the text is cut into the texts of its items
or members, and one of them is cut further. `Value.at?` follows the path through the value that is
read. Both arrive at the same place: the value at a path is the one that is read from the token that
stands there (`TokenAt.spells`, `exists_tokenAt`).
-/

set_option autoImplicit false
set_option relaxedAutoImplicit false

namespace LiveBoard.Json

/-! ### Texts of values -/

/-- The bytes are a text of a value, however deep it is. -/
def Spells (value : Value) (text : List UInt8) : Prop := ∃ levels, ValueText levels value text

theorem Spells.relevel {value : Value} {text : List UInt8} {limit : Nat} (h : Spells value text)
    (hdepth : value.depth ≤ limit) : ValueText limit value text := by
  obtain ⟨levels, htext⟩ := h
  exact htext.relevel hdepth

/-- Bytes are the text of one value at most, also with blanks around it. -/
theorem Spells.unique {value other : Value}
    {before text after otherBefore otherText otherAfter : List UInt8} (h : Spells value text)
    (hbefore : Blanks before) (hafter : Blanks after) (hother : Spells other otherText)
    (hotherBefore : Blanks otherBefore) (hotherAfter : Blanks otherAfter)
    (hbytes : before ++ (text ++ after) = otherBefore ++ (otherText ++ otherAfter)) :
    value = other := by
  have hends : ∀ {blanks : List UInt8}, Blanks blanks → Ends blanks := fun hblanks ↦ by
    simpa using ends_nil.blanks_append hblanks
  have hread := read_of_valueText (h.relevel (le_max_left value.depth other.depth)) hbefore
    (hends hafter) (le_max_left (2 * text.length) (2 * otherText.length))
  have hotherRead := read_of_valueText (hother.relevel (le_max_right value.depth other.depth))
    hotherBefore (hends hotherAfter) (le_max_right (2 * text.length) (2 * otherText.length))
  rw [hbytes, hotherRead] at hread
  exact (Prod.mk.inj (Except.ok.inj hread)).1.symm

/-- The text of a number is the scalar that is read as it. -/
theorem spells_number_iff {number : Number} {text : List UInt8} :
    Spells (.number number) text ↔ readScalar text = .ok (.number number, []) := by
  constructor
  · rintro ⟨levels, htext⟩
    cases htext with
    | scalar hread => exact hread
  · intro hread
    exact ⟨0, .scalar hread⟩

/-! ### Items and members -/

/-- The bytes are the texts of items up to the bracket that closes them. -/
inductive ItemTexts : Bool → List (List UInt8) → List UInt8 → Prop
  /-- No more items. -/
  | closed {first : Bool} {blanks : List UInt8} (hblanks : Blanks blanks) :
      ItemTexts first [] (blanks ++ [']'.toUInt8])
  /-- The text of an item and those after it. -/
  | item {first : Bool} {lead text rest : List UInt8} {texts : List (List UInt8)}
      (hlead : LeadIn first lead) (hitem : ∃ item, Spells item text)
      (hrest : ItemTexts false texts rest) :
      ItemTexts first (text :: texts) (lead ++ (text ++ rest))

/-- The bytes are the texts of members, each under its name, up to the brace that closes them. -/
inductive MemberTexts : Bool → List (List Char × List UInt8) → List UInt8 → Prop
  /-- No more members. -/
  | closed {first : Bool} {blanks : List UInt8} (hblanks : Blanks blanks) :
      MemberTexts first [] (blanks ++ ['}'.toUInt8])
  /-- The text of a member and those after it. -/
  | member {first : Bool} {lead keyText before after text rest : List UInt8} {key : List Char}
      {texts : List (List Char × List UInt8)} (hlead : LeadIn first lead)
      (hkey : StringText key keyText) (hbefore : Blanks before) (hafter : Blanks after)
      (hvalue : ∃ value, Spells value text) (hrest : MemberTexts false texts rest) :
      MemberTexts first ((key, text) :: texts)
        (lead ++ '"'.toUInt8 :: (keyText ++ (before ++ ':'.toUInt8 :: (after ++ (text ++ rest)))))

/-- A member has the name of a text and is spelled by it. -/
def SpellsMember (member : List Char × Value) (text : List Char × List UInt8) : Prop :=
  member.1 = text.1 ∧ Spells member.2 text.2

/-- The texts of items are cut out of the text of all of them. -/
theorem ItemsText.exists_texts {levels : Nat} {first : Bool} {bytes : List UInt8}
    {items : List Value} (h : ItemsText levels first items bytes) :
    ∃ texts, ItemTexts first texts bytes ∧ List.Forall₂ Spells items texts := by
  match h with
  | .closed hblanks => exact ⟨[], .closed hblanks, .nil⟩
  | .item hlead hitem hrest =>
    obtain ⟨texts, htexts, hspelled⟩ := hrest.exists_texts
    exact ⟨_, .item hlead ⟨_, _, hitem⟩ htexts, .cons ⟨_, hitem⟩ hspelled⟩

/-- Texts of items are together the text of all of them. -/
theorem ItemTexts.exists_items {first : Bool} {bytes : List UInt8} {texts : List (List UInt8)}
    (h : ItemTexts first texts bytes) :
    ∃ items, ItemsText (itemsDepth items) first items bytes ∧ List.Forall₂ Spells items texts := by
  induction h with
  | closed hblanks => exact ⟨[], .closed hblanks, .nil⟩
  | item hlead hitem hrest ih =>
    obtain ⟨item, hitem⟩ := hitem
    obtain ⟨items, hitems, hspelled⟩ := ih
    exact ⟨item :: items, .item hlead (hitem.relevel (le_max_left _ _))
      (hitems.relevel (le_max_right _ _)), .cons hitem hspelled⟩

theorem ItemTexts.exists_spells {bytes : List UInt8} {texts : List (List UInt8)}
    (h : ItemTexts true texts bytes) : ∃ value, Spells value ('['.toUInt8 :: bytes) := by
  obtain ⟨items, hitems, -⟩ := h.exists_items
  exact ⟨.array items, _, .array hitems⟩

/-- The texts of members are cut out of the text of all of them. -/
theorem MembersText.exists_texts {levels : Nat} {first : Bool} {bytes : List UInt8}
    {members : List (List Char × Value)} (h : MembersText levels first members bytes) :
    ∃ texts, MemberTexts first texts bytes ∧ List.Forall₂ SpellsMember members texts := by
  match h with
  | .closed hblanks => exact ⟨[], .closed hblanks, .nil⟩
  | .member hlead hkey hbefore hafter hvalue hrest =>
    obtain ⟨texts, htexts, hspelled⟩ := hrest.exists_texts
    exact ⟨_, .member hlead hkey hbefore hafter ⟨_, _, hvalue⟩ htexts,
      .cons ⟨rfl, _, hvalue⟩ hspelled⟩

/-- Texts of members are together the text of all of them. -/
theorem MemberTexts.exists_members {first : Bool} {bytes : List UInt8}
    {texts : List (List Char × List UInt8)} (h : MemberTexts first texts bytes) :
    ∃ members, MembersText (membersDepth members) first members bytes ∧
      List.Forall₂ SpellsMember members texts := by
  induction h with
  | closed hblanks => exact ⟨[], .closed hblanks, .nil⟩
  | @member _ _ _ _ _ _ _ key _ hlead hkey hbefore hafter hvalue hrest ih =>
    obtain ⟨value, hvalue⟩ := hvalue
    obtain ⟨members, hmembers, hspelled⟩ := ih
    exact ⟨(key, value) :: members, .member hlead hkey hbefore hafter
      (hvalue.relevel (le_max_left _ _)) (hmembers.relevel (le_max_right _ _)),
      .cons ⟨rfl, hvalue⟩ hspelled⟩

/-! ### The last member of a name -/

section Last

variable {α β : Type} {name : List Char}

/-- The last member of a name holds something. -/
def IsLast (name : List Char) (held : α) (members : List (List Char × α)) : Prop :=
  ∃ before after, members = before ++ (name, held) :: after ∧ name ∉ after.map Prod.fst

@[grind =]
theorem lastMember?_eq_some_iff {value : Value} {members : List (List Char × Value)} :
    lastMember? name members = some value ↔ IsLast name value members := by
  unfold lastMember? IsLast
  rw [Option.map_eq_some_iff]
  constructor
  · rintro ⟨⟨key, held⟩, hfound, rfl⟩
    obtain ⟨hkey, after, before, hreverse, hafter⟩ := List.find?_eq_some_iff_append.mp hfound
    obtain rfl := eq_of_beq hkey
    refine ⟨before.reverse, after.reverse, ?_, ?_⟩
    · simpa using congrArg List.reverse hreverse
    · intro hmem
      obtain ⟨member, hmember, hname⟩ := List.mem_map.mp hmem
      simpa [hname] using hafter member (List.mem_reverse.mp hmember)
  · rintro ⟨before, after, rfl, hafter⟩
    refine ⟨(name, value), List.find?_eq_some_iff_append.mpr ?_, rfl⟩
    refine ⟨by simp, after.reverse, before.reverse, by simp, ?_⟩
    intro member hmember
    have hname : member.1 ≠ name := by
      rintro rfl
      exact hafter (List.mem_map_of_mem (List.mem_reverse.mp hmember))
    simpa using hname

/-- Members of the same names, related one by one, have related last ones. -/
theorem IsLast.exists_related {related : α → β → Prop} {held : α} {members : List (List Char × α)}
    {others : List (List Char × β)} (h : IsLast name held members)
    (hrelated : List.Forall₂ (fun member other ↦ member.1 = other.1 ∧ related member.2 other.2)
      members others) :
    ∃ other, IsLast name other others ∧ related held other := by
  obtain ⟨before, after, rfl, hafter⟩ := h
  induction before generalizing others with
  | nil =>
    cases hrelated with
    | @cons _ other _ rest hfirst hrest =>
      have hnames : after.map Prod.fst = rest.map Prod.fst := by
        rw [← List.forall₂_eq_eq_eq, List.forall₂_map_left_iff, List.forall₂_map_right_iff]
        exact hrest.imp fun _ _ h ↦ h.1
      have hother : other = (name, other.2) := Prod.ext hfirst.1.symm rfl
      exact ⟨other.2, ⟨[], rest, congrArg (· :: rest) hother, hnames ▸ hafter⟩, hfirst.2⟩
  | cons member before ih =>
    cases hrelated with
    | @cons _ first _ rest _ hrest =>
      obtain ⟨other, ⟨front, back, rfl, hback⟩, hheld⟩ := ih hrest
      exact ⟨other, ⟨first :: front, back, rfl, hback⟩, hheld⟩

end Last

/-! ### Paths -/

/-- A step into a value. -/
inductive Step
  /-- To the last member of a name. -/
  | member (name : List Char)
  /-- To the item at an index. -/
  | item (index : Nat)
  deriving DecidableEq, Repr

/-- The value that a step leads to. -/
def Value.child? (value : Value) : Step → Option Value
  | .member name => value.member? name
  | .item index =>
    match value with
    | .array items => items[index]?
    | _ => none

/-- The value at a path. -/
def Value.at? (value : Value) : List Step → Option Value
  | [] => some value
  | step :: path => (value.child? step).bind fun child ↦ child.at? path

/-- A step leads from the text of a value to one inside it. -/
inductive ChildText : Step → List UInt8 → List UInt8 → Prop
  /-- To the text of an item. -/
  | item {index : Nat} {texts : List (List UInt8)} {rest inner : List UInt8}
      (hitems : ItemTexts true texts rest) (hinner : texts[index]? = some inner) :
      ChildText (.item index) ('['.toUInt8 :: rest) inner
  /-- To the last text of a name. -/
  | member {name : List Char} {texts : List (List Char × List UInt8)} {rest inner : List UInt8}
      (hmembers : MemberTexts true texts rest) (hinner : IsLast name inner texts) :
      ChildText (.member name) ('{'.toUInt8 :: rest) inner

/-- A path leads from the text of a value to a token inside it. -/
inductive TextAt : List Step → List UInt8 → List UInt8 → Prop
  /-- To the text itself. -/
  | here {text : List UInt8} (htext : ∃ value, Spells value text) : TextAt [] text text
  /-- On from the text of a step. -/
  | step {step : Step} {path : List Step} {text inner token : List UInt8}
      (hchild : ChildText step text inner) (hinner : TextAt path inner token) :
      TextAt (step :: path) text token

/-- The token at a path inside a text between blanks. -/
def TokenAt (path : List Step) (token : List UInt8) : List UInt8 → Prop :=
  Padded fun text ↦ TextAt path text token

section Following

variable {value child : Value} {step : Step} {path : List Step} {text inner token : List UInt8}

theorem ChildText.exists_spells (h : ChildText step text inner) :
    ∃ value child, Spells value text ∧ value.child? step = some child ∧ Spells child inner := by
  cases h with
  | @item index texts rest inner hitems hinner =>
    obtain ⟨items, hrest, hspelled⟩ := hitems.exists_items
    obtain ⟨hlength, hspells⟩ := List.forall₂_iff_get.mp hspelled
    obtain ⟨hindex, rfl⟩ := List.getElem?_eq_some_iff.mp hinner
    exact ⟨.array items, items[index], ⟨_, .array hrest⟩,
      List.getElem?_eq_getElem (hlength ▸ hindex), hspells index _ hindex⟩
  | member hmembers hinner =>
    obtain ⟨members, hrest, hspelled⟩ := hmembers.exists_members
    obtain ⟨child, hlast, hspells⟩ := @IsLast.exists_related _ _ _
      (fun text value ↦ Spells value text) _ _ _ hinner
      (hspelled.flip.imp fun _ _ h ↦ ⟨h.1.symm, h.2⟩)
    exact ⟨.object members, child, ⟨_, .object hrest⟩, lastMember?_eq_some_iff.mpr hlast, hspells⟩

/-- The text of an object with one member holds the text of its value. -/
theorem childText_single {name : List Char} {spelled : List UInt8} (hname : StringText name spelled)
    (hinner : ∃ value, Spells value inner) :
    ChildText (.member name)
      ('{'.toUInt8 :: '"'.toUInt8 :: (spelled ++ ':'.toUInt8 :: (inner ++ ['}'.toUInt8]))) inner :=
  .member (.member (.first blanks_nil) hname blanks_nil blanks_nil hinner (.closed blanks_nil))
    ⟨[], [], rfl, List.not_mem_nil⟩

/-- The text of a step spells the value of it. -/
theorem ChildText.spells (h : ChildText step text inner) (hvalue : Spells value text) :
    ∃ child, value.child? step = some child ∧ Spells child inner := by
  obtain ⟨other, child, hother, hchild, hinner⟩ := h.exists_spells
  obtain rfl : other = value :=
    hother.unique blanks_nil blanks_nil hvalue blanks_nil blanks_nil rfl
  exact ⟨child, hchild, hinner⟩

/-- The value of a step has a text inside the text. -/
theorem exists_childText (hvalue : Spells value text) (hchild : value.child? step = some child) :
    ∃ inner, ChildText step text inner ∧ Spells child inner := by
  obtain ⟨levels, htext⟩ := hvalue
  cases step with
  | item index =>
    cases value with
    | array items =>
      cases htext with
      | scalar hread => simpa using readScalar_eq_ok hread
      | array hitems =>
        obtain ⟨texts, htexts, hspelled⟩ := hitems.exists_texts
        obtain ⟨hlength, hspells⟩ := List.forall₂_iff_get.mp hspelled
        obtain ⟨hindex, rfl⟩ := List.getElem?_eq_some_iff.mp hchild
        exact ⟨texts[index], .item htexts (List.getElem?_eq_getElem (hlength ▸ hindex)),
          hspells index hindex _⟩
    | _ => cases hchild
  | member name =>
    cases value with
    | object members =>
      cases htext with
      | scalar hread => exact absurd hread readScalar_ne_object
      | object hmembers =>
        obtain ⟨texts, htexts, hspelled⟩ := hmembers.exists_texts
        obtain ⟨inner, hlast, hspells⟩ :=
          (lastMember?_eq_some_iff.mp hchild).exists_related hspelled
        exact ⟨inner, .member htexts hlast, hspells⟩
    | _ => cases hchild

theorem TextAt.exists_spells (h : TextAt path text token) : ∃ value, Spells value text := by
  cases h with
  | here htext => exact htext
  | step hchild _ =>
    obtain ⟨value, -, hvalue, -⟩ := hchild.exists_spells
    exact ⟨value, hvalue⟩

/-- The token at a path spells the value at it. -/
theorem TextAt.spells (h : TextAt path text token) (hvalue : Spells value text) :
    ∃ found, value.at? path = some found ∧ Spells found token := by
  induction h generalizing value with
  | here => exact ⟨value, rfl, hvalue⟩
  | step hchild _ ih =>
    obtain ⟨child, hstep, hinner⟩ := hchild.spells hvalue
    obtain ⟨found, hfound, htoken⟩ := ih hinner
    refine ⟨found, ?_, htoken⟩
    rw [Value.at?, hstep, Option.bind_some, hfound]

/-- The value at a path has a token at it. -/
theorem exists_textAt {found : Value} (hvalue : Spells value text)
    (hfound : value.at? path = some found) :
    ∃ token, TextAt path text token ∧ Spells found token := by
  induction path generalizing value text with
  | nil =>
    obtain rfl := Option.some.inj hfound
    exact ⟨text, .here ⟨value, hvalue⟩, hvalue⟩
  | cons step path ih =>
    obtain ⟨child, hchild, hrest⟩ := Option.bind_eq_some_iff.mp hfound
    obtain ⟨inner, hinner, hspells⟩ := exists_childText hvalue hchild
    obtain ⟨token, htoken, hfound⟩ := ih hspells hrest
    exact ⟨token, .step hinner htoken, hfound⟩

end Following

/-! ### Tokens of a text that is read -/

section Tokens

variable {payload : List UInt8} {value : Value} {path : List Step}

/-- The token at a path of a text that is read spells the value at it. -/
theorem TokenAt.spells {token : List UInt8} (h : TokenAt path token payload)
    (hparse : parse payload = .ok value) :
    ∃ found, value.at? path = some found ∧ Spells found token := by
  obtain ⟨before, text, after, hbefore, htext, hafter, rfl⟩ := h
  obtain ⟨otherBefore, otherText, otherAfter, hotherBefore, hother, hotherAfter, hbytes⟩ :=
    parse_eq_ok_iff.mp hparse
  obtain ⟨other, hspelled⟩ := htext.exists_spells
  obtain rfl := hspelled.unique hbefore hafter ⟨_, hother⟩ hotherBefore hotherAfter hbytes
  exact htext.spells hspelled

/-- The value at a path of a text that is read has a token at it. -/
theorem exists_tokenAt {found : Value} (hparse : parse payload = .ok value)
    (hfound : value.at? path = some found) :
    ∃ token, TokenAt path token payload ∧ Spells found token := by
  obtain ⟨before, text, after, hbefore, htext, hafter, hbytes⟩ := parse_eq_ok_iff.mp hparse
  obtain ⟨token, htoken, hspells⟩ := exists_textAt ⟨_, htext⟩ hfound
  exact ⟨token, ⟨before, text, after, hbefore, htoken, hafter, hbytes⟩, hspells⟩

end Tokens

/-! ### Numerals in a text that is read -/

section Numerals

variable {payload : List UInt8} {value : Value} {path : List Step} {numeral : Numeral}

/-- A value that a numeral spells is the number that is made of it. -/
theorem Spells.exists_number (h : Spells value (Text.encodeText numeral.text)) :
    ∃ number, value = .number number ∧ numeral.number? = some number := by
  obtain ⟨levels, htext⟩ := h
  obtain ⟨b, rest, hbytes, hb⟩ := numeral.exists_cons
  obtain ⟨-, -, hquote, hbracket, hbrace⟩ := startsScalar_plain hb
  generalize hspelled : Text.encodeText numeral.text = bytes at htext
  rw [hbytes] at hspelled
  cases htext with
  | scalar hread =>
    have hfound : ∃ number, value = .number number := by
      rw [← hspelled, ← hbytes, readScalar_text] at hread
      cases hnumber : readNumber numeral.negative (Text.encodeText numeral.unsignedText) with
      | error stop =>
        rw [hnumber] at hread
        cases hread
      | ok read =>
        rw [hnumber] at hread
        exact ⟨read.1, (Prod.mk.inj (Except.ok.inj hread)).1.symm⟩
    obtain ⟨number, rfl⟩ := hfound
    rw [← hspelled, ← hbytes, readScalar_numeral] at hread
    exact ⟨number, rfl, hread⟩
  | string =>
    obtain rfl := (List.cons.inj hspelled).1
    cases hquote
  | array =>
    obtain rfl := (List.cons.inj hspelled).1
    cases hbracket
  | object =>
    obtain rfl := (List.cons.inj hspelled).1
    cases hbrace

/-- A numeral that is read spells a value. -/
theorem Numeral.exists_spells (h : numeral.number?.isSome = true) :
    ∃ value, Spells value (Text.encodeText numeral.text) := by
  obtain ⟨number, hnumber⟩ := Option.isSome_iff_exists.mp h
  exact ⟨.number number, spells_number_iff.mpr ((readScalar_numeral numeral number).mpr hnumber)⟩

/-- A numeral stands at a path inside a text. -/
def NumeralAt (path : List Step) (numeral : Numeral) (payload : List UInt8) : Prop :=
  TokenAt path (Text.encodeText numeral.text) payload

/-- The value at the path of a numeral is the number that is made of it. -/
theorem NumeralAt.exists_number (h : NumeralAt path numeral payload)
    (hparse : parse payload = .ok value) :
    ∃ number, value.at? path = some (.number number) ∧ numeral.number? = some number := by
  obtain ⟨found, hfound, hspells⟩ := TokenAt.spells h hparse
  obtain ⟨number, rfl, hnumber⟩ := hspells.exists_number
  exact ⟨number, hfound, hnumber⟩

/-- A number at a path is made of a numeral at it. -/
theorem exists_numeralAt {number : Number} (hparse : parse payload = .ok value)
    (hfound : value.at? path = some (.number number)) :
    ∃ numeral, NumeralAt path numeral payload ∧ numeral.number? = some number := by
  obtain ⟨token, htoken, hspells⟩ := exists_tokenAt hparse hfound
  obtain ⟨numeral, rfl, hnumber⟩ := readScalar_eq_number_iff.mp (spells_number_iff.mp hspells)
  exact ⟨numeral, htoken, hnumber⟩

end Numerals

end LiveBoard.Json
