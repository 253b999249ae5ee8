import LiveBoard.Viewer.Cancellation
import Mathlib.Data.List.Induction
import Mathlib.Logic.Relation
import Mathlib.Tactic.SplitIfs

/-!
# Families of tokens

A history is a list of calls on tokens, in the order in which they take effect: each call is atomic,
so whatever threads make them, and whichever token is in whose hands, some list tells it all. Its
tokens are named by the order of their making, and a call names a token that was made before it
(`soundFrom`). Two tokens are of one family if a chain of clones connects them, in either direction
and before or after any cancellation (`SameFamily`).

The tokens record the family of each token and one flag for each family. That the record is right
is an invariant of histories (`Tokens.Records`): each call keeps it (`Tokens.Records.step`), and a
family that was recorded once stays (`Tokens.familyOf?_foldl`). So a cancellation is seen by the
whole family and by nobody else, and the first one alone is told that it cancelled
(`Tokens.cancellation_shared`).
-/

set_option autoImplicit false
set_option relaxedAutoImplicit false

namespace LiveBoard.Viewer

/-! ### Histories -/

/-- A call on tokens, which are named by their position in the order of making. -/
inductive TokenCall
  /-- An operation. -/
  | operation (event : TokenEvent)
  /-- Asks whether a token is cancelled. -/
  | inquiry (token : Nat)
  deriving DecidableEq, Repr

/-- The token that a call is made on, if it is made on one. -/
def TokenCall.token? : TokenCall → Option Nat
  | .operation .create => none
  | .operation (.clone token) => some token
  | .operation (.cancel token) => some token
  | .inquiry token => some token

/-- Whether a call makes a token. -/
def TokenCall.makes : TokenCall → Bool
  | .operation .create => true
  | .operation (.clone _) => true
  | _ => false

/-- The number of tokens made in a history. The next one made is named by it. -/
def tokensMade (history : List TokenCall) : Nat := history.countP TokenCall.makes

/-- Whether each call is made on a token that exists by then, where `count` tokens were there
before. -/
def soundFrom (count : Nat) : List TokenCall → Bool
  | [] => true
  | call :: rest =>
    call.token?.all (· < count) && soundFrom (count + if call.makes then 1 else 0) rest

/-- A token was made as a clone of another. -/
def ClonedFrom (history : List TokenCall) (original copy : Nat) : Prop :=
  ∃ before after, history = before ++ .operation (.clone original) :: after ∧
    copy = tokensMade before

/-- Two tokens are connected by clones. -/
def SameFamily (history : List TokenCall) : Nat → Nat → Prop :=
  Relation.EqvGen (ClonedFrom history)

/-- The tokens after a call. -/
def Tokens.call (tokens : Tokens) : TokenCall → Tokens
  | .operation event => tokens.step event
  | .inquiry _ => tokens

/-- The tokens after a history. -/
def Tokens.after (history : List TokenCall) : Tokens := history.foldl Tokens.call .empty

/-- What a call answers: a cancellation, whether it was what cancelled the token; an inquiry,
whether the token is cancelled. -/
def Tokens.answer? (tokens : Tokens) : TokenCall → Option Bool
  | .operation (.cancel token) => some (tokens.cancel token).1
  | .inquiry token => some (tokens.isCancelled token)
  | _ => none

section Histories

variable {history : List TokenCall} {call : TokenCall} {original copy : Nat}

@[simp]
theorem tokensMade_append (first second : List TokenCall) :
    tokensMade (first ++ second) = tokensMade first + tokensMade second := List.countP_append

theorem tokensMade_singleton (call : TokenCall) :
    tokensMade [call] = if call.makes then 1 else 0 := List.countP_singleton

@[simp]
theorem soundFrom_append (count : Nat) (first second : List TokenCall) :
    soundFrom count (first ++ second) =
      (soundFrom count first && soundFrom (count + tokensMade first) second) := by
  induction first generalizing count with
  | nil => rfl
  | cons call rest ih =>
    have hmade : count + tokensMade (call :: rest) =
        count + (if call.makes then 1 else 0) + tokensMade rest := by
      unfold tokensMade
      rw [List.countP_cons]
      omega
    rw [List.cons_append, soundFrom, soundFrom, ih, hmade, Bool.and_assoc]

/-- In a sound history each call is made on a token that was made before it. -/
theorem lt_tokensMade_of_soundFrom {before after : List TokenCall} {token : Nat}
    (hsound : soundFrom 0 (before ++ call :: after) = true) (htoken : call.token? = some token) :
    token < tokensMade before := by
  rw [soundFrom_append, soundFrom, htoken] at hsound
  simp only [Nat.zero_add, Bool.and_eq_true, Option.all_some, decide_eq_true_eq] at hsound
  exact hsound.2.1

theorem soundFrom_of_append {count : Nat} {first second : List TokenCall}
    (hsound : soundFrom count (first ++ second) = true) : soundFrom count first = true := by
  rw [soundFrom_append, Bool.and_eq_true] at hsound
  exact hsound.1

theorem Tokens.after_append (first second : List TokenCall) :
    Tokens.after (first ++ second) = second.foldl Tokens.call (Tokens.after first) :=
  List.foldl_append

/-- A clone made in a history was made by its last call or before that. -/
theorem ClonedFrom.of_append_singleton (h : ClonedFrom (history ++ [call]) original copy) :
    ClonedFrom history original copy ∨
      (call = .operation (.clone original) ∧ copy = tokensMade history) := by
  obtain ⟨before, after, hsplit, rfl⟩ := h
  rcases List.eq_nil_or_concat after with rfl | ⟨more, last, rfl⟩
  · obtain ⟨rfl, hlast⟩ := List.append_inj' hsplit rfl
    exact Or.inr ⟨(List.cons.inj hlast).1, rfl⟩
  · rw [List.concat_eq_append, ← List.cons_append, ← List.append_assoc] at hsplit
    obtain ⟨hhistory, -⟩ := List.append_inj' hsplit rfl
    exact Or.inl ⟨before, more, hhistory, rfl⟩

theorem ClonedFrom.mono (h : ClonedFrom history original copy) (later : List TokenCall) :
    ClonedFrom (history ++ later) original copy := by
  obtain ⟨before, after, rfl, rfl⟩ := h
  exact ⟨before, after ++ later, by rw [List.append_assoc, List.cons_append], rfl⟩

theorem SameFamily.mono {first second : Nat} (h : SameFamily history first second)
    (later : List TokenCall) : SameFamily (history ++ later) first second :=
  Relation.EqvGen.mono (fun _ _ hcloned ↦ ClonedFrom.mono hcloned later) _ _ h

end Histories

/-! ### What the tokens record -/

/-- The tokens have the families of a history, and of these the flags of the cancelled ones. -/
structure Tokens.Records (tokens : Tokens) (history : List TokenCall) : Prop where
  /-- The tokens made are there. -/
  size : tokens.families.size = tokensMade history
  /-- Each family has a flag. -/
  flagged : ∀ token family, tokens.familyOf? token = some family → family < tokens.flags.size
  /-- A clone is of the family of its original. -/
  cloned : ∀ original copy, ClonedFrom history original copy →
    ∃ family, tokens.familyOf? original = some family ∧ tokens.familyOf? copy = some family
  /-- Tokens of one family are connected. -/
  joined : ∀ first second family, tokens.familyOf? first = some family →
    tokens.familyOf? second = some family → SameFamily history first second
  /-- What was cancelled has a family. -/
  cancelled : ∀ token, .operation (.cancel token) ∈ history →
    ∃ family, tokens.familyOf? token = some family
  /-- The flags that are raised are those of the families of which a token was cancelled. -/
  raised : ∀ family, tokens.flags[family]? = some true ↔
    ∃ token, .operation (.cancel token) ∈ history ∧ tokens.familyOf? token = some family

section Records

variable {tokens : Tokens} {history : List TokenCall} {call : TokenCall} {token family : Nat}

theorem Tokens.familyOf?_push (tokens : Tokens) (flags : Array Bool) (family token : Nat) :
    Tokens.familyOf? ⟨tokens.families.push family, flags⟩ token =
      if token = tokens.families.size then some family else tokens.familyOf? token :=
  Array.getElem?_push

theorem Tokens.ne_size_of_familyOf? (h : tokens.familyOf? token = some family) :
    token ≠ tokens.families.size := Nat.ne_of_lt (Array.getElem?_eq_some_iff.mp h).1

theorem Tokens.call_clone (h : tokens.familyOf? token = some family) :
    tokens.call (.operation (.clone token)) =
      ⟨tokens.families.push family, tokens.flags⟩ := by
  change tokens.clone token = _
  unfold Tokens.clone
  rw [h]

theorem Tokens.call_cancel (h : tokens.familyOf? token = some family) :
    tokens.call (.operation (.cancel token)) =
      ⟨tokens.families, tokens.flags.setIfInBounds family true⟩ := by
  change (tokens.cancel token).2 = _
  unfold Tokens.cancel
  rw [h]

/-- A token is cancelled where the flag of its family is raised. -/
theorem Tokens.isCancelled_iff (h : tokens.familyOf? token = some family) :
    tokens.isCancelled token = true ↔ tokens.flags[family]? = some true := by
  unfold Tokens.isCancelled
  rw [h, Option.bind_some]
  cases tokens.flags[family]? <;> simp

/-- Each token made has a family. -/
theorem Tokens.Records.exists_family (h : tokens.Records history)
    (htoken : token < tokensMade history) : ∃ family, tokens.familyOf? token = some family := by
  rw [← h.size] at htoken
  exact ⟨_, Array.getElem?_eq_getElem htoken⟩

/-- Connected tokens have one family. -/
theorem Tokens.Records.familyOf?_eq (h : tokens.Records history) {first second : Nat}
    (hfamily : SameFamily history first second) :
    tokens.familyOf? first = tokens.familyOf? second := by
  induction hfamily with
  | rel original copy hcloned =>
    obtain ⟨family, horiginal, hcopy⟩ := h.cloned original copy hcloned
    rw [horiginal, hcopy]
  | refl token => rfl
  | symm first second _ ih => exact ih.symm
  | trans first second third _ _ ihfirst ihsecond => exact ihfirst.trans ihsecond

/-- Tokens are connected exactly where they have one family. -/
theorem Tokens.Records.sameFamily_iff (h : tokens.Records history)
    (htoken : tokens.familyOf? token = some family) (other : Nat) :
    SameFamily history token other ↔ tokens.familyOf? other = some family := by
  constructor
  · intro hfamily
    rw [← h.familyOf?_eq hfamily, htoken]
  · exact h.joined token other family htoken

theorem Tokens.records_empty : Tokens.Records .empty [] where
  size := rfl
  flagged _ _ h := by cases h
  cloned _ _ h := by
    obtain ⟨before, after, hsplit, -⟩ := h
    cases before <;> cases hsplit
  joined _ _ _ h := by cases h
  cancelled _ h := absurd h List.not_mem_nil
  raised _ := iff_of_false nofun fun ⟨_, h, _⟩ ↦ absurd h List.not_mem_nil

/-- Assumes: a call that makes a token of a family, which is that of the original if there is one
and otherwise that of no other token. -/
theorem Tokens.Records.push (h : tokens.Records history) (flags : Array Bool)
    (hmakes : call.makes = true)
    (hcall : tokens.call call = ⟨tokens.families.push family, flags⟩)
    (hflagged : ∀ other : Nat, other < tokens.flags.size ∨ other = family → other < flags.size)
    (hraised : ∀ other : Nat, flags[other]? = some true ↔ tokens.flags[other]? = some true)
    (horiginal : ∀ original, call = .operation (.clone original) →
      tokens.familyOf? original = some family)
    (hjoined : ∀ other, tokens.familyOf? other = some family →
      SameFamily (history ++ [call]) other (tokensMade history)) :
    (tokens.call call).Records (history ++ [call]) := by
  have hfamily := fun token ↦ tokens.familyOf?_push flags family token
  rw [← hcall] at hfamily
  have hnew : (tokens.call call).familyOf? (tokensMade history) = some family := by
    rw [hfamily, h.size, if_pos rfl]
  have hold : ∀ token other, tokens.familyOf? token = some other →
      (tokens.call call).familyOf? token = some other := by
    intro token other htoken
    rw [hfamily, if_neg (Tokens.ne_size_of_familyOf? htoken), htoken]
  -- a token of a family is the new one, or one of that family before
  have hcases : ∀ token other, (tokens.call call).familyOf? token = some other →
      (token = tokensMade history ∧ other = family) ∨ tokens.familyOf? token = some other := by
    intro token other htoken
    rw [hfamily, h.size] at htoken
    split_ifs at htoken with hlast
    · exact Or.inl ⟨hlast, (Option.some.inj htoken).symm⟩
    · exact Or.inr htoken
  have hcancelled : ∀ token, .operation (.cancel token) ∈ history ++ [call] →
      .operation (.cancel token) ∈ history := by
    intro token hmem
    rcases List.mem_append.mp hmem with hbefore | hlast
    · exact hbefore
    · rw [← List.mem_singleton.mp hlast] at hmakes
      cases hmakes
  refine ⟨?_, ?_, ?_, ?_, ?_, ?_⟩
  · rw [hcall, tokensMade_append, tokensMade_singleton, hmakes, ← h.size]
    exact Array.size_push _
  · intro token other htoken
    rw [hcall]
    rcases hcases token other htoken with ⟨-, hother⟩ | hbefore
    · exact hflagged other (Or.inr hother)
    · exact hflagged other (Or.inl (h.flagged token other hbefore))
  · intro original copy hcloned
    rcases hcloned.of_append_singleton with hbefore | ⟨hlast, rfl⟩
    · obtain ⟨other, hfirst, hsecond⟩ := h.cloned original copy hbefore
      exact ⟨other, hold _ _ hfirst, hold _ _ hsecond⟩
    · exact ⟨family, hold _ _ (horiginal original hlast), hnew⟩
  · intro first second other hfirst hsecond
    rcases hcases first other hfirst with ⟨rfl, rfl⟩ | hfirst <;>
      rcases hcases second _ hsecond with ⟨rfl, hother⟩ | hsecond
    · exact .refl _
    · exact .symm _ _ (hjoined second hsecond)
    · exact hjoined first (hother ▸ hfirst)
    · exact (h.joined first second other hfirst hsecond).mono [call]
  · intro token hmem
    obtain ⟨other, htoken⟩ := h.cancelled token (hcancelled token hmem)
    exact ⟨other, hold _ _ htoken⟩
  · intro other
    rw [show (tokens.call call).flags = flags by rw [hcall], hraised, h.raised]
    constructor
    · rintro ⟨token, hmem, htoken⟩
      exact ⟨token, List.mem_append_left _ hmem, hold _ _ htoken⟩
    · rintro ⟨token, hmem, htoken⟩
      have hbefore := hcancelled token hmem
      obtain ⟨known, hknown⟩ := h.cancelled token hbefore
      have hsame := (hold _ _ hknown).symm.trans htoken
      exact ⟨token, hbefore, hsame ▸ hknown⟩

/-- A token of its own family is made. -/
theorem Tokens.Records.create (h : tokens.Records history) :
    (tokens.call (.operation .create)).Records (history ++ [.operation .create]) := by
  refine h.push (tokens.flags.push false) rfl rfl ?_ ?_ nofun ?_
  · intro other hother
    rw [Array.size_push]
    omega
  · intro other
    rw [Array.getElem?_push]
    split_ifs with hlast
    · simp [hlast]
    · rfl
  · intro other hother
    exact absurd (h.flagged other _ hother) (Nat.lt_irrefl _)

/-- A token of the family of another is made. -/
theorem Tokens.Records.clone (h : tokens.Records history)
    (htoken : tokens.familyOf? token = some family) :
    (tokens.call (.operation (.clone token))).Records
      (history ++ [.operation (.clone token)]) := by
  refine h.push tokens.flags rfl (Tokens.call_clone htoken) ?_ (fun _ ↦ Iff.rfl) ?_ ?_
  · rintro other (hother | rfl)
    · exact hother
    · exact h.flagged token other htoken
  · intro original horiginal
    cases horiginal
    exact htoken
  · intro other hother
    exact .trans _ token _ ((h.joined other token family hother htoken).mono _)
      (.rel _ _ ⟨history, [], rfl, rfl⟩)

/-- Assumes: a call that makes no token. If it cancels one, the flag of its family is raised, and no
other flag. -/
theorem Tokens.Records.keep (h : tokens.Records history) (flags : Array Bool)
    (hmakes : call.makes = false) (hsize : flags.size = tokens.flags.size)
    (hcancelled : ∀ token, call = .operation (.cancel token) →
      ∃ family, tokens.familyOf? token = some family)
    (hraised : ∀ family : Nat, flags[family]? = some true ↔ tokens.flags[family]? = some true ∨
      ∃ token, call = .operation (.cancel token) ∧ tokens.familyOf? token = some family) :
    Tokens.Records ⟨tokens.families, flags⟩ (history ++ [call]) := by
  have hcalls : ∀ token, .operation (.cancel token) ∈ history ++ [call] ↔
      .operation (.cancel token) ∈ history ∨ call = .operation (.cancel token) := by
    intro token
    rw [List.mem_append, List.mem_singleton, eq_comm (a := call)]
  refine ⟨?_, ?_, ?_, ?_, ?_, ?_⟩
  · rw [tokensMade_append, tokensMade_singleton, hmakes, ← h.size]
    rfl
  · intro token family htoken
    exact hsize ▸ h.flagged token family htoken
  · intro original copy hcloned
    rcases hcloned.of_append_singleton with hbefore | ⟨rfl, -⟩
    · exact h.cloned original copy hbefore
    · cases hmakes
  · intro first second family hfirst hsecond
    exact (h.joined first second family hfirst hsecond).mono _
  · intro token hmem
    exact ((hcalls token).mp hmem).elim (h.cancelled token) (hcancelled token)
  · intro family
    rw [hraised, h.raised]
    simp only [hcalls, or_and_right, exists_or]
    rfl

/-- The flag of a family is raised. -/
theorem Tokens.Records.cancel (h : tokens.Records history)
    (htoken : tokens.familyOf? token = some family) :
    (tokens.call (.operation (.cancel token))).Records
      (history ++ [.operation (.cancel token)]) := by
  rw [Tokens.call_cancel htoken]
  refine h.keep _ rfl (Array.size_setIfInBounds ..) ?_ ?_
  · intro other hother
    cases hother
    exact ⟨family, htoken⟩
  · intro known
    have hlast : (∃ other, TokenCall.operation (.cancel token) = .operation (.cancel other) ∧
        tokens.familyOf? other = some known) ↔ family = known := by
      constructor
      · rintro ⟨other, hother, hknown⟩
        cases hother
        exact Option.some.inj (htoken.symm.trans hknown)
      · rintro rfl
        exact ⟨token, rfl, htoken⟩
    rw [hlast, Array.getElem?_setIfInBounds]
    split_ifs with hsame hin
    · exact iff_of_true rfl (Or.inr hsame)
    · exact absurd (h.flagged token family htoken) hin
    · exact (or_iff_left hsame).symm

/-- Every call of a sound history keeps the record right. -/
theorem Tokens.Records.step (h : tokens.Records history)
    (hmade : ∀ token, call.token? = some token → token < tokensMade history) :
    (tokens.call call).Records (history ++ [call]) := by
  cases call with
  | inquiry token =>
    refine h.keep tokens.flags rfl rfl nofun fun family ↦ ?_
    exact (or_iff_left fun ⟨_, hother, _⟩ ↦ by cases hother).symm
  | operation event =>
    cases event with
    | create => exact h.create
    | clone token =>
      obtain ⟨family, htoken⟩ := h.exists_family (hmade token rfl)
      exact h.clone htoken
    | cancel token =>
      obtain ⟨family, htoken⟩ := h.exists_family (hmade token rfl)
      exact h.cancel htoken

/-- The tokens after a sound history record it. -/
theorem Tokens.records_after (hsound : soundFrom 0 history = true) :
    (Tokens.after history).Records history := by
  induction history using List.reverseRecOn with
  | nil => exact Tokens.records_empty
  | append_singleton history call ih =>
    rw [Tokens.after_append]
    refine (ih (soundFrom_of_append hsound)).step ?_
    intro token htoken
    exact lt_tokensMade_of_soundFrom hsound htoken

/-- A family that was recorded stays. -/
theorem Tokens.familyOf?_call (h : tokens.familyOf? token = some family) (call : TokenCall) :
    (tokens.call call).familyOf? token = some family := by
  have hpush := fun flags known ↦ tokens.familyOf?_push flags known token
  simp only [if_neg (Tokens.ne_size_of_familyOf? h), h] at hpush
  cases call with
  | inquiry other => exact h
  | operation event =>
    cases event with
    | create => exact hpush _ _
    | clone other =>
      change (tokens.clone other).familyOf? token = some family
      unfold Tokens.clone
      split
      · exact hpush _ _
      · exact h
    | cancel other =>
      change (tokens.cancel other).2.familyOf? token = some family
      unfold Tokens.cancel
      split <;> exact h

theorem Tokens.familyOf?_foldl (h : tokens.familyOf? token = some family)
    (calls : List TokenCall) : (calls.foldl Tokens.call tokens).familyOf? token = some family := by
  induction calls generalizing tokens with
  | nil => exact h
  | cons call rest ih => exact ih (Tokens.familyOf?_call h call)

end Records

/-! ### Who sees a cancellation -/

/-- A token of the family of a token was cancelled in the first calls of a history. -/
def CancelledIn (history before : List TokenCall) (token : Nat) : Prop :=
  ∃ other, .operation (.cancel other) ∈ before ∧ SameFamily history token other

section Cancellations

variable {before rest : List TokenCall} {token : Nat}

/-- Tokens that exist are connected in a history if and only if they are so far. -/
theorem Tokens.sameFamily_append_iff (hsound : soundFrom 0 (before ++ rest) = true) {family : Nat}
    (htoken : (Tokens.after before).familyOf? token = some family) {other : Nat}
    (hother : other < tokensMade before) :
    SameFamily (before ++ rest) token other ↔
      (Tokens.after before).familyOf? other = some family := by
  obtain ⟨known, hknown⟩ :=
    (Tokens.records_after (soundFrom_of_append hsound)).exists_family hother
  have hstays := fun {token family : Nat}
      (h : (Tokens.after before).familyOf? token = some family) ↦ Tokens.familyOf?_foldl h rest
  rw [← Tokens.after_append] at hstays
  rw [(Tokens.records_after hsound).sameFamily_iff (hstays htoken), hstays hknown, hknown]

/-- A token is cancelled exactly where some token of its family was. -/
theorem Tokens.isCancelled_after_iff (hsound : soundFrom 0 (before ++ rest) = true)
    (htoken : token < tokensMade before) :
    (Tokens.after before).isCancelled token = true ↔ CancelledIn (before ++ rest) before token := by
  have hrecords := Tokens.records_after (soundFrom_of_append hsound)
  obtain ⟨family, hfamily⟩ := hrecords.exists_family htoken
  rw [Tokens.isCancelled_iff hfamily, hrecords.raised]
  unfold CancelledIn
  refine exists_congr fun other ↦ and_congr_right fun hmem ↦ ?_
  obtain ⟨known, hknown⟩ := hrecords.cancelled other hmem
  have hother : other < tokensMade before := by
    rw [← hrecords.size]
    exact (Array.getElem?_eq_some_iff.mp hknown).1
  exact (Tokens.sameFamily_append_iff hsound hfamily hother).symm

theorem answer?_inquiry (tokens : Tokens) (token : Nat) :
    tokens.answer? (.inquiry token) = some true ↔ tokens.isCancelled token = true :=
  Option.some_inj

/-- A cancellation is told that it was what cancelled the token if the token was not cancelled. -/
theorem Tokens.Records.answer?_cancel {tokens : Tokens} (h : tokens.Records before)
    (htoken : token < tokensMade before) :
    tokens.answer? (.operation (.cancel token)) = some true ↔
      ¬ tokens.isCancelled token = true := by
  obtain ⟨family, hfamily⟩ := h.exists_family htoken
  unfold Tokens.answer? Tokens.cancel
  dsimp only
  rw [hfamily]
  simp

/-- Assumes: a history of calls, each on a token that was made before it.

An inquiry finds a token cancelled if and only if a token of its family was cancelled before. A
cancellation is told that it cancelled the token if and only if no token of its family was cancelled
before, so of the cancellations in a family the first one alone. What one inquiry found cancelled,
every later one in the family finds cancelled. And a call changes nothing for a token, unless it
cancels one of its family. -/
theorem Tokens.cancellation_shared {history : List TokenCall}
    (hsound : soundFrom 0 history = true) :
    (∀ before token after, history = before ++ .inquiry token :: after →
      ((Tokens.after before).answer? (.inquiry token) = some true ↔
        CancelledIn history before token)) ∧
    (∀ before token after, history = before ++ .operation (.cancel token) :: after →
      ((Tokens.after before).answer? (.operation (.cancel token)) = some true ↔
        ¬ CancelledIn history before token)) ∧
    (∀ before token middle other after,
      history = before ++ .inquiry token :: (middle ++ .inquiry other :: after) →
      SameFamily history token other →
      (Tokens.after before).answer? (.inquiry token) = some true →
      (Tokens.after (before ++ .inquiry token :: middle)).answer? (.inquiry other) = some true) ∧
    ∀ before call after token, history = before ++ call :: after → token < tokensMade before →
      (∀ cancelled, call = .operation (.cancel cancelled) → ¬ SameFamily history token cancelled) →
      (Tokens.after (before ++ [call])).isCancelled token =
        (Tokens.after before).isCancelled token := by
  have hinquiry : ∀ before token after, history = before ++ .inquiry token :: after →
      ((Tokens.after before).answer? (.inquiry token) = some true ↔
        CancelledIn history before token) := by
    rintro before token after rfl
    rw [answer?_inquiry]
    exact Tokens.isCancelled_after_iff hsound (lt_tokensMade_of_soundFrom hsound rfl)
  refine ⟨hinquiry, ?_, ?_, ?_⟩
  · rintro before token after rfl
    have htoken := lt_tokensMade_of_soundFrom hsound rfl
    rw [(Tokens.records_after (soundFrom_of_append hsound)).answer?_cancel htoken,
      Tokens.isCancelled_after_iff hsound htoken]
  · intro before token middle other after hsplit hfamily hfound
    obtain ⟨cancelled, hmem, hsame⟩ := (hinquiry before token _ hsplit).mp hfound
    rw [← List.cons_append, ← List.append_assoc] at hsplit
    exact (hinquiry _ other after hsplit).mpr
      ⟨cancelled, List.mem_append_left _ hmem, .trans _ token _ (.symm _ _ hfamily) hsame⟩
  · rintro before call after token rfl htoken hothers
    have hlater : before ++ call :: after = before ++ [call] ++ after := by simp
    have hstill : token < tokensMade (before ++ [call]) := by
      rw [tokensMade_append]
      omega
    rw [Bool.eq_iff_iff, Tokens.isCancelled_after_iff hsound htoken,
      Tokens.isCancelled_after_iff (hlater ▸ hsound) hstill, ← hlater]
    refine exists_congr fun cancelled ↦ and_congr_left fun hsame ↦ ?_
    rw [List.mem_append, List.mem_singleton]
    exact or_iff_left fun hcall ↦ hothers cancelled hcall.symm hsame

/-- Two tokens with a clone of a clone of the first: the cancellation of the one clone is found by
the other one, it leaves the second token as it was, and cancelling the first token is told that it
came too late. -/
theorem Tokens.cancellation_shared_clones :
    let history : List TokenCall :=
      [.operation .create, .operation .create, .operation (.clone 0), .operation (.clone 2),
        .operation (.cancel 2), .inquiry 3, .operation (.cancel 0), .inquiry 1]
    soundFrom 0 history = true ∧
      (Tokens.after (history.take 5)).answer? (.inquiry 3) = some true ∧
      (Tokens.after (history.take 6)).answer? (.operation (.cancel 0)) ≠ some true ∧
      (Tokens.after (history.take 5)).isCancelled 1 =
        (Tokens.after (history.take 4)).isCancelled 1 ∧
      ¬ SameFamily history 1 2 := by
  intro history
  have hsound : soundFrom 0 history = true := by decide
  have hfirst : ClonedFrom history 0 2 := ⟨history.take 2, history.drop 3, rfl, rfl⟩
  have hsecond : ClonedFrom history 2 3 := ⟨history.take 3, history.drop 4, rfl, rfl⟩
  have hapart : ¬ SameFamily history 1 2 := by
    intro hfamily
    have hequal := (Tokens.records_after hsound).familyOf?_eq hfamily
    exact absurd hequal (by decide)
  obtain ⟨hinquiry, hcancel, -, hothers⟩ := Tokens.cancellation_shared hsound
  refine ⟨hsound, ?_, ?_, ?_, hapart⟩
  · exact (hinquiry (history.take 5) 3 (history.drop 6) rfl).mpr
      ⟨2, by decide, .symm _ _ (.rel _ _ hsecond)⟩
  · rw [ne_eq, hcancel (history.take 6) 0 (history.drop 7) rfl, not_not]
    exact ⟨2, by decide, .rel _ _ hfirst⟩
  · refine hothers (history.take 4) (.operation (.cancel 2)) (history.drop 5) 1 rfl (by decide) ?_
    intro cancelled hcall
    cases hcall
    exact hapart

end Cancellations

end LiveBoard.Viewer
