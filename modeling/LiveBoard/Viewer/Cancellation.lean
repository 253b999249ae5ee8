/-!
# Cancellation

A cancel token is a one-shot flag shared by all its clones: any of them sets it, all of them see it,
and it is never cleared. `Tokens` holds all tokens in the order of their creation; clones share a
family, whose flag is raised by the first cancellation. Every operation is one atomic step, so a
history of operations, by whichever threads, is a sequence of them.
-/

set_option autoImplicit false
set_option relaxedAutoImplicit false

namespace LiveBoard.Viewer

/-- The tokens that exist: the family of each, and the flag of each family. -/
structure Tokens where
  /-- The family of each token, in the order of creation. -/
  families : Array Nat
  /-- Whether each family is cancelled. -/
  flags : Array Bool
  deriving DecidableEq, Repr

/-- An operation on tokens, which are named by their position. -/
inductive TokenEvent
  /-- Makes a token of a family of its own. -/
  | create
  /-- Makes another token of the family of a token. -/
  | clone (token : Nat)
  /-- Cancels a token. -/
  | cancel (token : Nat)
  deriving DecidableEq, Repr

/-- No token. -/
def Tokens.empty : Tokens := ⟨#[], #[]⟩

/-- The family of a token. -/
def Tokens.familyOf? (tokens : Tokens) (token : Nat) : Option Nat := tokens.families[token]?

/-- Whether a token is cancelled. -/
def Tokens.isCancelled (tokens : Tokens) (token : Nat) : Bool :=
  ((tokens.familyOf? token).bind fun family ↦ tokens.flags[family]?).getD false

/-- Makes a token of a family of its own. -/
def Tokens.create (tokens : Tokens) : Tokens :=
  ⟨tokens.families.push tokens.flags.size, tokens.flags.push false⟩

/-- Makes another token of the family of a token. -/
def Tokens.clone (tokens : Tokens) (token : Nat) : Tokens :=
  match tokens.familyOf? token with
  | some family => { tokens with families := tokens.families.push family }
  | none => tokens

/-- Cancels a token, and tells whether this was what cancelled it. -/
def Tokens.cancel (tokens : Tokens) (token : Nat) : Bool × Tokens :=
  match tokens.familyOf? token with
  | some family =>
    (!tokens.isCancelled token, { tokens with flags := tokens.flags.setIfInBounds family true })
  | none => (false, tokens)

/-- The tokens after an operation. -/
def Tokens.step (tokens : Tokens) : TokenEvent → Tokens
  | .create => tokens.create
  | .clone token => tokens.clone token
  | .cancel token => (tokens.cancel token).2

/-- Whether each token is cancelled. -/
def Tokens.observed (tokens : Tokens) : List Bool :=
  (List.range tokens.families.size).map tokens.isCancelled

end LiveBoard.Viewer
