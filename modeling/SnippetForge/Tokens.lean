/-!
# Cancellation tokens

A token is fired once and stays fired. A token may be the child of another one: it then counts as
fired as soon as its parent does, while firing the child leaves the parent as it was. Tokens are
numbers into a table that only grows, and a parent has a smaller number than its children.
-/

namespace SnippetForge

/-- The number of a token. -/
abbrev TokenId := Nat

/-- What the table knows about a token. -/
structure TokenState where
  parent : Option TokenId
  fired : Bool
  deriving DecidableEq, Repr

/-- All tokens there are. -/
structure Tokens where
  states : List TokenState
  deriving DecidableEq, Repr

namespace Tokens

/-- No token. -/
def none : Tokens := ⟨[]⟩

/-- The table with a new token in it, and the number of that token. -/
def add (t : Tokens) (parent : Option TokenId) : Tokens × TokenId :=
  (⟨t.states ++ [⟨parent, false⟩]⟩, t.states.length)

/-- Fires a token. -/
def fire (t : Tokens) (id : TokenId) : Tokens :=
  match t.states[id]? with
  | some state => ⟨t.states.set id { state with fired := true }⟩
  | .none => t

/-- Whether a token or one of its next few ancestors has been fired. -/
def isFiredWithin (t : Tokens) : (generations : Nat) → TokenId → Bool
  | 0, _ => false
  | generations + 1, id =>
    match t.states[id]? with
    | .none => false
    | some state =>
      state.fired ||
        match state.parent with
        | some parent => isFiredWithin t generations parent
        | .none => false

/-- Whether a token counts as fired. -/
def isFired (t : Tokens) (id : TokenId) : Bool :=
  t.isFiredWithin t.states.length id

end Tokens

end SnippetForge
