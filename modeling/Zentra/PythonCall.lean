import Mathlib.Data.List.Basic

/-!
# Calls of functions

The arguments of a call are bound to the parameters of the function before its body runs.  Some
parameters can be given by position, some only by name, and none has a default here.

* `Signature.bind` — the local variables that the body starts with;
* `bind_raises` — a call with too many arguments by position binds nothing.
-/

namespace PythonCall

/-- The parameters of a function, after the receiver. -/
structure Signature where
  positional : List String
  keywordOnly : List String := []
  deriving DecidableEq, Repr

/-- Why a call fails before the body runs, and a variable that the body cannot read. -/
inductive CallError
  | unexpectedKeyword (name : String)
  | multipleValues (name : String)
  | tooManyPositional (takes given : Nat)
  | missing (names : List String)
  | unboundLocal (name : String)
  deriving DecidableEq, Repr

variable {α : Type}

def Signature.names (signature : Signature) : List String :=
  signature.positional ++ signature.keywordOnly

/-- The arguments by position and by name, as the variables of the body. -/
def Signature.bind (signature : Signature) (positional : List α)
    (keywords : List (String × α)) : Except CallError (List (String × α)) :=
  let placed := signature.positional.zip positional
  let bound := placed ++ keywords
  match keywords.find? fun keyword => keyword.1 ∉ signature.names with
  | some (name, _) => .error (.unexpectedKeyword name)
  | none =>
      match keywords.find? fun keyword => keyword.1 ∈ placed.map Prod.fst with
      | some (name, _) => .error (.multipleValues name)
      | none =>
          if signature.positional.length < positional.length then
            .error (.tooManyPositional signature.positional.length positional.length)
          else
            match signature.names.filter fun name => name ∉ bound.map Prod.fst with
            | [] => .ok bound
            | names => .error (.missing names)

def read (locals : List (String × α)) (name : String) : Except CallError α :=
  match locals.lookup name with
  | some value => .ok value
  | none => .error (.unboundLocal name)

/-- **Too many arguments** by position: whatever the names, the body does not run. -/
theorem bind_raises {signature : Signature} {positional : List α}
    {keywords : List (String × α)} (h : signature.positional.length < positional.length) :
    ∃ error, signature.bind positional keywords = .error error := by
  unfold Signature.bind
  dsimp only
  split
  · exact ⟨_, rfl⟩
  · split
    · exact ⟨_, rfl⟩
    · rw [if_pos h]
      exact ⟨_, rfl⟩

end PythonCall
