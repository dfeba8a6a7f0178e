import SlideDeck.Proofs.Reader.Effects
import Mathlib.Logic.Relation

/-!
# Runs of a reader

Reading a list of tokens is a run of steps (`Draft.Run`), one for each lexeme that is no argument of
the one before it. It goes through to the end, or it stops at a token whose lexeme fails; from that
token on the tokens are left unread (`Draft.unread`). `run_of_readFrom` says this once, so that what
holds of a draft after reading can be shown for one step at a time (`Run.preserves`).
-/

namespace SlideDeck.Draft

variable {around : Surroundings} {d d' : Draft}

/-- The tokens that are left when reading ends: none if it succeeds, and otherwise those from the one
on at which it fails. The first tokens of the list are arguments already taken. -/
def unreadFrom (around : Surroundings) : Nat → Draft → List Token → List Token
  | _, _, [] => []
  | taken + 1, d, _ :: rest => unreadFrom around taken d rest
  | 0, d, t :: rest =>
    match apply around d t.lexeme ((rest.take windowSize).map Token.lexeme) with
    | (_, .error _) => t :: rest
    | (d, .ok taken) => unreadFrom around taken d rest

/-- The tokens that are left when reading ends, the one at which it fails first. -/
def unread (around : Surroundings) (d : Draft) (tokens : List Token) : List Token :=
  unreadFrom around 0 d tokens

/-- Steps of tokens of a list, one after the other. -/
def Run (around : Surroundings) (tokens : List Token) : Draft → Draft → Prop :=
  Relation.ReflTransGen fun d d' => ∃ t ∈ tokens, Step around t.lexeme d d'

namespace Run

variable {tokens : List Token}

/-- What every step of a run preserves, the run preserves. -/
theorem preserves {P : Draft → Prop} (run : Run around tokens d d')
    (step : ∀ t ∈ tokens, ∀ {a b}, Step around t.lexeme a b → P a → P b) (start : P d) : P d' := by
  induction run with
  | refl => exact start
  | tail _ last ih =>
    obtain ⟨t, mem, made⟩ := last
    exact step t mem made ih

/-- A run of tokens is one of more tokens. -/
theorem cons (run : Run around tokens d d') (t : Token) : Run around (t :: tokens) d d' :=
  Relation.ReflTransGen.mono
    (fun _ _ ⟨other, mem, made⟩ => ⟨other, List.mem_cons_of_mem t mem, made⟩) _ _ run

end Run

/-- How reading ends, after a run to the given draft: with all tokens read, or at one of them, whose
lexeme fails on that draft. -/
inductive Ends (around : Surroundings) (tokens : List Token) (d : Draft) :
    Draft × Except Failure Unit → List Token → Prop where
  | read : Ends around tokens d (d, .ok ()) []
  | failed {t : Token} {rest : List Token} {window : List Lexeme} {d' : Draft} {failure : Failure}
    (mem : t ∈ tokens) (fails : apply around d t.lexeme window = (d', .error failure)) :
    Ends around tokens d (d', .error (failure.attach t)) (t :: rest)

theorem Ends.cons {tokens left : List Token} {outcome : Draft × Except Failure Unit}
    (h : Ends around tokens d outcome left) (t : Token) :
    Ends around (t :: tokens) d outcome left := by
  cases h with
  | read => exact .read
  | failed mem fails => exact .failed (List.mem_cons_of_mem t mem) fails

/-- **Reading is a run of steps up to its end**, by induction on the tokens. -/
theorem run_of_readFrom (around : Surroundings) (tokens : List Token) (taken : Nat) (d : Draft) :
    ∃ d', Run around tokens d d' ∧
      Ends around tokens d' (readFrom around taken d tokens) (unreadFrom around taken d tokens) := by
  induction tokens generalizing taken d with
  | nil => exact ⟨d, .refl, .read⟩
  | cons t rest ih =>
    cases taken with
    | succ taken =>
      -- The token is an argument that has been taken already, and makes no step.
      obtain ⟨d', run, ends⟩ := ih taken d
      exact ⟨d', run.cons t, ends.cons t⟩
    | zero =>
      simp only [readFrom, unreadFrom]
      cases made : apply around d t.lexeme ((rest.take windowSize).map Token.lexeme) with
      | mk next outcome =>
        cases outcome with
        | error failure => exact ⟨d, .refl, .failed List.mem_cons_self made⟩
        | ok count =>
          obtain ⟨d', run, ends⟩ := ih count next
          exact ⟨d', .head ⟨t, List.mem_cons_self, step_of_apply made⟩ (run.cons t), ends.cons t⟩

end SlideDeck.Draft
