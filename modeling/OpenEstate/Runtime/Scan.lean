/-
**Scanning a text for tokens.**

A text is read from the left. Where a token begins, the token is taken and reading goes on behind it;
elsewhere an item is taken as it is. What a reader takes for a token is never empty, so reading ends.

* `Reader.Scans` relates a text to the pieces it is read as; `Reader.Scans.unique`: there is only one
  way to read a text;
* `Reader.pieces` computes them: `Reader.pieces_scans`;
* `tokens` and `substitute`: the tokens of a text, and the text with every token replaced once.
-/

import Mathlib.Data.List.TakeWhile

namespace Runtime

variable {α β : Type}

/-- What a text is read as: an item as it is, or a token with the items it was read from. -/
inductive Piece (α β : Type)
  | plain (item : α)
  | token (value : β) (source : List α)

/-- What reads a token at the beginning of a text: its value, and what follows it. -/
structure Reader (α β : Type) where
  read : List α → Option (β × List α)
  read_eq : ∀ {text value rest}, read text = some (value, rest) →
    ∃ source, source ≠ [] ∧ text = source ++ rest

def Piece.value? : Piece α β → Option β
  | .plain _ => none
  | .token value _ => some value

def Piece.replaced (replace : β → List α) : Piece α β → List α
  | .plain item => [item]
  | .token value _ => replace value

def tokens (pieces : List (Piece α β)) : List β :=
  pieces.filterMap Piece.value?

def substitute (replace : β → List α) (pieces : List (Piece α β)) : List α :=
  pieces.flatMap (Piece.replaced replace)

@[simp] theorem substitute_plain (replace : β → List α) (item : α) (pieces : List (Piece α β)) :
    substitute replace (.plain item :: pieces) = item :: substitute replace pieces := rfl

@[simp] theorem substitute_token (replace : β → List α) (value : β) (source : List α)
    (pieces : List (Piece α β)) :
    substitute replace (.token value source :: pieces) =
      replace value ++ substitute replace pieces := rfl

theorem substitute_congr {first second : β → List α} {pieces : List (Piece α β)}
    (same : ∀ value ∈ tokens pieces, first value = second value) :
    substitute first pieces = substitute second pieces := by
  induction pieces with
  | nil => rfl
  | cons piece rest ih =>
    cases piece with
    | plain item => rw [substitute_plain, substitute_plain, ih same]
    | token value source =>
      obtain ⟨here, later⟩ := List.forall_mem_cons.mp same
      rw [substitute_token, substitute_token, here, ih later]

namespace Reader

variable (reader : Reader α β)

/-! ### Reading -/

/-- **A text and the pieces it is read as.** -/
inductive Scans : List α → List (Piece α β) → Prop
  | done : Scans [] []
  | token {source rest : List α} {value : β} {pieces : List (Piece α β)} (some_ : source ≠ [])
      (reads : reader.read (source ++ rest) = some (value, rest)) (follows : Scans rest pieces) :
      Scans (source ++ rest) (.token value source :: pieces)
  | plain {item : α} {rest : List α} {pieces : List (Piece α β)}
      (reads : reader.read (item :: rest) = none) (follows : Scans rest pieces) :
      Scans (item :: rest) (.plain item :: pieces)

variable {reader} {text : List α}

theorem Scans.unique {first second : List (Piece α β)} (scans : reader.Scans text first)
    (other : reader.Scans text second) : first = second := by
  induction scans generalizing second with
  | done =>
    generalize isNil : ([] : List α) = text at other
    cases other with
    | done => rfl
    | token some_ reads follows => exact absurd (List.append_eq_nil_iff.mp isNil.symm).1 some_
    | plain reads follows => cases isNil
  | @token source rest value pieces some_ reads follows ih =>
    generalize same : source ++ rest = text at other
    cases other with
    | done => exact absurd (List.append_eq_nil_iff.mp same).1 some_
    | token otherSome otherReads otherFollows =>
      rw [same, otherReads] at reads
      cases reads
      cases List.append_cancel_right same
      rw [ih otherFollows]
    | plain otherReads otherFollows =>
      rw [same, otherReads] at reads
      cases reads
  | @plain item rest pieces reads follows ih =>
    generalize same : item :: rest = text at other
    cases other with
    | done => cases same
    | token otherSome otherReads otherFollows =>
      rw [same, otherReads] at reads
      cases reads
    | plain otherReads otherFollows =>
      cases same
      rw [ih otherFollows]

/-! ### Computing -/

variable (reader)

def piecesFrom : Nat → List α → List (Piece α β)
  | _, [] => []
  | behind + 1, _ :: rest => piecesFrom behind rest
  | 0, item :: rest =>
    match reader.read (item :: rest) with
    | some (value, after) =>
      .token value ((item :: rest).take (rest.length + 1 - after.length)) ::
        piecesFrom (rest.length - after.length) rest
    | none => .plain item :: piecesFrom 0 rest

def pieces (text : List α) : List (Piece α β) :=
  reader.piecesFrom 0 text

theorem piecesFrom_eq_pieces (behind : Nat) (text : List α) :
    reader.piecesFrom behind text = reader.pieces (text.drop behind) := by
  induction text generalizing behind with
  | nil => cases behind <;> rfl
  | cons item rest ih =>
    cases behind with
    | zero => rfl
    | succ behind =>
      rw [piecesFrom, ih, List.drop_succ_cons]

variable {reader}

theorem pieces_of_read_eq_some {source rest : List α} {value : β} (some_ : source ≠ [])
    (reads : reader.read (source ++ rest) = some (value, rest)) :
    reader.pieces (source ++ rest) = .token value source :: reader.pieces rest := by
  cases source with
  | nil => exact absurd rfl some_
  | cons item tail =>
    have behind : (tail ++ rest).length - rest.length = tail.length := by
      rw [List.length_append]
      omega
    have taken : (tail ++ rest).length + 1 - rest.length = (item :: tail).length := by
      rw [List.length_append, List.length_cons]
      omega
    rw [List.cons_append] at reads ⊢
    rw [pieces, piecesFrom, reads]
    dsimp only
    rw [behind, taken, piecesFrom_eq_pieces, List.drop_left, ← List.cons_append, List.take_left]

theorem pieces_of_read_eq_none {item : α} {rest : List α}
    (reads : reader.read (item :: rest) = none) :
    reader.pieces (item :: rest) = .plain item :: reader.pieces rest := by
  rw [pieces, piecesFrom, reads]
  rfl

theorem pieces_scans (reader : Reader α β) (text : List α) :
    reader.Scans text (reader.pieces text) := by
  induction size : text.length using Nat.strongRecOn generalizing text with
  | _ size ih =>
    subst size
    cases text with
    | nil => exact .done
    | cons item tail =>
      cases reads : reader.read (item :: tail) with
      | none =>
        rw [pieces_of_read_eq_none reads]
        exact .plain reads (ih _ (Nat.lt_succ_self _) tail rfl)
      | some answer =>
        obtain ⟨value, rest⟩ := answer
        obtain ⟨source, some_, same⟩ := reader.read_eq reads
        rw [same] at reads ih ⊢
        rw [pieces_of_read_eq_some some_ reads]
        have shorter : rest.length < (source ++ rest).length := by
          rw [List.length_append]
          have positive := List.length_pos_iff.mpr some_
          omega
        exact .token some_ reads (ih _ shorter rest rfl)

end Reader

end Runtime
