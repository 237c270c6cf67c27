/-
**Windows of a text.**

A window begins and ends with an item of a kind, and is next to none of that kind. Windows may
overlap: one is looked for at every place. Those that are replaced are taken from the left, without
the ones that overlap one taken.

* `Frame.windows` lists the windows of a text, and `taken` those that are taken;
* `Frame.pieces` breaks the text into these and the items between them: `Frame.tokens_pieces`;
* `Frame.Cuts.clear_covered_iff`: in which texts no window is left when each of the windows taken is
  replaced by a cover and some items of its kind.
-/

import OpenEstate.Runtime.Scan

namespace Runtime

variable {α : Type}

/-- What reads a window at the beginning of a text. What follows a window matters by its first item
only. -/
structure Frame (α : Type) where
  edge : α → Bool
  inner : α → Bool
  read : List α → Option (List α)
  read_eq : ∀ {text window}, read text = some window →
    ∃ rest, text = window ++ rest ∧ rest.head?.any edge = false
  read_inner : ∀ {text window}, read text = some window → ∀ item ∈ window, inner item = true
  read_edges : ∀ {text window}, read text = some window →
    window.head?.any edge = true ∧ window.getLast?.any edge = true
  read_congr : ∀ {window rest other}, read (window ++ rest) = some window →
    other.head?.any edge = false → read (window ++ other) = some window

abbrev Cut (α : Type) : Type := Piece α (Nat × List α)

def Piece.source {β : Type} : Piece α β → List α
  | .plain item => [item]
  | .token _ source => source

/-- The windows that are taken, from the left: none that begins before the end of the last one. -/
def taken : Nat → List (Nat × List α) → List (Nat × List α)
  | _, [] => []
  | cursor, (place, window) :: rest =>
    if place < cursor then taken cursor rest
    else (place, window) :: taken (place + window.length) rest

theorem taken_sublist (cursor : Nat) (windows : List (Nat × List α)) :
    (taken cursor windows).Sublist windows := by
  induction windows generalizing cursor with
  | nil => exact .slnil
  | cons first rest ih =>
    obtain ⟨place, window⟩ := first
    rw [taken]
    split
    · exact (ih cursor).cons _
    · exact (ih _).cons_cons _

namespace Frame

variable (frame : Frame α)

def readAfter (before : Option α) (text : List α) : Option (List α) :=
  if before.any frame.edge then none else frame.read text

def windows : Option α → Nat → List α → List (Nat × List α)
  | _, _, [] => []
  | before, place, item :: rest =>
    ((frame.readAfter before (item :: rest)).toList.map fun window => (place, window)) ++
      windows (some item) (place + 1) rest

/-- The pieces of a text of which some items belong to a window taken before. -/
def piecesFrom : Option α → Nat → Nat → List α → List (Cut α)
  | _, _, _, [] => []
  | _, place, behind + 1, item :: rest => piecesFrom (some item) (place + 1) behind rest
  | before, place, 0, item :: rest =>
    match frame.readAfter before (item :: rest) with
    | some window => .token (place, window) window ::
        piecesFrom (some item) (place + 1) (window.length - 1) rest
    | none => .plain item :: piecesFrom (some item) (place + 1) 0 rest

def pieces (text : List α) : List (Cut α) := frame.piecesFrom none 0 0 text

/-- **A text and its pieces**, from the left: a window wherever one begins, and an item where none
does. -/
inductive Cuts : Option α → Nat → List α → List (Cut α) → Prop
  | done {before : Option α} {place : Nat} : Cuts before place [] []
  | token {before : Option α} {place : Nat} {window rest : List α} {pieces : List (Cut α)}
      (reads : frame.readAfter before (window ++ rest) = some window)
      (follows : Cuts window.getLast? (place + window.length) rest pieces) :
      Cuts before place (window ++ rest) (.token (place, window) window :: pieces)
  | plain {before : Option α} {place : Nat} {item : α} {rest : List α} {pieces : List (Cut α)}
      (reads : frame.readAfter before (item :: rest) = none)
      (follows : Cuts (some item) (place + 1) rest pieces) :
      Cuts before place (item :: rest) (.plain item :: pieces)

def Clear : Option α → List α → Prop
  | _, [] => True
  | before, item :: rest =>
    frame.readAfter before (item :: rest) = none ∧ Clear (some item) rest

variable {frame} {before : Option α} {place : Nat} {text window rest : List α}

theorem getLast?_or (item : α) (list : List α) (before : Option α) :
    (item :: list).getLast?.or before = list.getLast?.or (some item) := by
  rw [List.getLast?_cons]
  cases list.getLast? <;> rfl

/-! ### Reading -/

theorem readAfter_eq_some : frame.readAfter before text = some window ↔
    before.any frame.edge = false ∧ frame.read text = some window := by
  unfold readAfter
  split
  · rename_i edge
    simp [edge]
  · rename_i noEdge
    simp [eq_false_of_ne_true noEdge]

theorem ne_nil_of_read (reads : frame.read text = some window) : window ≠ [] := by
  rintro rfl
  have first := (frame.read_edges reads).1
  cases first

theorem read_eq_none_of_head (other : text.head?.any frame.edge = false) : frame.read text = none := by
  cases reads : frame.read text with
  | none => rfl
  | some window =>
    obtain ⟨rest, rfl, _⟩ := frame.read_eq reads
    have first := (frame.read_edges reads).1
    cases window with
    | nil => cases first
    | cons item window =>
      have first : frame.edge item = true := first
      have other : frame.edge item = false := other
      rw [first] at other
      cases other

theorem readAfter_eq_none_of_head (other : text.head?.any frame.edge = false) :
    frame.readAfter before text = none := by
  unfold readAfter
  split
  · rfl
  · exact read_eq_none_of_head other

theorem windows_eq_nil : frame.windows before place text = [] ↔ frame.Clear before text := by
  induction text generalizing before place with
  | nil => simp [windows, Clear]
  | cons item rest ih =>
    rw [windows, Clear, List.append_eq_nil_iff, ih]
    cases frame.readAfter before (item :: rest) with
    | none => simp
    | some window => simp

/-! ### Pieces -/

theorem tokens_piecesFrom (cursor : Nat) :
    tokens (frame.piecesFrom before place (cursor - place) text) =
      taken cursor (frame.windows before place text) := by
  induction text generalizing before place cursor with
  | nil => cases cursor - place <;> rfl
  | cons item rest ih =>
    rw [windows]
    cases isBehind : cursor - place with
    | succ behind =>
      have early : place < cursor := by omega
      have next : behind = cursor - (place + 1) := by omega
      rw [piecesFrom, next, ih]
      cases frame.readAfter before (item :: rest) with
      | none => rfl
      | some window =>
        show _ = taken cursor ((place, window) :: frame.windows (some item) (place + 1) rest)
        rw [taken, if_pos early]
    | zero =>
      have reached : ¬place < cursor := by omega
      rw [piecesFrom]
      cases reads : frame.readAfter before (item :: rest) with
      | none =>
        have next : 0 = cursor - (place + 1) := by omega
        show tokens (frame.piecesFrom (some item) (place + 1) 0 rest) = _
        rw [next, ih]
        rfl
      | some window =>
        have positive := List.length_pos_iff.mpr (ne_nil_of_read (readAfter_eq_some.mp reads).2)
        have next : window.length - 1 = place + window.length - (place + 1) := by omega
        show (place, window) ::
          tokens (frame.piecesFrom (some item) (place + 1) (window.length - 1) rest) =
            taken cursor ((place, window) :: frame.windows (some item) (place + 1) rest)
        rw [taken, if_neg reached, next, ih]

theorem tokens_pieces (text : List α) :
    tokens (frame.pieces text) = taken 0 (frame.windows none 0 text) :=
  tokens_piecesFrom 0

theorem piecesFrom_cuts (behind : Nat) : frame.Cuts ((text.take behind).getLast?.or before)
    (place + min behind text.length) (text.drop behind)
    (frame.piecesFrom before place behind text) := by
  induction text generalizing before place behind with
  | nil =>
    rw [List.drop_nil]
    cases behind <;> exact .done
  | cons item rest ih =>
    have moved : ∀ behind, place + min (behind + 1) (item :: rest).length =
        place + 1 + min behind rest.length := by
      intro behind
      rw [List.length_cons]
      omega
    cases behind with
    | succ behind =>
      rw [piecesFrom, List.take_succ_cons, getLast?_or, moved, List.drop_succ_cons]
      exact ih behind
    | zero =>
      rw [piecesFrom]
      cases reads : frame.readAfter before (item :: rest) with
      | none => exact .plain reads (ih 0)
      | some window =>
        have readHere := (readAfter_eq_some.mp reads).2
        obtain ⟨after, same, _⟩ := frame.read_eq readHere
        obtain ⟨tail, rfl⟩ : ∃ tail, window = item :: tail := by
          cases window with
          | nil => exact absurd rfl (ne_nil_of_read readHere)
          | cons first tail =>
            obtain ⟨rfl, _⟩ := List.cons.inj same
            exact ⟨tail, rfl⟩
        obtain ⟨_, rfl⟩ := List.cons.inj same
        have follows := @ih (some item) (place + 1) tail.length
        have within : min tail.length (tail ++ after).length = tail.length := by simp
        have place_ : place + 1 + tail.length = place + (item :: tail).length := by
          rw [List.length_cons]
          omega
        have ends : tail.getLast?.or (some item) = (item :: tail).getLast? := by
          rw [← getLast?_or item tail none, Option.or_none]
        have tailed : tail.append after = tail ++ after := rfl
        rw [tailed, List.take_left, List.drop_left, within, place_, ends] at follows
        exact .token reads follows

theorem pieces_cuts (text : List α) : frame.Cuts none 0 text (frame.pieces text) :=
  piecesFrom_cuts 0

def slice (text : List α) (start stop : Nat) : List α := (text.take stop).drop start

theorem slice_of_le {start stop : Nat} (le : stop ≤ start) : slice text start stop = [] := by
  refine List.drop_eq_nil_of_le ?_
  rw [List.length_take]
  omega

variable {front : List α}

theorem slice_succ {start : Nat} {item : α} (le : start ≤ front.length) :
    slice (front ++ item :: rest) start (front.length + 1) =
      slice (front ++ item :: rest) start front.length ++ [item] := by
  have more : (front ++ item :: rest).take (front.length + 1) = front ++ [item] := by
    rw [List.take_length_add_append]
    rfl
  rw [slice, slice, more, List.take_left, List.drop_append_of_le_length le]

/-- A window is replaced, unless the text has been read beyond where it begins: what is written so far,
and how far the text has been read. -/
def replaceNext (text : List α) (replace : Nat × List α → List α) (done : List α × Nat)
    (token : Nat × List α) : List α × Nat :=
  if token.1 < done.2 then done
  else (done.1 ++ slice text done.2 token.1 ++ replace token, token.1 + token.2.length)

/-- **Windows are replaced one after the other**, and what follows the last one is kept. -/
theorem foldl_windows (replace : Nat × List α → List α) (front out : List α) (cursor : Nat)
    {done : List α × Nat}
    (folds : (frame.windows before front.length text).foldl (replaceNext (front ++ text) replace)
      (out, cursor) = done) :
    done.1 ++ (front ++ text).drop done.2 = out ++ slice (front ++ text) cursor front.length ++
      substitute replace (frame.piecesFrom before front.length (cursor - front.length) text) := by
  induction text generalizing before front out cursor with
  | nil =>
    obtain rfl := folds
    have pieces : frame.piecesFrom before front.length (cursor - front.length) [] = [] := by
      cases cursor - front.length <;> rfl
    simp [windows, pieces, slice, substitute]
  | cons item rest ih =>
    have longer : (front ++ [item]).length = front.length + 1 := List.length_append
    have same : front ++ item :: rest = front ++ [item] ++ rest := by simp
    rw [windows, List.foldl_append] at folds
    cases isBehind : cursor - front.length with
    | succ behind =>
      have early : front.length < cursor := by omega
      have next : behind = cursor - (front ++ [item]).length := by omega
      have skipped : ((frame.readAfter before (item :: rest)).toList.map fun window =>
          (front.length, window)).foldl (replaceNext (front ++ item :: rest) replace) (out, cursor) =
            (out, cursor) := by
        cases frame.readAfter before (item :: rest) with
        | none => rfl
        | some window => exact if_pos early
      rw [skipped, same, ← longer] at folds
      rw [same, ih _ _ _ folds, piecesFrom, slice_of_le early.le,
        slice_of_le (by omega : (front ++ [item]).length ≤ cursor), longer, next, longer]
    | zero =>
      have reached : cursor ≤ front.length := by omega
      rw [piecesFrom]
      cases reads : frame.readAfter before (item :: rest) with
      | none =>
        rw [reads] at folds
        have nothing : cursor - (front ++ [item]).length = 0 := by omega
        have folds : (frame.windows (some item) (front.length + 1) rest).foldl
            (replaceNext (front ++ item :: rest) replace) (out, cursor) = done := folds
        rw [same, ← longer] at folds
        rw [same, ih _ _ _ folds, nothing, ← same, longer, slice_succ reached]
        simp
      | some window =>
        have positive := List.length_pos_iff.mpr (ne_nil_of_read (readAfter_eq_some.mp reads).2)
        have next : front.length + window.length - (front ++ [item]).length = window.length - 1 := by
          omega
        have first : ((frame.readAfter before (item :: rest)).toList.map fun window =>
            (front.length, window)).foldl (replaceNext (front ++ item :: rest) replace) (out, cursor) =
            (out ++ slice (front ++ item :: rest) cursor front.length ++
              replace (front.length, window), front.length + window.length) := by
          rw [reads]
          exact if_neg (not_lt.mpr reached)
        have nothing : slice (front ++ item :: rest) (front.length + window.length)
            (front.length + 1) = [] := slice_of_le (by omega)
        rw [first, same, ← longer] at folds
        rw [same, ih _ _ _ folds, next, longer, ← same, nothing]
        simp

variable {pieces : List (Cut α)}
variable {earlier : List (Cut α)} {token : Nat × List α}
variable {later : List (Cut α)} {source : List α}

theorem Cuts.split (cuts : frame.Cuts before place text (earlier ++ .token token source :: later)) :
    ∃ rest, text = earlier.flatMap Piece.source ++ token.2 ++ rest ∧
      token.1 = place + (earlier.flatMap Piece.source).length ∧
      frame.read (token.2 ++ rest) = some token.2 ∧ source = token.2 ∧
      frame.Cuts token.2.getLast? (token.1 + token.2.length) rest later := by
  induction earlier generalizing before place text with
  | nil =>
    cases cuts with
    | token reads follows => exact ⟨_, rfl, rfl, (readAfter_eq_some.mp reads).2, rfl, follows⟩
  | cons piece earlier ih =>
    cases cuts with
    | @token _ _ window rest _ reads follows =>
      obtain ⟨rest, rfl, at_, whole⟩ := ih follows
      refine ⟨rest, ?_, ?_, whole⟩
      · simp only [List.flatMap_cons, Piece.source, List.append_assoc]
      · rw [at_, List.flatMap_cons, List.length_append, Piece.source]
        omega
    | @plain _ _ item rest _ reads follows =>
      obtain ⟨rest, rfl, at_, whole⟩ := ih follows
      refine ⟨rest, rfl, ?_, whole⟩
      rw [at_, List.flatMap_cons, List.length_append, Piece.source, List.length_singleton]
      omega

theorem Cuts.flatMap_source (cuts : frame.Cuts before place text pieces) :
    pieces.flatMap Piece.source = text := by
  induction cuts with
  | done => rfl
  | token reads follows ih => rw [List.flatMap_cons, ih, Piece.source]
  | plain reads follows ih => rw [List.flatMap_cons, ih, Piece.source, List.singleton_append]

theorem exists_split_of_mem_tokens (member : token ∈ tokens pieces) :
    ∃ earlier source later, pieces = earlier ++ .token token source :: later := by
  obtain ⟨piece, listed, is⟩ := List.mem_filterMap.mp member
  obtain ⟨earlier, later, rfl⟩ := List.append_of_mem listed
  cases piece with
  | plain item => cases is
  | token value source =>
    cases is
    exact ⟨earlier, source, later, rfl⟩

theorem mem_tokens_of_split : token ∈ tokens (earlier ++ .token token source :: later) :=
  List.mem_filterMap.mpr ⟨_, List.mem_append_right _ List.mem_cons_self, rfl⟩

theorem Cuts.le_place (cuts : frame.Cuts before place text pieces)
    (member : token ∈ tokens pieces) : place ≤ token.1 := by
  obtain ⟨earlier, source, later, rfl⟩ := exists_split_of_mem_tokens member
  obtain ⟨_, _, at_, _⟩ := cuts.split
  omega

theorem Cuts.mem_later_iff {other : Nat × List α}
    (cuts : frame.Cuts before place text (earlier ++ .token token source :: later)) :
    other ∈ tokens later ↔ other ∈ tokens (earlier ++ .token token source :: later) ∧
      token.1 + token.2.length ≤ other.1 := by
  obtain ⟨_, _, _, _, _, follows⟩ := cuts.split
  have parts : tokens (earlier ++ .token token source :: later) =
      tokens earlier ++ token :: tokens later := by
    simp [tokens, Piece.value?]
  constructor
  · intro member
    rw [parts]
    exact ⟨List.mem_append_right _ (List.mem_cons_of_mem _ member), follows.le_place member⟩
  · rintro ⟨member, behind⟩
    rw [parts] at member
    rcases List.mem_append.mp member with early | late
    · -- an earlier token ends before this one begins
      obtain ⟨front, otherSource, back, rfl⟩ := exists_split_of_mem_tokens early
      rw [List.append_assoc, List.cons_append] at cuts
      obtain ⟨_, _, _, otherReads, _, between⟩ := cuts.split
      have first := between.le_place mem_tokens_of_split
      have positive := List.length_pos_iff.mpr (ne_nil_of_read otherReads)
      omega
    · rcases List.mem_cons.mp late with rfl | later_
      · obtain ⟨_, _, _, reads, _⟩ := cuts.split
        have positive := List.length_pos_iff.mpr (ne_nil_of_read reads)
        omega
      · exact later_

/-- **Items are kept** if and only if no token begins among them. -/
theorem Cuts.kept_iff {kept : List α} (cuts : frame.Cuts before place (kept ++ rest) pieces) :
    (∃ later, pieces = kept.map .plain ++ later) ↔
      ∀ token ∈ tokens pieces, place + kept.length ≤ token.1 := by
  induction kept generalizing before place pieces with
  | nil => exact iff_of_true ⟨pieces, rfl⟩ fun token member => cuts.le_place member
  | cons item kept ih =>
    generalize same : item :: kept ++ rest = text at cuts
    cases cuts with
    | done => cases same
    | @token _ _ window _ pieces reads follows =>
      refine iff_of_false ?_ fun all => ?_
      · rintro ⟨later, same⟩
        cases same
      · have first := all _ List.mem_cons_self
        rw [List.length_cons] at first
        omega
    | @plain _ _ _ _ pieces reads follows =>
      cases same
      have later_ : (∃ later, Piece.plain item :: pieces = (item :: kept).map .plain ++ later) ↔
          ∃ later, pieces = kept.map .plain ++ later := by
        simp
      rw [later_, ih follows, List.length_cons, ← Nat.add_assoc, Nat.add_right_comm]
      rfl

/-! ### Replacing -/

/-- What windows are replaced by: a cover, of which no window has the first item and none the kind,
and then items of the kind. -/
structure Covers (frame : Frame α) (cover : List α) (tail : List α → List α) : Prop where
  starts : ∃ first ∈ cover.head?, frame.inner first = false
  plain : ∀ item ∈ cover, frame.edge item = false
  edges : ∀ {text window}, frame.read text = some window →
    ∀ item ∈ tail window, frame.edge item = true

def covered (cover : List α) (tail : List α → List α) (pieces : List (Cut α)) : List α :=
  substitute (fun token => cover ++ tail token.2) pieces

variable {cover : List α} {tail : List α → List α}

theorem Cuts.head_covered (cuts : frame.Cuts before place text pieces)
    (edge : before.any frame.edge = true) :
    (covered cover tail pieces).head?.any frame.edge = text.head?.any frame.edge := by
  cases cuts with
  | done => rfl
  | token reads follows =>
    rw [(readAfter_eq_some.mp reads).1] at edge
    cases edge
  | plain reads follows => rfl

/-- **What is inside a window of the result is kept**: no cover begins there. -/
theorem Cuts.kept_of_covered (covers : frame.Covers cover tail)
    (cuts : frame.Cuts before place text pieces) {kept after : List α}
    (inner : ∀ item ∈ kept, frame.inner item = true)
    (same : covered cover tail pieces = kept ++ after) :
    ∃ later rest, pieces = kept.map .plain ++ later ∧ text = kept ++ rest ∧
      after = covered cover tail later ∧
      frame.Cuts (kept.getLast?.or before) (place + kept.length) rest later := by
  induction kept generalizing before place text pieces with
  | nil => exact ⟨pieces, text, rfl, rfl, same.symm, cuts⟩
  | cons item kept ih =>
    obtain ⟨innerItem, others⟩ := List.forall_mem_cons.mp inner
    cases cuts with
    | done => cases same
    | token reads follows =>
      obtain ⟨first, isFirst, outside⟩ := covers.starts
      cases cover with
      | nil => cases isFirst
      | cons head cover =>
        cases isFirst
        obtain ⟨rfl, _⟩ := List.cons.inj same
        rw [innerItem] at outside
        cases outside
    | plain reads follows =>
      obtain ⟨rfl, rest_⟩ := List.cons.inj same
      obtain ⟨later, rest, rfl, rfl, rfl, cuts⟩ := ih follows others rest_
      refine ⟨later, rest, rfl, rfl, rfl, ?_⟩
      rw [getLast?_or, List.length_cons, ← Nat.add_assoc, Nat.add_right_comm]
      exact cuts

variable {found : List α}

theorem exists_eq_append_of_read {left : List α} (edges : ∀ item ∈ left, frame.edge item = true)
    (reads : frame.read (left ++ text) = some found) :
    ∃ kept, found = left ++ kept := by
  obtain ⟨after, same, border⟩ := frame.read_eq reads
  rcases List.append_eq_append_iff.mp same with ⟨kept, rfl, _⟩ | ⟨more, rfl, rfl⟩
  · exact ⟨kept, rfl⟩
  · cases more with
    | nil => exact ⟨[], by simp⟩
    | cons item more =>
      have isEdge := edges item (by simp)
      rw [List.cons_append, List.head?_cons, Option.any_some, isEdge] at border
      cases border

/-- **A window at the beginning of the result** is one of the text, all of whose items are kept. It
may begin with items that a window before has left. -/
theorem Cuts.read_covered (covers : frame.Covers cover tail)
    (cuts : frame.Cuts before place text pieces) {left : List α}
    (edges : ∀ item ∈ left, frame.edge item = true)
    (edge : left = [] ∨ before.any frame.edge = true) :
    frame.read (left ++ covered cover tail pieces) = some found ↔
      ∃ kept later, found = left ++ kept ∧ pieces = kept.map .plain ++ later ∧
        frame.read (left ++ text) = some found := by
  -- the last item of a window that begins with what is left is of the kind
  have lastEdge : ∀ {kept whole : List α}, frame.read whole = some (left ++ kept) →
      (kept.getLast?.or before).any frame.edge = true := by
    intro kept whole reads
    have last := (frame.read_edges reads).2
    cases kept with
    | nil =>
      rcases edge with rfl | edge
      · exact absurd rfl (ne_nil_of_read reads)
      · exact edge
    | cons item kept =>
      rw [List.getLast?_append, List.getLast?_cons] at last
      rw [List.getLast?_cons]
      exact last
  constructor
  · intro reads
    obtain ⟨kept, rfl⟩ := exists_eq_append_of_read edges reads
    obtain ⟨after, same, border⟩ := frame.read_eq reads
    rw [List.append_assoc, List.append_cancel_left_eq] at same
    obtain ⟨later, rest, rfl, rfl, rfl, follows⟩ := cuts.kept_of_covered covers
      (fun item member => frame.read_inner reads item (List.mem_append_right _ member)) same
    refine ⟨kept, later, rfl, rfl, ?_⟩
    rw [same, ← List.append_assoc] at reads
    rw [follows.head_covered (lastEdge reads)] at border
    rw [← List.append_assoc]
    exact frame.read_congr reads border
  · rintro ⟨kept, later, rfl, rfl, reads⟩
    obtain ⟨rest, same, border⟩ := frame.read_eq reads
    rw [List.append_assoc, List.append_cancel_left_eq] at same
    subst same
    have result : covered cover tail (kept.map .plain ++ later) =
        kept ++ covered cover tail later := by
      clear reads cuts
      induction kept with
      | nil => rfl
      | cons item kept ih => exact congrArg (List.cons item) ih
    have follows : frame.Cuts (kept.getLast?.or before) (place + kept.length) rest later := by
      obtain ⟨other, _, same, cut, _, follows⟩ := cuts.kept_of_covered covers
        (fun item member => frame.read_inner reads item (List.mem_append_right _ member)) result
      obtain rfl := List.append_cancel_left same
      obtain rfl := List.append_cancel_left cut
      exact follows
    rw [result, ← List.append_assoc]
    rw [← List.append_assoc] at reads
    refine frame.read_congr reads ?_
    rw [follows.head_covered (lastEdge reads)]
    exact border

theorem Cuts.read_of_read_covered (covers : frame.Covers cover tail)
    (cuts : frame.Cuts before place text pieces)
    (isFound : frame.read (covered cover tail pieces) = some found) :
    frame.read text = some found := by
  have nothing : ∀ item ∈ ([] : List α), frame.edge item = true := nofun
  obtain ⟨_, _, _, _, original⟩ := (cuts.read_covered covers nothing (Or.inl rfl)).mp isFound
  exact original

theorem Cuts.read_covered_eq_none (covers : frame.Covers cover tail)
    (cuts : frame.Cuts before place text pieces) (nothing : frame.read text = none) :
    frame.read (covered cover tail pieces) = none := by
  rw [Option.eq_none_iff_forall_ne_some]
  intro found isFound
  have original := cuts.read_of_read_covered covers isFound
  rw [nothing] at original
  cases original

theorem Covers.getLast_edge (covers : frame.Covers cover tail) (behind : Option α) :
    (cover.getLast?.or behind).any frame.edge = false := by
  obtain ⟨first, isFirst, _⟩ := covers.starts
  have some_ : cover ≠ [] := by
    rintro rfl
    cases isFirst
  rw [List.getLast?_eq_some_getLast some_]
  exact covers.plain _ (List.getLast_mem some_)

theorem clear_append_of_plain (plain : ∀ item ∈ front, frame.edge item = false) :
    frame.Clear before (front ++ text) ↔ frame.Clear (front.getLast?.or before) text := by
  induction front generalizing before with
  | nil => rfl
  | cons item front ih =>
    obtain ⟨here, others⟩ := List.forall_mem_cons.mp plain
    rw [List.cons_append, Clear, ih others, getLast?_or, and_iff_right]
    exact readAfter_eq_none_of_head here

theorem clear_append_of_edges {item : α} (before_ : before.any frame.edge = false)
    (edges : ∀ other ∈ item :: front, frame.edge other = true) :
    frame.Clear before (item :: front ++ text) ↔ frame.read (item :: front ++ text) = none ∧
      frame.Clear ((item :: front).getLast?) text := by
  have inside : ∀ {previous : α} {front : List α}, frame.edge previous = true →
      (∀ other ∈ front, frame.edge other = true) →
      (frame.Clear (some previous) (front ++ text) ↔
        frame.Clear (front.getLast?.or (some previous)) text) := by
    intro previous front isEdge edges
    induction front generalizing previous with
    | nil => rfl
    | cons next front ih =>
      obtain ⟨here, others⟩ := List.forall_mem_cons.mp edges
      have nothing : frame.readAfter (some previous) (next :: (front ++ text)) = none := by
        rw [readAfter, Option.any_some, if_pos isEdge]
      rw [List.cons_append, Clear, and_iff_right nothing, ih here others, getLast?_or]
  obtain ⟨here, others⟩ := List.forall_mem_cons.mp edges
  have ends : (item :: front).getLast? = front.getLast?.or (some item) := by
    rw [← getLast?_or item front none, Option.or_none]
  rw [List.cons_append, Clear, inside here others, ends, readAfter, before_, if_neg nofun]

theorem forall_token_plain {holds : Nat × List α → List (Cut α) → Prop} {item : α} :
    (∀ earlier token source later, .plain item :: pieces = earlier ++ .token token source :: later →
      holds token later) ↔
      ∀ earlier token source later, pieces = earlier ++ .token token source :: later →
        holds token later := by
  constructor
  · intro all earlier token source later same
    exact all (.plain item :: earlier) token source later (congrArg _ same)
  · intro later_ earlier token source later same
    cases earlier with
    | nil => cases same
    | cons piece earlier =>
      obtain ⟨_, same⟩ := List.cons.inj same
      exact later_ earlier token source later same

theorem forall_token_token {holds : Nat × List α → List (Cut α) → Prop} {first : Nat × List α}
    {window : List α} :
    (∀ earlier token source later,
      .token first window :: pieces = earlier ++ .token token source :: later →
        holds token later) ↔
      holds first pieces ∧
        ∀ earlier token source later, pieces = earlier ++ .token token source :: later →
          holds token later := by
  constructor
  · intro all
    refine ⟨all [] first window pieces rfl, fun earlier token source later same => ?_⟩
    exact all (.token first window :: earlier) token source later (congrArg _ same)
  · rintro ⟨here, later_⟩ earlier token source later same
    cases earlier with
    | nil =>
      obtain ⟨same, rfl⟩ := List.cons.inj same
      cases same
      exact here
    | cons piece earlier =>
      obtain ⟨_, same⟩ := List.cons.inj same
      exact later_ earlier token source later same

theorem Cuts.clear_covered_iff (covers : frame.Covers cover tail)
    (cuts : frame.Cuts before place text pieces) {behind : Option α}
    (agree : behind.any frame.edge = before.any frame.edge ∨ text.head?.any frame.edge = false) :
    frame.Clear behind (covered cover tail pieces) ↔
      ∀ earlier token source later, pieces = earlier ++ .token token source :: later →
        frame.read (tail token.2 ++ covered cover tail later) = none := by
  induction cuts generalizing behind with
  | done => simp [covered, substitute, Clear]
  | @plain before place item rest pieces reads follows ih =>
    have whole : covered cover tail (.plain item :: pieces) =
        item :: covered cover tail pieces := rfl
    have nothing : frame.readAfter behind (item :: covered cover tail pieces) = none := by
      rcases agree with agree | other
      · rw [readAfter, agree]
        split
        · rfl
        · rename_i noEdge
          have cuts : frame.Cuts before place (item :: rest) (.plain item :: pieces) :=
            .plain reads follows
          rw [readAfter, if_neg noEdge] at reads
          exact cuts.read_covered_eq_none covers reads
      · exact readAfter_eq_none_of_head other
    rw [whole, Clear, and_iff_right nothing, ih (Or.inl rfl)]
    exact (@forall_token_plain _ _ (fun token later =>
      frame.read (tail token.2 ++ covered cover tail later) = none)).symm
  | @token before place window rest pieces reads follows ih =>
    have readHere := (readAfter_eq_some.mp reads).2
    have border : rest.head?.any frame.edge = false := by
      obtain ⟨other, same, border⟩ := frame.read_eq readHere
      rwa [← List.append_cancel_left same] at border
    have whole : covered cover tail (.token (place, window) window :: pieces) =
        cover ++ (tail window ++ covered cover tail pieces) := by
      rw [← List.append_assoc]
      rfl
    rw [whole, clear_append_of_plain covers.plain]
    refine Iff.trans ?_ (@forall_token_token _ _ (fun token later =>
      frame.read (tail token.2 ++ covered cover tail later) = none)).symm
    dsimp only
    -- what is left of the window begins one, or begins none and is read over
    cases left : tail window with
    | nil =>
      have nothing := follows.read_covered_eq_none covers (read_eq_none_of_head border)
      rw [List.nil_append, and_iff_right nothing]
      exact ih (Or.inr border)
    | cons item front =>
      have edges : ∀ other ∈ item :: front, frame.edge other = true :=
        left ▸ covers.edges readHere
      rw [clear_append_of_edges (covers.getLast_edge behind) edges, ih (Or.inl ?_)]
      rw [(frame.read_edges readHere).2, List.getLast?_eq_some_getLast (List.cons_ne_nil item front)]
      exact edges _ (List.getLast_mem _)

end Frame

end Runtime
