import SqlMapping.Backend
import SqlMapping.Proofs.Query.Written

/-!
# Enclosed identifiers

An enclosed identifier has a quote mark on both sides, and every such mark inside it is doubled.
The scanner knows nothing of doubled marks: to it the first one closes the quote and the second one
opens it again.  Between the two it is outside the quote, but nothing stands there, so that no
character of the identifier is ever met outside.

The main statement says that the scanner passes over an enclosed identifier wherever it stands
outside quotes and parentheses, and that dropping the outer marks and halving the doubled ones gives
the identifier back, so that no two identifiers are enclosed alike.
-/

namespace SqlMapping.Query

variable {before text after name : List Char} {mark : Char}

/-! ## Texts that are passed over -/

/--
A text that the scanner passes over between two others: it sees what it would see of these if each
of them stood alone, and nothing of the text itself.
-/
structure IsPassedOver (before text after : List Char) : Prop where
  /-- The characters that are seen are those of the texts around it, at their positions. -/
  spans_eq :
    topLevelSpans (before ++ text ++ after) =
      topLevelSpans before
        ++ (topLevelSpans after).map (Prod.map (· + (before ++ text).length) id)
  /-- No character of it is seen. -/
  outside :
    ∀ span ∈ topLevelSpans (before ++ text ++ after),
      span.1 < before.length ∨ (before ++ text).length ≤ span.1
  /-- The words are those of the texts around it, so that nothing in it is a keyword. -/
  words_eq :
    topLevelWords (before ++ text ++ after) =
      topLevelWords before ++ (topLevelWords after).map (Word.shift (before ++ text).length)
  /-- No comma in it cuts: it joins the last piece before it to the first one after it. -/
  pieces :
    ∃ (former : List (List Char)) (last first : List Char) (later : List (List Char)),
      cutAtCommas (marked {} before) = former ++ [last] ∧
        cutAtCommas (marked {} after) = first :: later ∧
          cutAtCommas (marked {} (before ++ text ++ after)) =
            former ++ (last ++ text ++ first) :: later
  /-- No parenthesis in it counts. -/
  depth_eq : ∀ count, (({} : ScanState).after (before ++ text.take count)).depth = 0
  /-- It leaves nothing open. -/
  isClosed : IsClosed (before ++ text)

namespace IsHidden

/-- Behind a closed text a hidden one shows nothing more. -/
theorem topLevelSpans_append
    (hidden : IsHidden {} text)
    (beforeClosed : IsClosed before) :
    topLevelSpans (before ++ text) = topLevelSpans before := by
  rw [Query.topLevelSpans_append beforeClosed, topLevelSpans_of_hidden hidden.unseen,
    List.map_nil, List.append_nil]

/-- Behind a closed text a hidden one has no words. -/
theorem topLevelWords_append
    (hidden : IsHidden {} text)
    (beforeClosed : IsClosed before)
    (front : Separated before text) :
    topLevelWords (before ++ text) = topLevelWords before := by
  have noWord : topLevelWords text = [] := wordsFrom_of_hidden hidden.unseen 0 false
  rw [Query.topLevelWords_append beforeClosed front, noWord, List.map_nil, List.append_nil]

/-- Between two others a hidden text is cut nowhere. -/
theorem exists_pieces
    (hidden : IsHidden {} text)
    (beforeClosed : IsClosed before)
    (bothClosed : IsClosed (before ++ text))
    (after : List Char) :
    ∃ (former : List (List Char)) (last first : List Char) (later : List (List Char)),
      cutAtCommas (marked {} before) = former ++ [last] ∧
        cutAtCommas (marked {} after) = first :: later ∧
          cutAtCommas (marked {} (before ++ text ++ after)) =
            former ++ (last ++ text ++ first) :: later := by
  have beforePieces := List.dropLast_concat_getLast (cutAtCommas_ne_nil (marked {} before))
  rcases List.exists_cons_of_ne_nil (cutAtCommas_ne_nil (marked {} after)) with
    ⟨first, later, afterPieces⟩
  have noComma : (',', true) ∉ marked {} text := fun member => by
    cases hidden.unseen (',', true) member
  have textPieces : cutAtCommas (marked {} text) = text :: [] := by
    rw [cutAtCommas_of_not_mem noComma, map_fst_marked]
  have bothPieces := cutAtCommas_append_of_pieces beforePieces.symm textPieces
  have allPieces := cutAtCommas_append_of_pieces bothPieces afterPieces
  rw [← beforeClosed.marked_append, ← bothClosed.marked_append] at allPieces
  exact ⟨_, _, first, later, beforePieces.symm, afterPieces, allPieces⟩

/-- A hidden text is passed over where it runs into no word. -/
theorem isPassedOver
    (hidden : IsHidden {} text)
    (closed : IsClosed text)
    (beforeClosed : IsClosed before)
    (front : Separated before text)
    (back : Separated (before ++ text) after) :
    IsPassedOver before text after := by
  have bothClosed : IsClosed (before ++ text) := beforeClosed.append closed
  have spans_eq :
      topLevelSpans (before ++ text ++ after) =
        topLevelSpans before
          ++ (topLevelSpans after).map (Prod.map (· + (before ++ text).length) id) := by
    rw [Query.topLevelSpans_append bothClosed, hidden.topLevelSpans_append beforeClosed]
  refine
    ⟨spans_eq, ?outside, ?words, hidden.exists_pieces beforeClosed bothClosed after, ?depth,
      bothClosed⟩
  case outside =>
    intro span member
    rw [spans_eq] at member
    rcases List.mem_append.1 member with inBefore | inAfter
    · exact Or.inl (lt_length_of_mem_topLevelSpans inBefore)
    · rcases List.mem_map.1 inAfter with ⟨own, -, rfl⟩
      exact Or.inr (Nat.le_add_left _ own.1)
  case words =>
    rw [Query.topLevelWords_append bothClosed back,
      hidden.topLevelWords_append beforeClosed front]
  case depth =>
    intro count
    rw [after_append, beforeClosed]
    exact hidden.depth_eq count

end IsHidden

/-! ## Doubled marks -/

namespace StaysQuoted

/-- A doubled mark closes the quote and opens it again. -/
theorem pair (opens : closingMark? mark = some mark) : StaysQuoted mark [mark, mark] := by
  constructor
  · rw [after_cons, next_closing, after_cons, next_opening opens, after_nil]
  · refine (isHidden_closing mark).append ?_
    rw [after_cons, next_closing, after_nil]
    exact isHidden_opening opens

theorem doubleMarks
    (opens : closingMark? mark = some mark)
    (name : List Char) :
    StaysQuoted mark (Backend.doubleMarks [mark] name) := by
  induction name with
  | nil =>
      rw [Backend.doubleMarks_nil]
      exact nil mark
  | cons character rest inductionHypothesis =>
      rw [Backend.doubleMarks_cons]
      split_ifs with isMark
      · exact (pair opens).append inductionHypothesis
      · exact (singleton (Ne.symm isMark)).append inductionHypothesis

end StaysQuoted

/-- Write every doubled mark once; pairs are found from left to right. -/
def halveMarks (mark : Char) : List Char → List Char
  | [] => []
  | [character] => [character]
  | first :: second :: rest =>
    if first = mark ∧ second = mark then mark :: halveMarks mark rest
    else first :: halveMarks mark (second :: rest)

theorem halveMarks_cons_of_ne
    {character : Char}
    (other : character ≠ mark)
    (rest : List Char) :
    halveMarks mark (character :: rest) = character :: halveMarks mark rest := by
  cases rest with
  | nil => rfl
  | cons second others => rw [halveMarks, if_neg fun pair => other pair.1]

/-- What was doubled is halved again. -/
theorem halveMarks_doubleMarks (mark : Char) (name : List Char) :
    halveMarks mark (Backend.doubleMarks [mark] name) = name := by
  induction name with
  | nil =>
      rw [Backend.doubleMarks_nil]
      rfl
  | cons character rest inductionHypothesis =>
      rw [Backend.doubleMarks_cons]
      split_ifs with isMark
      · subst isMark
        rw [List.cons_append, List.singleton_append, halveMarks, if_pos ⟨rfl, rfl⟩,
          inductionHypothesis]
      · rw [List.singleton_append, halveMarks_cons_of_ne (Ne.symm isMark), inductionHypothesis]

end SqlMapping.Query

/-! ## Enclosed identifiers -/

namespace SqlMapping.Backend

open Query

variable {backend : Backend} {mark : Char}

theorem toList_enclose_eq
    (quoteMark_eq : backend.quoteMark.toList = [mark])
    (name : String) :
    (backend.enclose name).toList = mark :: (doubleMarks [mark] name.toList ++ [mark]) := by
  rw [toList_enclose, quoteMark_eq]
  rfl

/-- The scanner passes over an enclosed identifier behind any closed text. -/
theorem isPassedOver_enclose
    (isMark : IsQuoteMark mark)
    (quoteMark_eq : backend.quoteMark.toList = [mark])
    (name : String)
    {before : List Char}
    (beforeClosed : IsClosed before)
    (after : List Char) :
    IsPassedOver before (backend.enclose name).toList after := by
  have opens := closingMark?_of_isQuoteMark isMark
  obtain ⟨noWord, noJoin⟩ : isWordCharacter mark = false ∧ joinsWord mark = false := by
    rcases isMark with rfl | rfl
    · decide
    · decide
  rw [toList_enclose_eq quoteMark_eq]
  rcases (StaysQuoted.doubleMarks opens name.toList).enclosed opens with ⟨closed, hidden⟩
  have front := Separated.cons noWord before (doubleMarks [mark] name.toList ++ [mark])
  have back :=
    Separated.append_singleton noJoin (before ++ mark :: doubleMarks [mark] name.toList) after
  rw [List.append_assoc, List.cons_append] at back
  exact hidden.isPassedOver closed beforeClosed front back

/-- Dropping the outer marks and halving the doubled ones gives the identifier back. -/
theorem exists_body_enclose
    (isMark : IsQuoteMark mark)
    (quoteMark_eq : backend.quoteMark.toList = [mark])
    (name : String) :
    ∃ body : List Char,
      (backend.enclose name).toList = mark :: (body ++ [mark]) ∧
        unquote (backend.enclose name).toList = body ∧
          halveMarks mark body = name.toList := by
  have enclosed := toList_enclose_eq quoteMark_eq name
  refine ⟨doubleMarks [mark] name.toList, enclosed, ?_, halveMarks_doubleMarks mark name.toList⟩
  rw [enclosed]
  exact unquote_enclosed (closingMark?_of_isQuoteMark isMark) _

/--
An enclosed identifier of any characters is passed over by the scanner, is read back by dropping the
outer marks and halving the doubled ones, and is no other identifier enclosed.
-/
theorem isPassedOver_and_injective_enclose
    (isMark : IsQuoteMark mark)
    (quoteMark_eq : backend.quoteMark.toList = [mark]) :
    (∀ (name : String) {before : List Char} (after : List Char),
        IsClosed before → IsPassedOver before (backend.enclose name).toList after) ∧
      (∀ name : String, ∃ body : List Char,
        (backend.enclose name).toList = mark :: (body ++ [mark]) ∧
          unquote (backend.enclose name).toList = body ∧
            halveMarks mark body = name.toList) ∧
        Function.Injective backend.enclose := by
  refine ⟨?passedOver, exists_body_enclose isMark quoteMark_eq, ?injective⟩
  case passedOver =>
    intro name before after beforeClosed
    exact isPassedOver_enclose isMark quoteMark_eq name beforeClosed after
  case injective =>
    intro left right equal
    rcases exists_body_enclose isMark quoteMark_eq left with ⟨leftBody, -, leftRead, leftName⟩
    rcases exists_body_enclose isMark quoteMark_eq right with ⟨rightBody, -, rightRead, rightName⟩
    rw [String.ext_iff, ← leftName, ← rightName, ← leftRead, ← rightRead, equal]

/-- An identifier with marks of both kinds, parentheses, a comma and a keyword in it. -/
theorem isPassedOver_and_injective_enclose_mysql :
    IsQuoteMark '\x60' ∧ mysql.quoteMark.toList = ['\x60'] ∧
      IsClosed "SELECT f(x, ')') AS ".toList ∧
        IsPassedOver "SELECT f(x, ')') AS ".toList (mysql.enclose "a\x60), \"b' FROM (").toList
          ", [y] FROM t".toList ∧
          (∃ body : List Char,
            (mysql.enclose "a\x60), \"b' FROM (").toList = '\x60' :: (body ++ ['\x60']) ∧
              unquote (mysql.enclose "a\x60), \"b' FROM (").toList = body ∧
                halveMarks '\x60' body = "a\x60), \"b' FROM (".toList) ∧
            Function.Injective mysql.enclose := by
  have isMark : IsQuoteMark '\x60' := Or.inr rfl
  have quoteMark_eq : mysql.quoteMark.toList = ['\x60'] := rfl
  have closed : IsClosed "SELECT f(x, ')') AS ".toList := rfl
  rcases isPassedOver_and_injective_enclose isMark quoteMark_eq with
    ⟨passedOver, readBack, injective⟩
  exact ⟨isMark, quoteMark_eq, closed, passedOver _ _ closed, readBack _, injective⟩

end SqlMapping.Backend
