import SqlMapping.Proofs.Query.Scanning
import SqlMapping.Proofs.Text.Trimming
import SqlMapping.Query.ItemName

/-!
# Reading select lists back

A select list that is put together from items is taken apart into the same items, as long as
each of them is closed, has no comma and no word FROM at its top level, and does not begin
with the word DISTINCT or ALL.

The main statement says that the output names of a statement are those of its items.
-/

namespace SqlMapping.Query

open Text

/-- What stands between the items of a select list. -/
def itemSeparator : List Char := [',', ' ']

/-- The items of a select list, put together. -/
def joinItems (items : List (List Char)) : List Char :=
  itemSeparator.intercalate items

/-- Whether a text begins with a word that would belong to the word SELECT before it. -/
def StartsWithQuantifier (characters : List Char) : Prop :=
  ∃ word ∈ (topLevelWords characters).head?,
    (word.is "DISTINCT" || word.is "ALL") = true ∧
      ∀ character ∈ characters.take word.start, isBlank character = true

/-- A text that can be an item of a select list. -/
structure IsSelectItem (item : List Char) : Prop where
  isClosed : IsClosed item
  hasNoComma : HasNoComma item
  hasNoFrom : ∀ word ∈ topLevelWords item, word.is "FROM" = false
  notQuantified : ¬ StartsWithQuantifier item

variable {list rest item : List Char}

@[simp]
theorem topLevelWords_nil : topLevelWords [] = [] := wordsFrom_nil 0 false

/-! ## Finding the select list -/

theorem isClosed_blank : IsClosed [' '] := rfl

theorem isBlank_of_mem_space : ∀ character ∈ [' '], isBlank character = true :=
  List.forall_mem_singleton.2 (by decide)

/-- A blank does not continue a word, nor is it continued by one. -/
theorem separated_blank_cons (left right : List Char) : Separated left (' ' :: right) :=
  Separated.cons (by decide) left right

theorem separated_append_blank (left right : List Char) : Separated (left ++ [' ']) right :=
  Separated.append_singleton (by decide) left right

theorem isClosed_padded (closed : IsClosed list) : IsClosed (' ' :: (list ++ [' '])) :=
  isClosed_blank.append (closed.append isClosed_blank)

/-- The words of a text between two blanks. -/
theorem topLevelWords_padded (closed : IsClosed list) :
    topLevelWords (' ' :: (list ++ [' '])) = (topLevelWords list).map (Word.shift 1) := by
  have blank : topLevelWords [' '] = [] := by decide +kernel
  have front :
      topLevelWords ([' '] ++ (list ++ [' '])) =
        topLevelWords [' '] ++ (topLevelWords (list ++ [' '])).map (Word.shift 1) :=
    topLevelWords_append isClosed_blank (separated_append_blank [] (list ++ [' ']))
  have back :
      topLevelWords (list ++ [' ']) =
        topLevelWords list ++ (topLevelWords [' ']).map (Word.shift list.length) :=
    topLevelWords_append closed (separated_blank_cons list [])
  rw [blank, List.map_nil, List.append_nil] at back
  rw [blank, List.nil_append, back] at front
  exact front

/-- The words of a statement: those of its select list between SELECT and FROM. -/
theorem topLevelWords_select
    (closed : IsClosed list)
    (ends : ∀ first ∈ rest.head?, isWordCharacter first = false) :
    ∃ others : List Word,
      topLevelWords ("SELECT".toList ++ (' ' :: (list ++ [' ']) ++ ("FROM".toList ++ rest))) =
        ⟨0, 6, "SELECT".toList⟩
          :: ((topLevelWords list).map (Word.shift 7)
            ++ ⟨list.length + 8, list.length + 12, "FROM".toList⟩ :: others) := by
  have select : topLevelWords "SELECT".toList = [⟨0, 6, "SELECT".toList⟩] := by
    decide +kernel
  have keyword : topLevelWords "FROM".toList = [⟨0, 4, "FROM".toList⟩] := by
    decide +kernel
  have selectClosed : IsClosed "SELECT".toList := rfl
  have keywordClosed : IsClosed "FROM".toList := rfl
  have listSplit :
      topLevelWords (' ' :: (list ++ [' ']) ++ ("FROM".toList ++ rest)) =
        topLevelWords (' ' :: (list ++ [' ']))
          ++ (topLevelWords ("FROM".toList ++ rest)).map (Word.shift (list.length + 2)) := by
    have split :=
      topLevelWords_append (isClosed_padded closed)
        (separated_append_blank (' ' :: list) ("FROM".toList ++ rest))
    simpa using split
  have separate :
      Separated "SELECT".toList (' ' :: (list ++ [' ']) ++ ("FROM".toList ++ rest)) :=
    separated_blank_cons _ _
  rw [topLevelWords_append selectClosed separate, select, listSplit,
    topLevelWords_padded closed, topLevelWords_append keywordClosed (Or.inr ends), keyword]
  have selectLength : "SELECT".toList.length = 6 := rfl
  have keywordLength : "FROM".toList.length = 4 := rfl
  have keywordWord :
      (⟨0, 4, "FROM".toList⟩ : Word).shift (list.length + 2 + 6) =
        ⟨list.length + 8, list.length + 12, "FROM".toList⟩ := by
    rw [Word.shift, Word.mk.injEq]
    refine ⟨?_, ?_, rfl⟩
    · show 0 + (list.length + 2 + 6) = list.length + 8
      omega
    · show 4 + (list.length + 2 + 6) = list.length + 12
      omega
  refine ⟨(topLevelWords rest).map (Word.shift (4 + (list.length + 2) + 6)), ?_⟩
  simp only [selectLength, keywordLength, List.map_append, List.map_map, List.map_cons,
    List.singleton_append, Function.comp_def, Word.shift_shift, keywordWord]

/-- A word after SELECT that would belong to it has something else before it. -/
theorem skipQuantifier_of_not
    {characters : List Char}
    {start : Nat}
    {words : List Word}
    (unquantified :
      ∀ word ∈ words.head?, (word.is "DISTINCT" || word.is "ALL") = true →
        trimBlanks (slice characters start word.start) ≠ []) :
    skipQuantifier characters start words = (start, words) := by
  cases words with
  | nil => rfl
  | cons word others =>
      rw [skipQuantifier, if_neg]
      intro quantifier
      rcases (Bool.and_eq_true _ _).mp quantifier with ⟨keyword, nothing⟩
      exact unquantified word rfl keyword (List.isEmpty_iff.1 nothing)

/--
The select list of a statement is what stands between SELECT and the first word FROM at the top
level.
-/
theorem selectListOf_select
    (closed : IsClosed list)
    (noFrom : ∀ word ∈ topLevelWords list, word.is "FROM" = false)
    (unquantified : ¬ StartsWithQuantifier list)
    (ends : ∀ first ∈ rest.head?, isWordCharacter first = false) :
    selectListOf ("SELECT".toList ++ (' ' :: (list ++ [' ']) ++ ("FROM".toList ++ rest))) =
      some (' ' :: (list ++ [' '])) := by
  rcases topLevelWords_select closed ends with ⟨others, words⟩
  have cut (stop : Nat) :
      slice ("SELECT".toList ++ (' ' :: (list ++ [' ']) ++ ("FROM".toList ++ rest))) 6 stop =
        (' ' :: (list ++ [' ']) ++ ("FROM".toList ++ rest)).take (stop - 6) := rfl
  have skipped :
      skipQuantifier
          ("SELECT".toList ++ (' ' :: (list ++ [' ']) ++ ("FROM".toList ++ rest))) 6
          ((topLevelWords list).map (Word.shift 7)
            ++ ⟨list.length + 8, list.length + 12, "FROM".toList⟩ :: others) =
        (6, (topLevelWords list).map (Word.shift 7)
          ++ ⟨list.length + 8, list.length + 12, "FROM".toList⟩ :: others) := by
    apply skipQuantifier_of_not
    intro word isFirst keyword
    cases listWords : topLevelWords list with
    | nil =>
        rw [listWords] at isFirst
        cases isFirst
        cases keyword
    | cons first more =>
        rw [listWords] at isFirst
        cases isFirst
        have visible : ∃ character ∈ list.take first.start, isBlank character = false := by
          by_contra nothing
          push Not at nothing
          refine unquantified ⟨first, by rw [listWords]; rfl, keyword, ?_⟩
          intro character member
          simpa using nothing character member
        rcases visible with ⟨character, member, notBlank⟩
        refine trimBlanks_ne_nil ?_ notBlank
        have position : (first.shift 7).start - 6 = first.start + 1 := by
          rw [Word.start_shift]
          omega
        rw [cut, position, List.cons_append, List.take_succ_cons, List.append_assoc,
          List.take_append]
        exact List.mem_cons_of_mem _ (List.mem_append_left _ member)
  have found :
      ((topLevelWords list).map (Word.shift 7)
        ++ ⟨list.length + 8, list.length + 12, "FROM".toList⟩ :: others).find?
          (fun word => word.is "FROM") =
        some ⟨list.length + 8, list.length + 12, "FROM".toList⟩ := by
    rw [List.find?_append, List.find?_eq_none.2, Option.none_or]
    · rfl
    · intro word member
      rcases List.mem_map.1 member with ⟨unshifted, inList, rfl⟩
      rw [Word.is_shift, noFrom unshifted inList]
      exact Bool.false_ne_true
  rw [selectListOf, words, List.dropWhile_cons_of_neg (by decide)]
  simp only [skipped, found, Option.map_some, Option.getD_some, cut]
  exact congrArg some (List.take_left' (by simp))

/-! ## Joined items -/

theorem joinItems_cons_cons (first second : List Char) (others : List (List Char)) :
    joinItems (first :: second :: others) =
      first ++ (itemSeparator ++ joinItems (second :: others)) := by
  rw [joinItems, List.intercalate_cons_cons, joinItems, List.append_assoc]

/-- The words of an item and of what a separator puts behind it. -/
theorem topLevelWords_item
    (closed : IsClosed item)
    (list : List Char) :
    topLevelWords (item ++ (itemSeparator ++ list)) =
      topLevelWords item
        ++ (topLevelWords list).map (Word.shift (item.length + 2)) := by
  have separator : topLevelWords itemSeparator = [] := by decide +kernel
  have separatorClosed : IsClosed itemSeparator := rfl
  have inner :
      topLevelWords (itemSeparator ++ list) =
        topLevelWords itemSeparator ++ (topLevelWords list).map (Word.shift 2) :=
    topLevelWords_append separatorClosed (separated_append_blank [','] list)
  have outer : Separated item (itemSeparator ++ list) := Separated.cons (by decide) item _
  rw [topLevelWords_append closed outer, inner, separator, List.nil_append, List.map_map]
  simp only [Function.comp_def, Word.shift_shift, Nat.add_comm 2]

/-- Closed items make a closed list. -/
theorem isClosed_joinItems
    {items : List (List Char)}
    (closed : ∀ item ∈ items, IsClosed item) :
    IsClosed (joinItems items) := by
  induction items with
  | nil => exact IsClosed.nil
  | cons first others inductionHypothesis =>
      have firstClosed := closed first List.mem_cons_self
      have othersClosed :=
        inductionHypothesis fun item inOthers => closed item (List.mem_cons_of_mem first inOthers)
      cases others with
      | nil => rwa [joinItems, List.intercalate_singleton]
      | cons second rest =>
          have separatorClosed : IsClosed itemSeparator := rfl
          rw [joinItems_cons_cons]
          exact firstClosed.append (separatorClosed.append othersClosed)

/-- Every word of a list of items is a word of an item. -/
theorem exists_item_of_mem_topLevelWords
    {items : List (List Char)}
    (closed : ∀ item ∈ items, IsClosed item)
    {word : Word}
    (member : word ∈ topLevelWords (joinItems items)) :
    ∃ item ∈ items, ∃ own ∈ topLevelWords item, own.upper = word.upper := by
  induction items generalizing word with
  | nil =>
      rw [joinItems, List.intercalate_nil, topLevelWords_nil] at member
      cases member
  | cons first others inductionHypothesis =>
      have othersClosed : ∀ item ∈ others, IsClosed item := fun item inOthers =>
        closed item (List.mem_cons_of_mem first inOthers)
      cases others with
      | nil =>
          rw [joinItems, List.intercalate_singleton] at member
          exact ⟨first, List.mem_cons_self, word, member, rfl⟩
      | cons second rest =>
          rw [joinItems_cons_cons, topLevelWords_item (closed first List.mem_cons_self)] at member
          rcases List.mem_append.1 member with inFirst | inRest
          · exact ⟨first, List.mem_cons_self, word, inFirst, rfl⟩
          · rcases List.mem_map.1 inRest with ⟨unshifted, inList, rfl⟩
            obtain ⟨item, inOthers, own, ownMember, same⟩ :=
              inductionHypothesis othersClosed inList
            exact ⟨item, List.mem_cons_of_mem first inOthers, own, ownMember, same⟩

/-- A list begins with DISTINCT or ALL only if its first item does. -/
theorem not_startsWithQuantifier_joinItems
    {first : List Char}
    {others : List (List Char)}
    (closed : IsClosed first)
    (notQuantified : ¬ StartsWithQuantifier first) :
    ¬ StartsWithQuantifier (joinItems (first :: others)) := by
  rintro ⟨word, isFirst, keyword, blank⟩
  cases others with
  | nil =>
      rw [joinItems, List.intercalate_singleton] at isFirst blank
      exact notQuantified ⟨word, isFirst, keyword, blank⟩
  | cons second rest =>
      rw [joinItems_cons_cons] at blank
      rw [joinItems_cons_cons, topLevelWords_item closed] at isFirst
      rw [List.take_append] at blank
      cases words : topLevelWords first with
      | cons own others =>
          rw [words] at isFirst
          obtain rfl : own = word := Option.some.inj isFirst
          refine notQuantified ⟨own, by rw [words]; rfl, keyword, ?_⟩
          intro character member
          exact blank character (List.mem_append_left _ member)
      | nil =>
          rw [words, List.nil_append, List.head?_map, Option.mem_def,
            Option.map_eq_some_iff] at isFirst
          rcases isFirst with ⟨unshifted, -, rfl⟩
          have position :
              (unshifted.shift (first.length + 2)).start - first.length =
                unshifted.start + 1 + 1 := by
            rw [Word.start_shift]
            omega
          have comma := blank ',' (List.mem_append_right _ (by rw [position]; simp [itemSeparator]))
          revert comma
          decide

/-! ## Taking a list apart -/

theorem not_mem_of_blank
    {entries : List (Char × Bool)}
    (blank : ∀ entry ∈ entries, isBlank entry.1 = true) :
    (',', true) ∉ entries := by
  intro member
  have comma := blank (',', true) member
  revert comma
  decide

/-- Blanks around a piece are trimmed off, marked or not. -/
theorem trimBlanks_marked
    {before after : List (Char × Bool)}
    (beforeBlank : ∀ entry ∈ before, isBlank entry.1 = true)
    (afterBlank : ∀ entry ∈ after, isBlank entry.1 = true)
    (item : List Char) :
    trimBlanks ((before ++ (marked {} item ++ after)).map Prod.fst) = trimBlanks item := by
  have frontBlank : ∀ character ∈ before.map Prod.fst, isBlank character = true := by
    intro character member
    rcases List.mem_map.1 member with ⟨entry, inBefore, rfl⟩
    exact beforeBlank entry inBefore
  have backBlank : ∀ character ∈ after.map Prod.fst, isBlank character = true := by
    intro character member
    rcases List.mem_map.1 member with ⟨entry, inAfter, rfl⟩
    exact afterBlank entry inAfter
  rw [List.map_append, List.map_append, map_fst_marked, trimBlanks_append_left frontBlank,
    trimBlanks_append_right backBlank]

/-- A list between blanks is cut into its items. -/
theorem map_trimBlanks_cutAtCommas
    {first : List Char}
    {others : List (List Char)}
    (isPiece : ∀ item ∈ first :: others, IsClosed item ∧ HasNoComma item)
    {before after : List (Char × Bool)}
    (beforeBlank : ∀ entry ∈ before, isBlank entry.1 = true)
    (afterBlank : ∀ entry ∈ after, isBlank entry.1 = true) :
    (cutAtCommas (before ++ (marked {} (joinItems (first :: others)) ++ after))).map trimBlanks =
      (first :: others).map trimBlanks := by
  induction others generalizing first before with
  | nil =>
      have noComma : (',', true) ∉ before ++ (marked {} first ++ after) := by
        rw [List.mem_append, List.mem_append, not_or, not_or]
        exact
          ⟨not_mem_of_blank beforeBlank, (isPiece first List.mem_cons_self).2,
            not_mem_of_blank afterBlank⟩
      rw [joinItems, List.intercalate_singleton, cutAtCommas_of_not_mem noComma,
        List.map_singleton, trimBlanks_marked beforeBlank afterBlank, List.map_singleton]
  | cons second rest inductionHypothesis =>
      rcases isPiece first List.mem_cons_self with ⟨firstClosed, firstUncut⟩
      have noComma : (',', true) ∉ before ++ (marked {} first ++ []) := by
        rw [List.append_nil, List.mem_append, not_or]
        exact ⟨not_mem_of_blank beforeBlank, firstUncut⟩
      have separatorClosed : IsClosed itemSeparator := rfl
      have split :
          before ++ (marked {} (joinItems (first :: second :: rest)) ++ after) =
            (before ++ (marked {} first ++ []))
              ++ (',', true)
                :: ([(' ', true)] ++ (marked {} (joinItems (second :: rest)) ++ after)) := by
        rw [joinItems_cons_cons, firstClosed.marked_append, separatorClosed.marked_append]
        simp [itemSeparator]
        decide
      have blank : ∀ entry ∈ [(' ', true)], isBlank entry.1 = true := by decide
      have remaining :=
        inductionHypothesis
          (fun item inRest => isPiece item (List.mem_cons_of_mem first inRest)) blank
      rw [split, cutAtCommas_append noComma, List.map_cons, remaining,
        trimBlanks_marked beforeBlank (by simp)]
      rfl

theorem isBlank_of_mem_marked
    {characters : List Char}
    (blank : ∀ character ∈ characters, isBlank character = true)
    {entry : Char × Bool}
    (member : entry ∈ marked {} characters) :
    isBlank entry.1 = true := by
  refine blank entry.1 ?_
  rw [← map_fst_marked {} characters]
  exact List.mem_map_of_mem member

/-- The items of a list between blanks, without those that are blank themselves. -/
theorem splitItems_joinItems
    {items : List (List Char)}
    (isPiece : ∀ item ∈ items, IsClosed item ∧ HasNoComma item)
    {front back : List Char}
    (frontClosed : IsClosed front)
    (frontBlank : ∀ character ∈ front, isBlank character = true)
    (backBlank : ∀ character ∈ back, isBlank character = true) :
    splitItems (front ++ (joinItems items ++ back)) =
      (items.map trimBlanks).filter fun item => !item.isEmpty := by
  have closed : IsClosed (joinItems items) :=
    isClosed_joinItems fun item member => (isPiece item member).1
  have frontEntries : ∀ entry ∈ marked {} front, isBlank entry.1 = true :=
    fun entry member => isBlank_of_mem_marked frontBlank member
  have backEntries : ∀ entry ∈ marked {} back, isBlank entry.1 = true :=
    fun entry member => isBlank_of_mem_marked backBlank member
  change
    ((cutAtCommas (marked {} (front ++ (joinItems items ++ back)))).map trimBlanks).filter
      (fun item => !item.isEmpty) = _
  rw [frontClosed.marked_append, closed.marked_append]
  cases items with
  | nil =>
      have noComma : (',', true) ∉ marked {} front ++ (marked {} [] ++ marked {} back) := by
        rw [marked_nil, List.nil_append, List.mem_append, not_or]
        exact ⟨not_mem_of_blank frontEntries, not_mem_of_blank backEntries⟩
      rw [joinItems, List.intercalate_nil, cutAtCommas_of_not_mem noComma, List.map_singleton,
        trimBlanks_marked frontEntries backEntries]
      rfl
  | cons first others => rw [map_trimBlanks_cutAtCommas isPiece frontEntries backEntries]

/--
The output names of a statement are those of the items of its select list, whatever follows the
first word FROM.
-/
theorem outputNames_select
    {items : List (List Char)}
    (isItem : ∀ item ∈ items, IsSelectItem item)
    (ends : ∀ first ∈ rest.head?, isWordCharacter first = false)
    {sql : String}
    (text :
      sql.toList =
        "SELECT".toList ++ (' ' :: (joinItems items ++ [' ']) ++ ("FROM".toList ++ rest)))
    (dialect : Option String) :
    outputNames dialect sql =
      (((items.map trimBlanks).filter fun item => !item.isEmpty).mapM fun item =>
        (itemNameOf (namesExpressions dialect) item).map String.ofList).map some := by
  have closed : ∀ item ∈ items, IsClosed item := fun item member => (isItem item member).isClosed
  have noFrom : ∀ word ∈ topLevelWords (joinItems items), word.is "FROM" = false := by
    intro word member
    obtain ⟨item, inItems, own, ownMember, same⟩ :=
      exists_item_of_mem_topLevelWords closed member
    have isOther := (isItem item inItems).hasNoFrom own ownMember
    rwa [Word.is, same] at isOther
  have unquantified : ¬ StartsWithQuantifier (joinItems items) := by
    cases items with
    | nil =>
        rintro ⟨word, isFirst, -⟩
        rw [joinItems, List.intercalate_nil, topLevelWords_nil] at isFirst
        cases isFirst
    | cons first others =>
        have firstItem := isItem first List.mem_cons_self
        exact not_startsWithQuantifier_joinItems firstItem.isClosed firstItem.notQuantified
  rw [outputNames, text,
    selectListOf_select (isClosed_joinItems closed) noFrom unquantified ends]
  dsimp only
  rw [← List.singleton_append,
    splitItems_joinItems (fun item member => ⟨closed item member, (isItem item member).hasNoComma⟩)
      isClosed_blank isBlank_of_mem_space isBlank_of_mem_space]

end SqlMapping.Query
