import SqlMapping.Proofs.Query.Calls
import SqlMapping.Proofs.Query.Decoding
import SqlMapping.Proofs.Query.Expansion

/-!
# Naming every item

Naming the items of a select list hardly ever fails, whatever their text.  A step of naming that
goes on with a part of an item, such as the operand of a cast, takes a part that leaves no quote
and no parenthesis open, and such a text always has a name.  What is left is an item that begins
like a cast and has no closing parenthesis at all.

The main statement says which items have no name, and when a query is compiled or refused for one
of the reasons that are foreseen.
-/

namespace SqlMapping.Query

open Text Outcome

variable {item text characters : List Char} {entries : List (Char × Bool)} {postgres : Bool}

/-- What stands before a cast operator leaves nothing open. -/
theorem isClosed_take_of_castPosition?
    {position : Nat}
    (isFound : castPosition? 0 (marked {} text) = some position) :
    IsClosed (text.take position) := by
  rcases exists_split_of_castPosition? isFound with ⟨before, after, split, starts⟩
  rcases isClosed_of_marked_eq split with ⟨closed, whole⟩
  rw [starts, Nat.zero_add, whole, ← List.length_map (f := Prod.fst), List.take_left]
  exact closed

/-! ## Blanks -/

/-- A scan only waits for a mark that is no blank. -/
theorem isBlank_of_mem_closing
    {state : ScanState}
    (visible : ∀ mark ∈ state.closing, isBlank mark = false)
    (characters : List Char) :
    ∀ mark ∈ (state.after characters).closing, isBlank mark = false := by
  induction characters generalizing state with
  | nil => exact visible
  | cons character rest inductionHypothesis =>
      rw [after_cons]
      apply inductionHypothesis
      intro mark waits
      unfold ScanState.next at waits
      split at waits
      · split_ifs at waits
        · cases waits
        · exact visible mark waits
      · split at waits
        · rename_i opened opens
          cases waits
          unfold closingMark? at opens
          split at opens
          all_goals cases opens
          all_goals decide
        · split_ifs at waits
          all_goals exact visible mark waits

/-- Blanks leave a scan where it stands. -/
theorem after_of_isBlank
    {state : ScanState}
    (visible : ∀ mark ∈ state.closing, isBlank mark = false)
    (blank : ∀ character ∈ characters, isBlank character = true) :
    state.after characters = state := by
  induction characters with
  | nil => rfl
  | cons character rest inductionHypothesis =>
      have isBlankHere := blank character List.mem_cons_self
      have plain := not_isStructural_of_isBlank isBlankHere
      have stays : state.next character = state := by
        unfold ScanState.next
        split
        · rename_i mark waits
          rw [if_neg]
          rintro rfl
          rw [visible character waits] at isBlankHere
          cases isBlankHere
        · have notOpen : character ≠ '(' := fun equal => plain (Or.inr (Or.inl equal))
          have notClose : character ≠ ')' := fun equal => plain (Or.inr (Or.inr equal))
          rw [closingMark?_of_not_isStructural plain]
          dsimp only
          rw [if_neg notOpen, if_neg notClose]
      rw [after_cons, stays]
      exact inductionHypothesis fun other member =>
        blank other (List.mem_cons_of_mem character member)

/-- A closed text is closed without the blanks around it. -/
theorem isClosed_trimBlanks (closed : IsClosed text) : IsClosed (trimBlanks text) := by
  rcases exists_append_trimBlanks text with ⟨before, after, beforeBlank, afterBlank, split⟩
  have nothing : ∀ mark ∈ ({} : ScanState).closing, isBlank mark = false := by simp
  rw [IsClosed, split, after_append, after_append, after_of_isBlank nothing beforeBlank] at closed
  rwa [after_of_isBlank (isBlank_of_mem_closing nothing _) afterBlank] at closed

/-! ## Calls that are not closed -/

/-- A text begins like a cast and never closes a parenthesis. -/
structure CastOpening (item word blanks arguments : List Char) : Prop where
  item_eq : item = word ++ (blanks ++ '(' :: arguments)
  isCast : word.map Char.toUpper = "CAST".toList
  isBlank_of_mem : ∀ character ∈ blanks, isBlank character = true
  notClosed : ')' ∉ arguments

/-- An item of which PostgreSQL would take the name from the operand of a cast that never ends. -/
structure IsUnclosedCast (item : List Char) : Prop where
  opensCast : ∃ word blanks arguments : List Char, CastOpening item word blanks arguments
  notStar : ['.', '*'].isSuffixOf item = false
  notAliased : implicitAlias? item = none

theorem isWordStart_of_toUpper
    {character : Char}
    (start : isWordStart character.toUpper = true) :
    isWordStart character = true := by
  by_cases isLower : character.isLower = true
  · have isAlpha : character.isAlpha = true := Bool.or_eq_true_iff.2 (.inr isLower)
    rw [isWordStart, isAlpha, Bool.true_or]
  · have same : character.toUpper = character :=
      dif_neg fun inRange =>
        isLower
          (Bool.and_eq_true_iff.2 ⟨decide_eq_true inRange.1, decide_eq_true inRange.2⟩)
    rwa [same] at start

/-- The word CAST is an identifier in any letter case. -/
theorem isIdentifier_of_isCast
    {word : List Char}
    (isCast : word.map Char.toUpper = "CAST".toList) :
    isIdentifier word = true := by
  have isStart : ∀ character ∈ word, isWordStart character = true := by
    intro character member
    have upper : character.toUpper ∈ "CAST".toList := by
      rw [← isCast]
      exact List.mem_map_of_mem member
    have starts : "CAST".toList.all isWordStart = true := by decide
    exact isWordStart_of_toUpper (List.all_eq_true.1 starts character.toUpper upper)
  cases word with
  | nil => cases isCast
  | cons first rest =>
      rw [isIdentifier, isStart first List.mem_cons_self, Bool.true_and, List.all_eq_true]
      intro character member
      exact
        isIdentifierCharacter_of_isWordStart (isStart character (List.mem_cons_of_mem first member))

theorem beforeLastParenthesis?_eq_none_iff :
    beforeLastParenthesis? characters = none ↔ ')' ∉ characters := by
  rw [beforeLastParenthesis?]
  cases rest : characters.reverse.dropWhile (· ≠ ')') with
  | nil =>
      have others := List.dropWhile_eq_nil_iff.1 rest
      refine ⟨fun _ closes => ?_, fun _ => rfl⟩
      exact of_decide_eq_true (others ')' (List.mem_reverse.2 closes)) rfl
  | cons mark others =>
      have stops := List.head?_dropWhile_not (· ≠ ')') characters.reverse
      rw [rest] at stops
      obtain rfl : mark = ')' := by simpa using stops
      have closes : ')' ∈ characters := by
        refine List.mem_reverse.1 ((List.dropWhile_suffix (· ≠ ')')).mem ?_)
        rw [rest]
        exact List.mem_cons_self
      exact ⟨fun nothing => (by cases nothing), fun notClosed => absurd closes notClosed⟩

namespace CastOpening

variable {word blanks arguments : List Char}

/-- Behind a parenthesis that is not closed nothing is seen. -/
theorem isCall (opening : CastOpening item word blanks arguments) :
    IsCall item word blanks arguments where
  item_eq := opening.item_eq
  isFunction := isName_of_isIdentifier (isIdentifier_of_isCast opening.isCast)
  isBlank_of_mem := opening.isBlank_of_mem
  isHidden := (hidden_of_not_closed ⟨1, none⟩ (by decide) opening.notClosed).1

theorem expressionName_eq
    (opening : CastOpening item word blanks arguments)
    (fuel : Nat) :
    expressionName true (fuel + 1) item = .error .unclosedCast := by
  have notCast : castPosition? 0 (item.zip (topLevel {} item)) = none :=
    opening.isCall.castPosition?_eq_none
  have nothing := beforeLastParenthesis?_eq_none_iff.2 opening.notClosed
  rw [expressionName, opening.isCall.plainColumn?_eq_none]
  simp only [Bool.not_true, Bool.false_eq_true, if_false, notCast, opening.isCall.call?_eq,
    opening.isCast, if_true, nothing]

/-- The item leaves a parenthesis open. -/
theorem not_isClosed (opening : CastOpening item word blanks arguments) : ¬ IsClosed item := by
  intro closed
  have isDeep :=
    (hidden_of_not_closed ⟨1, none⟩ (by decide) opening.notClosed).2
  have front : IsClosed (word ++ blanks) := (scan_of_plain opening.isCall.not_isStructural).1
  have isInside : ({} : ScanState).next '(' = ⟨1, none⟩ := rfl
  rw [IsClosed, opening.item_eq, ← List.append_assoc, after_append, front, after_cons, isInside]
    at closed
  rw [closed] at isDeep
  exact absurd isDeep (by decide)

end CastOpening

/-! ## Items without a name -/

theorem isClosed_of_beforeAs?
    {operand : List Char}
    (found : beforeAs? text = some operand) :
    IsClosed operand := by
  rw [beforeAs?, Option.map_eq_some_iff] at found
  rcases found with ⟨word, isFirst, rfl⟩
  exact isClosed_take_of_mem_topLevelWords (List.mem_of_find?_eq_some isFirst)

/-- A closed text has a name. -/
theorem exists_expressionName_of_isClosed
    (closed : IsClosed item)
    (fuel : Nat) :
    ∃ name, expressionName postgres fuel item = .ok name := by
  induction fuel generalizing item with
  | zero => exact ⟨item, rfl⟩
  | succ fuel inductionHypothesis =>
      rw [expressionName]
      split
      · exact ⟨_, rfl⟩
      · split
        · exact ⟨_, rfl⟩
        · split
          · rename_i position found
            exact inductionHypothesis (isClosed_trimBlanks (isClosed_take_of_castPosition? found))
          · dsimp only
            split
            · exact ⟨_, rfl⟩
            · rename_i function arguments isCall
              split
              · rename_i isCast
                split
                · rename_i nothing
                  rcases exists_blanks_of_call? isCall with ⟨blanks, isText, blank⟩
                  have opening : CastOpening item function blanks arguments :=
                    ⟨isText, isCast, blank, beforeLastParenthesis?_eq_none_iff.1 nothing⟩
                  exact (opening.not_isClosed closed).elim
                · split
                  · rename_i operand found
                    exact inductionHypothesis (isClosed_trimBlanks (isClosed_of_beforeAs? found))
                  · exact ⟨_, rfl⟩
              · exact ⟨_, rfl⟩

/-- Only a cast that is never closed keeps an expression from being named. -/
theorem expressionName_eq_error
    {fault : NameFault}
    {fuel : Nat}
    (failed : expressionName postgres fuel item = .error fault) :
    postgres = true ∧ fault = .unclosedCast ∧
      ∃ word blanks arguments : List Char, CastOpening item word blanks arguments := by
  cases fuel with
  | zero => cases failed
  | succ fuel =>
      have named {operand : List Char} (closed : IsClosed operand) :
          expressionName postgres fuel (trimBlanks operand) ≠ .error fault := by
        obtain ⟨name, isName⟩ :=
          exists_expressionName_of_isClosed (isClosed_trimBlanks closed) fuel
        rw [isName]
        rintro ⟨⟩
      rw [expressionName] at failed
      split at failed
      · cases failed
      · split at failed
        · cases failed
        · rename_i isPostgres
          split at failed
          · rename_i position found
            exact (named (isClosed_take_of_castPosition? found) failed).elim
          · dsimp only at failed
            split at failed
            · cases failed
            · rename_i function arguments isCall
              split at failed
              · rename_i isCast
                split at failed
                · rename_i nothing
                  cases failed
                  rcases exists_blanks_of_call? isCall with ⟨blanks, isText, blank⟩
                  exact
                    ⟨by simpa using isPostgres, rfl, function, blanks, arguments, isText, isCast,
                      blank, beforeLastParenthesis?_eq_none_iff.1 nothing⟩
                · split at failed
                  · rename_i operand found
                    exact (named (isClosed_of_beforeAs? found) failed).elim
                  · cases failed
              · cases failed

/-- The items without a name are the casts that are never closed, in PostgreSQL. -/
theorem itemNameOf_eq_error_iff {fault : NameFault} :
    itemNameOf postgres item = .error fault ↔
      postgres = true ∧ fault = .unclosedCast ∧ IsUnclosedCast item := by
  constructor
  · intro failed
    rw [itemNameOf] at failed
    split at failed
    · cases failed
    · rename_i notStar
      split at failed
      · cases failed
      · split at failed
        · cases failed
        · rename_i notAliased
          rcases expressionName_eq_error failed with ⟨isPostgres, isFault, opens⟩
          rw [Bool.or_eq_true, not_or] at notStar
          exact ⟨isPostgres, isFault, opens, Bool.eq_false_iff.2 notStar.2, notAliased⟩
  · rintro ⟨rfl, rfl, isUnclosed⟩
    rcases isUnclosed.opensCast with ⟨word, blanks, arguments, opening⟩
    have notStar : ¬ item = star := by
      intro isStar
      have opens : '(' ∈ item := by
        rw [opening.item_eq]
        simp
      rw [isStar] at opens
      exact absurd opens (by decide)
    have unaliased : IsUnaliased item :=
      ⟨by simp [notStar, isUnclosed.notStar], opening.isCall.filter_is_eq_nil (by
        rw [opening.isCast]
        decide)⟩
    rw [unaliased.itemNameOf_of_expression isUnclosed.notAliased]
    exact opening.expressionName_eq item.length

/-- The items of the select list of a statement. -/
def selectItems (sql : String) : List (List Char) :=
  ((selectListOf sql.toList).map splitItems).getD []

/-- A statement cannot be named if one of its items cannot. -/
theorem outputNames_eq_error_iff
    {dialect : Option String}
    {sql : String}
    {fault : NameFault} :
    outputNames dialect sql = .error fault ↔
      dialect = some "postgres" ∧ fault = .unclosedCast ∧
        ∃ item ∈ selectItems sql, IsUnclosedCast item := by
  have itemFails {item : List Char} {cause : NameFault} :
      (itemNameOf (namesExpressions dialect) item).map String.ofList = .error cause ↔
        dialect = some "postgres" ∧ cause = .unclosedCast ∧ IsUnclosedCast item := by
    rw [map_eq_error_iff, itemNameOf_eq_error_iff, namesExpressions, decide_eq_true_iff]
  rw [outputNames, selectItems]
  cases selectListOf sql.toList with
  | none => simp
  | some list =>
      dsimp only [Option.map_some, Option.getD_some]
      rw [map_eq_error_iff, mapM_eq_error_iff]
      · simp only [itemFails]
        constructor
        · rintro ⟨item, isItem, isPostgres, isFault, isUnclosed⟩
          exact ⟨isPostgres, isFault, item, isItem, isUnclosed⟩
        · rintro ⟨isPostgres, isFault, item, isItem, isUnclosed⟩
          exact ⟨item, isItem, isPostgres, isFault, isUnclosed⟩
      · intro first second firstFault secondFault firstFails secondFails
        rw [(itemFails.1 firstFails).2.1, (itemFails.1 secondFails).2.1]

theorem itemName_eq_error_iff
    {dialect : Option String}
    {item : String}
    {fault : NameFault} :
    itemName dialect item = .error fault ↔
      dialect = some "postgres" ∧ fault = .unclosedCast ∧ IsUnclosedCast item.toList := by
  rw [itemName, map_eq_error_iff, itemNameOf_eq_error_iff, namesExpressions, decide_eq_true_iff]

/-- Shapes are told unless a statement cannot be named. -/
theorem checkShapes_eq_unnamed_iff
    {sqls : List String}
    {output : Output}
    {dialect : Option String}
    {fault : NameFault}
    (notEmpty : sqls ≠ []) :
    checkShapes sqls output dialect = .error (.unnamed fault) ↔
      ∃ sql ∈ sqls, outputNames dialect sql = .error fault := by
  have told : shapesOf dialect sqls = .error fault ↔
      ∃ sql ∈ sqls, outputNames dialect sql = .error fault := by
    refine mapM_eq_error_iff fun firstFails secondFails => ?_
    rw [(outputNames_eq_error_iff.1 firstFails).2.1, (outputNames_eq_error_iff.1 secondFails).2.1]
  rw [← told, checkShapes]
  cases named : shapesOf dialect sqls with
  | error other => simp
  | ok shapes =>
      cases shapes with
      | nil =>
          have sameLength := (mapM_eq_ok_iff.1 named).length_eq
          exact absurd (List.length_eq_zero_iff.1 sameLength) notEmpty
      | cons first rest =>
          dsimp only
          split
          · simp
          · split
            · simp
            · simp

/-- Shapes are told for all statements exactly if PostgreSQL finds no cast that is never closed. -/
theorem forall_checkShapes_ne_unnamed_iff
    {sqls : List String}
    {output : Output}
    {dialect : Option String}
    (notEmpty : sqls ≠ []) :
    (∀ fault, checkShapes sqls output dialect ≠ .error (.unnamed fault)) ↔
      (dialect = some "postgres" →
        ∀ sql ∈ sqls, ∀ item ∈ selectItems sql, ¬ IsUnclosedCast item) := by
  simp only [ne_eq, checkShapes_eq_unnamed_iff notEmpty, outputNames_eq_error_iff]
  constructor
  · intro named isPostgres sql isSql item isItem isUnclosed
    exact named .unclosedCast ⟨sql, isSql, isPostgres, rfl, item, isItem, isUnclosed⟩
  · rintro closed fault ⟨sql, isSql, isPostgres, -, item, isItem, isUnclosed⟩
    exact closed isPostgres sql isSql item isItem isUnclosed

/-- A refusal of a limit names it, or tells that it or its number of variants cannot be shown. -/
theorem ofExcess_cases (count : Nat) (limit : Int) :
    ExpansionFault.ofExcess count limit = .capacity count limit ∨
      ExpansionFault.ofExcess count limit = .limitOutOfRange ∨
        ExpansionFault.ofExcess count limit = .excessDigits := by
  unfold ExpansionFault.ofExcess
  split_ifs
  all_goals simp

namespace ConditionalQuery

/--
Whether an outcome is a query or a refusal that is foreseen: of a malformed skeleton, of too many
branch points or of branches that select different columns.
-/
def isForeseen : Except CompileError ConditionalQuery → Bool
  | .ok _ => true
  | .error (.refused (.invalidSkeleton _)) => true
  | .error (.refused (.branchCapacityExceeded _ _)) => true
  | .error (.refused (.shapeMismatch _)) => true
  | .error _ => false

theorem map_sql_variantsOf (backend : Backend) (branches : List Branch) :
    (variantsOf backend branches).map Variant.sql =
      branches.map fun branch => branch.render backend := by
  rw [variantsOf, List.map_map, ← List.zipIdx_map_fst 0 branches, List.map_map]
  simp [Function.comp_def]

theorem isForeseen_ofParts_iff
    (output : Output)
    (backend : Backend)
    (limit : Int)
    (parts : List Part) :
    isForeseen (ofParts output backend limit parts) = true ↔
      (limit < branchPointCount parts → IsShowable limit) ∧
        (branchPointCount parts ≤ limit → backend.name = "postgres" →
          ∀ branch ∈ allBranches parts, ∀ item ∈ selectItems (branch.render backend),
            ¬ IsUnclosedCast item) := by
  by_cases isExceeded : limit < branchPointCount parts
  · have refused :
        ofParts output backend limit parts =
          .error (.ofExpansion (.ofExcess (branchPointCount parts) limit)) := by
      rw [ofParts, expand_of_lt isExceeded]
      rfl
    have notWithin : ¬ branchPointCount parts ≤ limit := Int.not_le.2 isExceeded
    rw [refused, ← ofExcess_eq_capacity_iff (branchPointCount parts)]
    simp only [isExceeded, notWithin, true_imp_iff, false_imp_iff, and_true]
    rcases ofExcess_cases (branchPointCount parts) limit with capacity | range | digits
    · simp [capacity, CompileError.ofExpansion, isForeseen]
    · simp [range, CompileError.ofExpansion, isForeseen]
    · simp [digits, CompileError.ofExpansion, isForeseen]
  · have isWithin := Int.not_lt.1 isExceeded
    have notEmpty : (allBranches parts).map (fun branch => branch.render backend) ≠ [] := by
      rw [← List.length_pos_iff, List.length_map, length_allBranches]
      exact Nat.pow_pos (by decide)
    have named :
        (∀ fault,
            checkShapes ((allBranches parts).map fun branch => branch.render backend) output
              (some backend.name) ≠ .error (.unnamed fault)) ↔
          (some backend.name = some "postgres" →
            ∀ sql ∈ (allBranches parts).map fun branch => branch.render backend,
              ∀ item ∈ selectItems sql, ¬ IsUnclosedCast item) :=
      forall_checkShapes_ne_unnamed_iff notEmpty
    rw [Option.some.injEq, List.forall_mem_map] at named
    rw [ofParts, expand_of_le isWithin]
    simp only [Except.mapError, ok_bind, map_sql_variantsOf, isExceeded, isWithin, true_imp_iff,
      false_imp_iff, true_and]
    rw [← named]
    split
    · rename_i cause isMismatch
      change true = true ↔ _
      simp [isMismatch]
    · rename_i fault isUnnamed
      change false = true ↔ _
      simp [isUnnamed]
    · rename_i names isNamed
      change true = true ↔ _
      simp [isNamed]

/--
A query is compiled, or refused for a reason that is foreseen, exactly if an exceeded limit can be
shown and, in PostgreSQL, no item of any branch is a cast that is never closed.  These are the only
items without a name, whatever the text, in the only dialect where there are any.
-/
theorem isForeseen_compile_iff
    {workspace : Workspace}
    {choice : BackendChoice}
    {backend : Backend}
    (resolved : workspace.resolve choice = .ok backend)
    (limit : Option Int)
    (output : Output)
    (items : List SkeletonItem) :
    (isForeseen (compile workspace choice limit output items) = true ↔
        ∀ parts, skeletonParts items = .ok parts →
          (limit.getD workspace.settings.maxBranchPoints < branchPointCount parts →
              IsShowable (limit.getD workspace.settings.maxBranchPoints)) ∧
            (branchPointCount parts ≤ limit.getD workspace.settings.maxBranchPoints →
              backend.name = "postgres" →
                ∀ branch ∈ allBranches parts, ∀ item ∈ selectItems (branch.render backend),
                  ¬ IsUnclosedCast item)) ∧
      ∀ (dialect : Option String) (item : String),
        (∃ name, itemName dialect item = .ok name) ↔
          ¬ (dialect = some "postgres" ∧ IsUnclosedCast item.toList) := by
  constructor
  · rw [compile, skeletonParts]
    cases tokensRead : Token.ofItems items with
    | error fault => simp [Except.mapError, isForeseen]
    | ok tokens =>
        cases checked : checkSkeleton tokens with
        | error fault => simp [Except.mapError, resolved, checked, isForeseen]
        | ok parts =>
            simp [Except.mapError, resolved, checked, isForeseen_ofParts_iff]
  · intro dialect item
    cases named : itemName dialect item with
    | ok name =>
        have notFailed (fault : NameFault) : itemName dialect item ≠ .error fault := by
          rw [named]
          rintro ⟨⟩
        simp only [Except.ok.injEq, exists_eq', true_iff]
        exact fun isUnclosed => notFailed .unclosedCast
          (itemName_eq_error_iff.2 ⟨isUnclosed.1, rfl, isUnclosed.2⟩)
    | error fault =>
        have isUnclosed := itemName_eq_error_iff.1 named
        simp [isUnclosed.1, isUnclosed.2.2]

/-- A query with one literal. -/
def selecting (list : String) : List SkeletonItem := [.literal ("SELECT " ++ list)]

/-- A cast that is closed is named after its operand. -/
theorem isForeseen_compile_closedCast :
    Workspace.standard.resolve (.registered "postgres") = .ok .postgres ∧
      isForeseen
          (compile .standard (.registered "postgres") none .dict (selecting "CAST(a AS int)")) =
        true := by
  have resolved : Workspace.standard.resolve (.registered "postgres") = .ok .postgres := rfl
  refine ⟨resolved, (isForeseen_compile_iff resolved none .dict _).1.2 fun parts read => ?_⟩
  have isLiteral : parts = [.fragment (.literal "SELECT CAST(a AS int)")] :=
    (Except.ok.inj read).symm
  subst isLiteral
  refine ⟨fun isExceeded => absurd isExceeded (by decide), fun _ _ branch isBranch => ?_⟩
  obtain rfl : branch = ⟨[], [.literal "SELECT CAST(a AS int)"]⟩ := List.mem_singleton.1 isBranch
  intro item isItem isUnclosed
  have items :
      selectItems (Branch.render ⟨[], [.literal "SELECT CAST(a AS int)"]⟩ .postgres) =
        ["CAST(a AS int)".toList] := by
    decide +kernel
  rw [items, List.mem_singleton] at isItem
  subst isItem
  have failed := itemNameOf_eq_error_iff.2 ⟨rfl, rfl, isUnclosed⟩
  revert failed
  decide +kernel

/-- A cast that is never closed has no name, and a query that selects it fails unforeseen. -/
theorem not_isForeseen_compile_openCast :
    itemName (some "postgres") "CAST(a" = .error .unclosedCast ∧
      isForeseen (compile .standard (.registered "postgres") none .dict (selecting "CAST(a")) =
        false := by
  decide +kernel

end ConditionalQuery

end SqlMapping.Query
