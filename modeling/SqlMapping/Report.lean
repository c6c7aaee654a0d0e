import SqlMapping.Error

/-!
# Reports

Checking and compiling a declaration may fail, and it notes what it does along the way:
reserved names are warned about, and every generated statement is noted.  A report is the
outcome together with the notices in order; the notices made before a failure are kept.
-/

namespace SqlMapping

/-- How important a notice is. -/
inductive NoticeLevel where
  | debug
  | warning
deriving DecidableEq

/-- The text of a notice level. -/
def NoticeLevel.text : NoticeLevel → String
  | .debug => "DEBUG"
  | .warning => "WARNING"

/-- Something worth noting while a declaration or a query is compiled. -/
inductive Notice where
  /-- A field or column name is reserved by a backend. -/
  | reservedName (location identifier backend : String)
  | tableParsed (entity table : String) (fieldCount : Nat) (backend : String)
  | patchParsed (entity table : String) (fieldCount : Nat)
  /-- A statement was generated for an operation of an entity. -/
  | statement (entity operation sql : String)
  /-- A variant of a conditional query was rendered. -/
  | variant (index : Nat) (guards : List String) (sql : String)
deriving DecidableEq

namespace Notice

/-- The level of a notice. -/
def level : Notice → NoticeLevel
  | .reservedName .. => .warning
  | .tableParsed .. | .patchParsed .. | .statement .. | .variant .. => .debug

/-- The wording of a notice. -/
def text : Notice → String
  | .reservedName location identifier backend =>
    location ++ ": '" ++ identifier ++ "' is a reserved keyword of " ++ backend
      ++ ", you might want to consider choosing a different name."
  | .tableParsed entity table fieldCount backend =>
    "Parsed table " ++ entity ++ " -> " ++ table ++ " (" ++ toString fieldCount
      ++ " fields, backend=" ++ backend ++ ")"
  | .patchParsed entity table fieldCount =>
    "Parsed patch " ++ entity ++ " -> " ++ table ++ " (" ++ toString fieldCount ++ " fields)"
  | .statement entity operation sql => entity ++ "." ++ operation ++ ": " ++ sql
  | .variant index guards sql =>
    "variant " ++ toString index ++ " " ++ Value.literalTexts guards ++ ": " ++ sql

end Notice

/-- The outcome of checking or compiling, with the notices made on the way. -/
structure Report (α : Type) where
  notices : List Notice
  outcome : Except BuildError α

namespace Report

/-- A result without notices. -/
def pure {α : Type} (value : α) : Report α := ⟨[], .ok value⟩

/-- A failure without notices. -/
def fail {α : Type} (error : BuildError) : Report α := ⟨[], .error error⟩

/-- A single notice. -/
def note (notice : Notice) : Report Unit := ⟨[notice], .ok ()⟩

/-- An outcome without notices. -/
def ofExcept {α : Type} (outcome : Except BuildError α) : Report α := ⟨[], outcome⟩

/-- Continue after a result; the notices of both parts are kept in order. -/
def bind {α β : Type} (report : Report α) (next : α → Report β) : Report β :=
  match report.outcome with
  | .error error => ⟨report.notices, .error error⟩
  | .ok value => ⟨report.notices ++ (next value).notices, (next value).outcome⟩

instance : Monad Report where
  pure := Report.pure
  bind := Report.bind

instance : MonadExceptOf BuildError Report where
  throw error := Report.fail error
  tryCatch report handler :=
    match report.outcome with
    | .ok _ => report
    | .error error =>
      ⟨report.notices ++ (handler error).notices, (handler error).outcome⟩

/-- The warnings among the notices of a report, in order. -/
def warnings {α : Type} (report : Report α) : List Notice :=
  report.notices.filter fun notice => notice.level = .warning

@[simp]
theorem pure_eq {α : Type} (value : α) :
    (Pure.pure value : Report α) = ⟨[], .ok value⟩ := rfl

@[simp]
theorem throw_eq {α : Type} (error : BuildError) :
    (throw error : Report α) = ⟨[], .error error⟩ := rfl

@[simp]
theorem bind_ok {α β : Type} (notices : List Notice) (value : α) (next : α → Report β) :
    (⟨notices, .ok value⟩ : Report α) >>= next =
      ⟨notices ++ (next value).notices, (next value).outcome⟩ := rfl

@[simp]
theorem bind_error
    {α β : Type}
    (notices : List Notice)
    (error : BuildError)
    (next : α → Report β) :
    (⟨notices, .error error⟩ : Report α) >>= next = ⟨notices, .error error⟩ := rfl

/-- The outcome of a sequence depends on the outcomes of its parts only. -/
theorem outcome_bind {α β : Type} (report : Report α) (next : α → Report β) :
    (report >>= next).outcome = report.outcome >>= fun value => (next value).outcome := by
  obtain ⟨notices, outcome⟩ := report
  cases outcome <;> rfl

/-- What is made of a result is made of the outcome. -/
theorem outcome_map {α β : Type} (function : α → β) (report : Report α) :
    (function <$> report).outcome = report.outcome.map function := by
  obtain ⟨notices, outcome⟩ := report
  cases outcome <;> rfl

instance : LawfulMonad Report :=
  LawfulMonad.mk' Report
    (by
      rintro α ⟨notices, outcome⟩
      cases outcome <;> simp [Functor.map, Report.bind, Report.pure])
    (by
      intro α β value next
      show Report.bind (Report.pure value) next = next value
      simp [Report.bind, Report.pure])
    (by
      rintro α β γ ⟨notices, outcome⟩ next last
      show Report.bind (Report.bind _ _) _ = Report.bind _ (fun _ => Report.bind _ _)
      cases outcome with
      | error error => rfl
      | ok value =>
          cases equality : (next value).outcome <;>
            simp [Report.bind, equality, List.append_assoc])

end Report

end SqlMapping
