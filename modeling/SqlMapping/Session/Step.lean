import SqlMapping.Session

/-!
# Steps of a session

A step is one operation of a session, against one of its connections.  A step can replace the
replies of that connection first.  A unit of work is a step that contains others.
-/

namespace SqlMapping

/-- A class as a step defines it. -/
structure ClassRequest where
  name : String
  /-- The name of the class that is extended, if it is not the root. -/
  base : Option String := none
  marker : ClassMarker := .absent
  fields : List ClassField := []
  methods : List String := []
  /-- The classes that are defined inside the class: their names in it, and where they are held. -/
  nested : List (String × String) := []
  /-- The options of the model that the class sets itself. -/
  config : List (String × Value) := []
  /-- The module that the class is defined in, if it is not the usual one. -/
  moduleName : Option String := none
  /-- The dotted name of the class inside which the class is defined, if there is one. -/
  outerName : Option String := none
  /-- Whether the module gets no name for the class. -/
  isHidden : Bool := false

namespace ClassRequest

/-- The dotted name of a class in its module. -/
def innerPath (request : ClassRequest) : String :=
  (request.outerName.map fun outer => outer ++ ".").getD "" ++ request.name

/-- Whether no name of a module leads to a class, which is defined for a while or inside another. -/
def isUnbound (request : ClassRequest) : Bool :=
  request.isHidden || request.outerName.isSome

end ClassRequest

/-- How many rows a fetch expects. -/
inductive FetchMode where
  | all
  | one
  | optional

/-- A statement with its arguments. -/
structure StatementCall where
  sql : String
  arguments : List Value := []
  dialect : Option String := none

/-- What rows are decoded into: a kind of output, or the class of a name. -/
inductive OutputChoice where
  | output (output : Output)
  | className (name : String)

/-- A conditional query as a step defines it. -/
structure QueryRequest where
  output : OutputChoice
  backend : BackendChoice
  limit : Option Int := none
  items : List Query.SkeletonItem

/-- How a query is fetched. -/
inductive QueryFetch where
  | rows (mode : FetchMode)
  | stream

/-- An operation of a session. -/
inductive Operation where
  | defineDeclared (declaration : Value) (base : Option String) (isHidden : Bool)
  | defineTable (request : ClassRequest)
  | definePatch (request : ClassRequest)
  /-- Let a name in a loaded module lead to a class that is held. -/
  | bind (moduleName name object : String)
  | unbind (moduleName name : String)
  | importModule (moduleName : String)
  | create (className : String) (values : List (String × Value)) (name : Option String)
  | display (object : String)
  | assign (object field : String) (value : Value)
  | append (object field : String) (value : Value)
  | insert (row : String) (name : Option String)
  | get (className : String) (identifier : Value) (name : Option String)
  | all (className : String)
  /-- A stream of all rows, or of the page of an offset and a limit. -/
  | stream (className : String) (page : Option (Value × Value)) (name : Option String)
  | next (stream : String) (count : Nat)
  | close (stream : String)
  | update (object : String)
  | delete (object : String)
  | reload (object : String)
  | deleteRow (className : String) (identifier : Value)
  | lookup (className member : String) (argument : Value) (name : Option String)
  | set (object member : String) (value : Value)
  | patch (object patch : String)
  | patchRow (patch : String) (identifier : Value)
  | applyPatch (patch object : String)
  | targets (patchClass className : String)
  | compiled (patchClass : String)
  | execute (call : StatementCall)
  | fetch (mode : FetchMode) (call : StatementCall) (output : OutputChoice)
  | streamRows (request : StreamRequest) (output : OutputChoice) (name : Option String)
  | fetchRow (call : StatementCall)
  | handle
  | setConnection (change : Connection → Connection)
  | configure (change : SettingsChange)
  | query (request : QueryRequest) (name : Option String)
  | fetchQuery (query : String) (fetch : QueryFetch) (parameters : Query.Parameters)
      (name : Option String)
  /-- An operation that cannot be told from its description. -/
  | refused (failure : Failure)

/-- A step of a session. -/
inductive Step where
  | operation (connection : String) (replies : Option (List Reply)) (operation : Operation)
  /-- A unit of work over some steps, which can raise a fault after them. -/
  | work (connection : String) (replies : Option (List Reply)) (beginSql : String)
      (steps : List Step) (fault : Option Fault)
deriving Inhabited

/-- What a step gives. -/
inductive StepResult where
  | value (value : Value)
  | table (table : TableClass)
  | patch (patch : PatchClass)
  | statement (statement : Statement)
  | handle (isPool isInTransaction isAutocommit : Bool)
  | settings (settings : Settings)
  | query (query : Query.ConditionalQuery)
  | several (results : List StepResult)

/-- What a step gave, and what there is to see afterwards. -/
structure StepReport where
  result : Except Failure StepResult
  /-- The warnings that were issued. -/
  warnings : List Notice
  events : List Event
  /-- The object that the step was about, if it is there. -/
  state : Option Value

/-- The object that an operation is about, if it is about one. -/
def Operation.subject? : Operation → Option String
  | .display object | .assign object _ _ | .append object _ _ | .update object | .delete object
  | .reload object | .set object _ _ | .patch object _ | .applyPatch _ object => some object
  | _ => none

/-- The object that a step is about, if it is about one. -/
def Step.subject? : Step → Option String
  | .operation _ _ performed => performed.subject?
  | .work .. => none

end SqlMapping
