import SqlMapping.Failure
import SqlMapping.Schema.Options

/-!
# Explicit options

A lookup option and an insert option can be built from named arguments.  Arguments that there
are not are refused, and the settings of an insert model cannot take the place of its name.
-/

namespace SqlMapping

/-- The name that an option gives, if it gives one. -/
def optionName (arguments : List (String × Value)) : Except Failure (Option String) :=
  (Checked.entry arguments "name" (some none) Checked.text?).mapError .invalid

/-- The lookup option that named arguments make. -/
def Value.ofLookupArguments (arguments : List (String × Value)) : Except Failure Value :=
  match arguments.find? fun argument => argument.1 ≠ "name" ∧ argument.1 ≠ "arg_type" with
  | some argument => .error (.mismatch (.unexpectedArgument "getter" argument.1))
  | none =>
    (optionName arguments).map fun name =>
      .lookupOption name ((arguments.lookup "arg_type").getD .null)

/-- The insert option that a name and the settings of the model make. -/
def Value.ofInsertArguments (arguments : List (String × Value)) : Except Failure Value :=
  let config :=
    match arguments.lookup "config" with
    | some (.object entries) => entries
    | _ => []
  if (config.lookup "name").isSome then
    .error (.mismatch (.repeatedArgument "insertable" "name"))
  else (optionName arguments).map fun name => .insertOption name config

end SqlMapping
