/-!
# Reserved words

The words that a database does not accept as bare identifiers, in upper case.  Every supported
database reserves the common words; each reserves some more.
-/

namespace SqlMapping.Reserved

/-- Words reserved by every supported database. -/
def commonWords : List String :=
  ["ALL", "ALTER", "AND", "ANY", "AS", "ASC", "BETWEEN", "BY", "CASE", "CHECK", "COLUMN",
    "CONSTRAINT", "CREATE", "CROSS", "DEFAULT", "DELETE", "DESC", "DISTINCT", "DROP", "ELSE",
    "END", "EXISTS", "FOR", "FOREIGN", "FROM", "GROUP", "HAVING", "IN", "INNER", "INSERT",
    "INTO", "IS", "JOIN", "LEFT", "LIKE", "LIMIT", "NOT", "NULL", "ON", "OR", "ORDER", "OUTER",
    "PRIMARY", "REFERENCES", "RIGHT", "SELECT", "SET", "TABLE", "THEN", "TO", "UNION", "UNIQUE",
    "UPDATE", "USING", "VALUES", "WHEN", "WHERE", "WITH"]

/-- Words reserved by PostgreSQL besides the common ones. -/
def postgresWords : List String :=
  ["ANALYSE", "ANALYZE", "ARRAY", "ASYMMETRIC", "BOTH", "CAST", "COLLATE", "CURRENT_CATALOG",
    "CURRENT_DATE", "CURRENT_ROLE", "CURRENT_TIME", "CURRENT_TIMESTAMP", "CURRENT_USER",
    "DEFERRABLE", "DO", "EXCEPT", "FALSE", "FETCH", "GRANT", "ILIKE", "INITIALLY", "INTERSECT",
    "LATERAL", "LEADING", "LOCALTIME", "LOCALTIMESTAMP", "OFFSET", "ONLY", "PLACING",
    "RETURNING", "SESSION_USER", "SOME", "SYMMETRIC", "TRAILING", "TRUE", "USER", "VARIADIC",
    "WINDOW"]

/-- Words reserved by MySQL besides the common ones. -/
def mysqlWords : List String :=
  ["ACCESSIBLE", "ADD", "ANALYZE", "BEFORE", "BIGINT", "BINARY", "BLOB", "BOTH", "CALL",
    "CHANGE", "CHAR", "CHARACTER", "CONDITION", "CONTINUE", "CONVERT", "CURRENT_DATE",
    "CURRENT_TIME", "CURRENT_TIMESTAMP", "CURRENT_USER", "DATABASE", "DATABASES", "DECIMAL",
    "DECLARE", "DELAYED", "DESCRIBE", "DIV", "DOUBLE", "EACH", "ELSEIF", "EXIT", "EXPLAIN",
    "FALSE", "FETCH", "FLOAT", "FORCE", "FULLTEXT", "GENERATED", "GRANT", "GROUPS", "IF",
    "IGNORE", "INDEX", "INT", "INTEGER", "INTERVAL", "KEY", "KEYS", "KILL", "LEADING", "LEAVE",
    "LINES", "LOAD", "LOCK", "LONG", "LOOP", "MATCH", "MOD", "NATURAL", "OPTION", "OUT",
    "PARTITION", "PROCEDURE", "RANGE", "RANK", "READ", "REAL", "REGEXP", "RELEASE", "RENAME",
    "REPEAT", "REPLACE", "REQUIRE", "RETURN", "REVOKE", "RLIKE", "ROW", "ROWS", "SCHEMA", "SHOW",
    "SIGNAL", "SPATIAL", "SQL", "SSL", "STARTING", "TRAILING", "TRIGGER", "TRUE", "UNDO",
    "UNLOCK", "UNSIGNED", "USAGE", "USE", "VARCHAR", "WHILE", "WRITE", "XOR", "ZEROFILL"]

/-- Words reserved by SQLite besides the common ones. -/
def sqliteWords : List String :=
  ["ABORT", "ACTION", "ADD", "AFTER", "ANALYZE", "ATTACH", "AUTOINCREMENT", "BEFORE", "BEGIN",
    "CASCADE", "CAST", "COLLATE", "COMMIT", "CONFLICT", "CURRENT_DATE", "CURRENT_TIME",
    "CURRENT_TIMESTAMP", "DATABASE", "DEFERRABLE", "DEFERRED", "DETACH", "EACH", "ESCAPE",
    "EXCEPT", "EXCLUSIVE", "EXPLAIN", "FAIL", "FULL", "GLOB", "IF", "IGNORE", "IMMEDIATE",
    "INDEX", "INDEXED", "INITIALLY", "INSTEAD", "INTERSECT", "ISNULL", "KEY", "MATCH", "NATURAL",
    "NO", "NOTNULL", "OF", "OFFSET", "PLAN", "PRAGMA", "QUERY", "RAISE", "RECURSIVE", "REGEXP",
    "REINDEX", "RELEASE", "RENAME", "REPLACE", "RESTRICT", "ROLLBACK", "ROW", "SAVEPOINT",
    "TEMP", "TEMPORARY", "TRANSACTION", "TRIGGER", "VACUUM", "VIEW", "VIRTUAL"]

end SqlMapping.Reserved
