namespace QueryDesk

namespace Keyword

def structTypes : List String := ["FILE", "OBJECT", "ROW", "STRUCT", "UNION"]

def nestedTypes : List String := ["ARRAY", "LIST", "MAP", "NULLABLE", "RANGE"] ++ structTypes

def clockTypes : List String :=
  ["DATETIME", "TIME", "TIMESTAMP", "TIMESTAMPLTZ", "TIMESTAMPNTZ", "TIMESTAMPTZ", "TIMESTAMP_LTZ",
    "TIMESTAMP_NTZ", "TIMESTAMP_US", "TIMETZ"]

def signedTypes : List String :=
  ["BIGINT", "BYTE", "DEC", "DECIMAL", "DOUBLE", "DOUBLE PRECISION", "FIXED", "FLOAT8", "INT", "INT1", "INT16", "INT2", "INT32", "INT4", "INT64", "INT8", "INTEGER", "LONG", "MEDIUMINT",
    "NUMBER", "NUMERIC", "SHORT", "SIGNED", "SMALLINT", "TINYINT"]

def types : List String :=
  nestedTypes ++ clockTypes ++ signedTypes ++
    ["BIGDECIMAL", "BIGNUM", "BIGNUMERIC", "BINARY", "BIT", "BITSTRING", "BLOB", "BOOL", "BOOLEAN",
      "BPCHAR", "BYTEA", "CHAR", "CHAR VARYING", "CHARACTER", "CHARACTER VARYING", "CLOB", "DATE",
      "DATEMULTIRANGE", "DATERANGE", "DECFLOAT", "DECIMAL128", "DECIMAL256", "DECIMAL32", "DECIMAL64",
      "ENUM", "FLOAT", "FLOAT4", "GEOGRAPHY", "GEOMETRY", "HUGEINT", "INET", "INT128", "INT256", "INT4MULTIRANGE",
      "INT4RANGE", "INT8MULTIRANGE", "INT8RANGE", "INTERVAL", "JSON", "JSONB", "LOGICAL", "LONGBLOB",
      "LONGTEXT", "LONGVARCHAR", "MEDIUMBLOB", "MEDIUMTEXT", "NCHAR", "NULL", "NUMMULTIRANGE",
      "NUMRANGE", "NVARCHAR", "NVARCHAR2", "REAL", "STR", "STRING", "TEXT", "TIMESTAMP_MS",
      "TIMESTAMP_NS", "TIMESTAMP_S", "TIME_NS", "TINYBLOB", "TINYTEXT",
      "TSMULTIRANGE", "TSRANGE", "TSTZMULTIRANGE", "TSTZRANGE", "UBIGINT", "UHUGEINT", "UINT",
      "UINT128", "UINT256", "UINTEGER", "UNKNOWN", "USMALLINT", "UTINYINT", "UUID", "VARBINARY",
      "VARCHAR", "VARCHAR2", "VARIANT", "VECTOR"]

def rowTests : List String := ["ALL", "ANY", "EXISTS", "SOME"]

def silentCalls : List (String × String) :=
  [("CURRENT_CATALOG", "CURRENTCATALOG"), ("CURRENT_DATE", "CURRENTDATE"),
    ("CURRENT_TIME", "CURRENTTIME"), ("CURRENT_TIMESTAMP", "CURRENTTIMESTAMP"),
    ("CURRENT_USER", "CURRENTUSER"), ("LOCALTIME", "LOCALTIME"),
    ("LOCALTIMESTAMP", "LOCALTIMESTAMP"), ("SESSION_USER", "SESSIONUSER")]

def places : List String :=
  ["DATABASE", "NAMESPACE", "SCHEMA", "SEQUENCE", "TABLE", "VIEW"]

def creatables : List String :=
  places ++ ["COLUMN", "CONSTRAINT", "FOREIGN KEY", "FUNCTION", "INDEX", "MACRO", "PROCEDURE"]

def commands : List String :=
  ["CALL", "EXECUTE", "EXPLAIN", "FETCH", "OPTIMIZE", "PREPARE", "RENAME", "RESET", "VACUUM"]

def statements : List String :=
  ["ALTER", "ANALYZE", "ATTACH", "BEGIN", "CACHE", "COMMENT", "COMMIT", "COPY", "CREATE", "DELETE",
    "DESC", "DESCRIBE", "DETACH", "DROP", "FORCE", "GRANT", "INSERT", "INSTALL", "KILL", "LOAD",
    "MERGE", "PIVOT", "PIVOT_WIDER", "PRAGMA", "REVOKE", "ROLLBACK", "SET", "SHOW", "TRUNCATE",
    "UNCACHE", "UNPIVOT", "UPDATE", "USE"]

def names : List String :=
  (types.filter (· != "UNION")) ++ rowTests ++ silentCalls.map Prod.fst ++ creatables ++
    commands.filter (· != "FETCH") ++
    ["ANTI", "APPLY", "ASC", "ASOF", "ATTACH", "AUTOINCREMENT", "AUTO_INCREMENT", "BEGIN", "CACHE",
      "CASE", "COLLATE", "COMMENT", "COMMIT", "COPY", "CUBE", "CURRENT_SCHEMA", "DEFAULT", "DELETE",
      "DESC", "DESCRIBE", "DETACH", "DIV", "END", "ESCAPE", "FALSE", "FILTER", "FIRST", "FORMAT",
      "FULL", "IN", "IS", "ISNULL", "KEEP", "KILL", "LEFT", "LIMIT", "LOAD", "LOCK", "MERGE",
      "NATURAL", "NEXT", "OFFSET", "OPERATOR", "ORDINALITY", "OUT", "OVER", "OVERLAPS", "OVERWRITE",
      "PARTITION", "PERCENT", "PIVOT", "PIVOT_WIDER", "PRAGMA", "RECURSIVE", "REFERENCES", "REPLACE",
      "RIGHT", "ROLLUP", "ROWS", "SEMI", "SESSION", "SET", "SETTINGS", "SHOW", "TEMP", "TEMPORARY",
      "TRUE", "TRUNCATE", "UNIQUE", "UNNEST", "UNPIVOT", "UPDATE", "USE", "VOLATILE", "WINDOW"]

def unfitForTables : List String :=
  ["ANTI", "ASOF", "FULL", "LEFT", "LIMIT", "LOCK", "NATURAL", "OFFSET", "RIGHT", "SEMI", "WINDOW"]

def callables : List String :=
  types ++ rowTests ++ silentCalls.map Prod.fst ++ commands.filter (! ["EXECUTE", "FETCH", "RENAME"].contains ·) ++
    ["COLLATE", "CURRENT_SCHEMA", "FILTER", "FIRST", "FORMAT", "GLOB", "ILIKE", "INDEX", "INSERT",
      "ISNULL", "LEFT", "LIKE", "MERGE", "NEXT", "OFFSET", "PRIMARY KEY", "REGEXP", "REPLACE", "RIGHT",
      "RLIKE", "SEQUENCE", "TABLE", "TRUNCATE", "UNNEST", "WINDOW", "XOR"]

def others : List String :=
  ["ALTER", "ANALYZE", "AND", "AS", "BETWEEN", "CHARACTER SET", "CLUSTER BY", "CONNECT BY", "CREATE",
    "CROSS", "DISTINCT", "DISTRIBUTE BY", "DROP", "ELSE", "EXCEPT", "FETCH", "FOR", "FOR TIMESTAMP",
    "FOR VERSION", "FORCE", "FROM", "GLOB", "GRANT", "GROUP BY", "GROUPING SETS", "HAVING", "ILIKE",
    "INNER", "INSERT", "INSTALL", "INTERSECT", "INTO", "JOIN", "LATERAL", "LIKE", "NOT", "NOTNULL",
    "ON", "ONLY", "OR", "ORDER BY", "OUTER", "PARTITION BY", "PARTITIONED_BY", "POSITIONAL",
    "PRIMARY KEY", "QUALIFY", "REGEXP", "RETURNING", "REVOKE", "RLIKE", "ROLLBACK", "SELECT",
    "SIMILAR TO", "SORT BY", "START WITH", "STRAIGHT_JOIN", "SUMMARIZE", "TABLESAMPLE", "THEN",
    "UNCACHE", "UNION", "USING", "VALUES", "WHEN", "WHERE", "WITH", "XOR"]

def all : List String := others ++ names

def pairs : List ((String × String) × String) :=
  [(("CHAR", "VARYING"), "CHAR VARYING"), (("CHARACTER", "SET"), "CHARACTER SET"),
    (("CHARACTER", "VARYING"), "CHARACTER VARYING"), (("CLUSTER", "BY"), "CLUSTER BY"),
    (("CONNECT", "BY"), "CONNECT BY"), (("DISTRIBUTE", "BY"), "DISTRIBUTE BY"),
    (("DOUBLE", "PRECISION"), "DOUBLE PRECISION"), (("FOR", "TIMESTAMP"), "FOR TIMESTAMP"),
    (("FOR", "VERSION"), "FOR VERSION"), (("FOREIGN", "KEY"), "FOREIGN KEY"),
    (("GROUP", "BY"), "GROUP BY"), (("GROUPING", "SETS"), "GROUPING SETS"),
    (("ORDER", "BY"), "ORDER BY"), (("PARTITION", "BY"), "PARTITION BY"),
    (("PARTITIONED", "BY"), "PARTITION BY"), (("PRIMARY", "KEY"), "PRIMARY KEY"),
    (("SIMILAR", "TO"), "SIMILAR TO"), (("SORT", "BY"), "SORT BY"),
    (("START", "WITH"), "START WITH")]

def ofPair? (first second : String) : Option String := pairs.lookup (first, second)

end Keyword

end QueryDesk
