namespace QueryDesk

/-- What is known of a function: the kind of its calls and the least and the greatest number of
    arguments. -/
structure Signature where
  kind : String
  least : Nat
  most : Option Nat

namespace Signature

def groups : List (Nat × Option Nat × List String) :=
  [(0, some 0, ["PI"]),
    (0, some 1, ["CURRENT_DATE", "CURRENT_TIME", "CURRENT_USER", "NTILE", "ROW_NUMBER"]),
    (0, some 2, ["CURRENT_TIMESTAMP", "LOG10", "LOG2", "MAP", "MODE", "TIME"]),
    (0, some 3, ["RAND", "UUID"]),
    (0, some 4, ["TIMESTAMP"]),
    (0, none,
      ["ANY_VALUE", "ARRAY", "COUNT", "CUME_DIST", "DATE", "DENSE_RANK", "LIST", "PERCENT_RANK",
        "RANK", "STRUCT"]),
    (1, some 1,
      ["ABS", "ACOS", "ACOSH", "ARRAY_DISTINCT", "ARRAY_FIRST", "ARRAY_LAST", "ARRAY_REVERSE",
        "ARRAY_UNION_AGG", "ARRAY_UNIQUE_AGG", "ASCII", "ASIN", "ASINH", "ATANH", "AVG",
        "BITWISE_AND_AGG", "BITWISE_COUNT", "BITWISE_OR_AGG", "BITWISE_XOR_AGG", "BIT_LENGTH",
        "BYTE_LENGTH", "CBRT", "COS", "COSH", "COT", "COTH", "COUNT_IF", "CSC", "CSCH", "DAY",
        "DAY_OF_MONTH", "DAY_OF_WEEK", "DAY_OF_WEEK_ISO", "DAY_OF_YEAR", "EXP", "FACTORIAL",
        "FIRST_VALUE", "FLATTEN", "FROM_BASE64", "HEX", "HOUR", "IS_INF", "IS_NAN", "KURTOSIS",
        "LAST_VALUE", "LN", "LOGICAL_AND", "LOGICAL_OR", "LOWER", "MAP_FROM_ENTRIES", "MD5",
        "MEDIAN", "MINUTE", "MONTH", "OCTET_LENGTH", "QUARTER", "REVERSE", "SEC", "SECH", "SECOND",
        "SHA", "SIGN", "SIN", "SINH", "SKEWNESS", "SOUNDEX", "SPACE", "SQRT", "STDDEV", "STDDEV_POP",
        "STDDEV_SAMP", "SUM", "TAN", "TANH", "TIME_TO_UNIX", "TO_BASE64", "TO_DAYS", "TYPEOF",
        "UNICODE", "UNIX_DATE", "UNIX_MICROS", "UNIX_MILLIS", "UNIX_SECONDS", "UPPER", "VARIANCE",
        "VARIANCE_POP", "WEEK_OF_YEAR", "YEAR"]),
    (1, some 2,
      ["APPROX_DISTINCT", "ARRAY_AGG", "ARRAY_SIZE", "ARRAY_SUM", "ATAN", "COLUMNS", "DAYNAME",
        "ENCODE", "EXISTS", "FIRST", "INITCAP", "LAST", "LAST_DAY", "LOG", "MONTHNAME",
        "PERCENTILE_CONT", "PERCENTILE_DISC", "SHA2", "UNHEX", "WEEK"]),
    (1, some 3,
      ["APPROX_TOP_K", "CEIL", "DECODE", "LAG", "LEAD", "LENGTH", "PARSE_JSON", "SORT_ARRAY",
        "STR_TO_DATE", "SUBSTRING", "TRUNC"]),
    (1, some 4, ["DATE_FROM_PARTS", "GENERATE_SERIES", "ROUND", "STR_TO_MAP", "TRIM"]),
    (1, some 5, ["SPLIT_PART"]),
    (1, some 6, ["LEVENSHTEIN"]),
    (1, some 7, ["UNIX_TO_TIME"]),
    (1, none,
      ["ARRAY_CONCAT", "ARRAY_INTERSECT", "COALESCE", "CONCAT", "CONCAT_WS", "EXPLODE", "GREATEST",
        "LEAST", "MAX", "MIN", "READ_CSV", "READ_PARQUET"]),
    (2, some 2,
      ["ARRAY_ALL", "ARRAY_ANY", "ARRAY_APPEND", "ARRAY_CONTAINS_ALL", "ARRAY_FILTER",
        "ARRAY_OVERLAPS", "ARRAY_PREPEND", "ARRAY_REMOVE", "ATAN2", "CORR", "COVAR_POP",
        "COVAR_SAMP", "ENDS_WITH", "LEFT", "NULLIF", "POW", "QUANTILE", "REGR_AVGX", "REGR_AVGY",
        "REGR_COUNT", "REGR_INTERCEPT", "REGR_R2", "REGR_SLOPE", "REGR_SXX", "REGR_SXY",
        "REGR_SYY", "REPEAT", "RIGHT", "SAFE_DIVIDE", "STARTS_WITH", "STRUCT_EXTRACT",
        "TRANSFORM"]),
    (2, some 3,
      ["ARRAY_CONTAINS", "ARRAY_TO_STRING", "CONTAINS", "DATETIME_ADD", "DATETIME_SUB", "DATE_ADD",
        "IF", "NTH_VALUE", "NVL2", "REGEXP_FULL_MATCH", "REGEXP_LIKE", "REGEXP_SPLIT", "REPLACE",
        "TIMESTAMP_ADD", "TIMESTAMP_DIFF", "TIMESTAMP_SUB", "TIME_ADD", "TIME_DIFF", "TIME_SUB"]),
    (2, some 4,
      ["ARRAY_SLICE", "PAD", "REGEXP_COUNT", "TIMESTAMP_TRUNC", "TIME_TO_STR"]),
    (2, some 5, ["APPROX_QUANTILE", "DATE_BIN", "SPLIT", "STR_POSITION", "STR_TO_TIME"]),
    (2, some 7, ["REGEXP_EXTRACT", "REGEXP_EXTRACT_ALL", "REGEXP_REPLACE"]),
    (2, none, ["BITWISE_XOR", "JSON_EXTRACT", "JSON_EXTRACT_SCALAR", "LIKE", "MOD"]),
    (3, some 3, ["SUBSTRING_INDEX", "TRANSLATE"]),
    (3, some 4, ["REDUCE"]),
    (3, some 6, ["DATE_DIFF"]),
    (3, some 7, ["TIME_FROM_PARTS"]),
    (4, some 4, ["STUFF"])]

def synonyms : List (String × String) :=
  [("APPROX_COUNT_DISTINCT", "APPROX_DISTINCT"), ("ARRAY_CAT", "ARRAY_CONCAT"),
    ("ARRAY_HAS", "ARRAY_CONTAINS"), ("ARRAY_HAS_ALL", "ARRAY_CONTAINS_ALL"),
    ("ARRAY_INTERSECTION", "ARRAY_INTERSECT"), ("ARRAY_JOIN", "ARRAY_TO_STRING"),
    ("ARRAY_LENGTH", "ARRAY_SIZE"), ("ARRAY_REVERSE_SORT", "SORT_ARRAY"),
    ("ARRAY_SORT", "SORT_ARRAY"), ("BASE64", "TO_BASE64"), ("BIT_AND", "BITWISE_AND_AGG"),
    ("BIT_COUNT", "BITWISE_COUNT"), ("BIT_OR", "BITWISE_OR_AGG"), ("BIT_XOR", "BITWISE_XOR_AGG"),
    ("BOOL_AND", "LOGICAL_AND"), ("BOOL_OR", "LOGICAL_OR"), ("CEILING", "CEIL"),
    ("CHARACTER_LENGTH", "LENGTH"), ("CHAR_LENGTH", "LENGTH"), ("COUNTIF", "COUNT_IF"),
    ("DATEDIFF", "DATE_DIFF"), ("DATEFROMPARTS", "DATE_FROM_PARTS"),
    ("DATETRUNC", "TIMESTAMP_TRUNC"), ("DATE_TRUNC", "TIMESTAMP_TRUNC"),
    ("DAYOFMONTH", "DAY_OF_MONTH"), ("DAYOFWEEK", "DAY_OF_WEEK"), ("DAYOFYEAR", "DAY_OF_YEAR"),
    ("EDITDIST3", "LEVENSHTEIN"), ("ENDSWITH", "ENDS_WITH"), ("EPOCH", "TIME_TO_UNIX"),
    ("EPOCH_MS", "UNIX_TO_TIME"), ("FILTER", "ARRAY_FILTER"), ("GEN_RANDOM_UUID", "UUID"),
    ("GET_CURRENT_TIME", "CURRENT_TIME"), ("IFNULL", "COALESCE"), ("IIF", "IF"),
    ("INSERT", "STUFF"), ("INSTR", "STR_POSITION"), ("ISINF", "IS_INF"), ("ISNAN", "IS_NAN"),
    ("ISODOW", "DAY_OF_WEEK_ISO"), ("JSON", "PARSE_JSON"), ("JSON_EXTRACT_PATH", "JSON_EXTRACT"),
    ("JSON_EXTRACT_STRING", "JSON_EXTRACT_SCALAR"), ("LCASE", "LOWER"), ("LEN", "LENGTH"),
    ("LIST_APPEND", "ARRAY_APPEND"), ("LIST_CONCAT", "ARRAY_CONCAT"),
    ("LIST_CONTAINS", "ARRAY_CONTAINS"), ("LIST_FILTER", "ARRAY_FILTER"),
    ("LIST_HAS", "ARRAY_CONTAINS"), ("LIST_HAS_ANY", "ARRAY_OVERLAPS"),
    ("LIST_PREPEND", "ARRAY_PREPEND"), ("LIST_REVERSE_SORT", "SORT_ARRAY"),
    ("LIST_SORT", "SORT_ARRAY"), ("LIST_TRANSFORM", "TRANSFORM"), ("LIST_VALUE", "ARRAY"),
    ("LPAD", "PAD"), ("LTRIM", "TRIM"), ("MAKE_DATE", "DATE_FROM_PARTS"),
    ("MAKE_TIME", "TIME_FROM_PARTS"), ("NVL", "COALESCE"), ("POWER", "POW"),
    ("QUANTILE_CONT", "PERCENTILE_CONT"), ("QUANTILE_DISC", "PERCENTILE_DISC"),
    ("RANDOM", "RAND"), ("RANGE", "GENERATE_SERIES"), ("REGEXP_MATCHES", "REGEXP_LIKE"),
    ("RPAD", "PAD"), ("RTRIM", "TRIM"), ("SHA1", "SHA"), ("SHA256", "SHA2"), ("SIGNUM", "SIGN"),
    ("STARTSWITH", "STARTS_WITH"), ("STDEV", "STDDEV"), ("STRFTIME", "TIME_TO_STR"),
    ("STRING_SPLIT", "SPLIT"), ("STRING_SPLIT_REGEX", "REGEXP_SPLIT"),
    ("STRING_TO_ARRAY", "SPLIT"), ("STRPOS", "STR_POSITION"), ("STRPTIME", "STR_TO_TIME"),
    ("STRUCT_PACK", "STRUCT"), ("STR_SPLIT", "SPLIT"), ("STR_SPLIT_REGEX", "REGEXP_SPLIT"),
    ("SUBSTR", "SUBSTRING"), ("TIME_BUCKET", "DATE_BIN"), ("TO_TIMESTAMP", "UNIX_TO_TIME"),
    ("TRUNCATE", "TRUNC"), ("UCASE", "UPPER"), ("UNNEST", "EXPLODE"), ("VARIANCE_SAMP", "VARIANCE"),
    ("VAR_POP", "VARIANCE_POP"), ("VAR_SAMP", "VARIANCE"), ("WEEKOFYEAR", "WEEK_OF_YEAR"),
    ("XOR", "BITWISE_XOR")]

def kinds : List (String × String) :=
  [("ANY_VALUE", "IGNORENULLS"), ("LOG10", "LOG"), ("LOG2", "LOG")]

def aggregates : List String :=
  ["APPROXDISTINCT", "APPROXQUANTILE", "APPROXTOPK", "ARGMAX", "ARGMIN", "ARRAYAGG",
    "ARRAYUNIONAGG", "ARRAYUNIQUEAGG", "AVG", "BITWISEANDAGG", "BITWISEORAGG", "BITWISEXORAGG", "CORR",
    "COUNT", "COUNTIF", "COVARPOP", "COVARSAMP", "CUMEDIST", "DENSERANK", "FIRST", "FIRSTVALUE",
    "GROUPCONCAT", "KURTOSIS", "LAG", "LAST", "LASTVALUE", "LEAD", "LOGICALAND", "LOGICALOR", "MAX",
    "MEDIAN", "MIN", "MODE", "NTHVALUE", "NTILE", "PERCENTILECONT", "PERCENTILEDISC", "PERCENTRANK",
    "QUANTILE", "RANK", "REGRAVGX", "REGRAVGY", "REGRCOUNT", "REGRINTERCEPT", "REGRR2", "REGRSLOPE",
    "REGRSXX", "REGRSXY", "REGRSYY", "SKEWNESS", "STDDEV", "STDDEVPOP", "STDDEVSAMP", "SUM",
    "VARIANCE", "VARIANCEPOP"]

def of? (name : String) : Option Signature :=
  let name := (synonyms.lookup name).getD name
  (groups.find? fun (_, _, names) => names.contains name).map fun (least, most, _) =>
    ⟨(kinds.lookup name).getD (String.ofList (name.toList.filter (· != '_'))), least, most⟩

def accepts (s : Signature) (arguments : Nat) : Bool :=
  s.least ≤ arguments && s.most.all (arguments ≤ ·)

end Signature

end QueryDesk
