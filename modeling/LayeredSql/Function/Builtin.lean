import LayeredSql.Function.Basic

namespace LayeredSql.FunctionTable

private def plain (kind : FunctionKind) (name sqlName : String) (minArgs : UInt64)
    (maxArgs : Option UInt64) : Signature :=
  ⟨name, sqlName, kind, minArgs, maxArgs, false⟩

private def orderedByArg (name sqlName : String) (minArgs maxArgs : UInt64) : Signature :=
  ⟨name, sqlName, .ranking, minArgs, some maxArgs, true⟩

def builtinScalars : List Signature :=
  [plain .scalar "abs" "ABS" 1 (some 1),
   plain .scalar "round" "ROUND" 1 (some 2),
   plain .scalar "floor" "FLOOR" 1 (some 1),
   plain .scalar "ceiling" "CEIL" 1 (some 1),
   plain .scalar "sqrt" "SQRT" 1 (some 1),
   plain .scalar "exp" "EXP" 1 (some 1),
   plain .scalar "log" "LN" 1 (some 1),
   plain .scalar "lower" "LOWER" 1 (some 1),
   plain .scalar "upper" "UPPER" 1 (some 1),
   plain .scalar "nchar" "LENGTH" 1 (some 1),
   plain .scalar "trim" "TRIM" 1 (some 1),
   plain .scalar "substr" "SUBSTR" 2 (some 3),
   plain .scalar "coalesce" "COALESCE" 1 none,
   plain .scalar "nullif" "NULLIF" 2 (some 2),
   plain .scalar "paste0" "CONCAT" 1 none,
   plain .scalar "is_na" "IS NULL" 1 (some 1),
   plain .scalar "if_else" "CASE" 3 (some 3)]

def builtinAggregates : List Signature :=
  [plain .aggregate "n" "COUNT" 0 (some 0),
   plain .aggregate "n_distinct" "COUNT" 1 (some 1),
   plain .aggregate "sum" "SUM" 1 (some 1),
   plain .aggregate "mean" "AVG" 1 (some 1),
   plain .aggregate "min" "MIN" 1 (some 1),
   plain .aggregate "max" "MAX" 1 (some 1),
   plain .aggregate "sd" "STDDEV_SAMP" 1 (some 1),
   plain .aggregate "var" "VAR_SAMP" 1 (some 1)]

/-- Ranks are ordered by their argument where one is given, offsets by the pipeline. -/
def builtinRankings : List Signature :=
  [orderedByArg "row_number" "ROW_NUMBER" 0 1,
   orderedByArg "min_rank" "RANK" 0 1,
   orderedByArg "rank" "RANK" 0 1,
   orderedByArg "dense_rank" "DENSE_RANK" 0 1,
   orderedByArg "percent_rank" "PERCENT_RANK" 0 1,
   orderedByArg "cume_dist" "CUME_DIST" 0 1,
   orderedByArg "ntile" "NTILE" 2 2,
   plain .ranking "lag" "LAG" 1 (some 3),
   plain .ranking "lead" "LEAD" 1 (some 3),
   plain .ranking "first" "FIRST_VALUE" 1 (some 1),
   plain .ranking "last" "LAST_VALUE" 1 (some 1)]

def builtinCumulatives : List Signature :=
  [plain .cumulative "cumsum" "SUM" 1 (some 1),
   plain .cumulative "cummean" "AVG" 1 (some 1),
   plain .cumulative "cummin" "MIN" 1 (some 1),
   plain .cumulative "cummax" "MAX" 1 (some 1)]

def builtin : FunctionTable :=
  ⟨builtinScalars ++ builtinAggregates ++ builtinRankings ++ builtinCumulatives⟩

end LayeredSql.FunctionTable
