import LayeredSql.Codec.Pipeline
import LayeredSql.Digest
import LayeredSql.Json.Printer

namespace LayeredSql

/-- Digest of the compact JSON. -/
def Pipeline.fingerprint (p : Pipeline) : String :=
  Digest.ofText p.toJson.compact

end LayeredSql
