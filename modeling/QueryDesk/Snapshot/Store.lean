import QueryDesk.Digest.Sha256
import QueryDesk.Grid.Basic

namespace QueryDesk

namespace Snapshot

def encoded (t : Text) : Except Failure (List UInt8) := (Utf8.encode t).mapError .unencodable

def printed (params : List Datum) : Except Failure Text :=
  if (Datum.tuple params).isWritable then .ok (Datum.tuple params).printed
  else .error .unwritableNumber

/-- What is digested: the encoded statement, its printed parameters and its data source, each ended
    by a zero byte except the last. No data source and the empty one are the same. -/
def keyBytes (query : Sql.Query) (source : Option Text) : Except Failure (List UInt8) := do
  let sql ← encoded query.sql
  let params ← encoded (← printed query.params)
  let source ← encoded (source.getD [])
  .ok (sql ++ 0 :: params ++ 0 :: source)

/-- The key under which the result of a statement is kept: a digest of the statement, its parameters
    and its data source. -/
def key (query : Sql.Query) (source : Option Text) : Except Failure Text :=
  Sha256.hexDigest <$> keyBytes query source

/-- A kept result: what it was stored under, when, and the first instant at which it is expired. -/
structure Entry (ρ : Type) where
  serial : Nat
  key : Text
  sql : Text
  result : ρ
  source : Option Text
  created : Instant
  expires : Instant
deriving DecidableEq

def Entry.isExpired {ρ : Type} (e : Entry ρ) (now : Instant) : Bool := e.expires ≤ now

/-- The entries by key, how long an entry lives unless told otherwise, and the serial number of the
    next entry. -/
structure Store (ρ : Type) where
  lifetime : Seconds
  entries : OrderedMap Text (Entry ρ)
  nextSerial : Nat

namespace Store

variable {ρ : Type}

def ofLifetime (lifetime : Seconds) : Store ρ := ⟨lifetime, [], 0⟩

def size (s : Store ρ) : Nat := s.entries.length

def lookup (s : Store ρ) (now : Instant) (key : Text) : Option (Entry ρ) × Store ρ :=
  match s.entries.find? key with
  | none => (none, s)
  | some e =>
    if e.isExpired now then (none, { s with entries := s.entries.erase key }) else (some e, s)

structure Content (ρ : Type) where
  key : Text
  sql : Text
  result : ρ
  source : Option Text

/-- Keeps a result from now on, in place of what was under its key. It fails, and nothing changes,
    if the end of its life cannot be represented. -/
def keep (s : Store ρ) (now : Instant) (c : Content ρ) (lifetime : Option Seconds) :
    Except TimeFault (Entry ρ × Store ρ) := do
  let expires ← now.after (lifetime.getD s.lifetime)
  let entry : Entry ρ := ⟨s.nextSerial, c.key, c.sql, c.result, c.source, now, expires⟩
  .ok (entry, { s with entries := s.entries.insert c.key entry, nextSerial := s.nextSerial + 1 })

def clear (s : Store ρ) : Store ρ := { s with entries := [] }

end Store

structure Form where
  key : Text
  sql : Text
  grid : Grid
  source : Option Text
  created : Moment
  expires : Moment

def Form.read (fields : Fields) : Checked Form :=
  (fun _ key sql grid source created expires => ⟨key, sql, grid, source, created, expires⟩)
    <$> fields.optional "id" [] Reader.text
    <*> fields.required "query_hash" Reader.text
    <*> fields.required "query_sql" Reader.text
    <*> fields.required "result_data" (Reader.form "QueryResult" Grid.read)
    <*> fields.optional "data_source_id" none (Reader.nullable Reader.text)
    <*> fields.required "created_at" Reader.moment
    <*> fields.required "expires_at" Reader.moment

end Snapshot

end QueryDesk
