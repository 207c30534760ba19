import SqlMapper.Column.Basic
import SqlMapper.Column.Coerce
import SqlMapper.Error
import SqlMapper.Record

/-!
# Decoding rows

A result is a stream of fetches; each brings a row, an error or the end, together with the fields that
the server reports at that time. A decoder turns the rows into records. It takes the columns from the
first row that comes with any, and after the end it fetches no more.

* `Decoder.take`: what one fetch yields.
* `Decoder.next`: the next record of a stream.
* `Decoder.collect`, `Decoder.forEach`: all records of a stream.
-/

namespace SqlMapper

/-- The values of a row as the server sends them; none is null. -/
abbrev RawRow := List (Option Bytes)

/-- What one fetch brings: a row, the end or an error, and the fields reported with it. -/
structure Fetch where
  answer : Except Error (Option RawRow)
  fields : List Field

/-- The fetches of a result in order (`RowSource`). After the last one comes the end. -/
abbrev RowStream := List Fetch

/-- The state of decoding one result (`RowDecoder`). -/
structure Decoder where
  qualified : Bool
  columns : List Column
  finished : Bool
deriving DecidableEq

namespace Decoder

/-- A decoder before the first row (`RowDecoder.new`). -/
def start (qualified : Bool) : Decoder := ⟨qualified, [], false⟩

/-! ## One row -/

/-- The error of a value that does not convert. -/
def coercionError (c : Column) (raw : Option Bytes) (e : CoercionError) : Error :=
  .coercion c.name c.typeCode (Bytes.decodeLossy (raw.getD [])) e.message

/-- Puts the values of a row into a record, each under the key of its column. -/
def fill (qualified : Bool) : Record → List Column → RawRow → Except Error Record
  | r, c :: columns, raw :: row =>
    match coerce raw c.typeCode with
    | .ok value => fill qualified (r.insert (c.key qualified) value) columns row
    | .error e => .error (coercionError c raw e)
  | r, _, _ => .ok r

/-- The record for a row of a result with the given columns. -/
def record (qualified : Bool) (columns : List Column) (row : RawRow) : Except Error Record :=
  if row.length = columns.length then fill qualified .empty columns row
  else .error (.rowWidth row.length columns.length)

/-! ## One fetch -/

/-- What a fetch yields: a record, none at the end, or an error; and the decoder after it. -/
def take (d : Decoder) (f : Fetch) : Except Error (Option Record) × Decoder :=
  match f.answer with
  | .error e => (.error e, d)
  | .ok none => (.ok none, { d with finished := true })
  | .ok (some row) =>
    let d := if d.columns.isEmpty then { d with columns := Column.ofFields 0 f.fields } else d
    ((record d.qualified d.columns row).map some, d)

/-- The next record of a stream, and what is left of both (`RowDecoder.next`). A finished decoder leaves the
    stream alone. -/
def next (d : Decoder) (s : RowStream) : Except Error (Option Record) × Decoder × RowStream :=
  if d.finished then (.ok none, d, s)
  else match s with
    | [] => (.ok none, { d with finished := true }, [])
    | f :: rest =>
      let (r, d) := d.take f
      (r, d, rest)

/-! ## Whole streams

Each answer comes with the fetches that were not made. -/

/-- All records up to the end, or the first error (`RowDecoder.collect`). -/
def collect (d : Decoder) (s : RowStream) : Except Error (List Record) × RowStream :=
  if d.finished then (.ok [], s)
  else match s with
    | [] => (.ok [], [])
    | f :: rest =>
      match d.take f with
      | (.error e, _) => (.error e, rest)
      | (.ok none, _) => (.ok [], rest)
      | (.ok (some r), d) =>
        let (rs, left) := collect d rest
        (rs.map (r :: ·), left)

/-- Gives every record to `onRow`, which carries a state and may refuse one (`RowDecoder.for_each`). The
    answer is the last state with the number of records, or with the first error of the stream or of
    `onRow`. -/
def forEach {σ : Type} (onRow : σ → Record → σ × Except Error Unit) (d : Decoder) (state : σ)
    (s : RowStream) : (σ × Except Error Nat) × RowStream :=
  if d.finished then ((state, .ok 0), s)
  else match s with
    | [] => ((state, .ok 0), [])
    | f :: rest =>
      match d.take f with
      | (.error e, _) => ((state, .error e), rest)
      | (.ok none, _) => ((state, .ok 0), rest)
      | (.ok (some r), d) =>
        match onRow state r with
        | (state, .error e) => ((state, .error e), rest)
        | (state, .ok ()) =>
          let ((state, count), left) := forEach onRow d state rest
          ((state, count.map (· + 1)), left)

/-- At most `count` records, up to the end or the first error, and the decoder after them. -/
def upTo (d : Decoder) : Nat → RowStream → (Except Error (List Record) × Decoder) × RowStream
  | 0, s => ((.ok [], d), s)
  | count + 1, s =>
    match d.next s with
    | (.error e, d, rest) => ((.error e, d), rest)
    | (.ok none, d, rest) => ((.ok [], d), rest)
    | (.ok (some r), d, rest) =>
      let ((rs, d), left) := upTo d count rest
      ((rs.map (r :: ·), d), left)

/-- The answers of `count` calls of `next`, each with the columns known after it. -/
def answers (d : Decoder) : Nat → RowStream → List (Except Error (Option Record) × List Column)
  | 0, _ => []
  | count + 1, s =>
    let (r, d, rest) := d.next s
    (r, d.columns) :: answers d count rest

end Decoder

end SqlMapper
