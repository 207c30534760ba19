import SqlMapper.Text.Blank

/-!
# Types of fields

The types that the server reports for the fields of a result, their codes, and the names that stand
for them in column metadata.
-/

namespace SqlMapper

/-- The server's field types. -/
inductive FieldType where
  | decimal | tiny | short | long | float | double | null | timestamp | longLong | int24 | date
  | time | dateTime | year | newDate | varChar | bit | json | newDecimal | enum | set | tinyBlob
  | mediumBlob | longBlob | blob | varString | string | geometry
deriving DecidableEq, Repr

namespace FieldType

/-- The number that stands for a type in a result. -/
def code : FieldType → UInt8
  | decimal => 0
  | tiny => 1
  | short => 2
  | long => 3
  | float => 4
  | double => 5
  | null => 6
  | timestamp => 7
  | longLong => 8
  | int24 => 9
  | date => 10
  | time => 11
  | dateTime => 12
  | year => 13
  | newDate => 14
  | varChar => 15
  | bit => 16
  | json => 245
  | newDecimal => 246
  | enum => 247
  | set => 248
  | tinyBlob => 249
  | mediumBlob => 250
  | longBlob => 251
  | blob => 252
  | varString => 253
  | string => 254
  | geometry => 255

/-- The type for a name, in any letter case and without what follows the first word
    (`FieldType.from_type_name`). Decimals have the newer code, enumerations and sets travel as strings, and
    a name that is not known is a string. -/
def ofTypeName (name : String) : FieldType :=
  match String.ofList ((Text.firstWord name.toList).map Char.toUpper) with
  | "NULL" => null
  | "TINYINT" | "BOOLEAN" | "BOOL" => tiny
  | "SMALLINT" => short
  | "INT" | "INTEGER" => long
  | "MEDIUMINT" => int24
  | "BIGINT" => longLong
  | "FLOAT" => float
  | "DOUBLE" | "REAL" => double
  | "DECIMAL" | "NUMERIC" => newDecimal
  | "TIMESTAMP" => timestamp
  | "DATETIME" => dateTime
  | "DATE" => date
  | "TIME" => time
  | "YEAR" => year
  | "BIT" => bit
  | "JSON" => json
  | "ENUM" | "SET" => string
  | "VARCHAR" | "VARBINARY" => varString
  | "TINYBLOB" | "TINYTEXT" => tinyBlob
  | "MEDIUMBLOB" | "MEDIUMTEXT" => mediumBlob
  | "LONGBLOB" | "LONGTEXT" => longBlob
  | "BLOB" | "TEXT" => blob
  | "GEOMETRY" => geometry
  | _ => string

end FieldType

end SqlMapper
