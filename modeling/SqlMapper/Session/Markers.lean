import SqlMapper.Database.Registry

/-!
# Named markers

Markers of open transactions that are kept under names. A marker opens a transaction when it is made and
ends it when it is dropped; the name remembers the last transaction that it was used for.

* `Markers.enter`, `Markers.drop`, `Markers.dropAll`: markers come and go.
* `Markers.unwind`: a marker that goes because its owner breaks off.
-/

namespace SqlMapper.Session

/-- A registry with markers under names. -/
structure Markers where
  registry : Registry
  /-- The markers that are kept. -/
  kept : List (String × TransactionId)
  /-- The last transaction under every name. -/
  last : List (String × TransactionId)

namespace Markers

/-- No marker was made. -/
def empty : Markers := ⟨.empty, [], []⟩

/-- Whether a text is the written form of an identifier. -/
def isIdentifier (text : String) : Bool :=
  match text.toList with
  | 't' :: 'x' :: '_' :: digits =>
    digits.length == 32 && digits.all fun c => c.isDigit || ('a' ≤ c && c ≤ 'f')
  | _ => false

/-- Makes a marker under a name; one that was there is dropped afterwards. The answer says whether the
    new identifier has the right form and is none of the earlier ones. -/
def enter (name : String) (m : Markers) : Bool × Markers :=
  let (id, r) := m.registry.enter
  let r := match m.kept.lookup name with
    | some old => r.leave old
    | none => r
  (isIdentifier id.text && !(m.last.any (·.2 = id)),
    ⟨r, (name, id) :: m.kept.filter (·.1 ≠ name), (name, id) :: m.last⟩)

/-- Drops the marker under a name; the answer says whether there was one. -/
def drop (name : String) (m : Markers) : Bool × Markers :=
  match m.kept.lookup name with
  | some id =>
    (true, { m with registry := m.registry.leave id, kept := m.kept.filter (·.1 ≠ name) })
  | none => (false, m)

/-- Drops all markers. -/
def dropAll (m : Markers) : Markers :=
  { m with registry := m.kept.foldl (fun r p => r.leave p.2) m.registry, kept := [] }

/-- Whether the last transaction under a name is open. -/
def isOpen (name : String) (m : Markers) : Bool :=
  ((m.last.lookup name).map m.registry.contains).getD false

/-- Makes a marker whose owner breaks off. -/
def unwind (m : Markers) : Markers :=
  let (id, r) := m.registry.enter
  { m with registry := r.leave id }

end Markers

end SqlMapper.Session
