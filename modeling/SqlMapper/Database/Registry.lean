import SqlMapper.Database.Backend

/-!
# Open transactions

The marks of the transactions that have been entered and not left. Every transaction gets an identifier
of its own.

* `Registry.enter`, `Registry.leave`: adding a mark and taking it away.
* `TransactionId.text`: the written form of an identifier.
-/

namespace SqlMapper

/-- The written form: `tx_` and 32 hexadecimal digits (`generate_transaction_id`). -/
def TransactionId.text (id : TransactionId) : String :=
  let digits := Nat.toDigits 16 (id.serial % Nat.pow 16 32)
  "tx_" ++ String.ofList (List.replicate (32 - digits.length) '0' ++ digits)

/-- The marks of open transactions, and the serial number of the next one (`TransactionRegistry`). -/
structure Registry where
  opened : List TransactionId
  next : Nat
deriving DecidableEq

namespace Registry

/-- No transaction is open (`TransactionRegistry.new`). -/
def empty : Registry := ⟨[], 0⟩

/-- Marks a new transaction as open (`TransactionRegistry.enter`). -/
def enter (r : Registry) : TransactionId × Registry :=
  (⟨r.next⟩, ⟨r.opened ++ [⟨r.next⟩], r.next + 1⟩)

/-- Takes a mark away; an identifier that is not marked changes nothing (`TransactionRegistry.remove`). -/
def leave (r : Registry) (id : TransactionId) : Registry := { r with opened := r.opened.erase id }

def contains (r : Registry) (id : TransactionId) : Bool := r.opened.contains id

/-- Whether a text is the written form of an open transaction's identifier
    (`TransactionRegistry.contains`). -/
def containsText (r : Registry) (text : String) : Bool := r.opened.any (·.text == text)

/-- The number of open transactions (`TransactionRegistry.count`). -/
def count (r : Registry) : Nat := r.opened.length

end Registry

end SqlMapper
