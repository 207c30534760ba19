import SqlMapper.Database.Transaction

/-!
# Where statements run

Datasets, instances and join tables hand their statements to an executor: the adapter, which takes a
connection for each, or an open transaction, which keeps them all on its own.
-/

namespace SqlMapper

/-- Something that runs statements. -/
structure Executor (n : Type → Type) where
  execute : String → n Outcome
  fetchAll : String → n (List Record)

namespace Executor

variable {m : Type → Type} [Monad m] [Backend m]

/-- Every statement on a connection of its own. -/
def adapter : Executor (Task m) := ⟨Adapter.execute, Adapter.fetchAll⟩

/-- Every statement on the connection of the transaction. -/
def transaction : Executor (Transaction.Block m) := ⟨Transaction.execute, Transaction.fetchAll⟩

/-- Every statement on a connection of its own, from inside a transaction. -/
def outside : Executor (Transaction.Block m) :=
  ⟨fun sql => Transaction.lift (Adapter.execute sql),
   fun sql => Transaction.lift (Adapter.fetchAll sql)⟩

end Executor

end SqlMapper
