import UserDirectory.Proofs.Service.Interleaving

/-!
User operations one after another over one store in memory, with a record of what each of them came
to. The store need not keep its rows in an order of its own: after every operation it may show them
in another one.
-/

namespace UserDirectory

open Service

structure Served where
  operation : Operation
  result : Except Failure operation.Result

/-- In which order a store shows its rows, after how many operations. -/
structure Layout where
  arrange : Nat → Store → Store
  perm : ∀ number store, (arrange number store).entries.Perm store.entries

def Layout.steady : Layout where
  arrange _ store := store
  perm _ store := .refl store.entries

structure Session where
  memory : Memory
  history : List Served := []

namespace Session

def serve (settings : Settings) (supplies : Supplies) (hasher : Hasher) (layout : Layout)
    (session : Session) (operation : Operation) : Session :=
  let outcome := (operation.program settings).run (Memory.platform supplies hasher) session.memory
  { memory :=
      { outcome.state with
        store := layout.arrange session.history.length outcome.state.store }
    history := session.history ++ [⟨operation, outcome.result⟩] }

def run (settings : Settings) (supplies : Supplies) (hasher : Hasher) (layout : Layout)
    (operations : List Operation) (session : Session) : Session :=
  operations.foldl (serve settings supplies hasher layout) session

end Session

end UserDirectory
