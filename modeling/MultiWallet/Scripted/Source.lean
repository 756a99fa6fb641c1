import MultiWallet.Catalog.Source

/-!
A source of listings that answers from a script and counts how often it is
asked.
-/

namespace MultiWallet

structure ScriptedSource where
  /-- The answers in their order; the last one is repeated. -/
  script : List (Except CatalogError (List CatalogEntry))
  calls : Nat

namespace ScriptedSource

def fresh (script : List (Except CatalogError (List CatalogEntry))) : ScriptedSource := ⟨script, 0⟩

/-- The answer to the next call. A source without a script knows no listing. -/
def answer (source : ScriptedSource) : Except CatalogError (List CatalogEntry) :=
  (source.script[source.calls]?.or source.script.getLast?).getD (.error (.status 404))

def source : CatalogSource ScriptedSource where
  fetch scripted := (scripted.answer, { scripted with calls := scripted.calls + 1 })

end ScriptedSource

end MultiWallet
