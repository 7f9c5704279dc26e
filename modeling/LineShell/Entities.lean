import LineShell.Text.Cut

/-!
# Entities

The listing of entity names, each with the control that uses it, and what is shown in its place when
the backend gives none.
-/

namespace LineShell

def entityControl (name : String) : String := s!"[utilizza:{name}]"

def sortedNames (names : List String) : List String := names.mergeSort fun a b => !decide (b < a)

def entityListing (names : List String) : String :=
  if names.isEmpty then "📭 Nessuna entità disponibile" else
    let rows := (sortedNames names).map fun name => s!"   {name} {entityControl name}\n"
    Text.join "" ("📋 Entità disponibili:\n\n" :: rows ++ [s!"\n📊 Totale: {names.length} entità"])

def localEntities : List String := [
  "articoli", "cataloghi", "cataloghidettagli", "presenze", "utenti", "actor", "politicaprezzi", "sales",
  "keycassa", "categorie", "articolisoloimmagini", "movimenticassa", "baseoraria"]

def backendErrorBanner : String :=
  "❌ ERRORE: Impossibile connettersi al backend\n" ++
  "📡 Motivo: Timeout o server non raggiungibile\n" ++
  "💡 Soluzione: Verifica che il backend sia in esecuzione\n\n" ++
  "📋 Mostro entità locali di fallback:\n\n"

def localListing : String := backendErrorBanner ++ entityListing localEntities

end LineShell
