import LineShell.Builtin
import LineShell.Filter
import LineShell.Registry
import LineShell.Remote

/-!
# Catalog

The commands that every terminal has, in the order in which the help shows them.
-/

namespace LineShell

def filterCommand (name description usage : String) (filter : Filter) : Command where
  summary := { name, description, usage := some usage }
  handler := .ofFilter filter
  filter := some filter

def catalog (entries : List FileEntry) (endpoints : Endpoints) : List Command := [
  { summary := ⟨"help", "Mostra tutti i comandi disponibili", none⟩, handler := Builtin.help },
  { summary := ⟨"clear", "Pulisce lo schermo del terminale", none⟩, handler := Builtin.clear },
  { summary := ⟨"ls", "Lista i file e le directory", some "ls [opzioni] [directory]"⟩
    handler := Builtin.ls entries },
  { summary := ⟨"pwd", "Mostra la directory corrente", none⟩, handler := Builtin.pwd },
  { summary := ⟨"cd", "Cambia directory", some "cd [directory]"⟩, handler := Builtin.cd },
  { summary := ⟨"whoami", "Mostra il nome utente corrente", none⟩, handler := Builtin.whoami },
  { summary := ⟨"echo", "Visualizza il testo passato come argomento", some "echo [testo]"⟩
    handler := Builtin.echo },
  { summary := ⟨"date", "Mostra la data e ora corrente", none⟩, handler := Builtin.date },
  { summary := ⟨"ping", "Verifica la connettività di rete", some "ping [host]"⟩
    handler := Remote.ping endpoints },
  { summary := ⟨"system-info", "Mostra informazioni sul sistema", none⟩
    handler := Remote.systemInfo endpoints },
  { summary := ⟨"api-test", "Testa la connessione alle API", none⟩, handler := Remote.apiTest endpoints },
  { summary := ⟨"mkdir", "Crea una nuova directory", some "mkdir [nome]"⟩, handler := Builtin.mkdir },
  { summary := ⟨"touch", "Crea un nuovo file", some "touch [nome]"⟩, handler := Builtin.touch },
  filterCommand "grep" "Cerca pattern nel testo" "grep [pattern]" Filter.grep,
  filterCommand "wc" "Conta linee, parole e caratteri" "wc" Filter.wc,
  filterCommand "head" "Mostra prime n linee" "head [-n]" Filter.head,
  filterCommand "tail" "Mostra ultime n linee" "tail [-n]" Filter.tail,
  { summary := ⟨"history", "Mostra la cronologia dei comandi", none⟩, handler := Builtin.history },
  { summary := ⟨"lista", "Mostra tutte le entità disponibili dal backend", none⟩
    handler := Remote.lista endpoints }]

/-- The registry of a terminal that has the catalog and nothing else. -/
def Registry.standard (entries : List FileEntry) (endpoints : Endpoints) : Registry :=
  ⟨catalog entries endpoints⟩

end LineShell
