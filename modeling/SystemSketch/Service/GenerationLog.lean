import SystemSketch.Analysis
import SystemSketch.Diagram.Validity

/-!
# The log of generations

The service notes every drawing that it hands out in a database table. Entries are numbered
from 1 in the order in which they are made. The table may be missing, and the database may be
out of reach; then nothing is noted and nothing can be looked up.

## Main definitions

* `Generation` — what is noted about a drawing.
* `Database` — the state of the database.
* `Database.record`, `Database.recent` — an entry made, and the last entries.
-/

namespace SystemSketch.Service

/-- What is noted about a drawing. -/
structure Generation where
  serverFiles : Nat
  clientFiles : Nat
  components : Nat
  interactions : Nat
  validMermaid : Bool
  deriving DecidableEq

/-- What is noted about the analysis of a project. -/
def Generation.of (p : Project) (outcome : Outcome) : Generation where
  serverFiles := p.serverFiles.length
  clientFiles := p.clientFiles.length
  components := outcome.model.components.size
  interactions := outcome.model.interactions.length
  validMermaid := Diagram.isValid outcome.diagram

/-- An entry of the log. -/
structure Entry where
  number : Nat
  generation : Generation
  deriving DecidableEq

/-- The state of the database. -/
inductive Database where
  /-- There is a table, with these generations in the order in which they were noted. -/
  | ready (generations : List Generation)
  | withoutTable
  | unreachable
  deriving DecidableEq

namespace Database

/-- Makes the table if there is none. -/
def createTable : Database → Database
  | withoutTable => ready []
  | database => database

/-- Drops the table. -/
def dropTable : Database → Database
  | ready _ => withoutTable
  | database => database

/-- Notes a generation. Nothing comes of it without a table. -/
def record (generation : Generation) : Database → Option Database
  | ready generations => some (ready (generations ++ [generation]))
  | withoutTable | unreachable => none

/-- The last entries, the newest first. -/
def recent (limit : Nat) : Database → Option (List Entry)
  | ready generations =>
    some (((generations.zipIdx 1).map fun (g, number) => ⟨number, g⟩).reverse.take limit)
  | withoutTable | unreachable => none

end Database

end SystemSketch.Service
