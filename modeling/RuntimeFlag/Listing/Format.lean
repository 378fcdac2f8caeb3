import RuntimeFlag.Listing.Document
import RuntimeFlag.Listing.Table
/-!
# Listing formats
-/
namespace RuntimeFlag.Listing

/-- How rows are listed: for a reader, or for a program. -/
inductive Format
  | table
  | json
  deriving DecidableEq, Repr

/-- Whether progress is told along with the listing. -/
def Format.isInteractive : Format → Bool
  | .table => true
  | .json => false

def Format.name : Format → String
  | .table => "table"
  | .json => "json"

def Format.all : List Format := [.table, .json]

def Format.ofName? (name : String) : Option Format :=
  Format.all.find? (·.name == name)

/-- The rows in a format; a document tells the time it was made. -/
def Format.write (format : Format) (timestamp : String) (rows : List Row) : String :=
  match format with
  | .table => Listing.table rows
  | .json => Listing.document timestamp rows

end RuntimeFlag.Listing
