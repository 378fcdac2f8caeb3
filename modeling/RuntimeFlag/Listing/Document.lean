import RuntimeFlag.Directory
import RuntimeFlag.Json.Value
/-!
# Listings as JSON

One document with the rows and with how many they are.
-/
namespace RuntimeFlag.Listing

/-- The version that listings and the command line give. -/
def version : String := "1.0.1"

def rowValue (row : Row) : Json.Value :=
  .object [("name", .text row.name), ("space", .text row.space), ("org", .text row.organization)]

/-- The rows with what is known about the listing. -/
def value (timestamp : String) (rows : List Row) : Json.Value :=
  .object
    [("data", .list (rows.map rowValue)),
      ("meta", .object
        [("count", .integer rows.length), ("timestamp", .text timestamp),
          ("version", .text version)])]

def document (timestamp : String) (rows : List Row) : String :=
  (value timestamp rows).pretty

end RuntimeFlag.Listing
