import ChefAccess.Server.Context

/-!
# Resources

The paths of what a server keeps: a collection and the name of an item in it.

Main definitions:

- {lit}`Resource.item`: an item of a collection.
- {lit}`Resource.dataBag` and {lit}`Resource.dataBagItem`: data bags under the names that
  they have on a server.
-/

namespace ChefAccess
namespace Server
namespace Resource

/-- The item of a collection, with one slash between them. -/
def item (collection id : String) : String :=
  Text.trimEndOf '/' collection ++ "/" ++ Text.trimStartOf '/' id

/-- A data bag of a server. -/
def dataBag (context : Context) (bag : String) : String :=
  item "data" (context.dataBagName bag)

/-- An item of a data bag of a server. -/
def dataBagItem (context : Context) (bag id : String) : String :=
  item (dataBag context bag) id

/-- The search in an index. -/
def search (index : String) : String :=
  item "search" index

/-- A role in a run list. -/
def runListRole (role : String) : String :=
  "role[" ++ role ++ "]"

end Resource
end Server
end ChefAccess
