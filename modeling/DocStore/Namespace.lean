import DocStore.Error

/-!
# DocStore — names of databases and collections

Which names databases and collections may have, and the namespace that names a collection within its
database. A namespace is written as the two names with a point between them; since a database name
holds no point, the text determines both.
-/

namespace DocStore

/-- Whether a database may have a name: it is not empty and free of points, spaces, dollar signs,
slashes, backslashes and the null character. -/
def isDatabaseName (name : String) : Bool :=
  !name.isEmpty && name.toList.all fun c =>
    c != '.' && c != ' ' && c != '$' && c != '/' && c != '\\' && c != '\x00'

/-- Whether a collection may have a name: it is not empty, does not begin with a point, and is free
of dollar signs and the null character. -/
def isCollectionName (name : String) : Bool :=
  !name.isEmpty && name.toList.head? != some '.' && name.toList.all fun c =>
    c != '$' && c != '\x00'

/-- The name of a database, or why it cannot be one. -/
def checkDatabaseName (name : String) : Except NameFault Unit :=
  if isDatabaseName name then .ok () else .error (.database name)

/-- The name of a collection, or why it cannot be one. -/
def checkCollectionName (name : String) : Except NameFault Unit :=
  if isCollectionName name then .ok () else .error (.collection name)

/-- The text of a namespace. -/
def namespaceText (db coll : String) : String := db ++ "." ++ coll

/-- A name that a database may have. -/
structure DatabaseName where
  text : String
  valid : isDatabaseName text = true
deriving DecidableEq

namespace DatabaseName

/-- A text as the name of a database, if it can be one. -/
def make (text : String) : Except NameFault DatabaseName :=
  if h : isDatabaseName text = true then .ok ⟨text, h⟩ else .error (.database text)

/-- The database under which commands about the whole engine are sent. -/
def admin : DatabaseName := ⟨"admin", by decide⟩

theorem check (db : DatabaseName) : checkDatabaseName db.text = .ok () := if_pos db.valid

end DatabaseName

/-- A collection within its database, both by names that they may have. -/
structure Namespace where
  database : DatabaseName
  collection : String
  valid : isCollectionName collection = true
deriving DecidableEq

namespace Namespace

/-- A collection's name within a database, if it can be one. -/
def «of» (database : DatabaseName) (collection : String) : Except NameFault Namespace :=
  if h : isCollectionName collection = true then .ok ⟨database, collection, h⟩
  else .error (.collection collection)

/-- The namespace of two names, if they are valid. -/
def make (database collection : String) : Except NameFault Namespace := do
  let database ← DatabaseName.make database
  Namespace.of database collection

/-- A namespace as it is written. -/
def text (ns : Namespace) : String := namespaceText ns.database.text ns.collection

theorem check (ns : Namespace) : checkCollectionName ns.collection = .ok () := if_pos ns.valid

end Namespace

end DocStore
