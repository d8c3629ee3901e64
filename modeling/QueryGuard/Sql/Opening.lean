import QueryGuard.NodeKind
import QueryGuard.Sql.Script
import QueryGuard.Text.Blank

/-!
The kind of a statement by the word it opens with.
-/

namespace QueryGuard.Sql

/-- Whether a character can stand in an opening word. -/
def isWordChar (c : Char) : Bool :=
  c.isAlpha || c = '_'

/-- The first word of a text behind its blanks, in upper case; empty if the text begins with no
letter or underscore. -/
def openingWord (text : List Char) : List Char :=
  ((text.dropWhile Text.isBlank).takeWhile isWordChar).map Char.toUpper

/-- The kinds that opening words stand for. -/
def kindOfWord (word : String) : NodeKind :=
  match word with
  | "CREATE" => .create
  | "ALTER" | "RENAME" => .alter
  | "DROP" => .drop
  | "INSERT" | "REPLACE" | "UPSERT" => .insert
  | "UPDATE" => .update
  | "DELETE" => .delete
  | "MERGE" => .merge
  | "GRANT" => .grant
  | "SET" => .set
  | "REVOKE" => .revoke
  | "TRUNCATE" => .truncate
  | "COPY" | "UNLOAD" => .copy
  | "EXPLAIN" | "DESCRIBE" | "DESC" => .explain
  | "SHOW" => .showing
  | "BEGIN" | "START" | "COMMIT" | "ROLLBACK" | "SAVEPOINT" | "RELEASE" => .transaction
  | _ => .command

/-- The kind of a statement with the given text. Only its opening word matters. -/
def kindOfOpening (text : String) : NodeKind :=
  kindOfWord (String.ofList (openingWord text.toList))

namespace StatementForm

/-- The kind of a statement. -/
def kind : StatementForm → NodeKind
  | insert => .insert
  | update => .update
  | delete => .delete
  | merge => .merge
  | create => .create
  | alter => .alter
  | drop => .drop
  | grant => .grant
  | revoke => .revoke
  | set => .set
  | truncate => .truncate
  | copy _ => .copy
  | explain => .explain
  | showColumns => .showing
  | showOther => .showing
  | transaction => .transaction
  | other opening => kindOfOpening opening

/-- Whether a statement lists what is in a schema, so that the names in it are no tables. -/
def listsSchema (form : StatementForm) : Bool :=
  form.kind = .showing && form != .showColumns

end StatementForm

end QueryGuard.Sql
