import QueryGuard.NodeKind

/-!
What a script says, as far as the guard looks at it.

Expressions are kept only as the statements, queries, table references and named relations that
occur in them, in the order in which a reader of the script meets them. A query keeps its common
table expressions and the shape of its body; a statement keeps which statement it is.
-/

namespace QueryGuard.Sql

/-- A possibly qualified name, outermost qualifier first. -/
abbrev ObjectName := List String

/-- Which statement a statement is. The statements of one form are of one kind; a statement that is
a query has no form, as its query stands for it. -/
inductive StatementForm where
  /-- INSERT and REPLACE of rows into a table. Rows written to a directory are of the form `other`. -/
  | insert
  | update
  | delete
  | merge
  /-- CREATE of a table, view, index, schema, database, function, procedure, role, trigger, type,
  sequence or policy. What else is created (an extension, user, domain, macro, secret, server,
  connector or stage, a virtual table) is of the form `other`. -/
  | create
  /-- ALTER of a table, view, index, role or policy. A type, schema, connector or session that is
  altered is of the form `other`. -/
  | alter
  /-- DROP of objects by name, and of a function, procedure, trigger or policy. A domain, secret,
  connector or extension that is dropped is of the form `other`. -/
  | drop
  /-- GRANT. DENY is of the form `other`. -/
  | grant
  | revoke
  /-- SET of a variable, role, time zone, names or properties of a transaction. -/
  | set
  | truncate
  /-- COPY to or from a file, with the table it names as its source, and COPY INTO, which has none.
  UNLOAD is of the form `other`. -/
  | copy (source : Option ObjectName)
  /-- EXPLAIN of a statement. The description of a table, by whichever word it is asked for, is of
  the form `other`. -/
  | explain
  /-- SHOW COLUMNS: a listing of the columns of a table. -/
  | showColumns
  /-- Any other SHOW: of TABLES, CREATE, COLLATION, VARIABLES, STATUS and FUNCTIONS, and of what has
  no case of its own and is of their kind by its opening word, such as VIEWS and DATABASES. -/
  | showOther
  /-- The beginning of a transaction or a block, its end, COMMIT and ROLLBACK. SAVEPOINT and RELEASE
  are of the form `other`. -/
  | transaction
  /-- Any other statement. It is written out again and told apart by the words it opens with. -/
  | other (opening : String)
deriving DecidableEq, Repr

/-- The operators that combine queries. -/
inductive SetOperator where
  | union | intersect | except
deriving DecidableEq, Repr

mutual

/-- A statement. -/
inductive Statement where
  | query (query : Query)
  | plain (form : StatementForm) (parts : List Part)

/-- A query: common table expressions, body, and what its other clauses mention. -/
inductive Query where
  | mk (ctes : List Cte) (body : Body) (rest : List Part)

/-- A common table expression. -/
inductive Cte where
  | mk (aliasName : String) (query : Query)

/-- The body of a query. -/
inductive Body where
  /-- A selection, with the table it creates if it has one. -/
  | select (into : Option ObjectName) (parts : List Part)
  /-- A query in parentheses. -/
  | nested (query : Query)
  | setOperation (op : SetOperator) (left right : Body)
  | values (parts : List Part)
  /-- All rows of a table given by its name. -/
  | table (name : Option String) (schema : Option String)
  /-- A statement that returns rows. -/
  | write (statement : Statement)

/-- An item of a FROM clause. -/
inductive TableFactor where
  /-- A named table, or with arguments a call of a table function. -/
  | table (name : ObjectName) (aliasName : Option String) (args : Option (List Part))
      (rest : List Part)
  /-- A query in parentheses, and what its alias mentions. -/
  | derived (aliasName : Option String) (query : Query) (rest : List Part)
  /-- Joins in parentheses, pivots and other items without a name of their own. -/
  | compound (parts : List Part)

/-- What a reader meets inside a clause. -/
inductive Part where
  | statement (statement : Statement)
  | query (query : Query)
  | factor (factor : TableFactor)
  | relation (name : ObjectName)

end

end QueryGuard.Sql
