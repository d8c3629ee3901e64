/-!
The kinds of nodes a parse tree is made of, and which of them a read-only script must not hold.
-/

namespace QueryGuard

/-- The kinds of statements and expressions in a parse tree. -/
inductive NodeKind where
  /-- The root, which holds every statement of the input in source order. -/
  | script
  /-- A query whose body is itself a statement, such as a data-modifying common table expression. -/
  | query
  | select | union | intersect | except | values
  /-- A derived table in a FROM clause. -/
  | subquery
  | table | cte
  | create | alter | update | insert | delete | drop | merge | grant | set
  | revoke | truncate | copy | explain | showing | transaction
  /-- Any other statement. -/
  | command
deriving DecidableEq, Repr

namespace NodeKind

/-- Every kind, in the order of its declaration. -/
def all : List NodeKind :=
  [script, query, select, union, intersect, except, values, subquery, table, cte, create, alter,
   update, insert, delete, drop, merge, grant, set, revoke, truncate, copy, explain, showing,
   transaction, command]

/-- The tag of a kind, in lower case. -/
def key : NodeKind → String
  | script => "script" | query => "query" | select => "select" | union => "union"
  | intersect => "intersect" | except => "except" | values => "values"
  | subquery => "subquery" | table => "table" | cte => "cte" | create => "create"
  | alter => "alter" | update => "update" | insert => "insert" | delete => "delete"
  | drop => "drop" | merge => "merge" | grant => "grant" | set => "set" | revoke => "revoke"
  | truncate => "truncate" | copy => "copy" | explain => "explain" | showing => "show"
  | transaction => "transaction" | command => "command"

/-- The kind with a given tag. -/
def ofKey? (key : String) : Option NodeKind :=
  all.find? (·.key == key)

/-- The tag of a kind in upper case, as rejections name it. -/
def upperKey (kind : NodeKind) : String :=
  String.ofList (kind.key.toList.map Char.toUpper)

/-- The tag of a kind with a capital letter. -/
def title (kind : NodeKind) : String :=
  match kind.key.toList with
  | [] => ""
  | c :: cs => String.ofList (c.toUpper :: cs)

/-- The kinds that change data or schema or administer the database. -/
def isDisallowed : NodeKind → Bool
  | create | alter | update | insert | delete | drop | merge | grant | set => true
  | script | query | select | union | intersect | except | values | subquery | table | cte
  | revoke | truncate | copy | explain | showing | transaction | command => false

/-- Every kind is listed. -/
theorem mem_all (kind : NodeKind) : kind ∈ all := by
  cases kind <;> decide

end NodeKind

end QueryGuard
