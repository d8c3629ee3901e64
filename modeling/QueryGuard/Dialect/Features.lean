import QueryGuard.Dialect

/-!
Which forms of the language each dialect has, one question per definition. The grammar asks these
questions and never looks at a dialect otherwise, save where a form belongs to one or two dialects
by name.
-/

namespace QueryGuard.Dialect

/-! ## Lists -/

/-- Lists may end in a comma. -/
def trailingCommas (d : Dialect) : Bool :=
  d = .duckdb

/-- The list of selected items may end in a comma. -/
def projectionTrailingCommas (d : Dialect) : Bool :=
  d.trailingCommas || d.isOneOf [.bigquery, .generic, .snowflake]

/-- The list of tables in FROM may end in a comma. -/
def fromTrailingCommas (d : Dialect) : Bool :=
  d = .snowflake

/-- The list of columns in a table definition may end in a comma. -/
def columnTrailingCommas (d : Dialect) : Bool :=
  d.trailingCommas || d = .bigquery

/-- The list of columns in a view definition may end in a comma. -/
def viewColumnTrailingCommas (d : Dialect) : Bool :=
  d = .bigquery

/-! ## Expressions -/

/-- The words TRUE and FALSE are literals. -/
def booleanLiterals (d : Dialect) : Bool :=
  d != .mssql

/-- `TRY_CONVERT` is a conversion. -/
def tryConvert (d : Dialect) : Bool :=
  d.isOneOf [.generic, .mssql]

/-- A conversion names the type before the value. -/
def typeBeforeValue (d : Dialect) : Bool :=
  d.isOneOf [.mssql, .redshift]

/-- Full-text search by `MATCH ... AGAINST`. -/
def matchAgainst (d : Dialect) : Bool :=
  d.isOneOf [.mysql, .generic]

/-- Literals of structures. -/
def structLiterals (d : Dialect) : Bool :=
  d.isOneOf [.bigquery, .databricks, .generic]

/-- Literals of maps between braces. -/
def mapLiterals (d : Dialect) : Bool :=
  d.isOneOf [.duckdb, .generic]

/-- Literals of dictionaries between braces. -/
def dictionaries (d : Dialect) : Bool :=
  d.isOneOf [.duckdb, .generic, .clickhouse, .snowflake]

/-- Functions written with an arrow. -/
def lambdas (d : Dialect) : Bool :=
  d.isOneOf [.clickhouse, .databricks, .duckdb]

/-- The sign `(+)` of an outer join behind a column. -/
def outerJoinSign (d : Dialect) : Bool :=
  d.isOneOf [.mssql, .snowflake]

/-- `!a` negates. -/
def bangNegates (d : Dialect) : Bool :=
  d = .hive

/-- `a!` is a factorial. -/
def factorial (d : Dialect) : Bool :=
  d = .postgres

/-- `a NOTNULL` is a test. -/
def notNullTest (d : Dialect) : Bool :=
  d.isOneOf [.duckdb, .postgres, .sqlite]

/-- Shift operators. -/
def shifts (d : Dialect) : Bool :=
  d.isOneOf [.generic, .duckdb, .postgres, .redshift]

/-- `&&` is a conjunction. -/
def doubleAmpersand (d : Dialect) : Bool :=
  d = .mysql

/-- `IN ()` is allowed. -/
def emptyInList (d : Dialect) : Bool :=
  d = .sqlite

/-- Access paths by period and bracket into semi-structured columns. -/
def partiql (d : Dialect) : Bool :=
  d.isOneOf [.redshift, .snowflake]

/-- A query may stand alone as the argument of a call. -/
def queryAsArgument (d : Dialect) : Bool :=
  d = .snowflake

/-- Aggregates may have a FILTER clause. -/
def aggregateFilter (d : Dialect) : Bool :=
  d.isOneOf [.generic, .databricks, .duckdb, .hive, .postgres, .sqlite]

/-- The treatment of nulls may stand among the arguments. -/
def nullTreatmentArgument (d : Dialect) : Bool :=
  d.isOneOf [.generic, .bigquery, .snowflake]

/-- The name of a named argument is an expression. -/
def expressionArgumentNames (d : Dialect) : Bool :=
  d.isOneOf [.mssql, .postgres]

/-- Named arguments with `=>`. -/
def arrowArguments (d : Dialect) : Bool :=
  d != .mssql

/-- Named arguments with `:=`. -/
def assignedArguments (d : Dialect) : Bool :=
  d.isOneOf [.generic, .duckdb]

/-- Named arguments with `=`. -/
def equatedArguments (_ : Dialect) : Bool :=
  false

/-- Named arguments with a colon. -/
def colonArguments (d : Dialect) : Bool :=
  d.isOneOf [.mssql, .postgres]

/-- `EXTRACT(field, e)` beside `EXTRACT(field FROM e)`. -/
def extractComma (d : Dialect) : Bool :=
  d.isOneOf [.generic, .snowflake]

/-- Fields to extract beyond the known ones. -/
def extractCustomField (d : Dialect) : Bool :=
  d.isOneOf [.generic, .postgres, .snowflake]

/-- Fields to extract between quotes. -/
def extractQuotedField (d : Dialect) : Bool :=
  d.isOneOf [.generic, .postgres, .redshift, .snowflake]

/-- An interval needs its unit. -/
def intervalNeedsUnit (d : Dialect) : Bool :=
  d.isOneOf [.ansi, .bigquery, .clickhouse, .databricks, .hive, .mysql]

/-- Array types written with brackets. -/
def bracketArrayTypes (d : Dialect) : Bool :=
  d.isOneOf [.generic, .duckdb, .postgres, .redshift]

/-- `TRIM` with a list of characters behind a comma. -/
def trimComma (d : Dialect) : Bool :=
  d.isOneOf [.bigquery, .duckdb, .generic, .snowflake]

/-- Fields and a precision behind the type INTERVAL. -/
def intervalFields (d : Dialect) : Bool :=
  d.isOneOf [.generic, .postgres]

/-- String literals that follow each other are one. -/
def adjacentStrings (d : Dialect) : Bool :=
  d = .mysql

/-- String literals with escapes are values. -/
def escapeStringValues (d : Dialect) : Bool :=
  d.isOneOf [.generic, .postgres]

/-- The word INTERVAL may be a name. -/
def intervalMayBeName (d : Dialect) : Bool :=
  d = .snowflake

/-! ## Queries -/

/-- A query may begin with FROM. -/
def fromFirst (d : Dialect) : Bool :=
  d.isOneOf [.duckdb, .generic, .clickhouse]

/-- Nothing needs to be selected. -/
def emptyProjection (d : Dialect) : Bool :=
  d.isOneOf [.generic, .postgres]

/-- TOP stands before DISTINCT. -/
def topBeforeDistinct (d : Dialect) : Bool :=
  d = .redshift

/-- `* ILIKE`. -/
def wildcardIlike (d : Dialect) : Bool :=
  d.isOneOf [.generic, .snowflake]

/-- `* EXCLUDE`. -/
def wildcardExclude (d : Dialect) : Bool :=
  d.isOneOf [.generic, .duckdb, .redshift, .snowflake]

/-- `* EXCEPT`. -/
def wildcardExcept (d : Dialect) : Bool :=
  d.isOneOf [.generic, .bigquery, .clickhouse, .databricks]

/-- `* REPLACE`. -/
def wildcardReplace (d : Dialect) : Bool :=
  d.isOneOf [.generic, .bigquery, .clickhouse, .duckdb, .snowflake]

/-- `* RENAME`. -/
def wildcardRename (d : Dialect) : Bool :=
  d.isOneOf [.generic, .snowflake]

/-- EXCLUDE behind the selected items. -/
def selectExclude (d : Dialect) : Bool :=
  d = .redshift

/-- `expression.*` among the selected items. -/
def expressionStar (d : Dialect) : Bool :=
  d.isOneOf [.bigquery, .snowflake]

/-- `alias = expression` among the selected items. -/
def equationAlias (d : Dialect) : Bool :=
  d = .mssql

/-- Hierarchical queries by CONNECT BY. -/
def connectBy (d : Dialect) : Bool :=
  d.isOneOf [.generic, .mssql, .redshift, .snowflake]

/-- ROLLUP, CUBE and GROUPING SETS in GROUP BY. -/
def groupingExpressions (d : Dialect) : Bool :=
  d.isOneOf [.generic, .bigquery, .clickhouse, .databricks, .duckdb, .postgres, .snowflake]

/-- WITH ROLLUP and the like behind GROUP BY. -/
def groupingModifiers (d : Dialect) : Bool :=
  d.isOneOf [.generic, .clickhouse, .hive]

/-- ORDER BY ALL. -/
def orderByAll (d : Dialect) : Bool :=
  d.isOneOf [.clickhouse, .duckdb]

/-- `LIMIT offset, limit`. -/
def limitComma (d : Dialect) : Bool :=
  d.isOneOf [.generic, .clickhouse, .mysql, .sqlite]

/-- A named window may refer to another by its name alone. -/
def namedWindowReference (d : Dialect) : Bool :=
  d.isOneOf [.generic, .bigquery]

/-- Parentheses around a lone table. -/
def parenthesisedTable (d : Dialect) : Bool :=
  d.isOneOf [.generic, .snowflake]

/-- VALUES without parentheses in FROM. -/
def valuesInFrom (d : Dialect) : Bool :=
  d.isOneOf [.generic, .databricks, .snowflake]

/-- UNNEST in FROM. -/
def unnest (d : Dialect) : Bool :=
  d.isOneOf [.generic, .bigquery, .postgres]

/-- A sample stands before the alias of its table. -/
def sampleBeforeAlias (d : Dialect) : Bool :=
  d = .hive

/-- Index hints behind a table. -/
def indexHints (d : Dialect) : Bool :=
  d = .mysql

/-- Versions of a table by time. -/
def tableVersions (d : Dialect) : Bool :=
  d.isOneOf [.bigquery, .mssql, .snowflake]

/-- MATCH_RECOGNIZE behind a table. -/
def matchRecognize (d : Dialect) : Bool :=
  d.isOneOf [.generic, .snowflake]

/-- CROSS JOIN may have a condition. -/
def crossJoinCondition (d : Dialect) : Bool :=
  d = .mysql

/-- SEMANTIC_VIEW in FROM. -/
def semanticViews (d : Dialect) : Bool :=
  d = .snowflake

/-- Joins without parentheses are read from the left. -/
def leftAssociativeJoins (d : Dialect) : Bool :=
  d != .snowflake

/-- `database..table`. -/
def doublePeriodNames (d : Dialect) : Bool :=
  d.isOneOf [.mssql, .snowflake]

/-! ## Statements -/

/-- `INSERT INTO t SET a = 1`. -/
def insertSet (d : Dialect) : Bool :=
  d = .mysql

/-- INSERT with a format or into a table function. -/
def insertFormat (d : Dialect) : Bool :=
  d = .clickhouse

/-- LISTEN, UNLISTEN and NOTIFY. -/
def listenNotify (d : Dialect) : Bool :=
  d = .postgres

/-- COMMENT ON. -/
def commentOn (d : Dialect) : Bool :=
  d.isOneOf [.generic, .duckdb, .postgres, .snowflake]

/-- EXPLAIN with options in parentheses. -/
def explainOptions (d : Dialect) : Bool :=
  d.isOneOf [.generic, .duckdb, .postgres]

/-- DESCRIBE TABLE. -/
def describeTable (d : Dialect) : Bool :=
  d.isOneOf [.clickhouse, .snowflake]

/-- Modifiers such as DEFERRED behind BEGIN. -/
def beginModifiers (d : Dialect) : Bool :=
  d.isOneOf [.generic, .mssql, .sqlite]

/-- END may close a transaction with a modifier. -/
def endModifiers (d : Dialect) : Bool :=
  d = .mssql

/-- SET of a list of variables in parentheses. -/
def parenthesisedSet (d : Dialect) : Bool :=
  d.isOneOf [.bigquery, .databricks, .generic, .hive, .snowflake]

/-- SET of several variables. -/
def setAssignments (d : Dialect) : Bool :=
  d.isOneOf [.generic, .mysql, .hive]

/-- SET NAMES. -/
def setNames (d : Dialect) : Bool :=
  d.isOneOf [.generic, .mysql, .postgres]

/-- SET without an equals sign. -/
def setWithoutOperator (d : Dialect) : Bool :=
  d = .mssql

/-- LOAD of an extension. -/
def loadExtension (d : Dialect) : Bool :=
  d.isOneOf [.generic, .duckdb, .postgres]

/-- LOAD DATA. -/
def loadData (d : Dialect) : Bool :=
  d = .hive

/-- The filter of SHOW stands before its scope. -/
def showLikeBeforeIn (d : Dialect) : Bool :=
  d = .snowflake

/-- Grantees written as user at host. -/
def userAtHost (d : Dialect) : Bool :=
  d.isOneOf [.generic, .mysql]

/-- CREATE INDEX with options in WITH. -/
def createIndexWith (d : Dialect) : Bool :=
  d.isOneOf [.generic, .postgres]

/-- CREATE TABLE AS a SELECT. -/
def createTableSelect (d : Dialect) : Bool :=
  d = .mysql

/-- CREATE VIEW with a comment. -/
def createViewComment (d : Dialect) : Bool :=
  d.isOneOf [.generic, .snowflake]

/-- ASC and DESC among the options of a column. -/
def columnAscDesc (d : Dialect) : Bool :=
  d.isOneOf [.generic, .sqlite]

/-- CREATE TABLE LIKE in parentheses. -/
def parenthesisedLike (d : Dialect) : Bool :=
  d = .redshift

/-- ALTER TABLE drops several columns at once. -/
def dropColumnList (d : Dialect) : Bool :=
  d = .snowflake

/-- ALTER TABLE changes a type with USING. -/
def alterTypeUsing (d : Dialect) : Bool :=
  d = .postgres

/-- EXECUTE IMMEDIATE. -/
def executeImmediate (d : Dialect) : Bool :=
  d.isOneOf [.bigquery, .snowflake]

/-- SIGNED behind integer types. -/
def signedSuffix (d : Dialect) : Bool :=
  d.isOneOf [.generic, .mysql]

end QueryGuard.Dialect
