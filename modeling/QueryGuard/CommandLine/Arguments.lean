/-!
Arguments of the command line.

They are taken one by one, and the first that settles the matter does so: a request for help or for
the version, or a mistake. Options end at two dashes.
-/

namespace QueryGuard.CommandLine

/-- What a check is asked for. -/
structure Options where
  /-- The dialect, instead of the one set. -/
  dialect : Option String := none
  /-- The script, instead of the input. -/
  sql : Option String := none
deriving DecidableEq, Repr

/-- What the arguments ask for. -/
inductive Request where
  | validate (options : Options)
  | help
  | version
  /-- Nothing that could be done. -/
  | mistake
deriving DecidableEq, Repr

/-- What one argument is. -/
inductive Argument where
  /-- An option for the dialect whose value comes next. -/
  | dialect
  /-- An option for the dialect with its value. -/
  | dialectIs (value : String)
  | help
  | version
  /-- Two dashes. -/
  | endOfOptions
  /-- An option that there is not, or one with a value that takes none. -/
  | unknown
  /-- A text that is no option. -/
  | text (value : String)
deriving DecidableEq, Repr

namespace Argument

/-- An argument behind two dashes. -/
def long (cs : List Char) : Argument :=
  let name := String.ofList (cs.takeWhile (· ≠ '='))
  match cs.dropWhile (· ≠ '=') with
  | [] =>
    if name = "dialect" then .dialect
    else if name = "help" then .help
    else if name = "version" then .version
    else .unknown
  | _ :: value => if name = "dialect" then .dialectIs (String.ofList value) else .unknown

/-- An argument behind one dash. The letter for the dialect takes what follows it as its value. -/
def short : List Char → Argument
  | ['d'] => .dialect
  | 'd' :: '=' :: value => .dialectIs (String.ofList value)
  | 'd' :: value => .dialectIs (String.ofList value)
  | 'h' :: _ => .help
  | 'V' :: _ => .version
  | _ => .unknown

/-- An argument among options. A dash alone is a text. -/
def ofString (s : String) : Argument :=
  match s.toList with
  | ['-', '-'] => .endOfOptions
  | '-' :: '-' :: cs => long cs
  | ['-'] => .text s
  | '-' :: cs => short cs
  | _ => .text s

end Argument

namespace Options

/-- Options with the dialect, which may be given once. -/
def withDialect? (o : Options) (dialect : String) : Option Options :=
  match o.dialect with
  | none => some { o with dialect := some dialect }
  | some _ => none

/-- Options with the script, which may be given once. -/
def withSql? (o : Options) (sql : String) : Option Options :=
  match o.sql with
  | none => some { o with sql := some sql }
  | some _ => none

end Options

namespace Request

/-- The request of texts that are no options, behind those read so far. -/
def ofTexts (o : Options) : List String → Request
  | [] => .validate o
  | s :: rest =>
    match o.withSql? s with
    | some o => ofTexts o rest
    | none => .mistake

/-- The request of arguments behind those read so far. -/
def ofRest (o : Options) : List String → Request
  | [] => .validate o
  | s :: rest =>
    match Argument.ofString s, rest with
    | .dialect, value :: rest =>
      match Argument.ofString value, o.withDialect? value with
      | .text _, some o => ofRest o rest
      | _, _ => .mistake
    | .dialect, [] => .mistake
    | .dialectIs value, rest =>
      match o.withDialect? value with
      | some o => ofRest o rest
      | none => .mistake
    | .help, _ => .help
    | .version, _ => .version
    | .endOfOptions, rest => ofTexts o rest
    | .unknown, _ => .mistake
    | .text value, rest =>
      match o.withSql? value with
      | some o => ofRest o rest
      | none => .mistake

/-- The request of the arguments. -/
def ofArguments (arguments : List String) : Request :=
  ofRest {} arguments

end Request

end QueryGuard.CommandLine
