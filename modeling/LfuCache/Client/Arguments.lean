import LfuCache.Client.Remote
import LfuCache.Decimal.Read

/-!
# Arguments

A command and its arguments, with options anywhere between them. Options of the connection
may come before the command too, and those after it win. Two dashes end the options.
-/

namespace LfuCache.Client

inductive Command where
  | get (key : String)
  | set (request : SetRequest)
  | delete (key : String)
  | clear
  | stats
  | health
deriving DecidableEq, Repr

/-- How the server is reached. -/
structure Connection where
  server : String := defaultServer
  retries : Nat := 3
  backoff : Nat := 200
deriving DecidableEq, Repr

/-- What the arguments ask for. -/
inductive Invocation where
  | run (connection : Connection) (command : Command)
  | help
  | version
  | misuse
deriving DecidableEq, Repr

namespace Arguments

/-! ## Options -/

inductive Flag where
  | server
  | retries
  | backoff
  | cost
  | ttl
deriving DecidableEq, Repr

inductive Scope where
  /-- Before a command. -/
  | top
  | get
  | set
  | delete
  | clear
  | stats
  | health
deriving DecidableEq, Repr

def scope? : String → Option Scope
  | "get" => some .get
  | "set" => some .set
  | "del" => some .delete
  | "clear" => some .clear
  | "stats" => some .stats
  | "health" => some .health
  | _ => none

/-- Only a write has a cost and a time to live. -/
def inScope (scope : Scope) (o : Flag) : Option Flag :=
  if (o = .cost || o = .ttl) && scope ≠ .set then none else some o

def longOption? (scope : Scope) (name : String) : Option Flag :=
  match name with
  | "server" => some .server
  | "retries" => some .retries
  | "backoff-ms" => some .backoff
  | "cost" => inScope scope .cost
  | "ttl" => inScope scope .ttl
  | _ => none

def shortOption? (scope : Scope) (letter : Char) : Option Flag :=
  match letter with
  | 's' => some .server
  | 'r' => some .retries
  | 'c' => inScope scope .cost
  | 't' => inScope scope .ttl
  | _ => none

/-! ## What is read so far -/

/-- Options of one scope. Each may be given once. -/
structure Given where
  server : Option String := none
  retries : Option Nat := none
  backoff : Option Nat := none
  cost : Option Nat := none
  ttl : Option Nat := none

structure Draft where
  scope : Scope := .top
  /-- What was given before the command. -/
  before : Given := {}
  given : Given := {}
  /-- Arguments that are no options. -/
  values : List String := []

/-- A whole number of 32 bits. A minus sign may stand before zero only. -/
def readRetries (text : String) : Option Nat :=
  let n := match text.toList with
    | '-' :: digits => (Decimal.readWord (String.ofList digits)).filter fun n =>
        n = 0 && digits.head? != some '+'
    | _ => Decimal.readWord text
  n.filter (· < UInt32.size)

/-- Takes the value of an option, if it has the right form and is the first. -/
def Given.put (g : Given) (o : Flag) (value : String) : Option Given :=
  match o with
  | .server => if g.server.isSome then none else some { g with server := some value }
  | .retries =>
    if g.retries.isSome then none
    else (readRetries value).map fun n => { g with retries := some n }
  | .backoff =>
    if g.backoff.isSome then none
    else (Decimal.readWord value).map fun n => { g with backoff := some n }
  | .cost =>
    if g.cost.isSome then none
    else (Decimal.readWord value).map fun n => { g with cost := some n }
  | .ttl =>
    if g.ttl.isSome then none
    else (Decimal.readWord value).map fun n => { g with ttl := some n }

def Draft.put (d : Draft) (o : Flag) (value : String) : Option Draft :=
  (d.given.put o value).map fun given => { d with given }

/-! ## Arguments one by one -/

/-- How many values a command takes. -/
def Scope.arity : Scope → Nat
  | .get | .delete => 1
  | .set => 2
  | .top | .clear | .stats | .health => 0

def Draft.addValue (d : Draft) (value : String) : Option Draft :=
  if d.values.length < d.scope.arity then some { d with values := d.values ++ [value] } else none

/-- What an argument means by itself. -/
inductive Shape where
  | value
  /-- An option, with its value if that is in the same argument. -/
  | option (o : Flag) (value : Option String)
  | help
  | version
  | endOfOptions
  | unknown
deriving DecidableEq, Repr

def longShape (scope : Scope) (text : List Char) : Shape :=
  let name := text.takeWhile (· ≠ '=')
  let value := if name.length < text.length then some (String.ofList (text.drop (name.length + 1)))
    else none
  match longOption? scope (String.ofList name) with
  | some o => .option o value
  | none =>
    if value.isSome then .unknown
    else if name = "help".toList then .help
    else if name = "version".toList && scope = .top then .version
    else .unknown

def shortShape (scope : Scope) (letter : Char) (rest : List Char) : Shape :=
  match shortOption? scope letter with
  | some o =>
    match rest with
    | [] => .option o none
    | '=' :: value => .option o (some (String.ofList value))
    | value => .option o (some (String.ofList value))
  | none =>
    if letter = 'h' then .help
    else if letter = 'V' && scope = .top then .version
    else .unknown

def shape (scope : Scope) (argument : String) : Shape :=
  match argument.toList with
  | ['-', '-'] => .endOfOptions
  | '-' :: '-' :: text => longShape scope text
  | '-' :: letter :: rest => shortShape scope letter rest
  | _ => .value

/-- An argument of its own can be the value of an option unless it starts like one. -/
def isOptionValue (argument : String) : Bool :=
  match argument.toList with
  | '-' :: _ :: _ => false
  | _ => true

/-- The command, once all arguments are read. -/
def Draft.finish (d : Draft) : Invocation :=
  let connection : Connection :=
    { server := (d.given.server.or d.before.server).getD defaultServer
      retries := (d.given.retries.or d.before.retries).getD 3
      backoff := (d.given.backoff.or d.before.backoff).getD 200 }
  match d.scope, d.values with
  | .get, [key] => .run connection (.get key)
  | .set, [key, value] =>
    .run connection (.set { key, value, cost := d.given.cost, ttl := d.given.ttl })
  | .delete, [key] => .run connection (.delete key)
  | .clear, [] => .run connection .clear
  | .stats, [] => .run connection .stats
  | .health, [] => .run connection .health
  | _, _ => .misuse

def readValues : Draft → List String → Invocation
  | d, [] => d.finish
  | d, value :: rest =>
    match d.addValue value with
    | some d => readValues d rest
    | none => .misuse

/-- What is asked about: nothing, or one command. -/
def readHelp : List String → Invocation
  | [] => .help
  | [name] => if name = "help" || (scope? name).isSome then .help else .misuse
  | _ => .misuse

/-- Reads arguments one by one. The first that is wrong, or asks for help, decides. An
option may wait for its value. -/
def readFrom : Draft → Option Flag → List String → Invocation
  | d, none, [] => d.finish
  | _, some _, [] => .misuse
  | d, some o, argument :: rest =>
    if isOptionValue argument then
      match d.put o argument with
      | some d => readFrom d none rest
      | none => .misuse
    else .misuse
  | d, none, argument :: rest =>
    if d.scope = .top && argument = "help" then readHelp rest
    else match (if d.scope = .top then scope? argument else none) with
      | some scope => readFrom { d with scope, before := d.given, given := {} } none rest
      | none =>
        match shape d.scope argument with
        | .value =>
          match d.addValue argument with
          | some d => readFrom d none rest
          | none => .misuse
        | .option o (some value) =>
          match d.put o value with
          | some d => readFrom d none rest
          | none => .misuse
        | .option o none => readFrom d (some o) rest
        | .help => .help
        | .version => .version
        | .endOfOptions => readValues d rest
        | .unknown => .misuse

def read (arguments : List String) : Invocation := readFrom {} none arguments

end Arguments

end LfuCache.Client
