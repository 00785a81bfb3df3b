import RouteServer.View.Error
import RouteServer.View.Text

/-
  **Values in templates** — what an expression can stand for.

  Most values are data of the context.  Others come up while a template is evaluated: what is
  undefined, the content of a block, which is markup already and is not escaped again, and the
  functions that every template knows.  A part of a text is a text of one character, never markup.
-/

namespace RouteServer.View

/-- What an expression stands for. -/
inductive Value where
  | undefined
  | data (v : Json)
  /-- a text in which everything that could be markup is meant as such -/
  | markup (s : List Char)
  | function (name : String)
  deriving Repr

namespace Value

def functions : List String := ["range", "dict", "debug", "namespace"]

def functionText (name : String) : String := "minijinja::functions::builtins::" ++ name

def ofChar (c : Char) : Value := .data (.str (String.singleton c))

def ofData? (v : Option Json) : Value := v.elim .undefined .data

/-- What is written where an expression has this value; `escaping` says whether the template
    escapes. -/
def written (escaping : Bool) : Value → List Char
  | .undefined => []
  | .data v => if escaping then escape (textOf v) else textOf v
  | .markup s => s
  | .function name => (functionText name).toList

def text? : Value → Option (List Char)
  | .data (.str s) => some s.toList
  | .markup s => some s
  | _ => none

/-- The whole number that a value counts as: truth values do, and so do doubles without a
    fraction. -/
def index? : Value → Option Int
  | .data (.int n) => some n
  | .data (.bool b) => some (if b then 1 else 0)
  | .data (.real x) => x.toInt?
  | _ => none

/-- The element at an index, counted from the end if it is negative. -/
def elementAt? (items : List α) (i : Int) : Option α :=
  if 0 ≤ i then items[i.natAbs]?
  else if i.natAbs ≤ items.length then items[items.length - i.natAbs]? else none

/-- An attribute.  Only an undefined value has no attributes at all. -/
def property (v : Value) (name : String) : Except TemplateError Value :=
  match v with
  | .undefined => .error .undefined
  | .data d => .ok (ofData? (d.field? name))
  | _ => .ok .undefined

/-- An item of a list, a field of an object, or a character of a text. -/
def item (v i : Value) : Except TemplateError Value :=
  match v with
  | .undefined => .error .undefined
  | .data (.arr items) => .ok (ofData? (i.index?.bind (elementAt? items)))
  | .data (.obj fields) =>
    .ok (ofData? (i.text?.bind fun k => (Json.obj fields).field? (String.ofList k)))
  | v =>
    .ok (((v.text?.bind fun s => i.index?.bind (elementAt? s)).map ofChar).getD .undefined)

def length? : Value → Option Nat
  | .data (.arr items) => some items.length
  | .data (.obj fields) => some fields.length
  | v => v.text?.map List.length

def filtered (v : Value) (name : String) : Except TemplateError Value :=
  if name = "length" then
    match v.length? with
    | some n => .ok (.data (.int n))
    | none => .error .invalidOperation
  else .error .unknownFilter

def negated : Value → Except TemplateError Value
  | .data (.int n) => .ok (.data (.int (-n)))
  | .data (.real x) => .ok (.data (.real x.neg))
  | _ => .error .invalidOperation

/-- What calling a value without arguments gives. -/
def call : Value → Except TemplateError Value
  | .function name =>
    if name = "range" then .error .missingArgument
    else if name = "debug" then .ok (.data (.str ""))
    else .ok (.data (.obj []))
  | .undefined => .error .unknownFunction
  | _ => .error .invalidOperation

def holds : Value → Bool
  | .undefined => false
  | .data .null => false
  | .data (.bool b) => b
  | .data (.int n) => n ≠ 0
  | .data (.real x) => !x.isZero
  | .data (.str s) => !s.isEmpty
  | .data (.arr items) => !items.isEmpty
  | .data (.obj fields) => !fields.isEmpty
  | .markup s => !s.isEmpty
  | .function _ => true

/-- What a loop goes over: the items of a list, the keys of an object, the characters of a text. -/
def elements? : Value → Option (List Value)
  | .undefined => some []
  | .data .null => some []
  | .data (.arr items) => some (items.map .data)
  | .data (.obj fields) => some (fields.map fun f => .data (.str f.1))
  | v => v.text?.map (·.map ofChar)

/-- The names of templates that a value offers to an include: a list or an object offers all its
    elements, and a function none. -/
def choices : Value → List Value
  | .data (.arr items) => items.map .data
  | .data (.obj fields) => fields.map fun f => .data (.str f.1)
  | .function _ => []
  | v => [v]

def templateName (v : Value) : Except TemplateError String :=
  match v.text? with
  | some s => .ok (String.ofList s)
  | none => .error .invalidOperation

end Value

end RouteServer.View
