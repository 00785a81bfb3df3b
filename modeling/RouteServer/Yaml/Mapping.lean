import RouteServer.Yaml.Block
import RouteServer.Yaml.Plain
import RouteServer.Yaml.Property
import RouteServer.Yaml.Quoted
import RouteServer.Yaml.Scalar

/-
  **Flat mappings** — entries whose keys and values are scalars.

  Settings are never nested, so the readers accept no value but a scalar or an alias of one.  A
  block mapping has its keys in one column, and what belongs to a key is indented further; a flow
  mapping has its entries between braces, separated by commas.
-/

namespace RouteServer.Yaml

abbrev Anchors := List (List Char × Scalar)

/-- A scalar that was read, the anchors known after it, and the rest.  `tabs` says whether a tab is
    space at the rest. -/
structure Reading where
  scalar : Scalar
  anchors : Anchors
  rest : Source
  tabs : Bool

/-- Where a value is read. -/
structure Place where
  /-- inside braces -/
  flow : Bool
  /-- the least column of a value, in block style -/
  indent : Nat
  handles : Handles

namespace Place

/-- Whether a block scalar begins here in the column of the keys, where no key can begin with its
    mark. -/
def atOutdentedBlock (p : Place) : Source → Bool
  | (c, k) :: _ => (c == '|' || c == '>') && k + 1 == p.indent
  | [] => false

/-- Whether no value stands here: the source ends, or what follows belongs to what is around. -/
def isEmpty (p : Place) (s : Source) : Bool :=
  match s with
  | [] => true
  | (c, k) :: _ =>
    Source.atMarker s ||
      (if p.flow then c == ',' || c == '\x7d' else k < p.indent && !p.atOutdentedBlock s)

def aliased? (anchors : Anchors) (name : List Char) : Option Scalar :=
  (anchors.find? (·.1 = name)).map (·.2)

/-- A scalar without the properties in front of it, and whether a tab is space behind it. -/
def bare? (p : Place) (s : Source) : Option (List Char × Style × Source × Bool) :=
  match s with
  | [] => none
  | (c, _) :: r =>
    if c = '"' ∨ c = '\'' then
      (quoted? (c == '"') r).map fun h => (h.1, .quoted, h.2, true)
    else if (c = '|' ∨ c = '>') ∧ !p.flow then
      (block? (c == '>') p.indent r).map fun h =>
        (h.1, if c = '>' then .folded else .literal, h.2, false)
    else if startsPlain p.flow s then
      (plain? p.flow (if p.flow then 0 else p.indent) s).map fun h =>
        (h.1, .plain, h.2.1, p.flow || !h.2.2)
    else none

/-- A value: properties and a scalar, or an alias, or nothing.  The number bounds the
    properties. -/
def value? (p : Place) (anchors : Anchors) :
    Nat → Properties → (tabs : Bool) → Source → Option Reading
  | 0, _, _, _ => none
  | n + 1, props, tabs, s =>
    let (s, tabs) := s.skip p.flow tabs false
    let named := fun (v : Scalar) => props.anchor.elim anchors fun a => (a, v) :: anchors
    if p.isEmpty s then
      let v := { Scalar.missing with tag := props.tag }
      some ⟨v, named v, s, tabs⟩
    else if Properties.atProperty s then
      match props.read? p.flow p.handles s with
      | none => none
      | some (props, r) => value? p anchors n props true r
    else match s with
      | ('*', _) :: r =>
        if props = .none then
          match anchorName? r with
          | none => none
          | some (name, r) => (aliased? anchors name).map fun v => ⟨v, anchors, r, true⟩
        else none
      | _ =>
        match p.bare? s with
        | none => none
        | some (text, style, r, tabs) =>
          let v : Scalar := ⟨text, style, props.tag⟩
          some ⟨v, named v, r, tabs⟩

/-- A value with at most one anchor and one tag. -/
def read? (p : Place) (anchors : Anchors) (tabs : Bool) (s : Source) : Option Reading :=
  p.value? anchors 3 .none tabs s

end Place

abbrev Entries := List (Scalar × Scalar) × Source

namespace Mapping

/-- Whether a colon with space behind it stands here. -/
def atColon : Source → Bool
  | (':', _) :: r => Source.atGap r
  | _ => false

/-- A key that is marked by the colon behind it alone. -/
def shortKey? (handles : Handles) (anchors : Anchors) (s : Source) : Option Reading :=
  match Place.read? ⟨false, 0, handles⟩ anchors false s with
  | none => none
  | some k =>
    let r := k.rest.skipSpaces
    if s.isShort r && atColon r then some { k with rest := r.drop 1 } else none

/-- A key behind a question mark, up to the colon below it.  Without one the value is missing. -/
def markedKey? (p : Place) (column : Nat) (anchors : Anchors) (s : Source) :
    Option (Reading × Bool) :=
  match p.read? anchors false s with
  | none => none
  | some k =>
    let (r, tabs) := k.rest.skip false k.tabs false
    if atColon r && !tabs && r.head?.any (·.2 == column) then
      some ({ k with rest := r.drop 1 }, true)
    else some ({ k with rest := r, tabs }, false)

/-- The entries of a block mapping whose keys stand in one column.  Each begins a line.  The number
    bounds the entries. -/
def blockEntries? (handles : Handles) (column : Nat) :
    Nat → Anchors → (tabs : Bool) → Source → Option Entries
  | 0, _, _, _ => none
  | n + 1, anchors, tabs, s =>
    let p : Place := ⟨false, column + 1, handles⟩
    let (s, tabs) := s.skip false tabs false
    match s with
    | [] => some ([], [])
    | (c, k) :: r =>
      if Source.atMarker s then some ([], s)
      else if tabs || k != column then none
      else
        let read :=
          if c = '?' ∧ Source.atGap r then
            match markedKey? p column anchors r with
            | some (key, true) => (p.read? key.anchors false key.rest).map (key, ·)
            | some (key, false) => some (key, { key with scalar := .missing })
            | none => none
          else
            match shortKey? handles anchors s with
            | some key => (p.read? key.anchors true key.rest).map (key, ·)
            | none => none
        match read with
        | none => none
        | some (key, v) =>
          (blockEntries? handles column n v.anchors v.tabs v.rest).map fun h =>
            ((key.scalar, v.scalar) :: h.1, h.2)

/-- The value of an entry between braces: what follows its colon, if there is one. -/
def flowValue? (p : Place) (key : Reading) : Option Reading :=
  match (key.rest.skip true true false).1 with
  | (':', _) :: r => p.read? key.anchors true r
  | s => some { key with scalar := .missing, rest := s }

def flowKey? (p : Place) (anchors : Anchors) (s : Source) : Option Reading :=
  match s with
  | ('?', _) :: r => p.read? anchors true r
  | _ =>
    match p.read? anchors true s with
    | none => none
    | some key =>
      let r := (key.rest.skip true true false).1
      -- a colon behind a key that is not short begins an entry without a key
      if (r.head?.any (·.1 == ':')) && !s.isShort r then none else some key

/-- The entries of a flow mapping up to its closing brace.  The number bounds them. -/
def flowEntries? (p : Place) : Nat → Anchors → Source → Option Entries
  | 0, _, _ => none
  | n + 1, anchors, s =>
    match (s.skip true true false).1 with
    | ('\x7d', _) :: r => some ([], r)
    | s =>
      if p.isEmpty s then none
      else match flowKey? p anchors s with
        | none => none
        | some key =>
          match flowValue? p key with
          | none => none
          | some v =>
            match (v.rest.skip true true false).1 with
            | (',', _) :: r =>
              (flowEntries? p n v.anchors r).map fun h => ((key.scalar, v.scalar) :: h.1, h.2)
            | ('\x7d', _) :: r => some ([(key.scalar, v.scalar)], r)
            | _ => none

end Mapping

end RouteServer.Yaml
