import RouteServer.Yaml.Mapping

/-
  **Settings documents** — a whole settings file as a list of entries.

  A file holds one document: nothing at all, or one flat mapping in either style.  Directives may
  stand in front of it, and then `---` has to follow; `...` may end it.  A second document is
  refused.
-/

namespace RouteServer.Yaml

namespace Directive

def number? (s : Source) : Option Source :=
  let digits := s.takeWhile fun p => p.1.isDigit
  if digits.isEmpty || 9 < digits.length then none else some (s.drop digits.length)

/-- The version behind `%YAML`: 1.1 or 1.2. -/
def version? (s : Source) : Option Source :=
  let s := s.skipSpaces
  match number? s with
  | none => none
  | some r =>
    match r with
    | ('.', _) :: after =>
      match number? after with
      | none => none
      | some rest =>
        let major := Text.Numeral.value? 10 (Source.taken s r)
        let minor := Text.Numeral.value? 10 (Source.taken after rest)
        if major = some 1 ∧ (minor = some 1 ∨ minor = some 2) then some rest else none
    | _ => none

/-- The handle behind `%TAG` and what it stands for. -/
def handle? (s : Source) : Option ((String × String) × Source) :=
  match Tag.handle? (Source.skipSpaces s) with
  | none => none
  | some (handle, r) =>
    if r.head?.any fun p => isSpace p.1 then
      match Tag.text? true (Source.skipSpaces r) with
      | none => none
      | some (start, r) =>
        if start.isEmpty || !Source.atGap r then none else some ((handle, start), r)
    else none

end Directive

/-- What stands in front of a document. -/
structure Prolog where
  version : Bool
  declared : Handles

namespace Prolog

def directive? (p : Prolog) (s : Source) : Option (Prolog × Source) :=
  let name := (s.takeWhile fun p => isNameChar p.1).map (·.1)
  let r := s.drop name.length
  if !Source.atGap r then none
  else if name = "YAML".toList then
    if p.version then none else (Directive.version? r).map ({ p with version := true }, ·)
  else if name = "TAG".toList then
    match Directive.handle? r with
    | none => none
    | some (h, r) =>
      if p.declared.any (·.1 == h.1) then none
      else some ({ p with declared := h :: p.declared }, r)
  else none

/-- All directives in front of a document.  The number bounds them.  `tabs` says whether tabs are
    space on the line, which they are behind a directive. -/
def read? (p : Prolog) : Nat → (tabs : Bool) → Source → Option (Prolog × Source)
  | 0, _, _ => none
  | n + 1, tabs, s =>
    let (s, _) := s.skip false tabs false
    match s with
    | ('%', 0) :: r =>
      match p.directive? r with
      | none => none
      | some (p, r) =>
        match Source.dropLine? r with
        | some r => p.read? n true r
        | none => none
    | _ => some (p, s)

def any (p : Prolog) : Bool := p.version || !p.declared.isEmpty

/-- The handles that are known in the document. -/
def handles (p : Prolog) : Handles :=
  p.declared ++ Handles.standard

end Prolog

/-- Whether the line that begins the document, or ends it, stands here. -/
def atLineOf (c : Char) (s : Source) : Bool := Source.atMarker s && s.head?.any (·.1 == c)

/-- Whether nothing follows but the end of the document: lines of three points, and no second
    document.  The number bounds the lines. -/
def endsHere : Nat → (tabs : Bool) → Source → Bool
  | 0, _, _ => false
  | n + 1, tabs, s =>
    match (s.skip false tabs false).1 with
    | [] => true
    | s => atLineOf '.' s && endsHere n true (s.drop 3)

/-- The properties that stand together on a line, and what follows them there.  The number bounds
    them. -/
def lineProperties? (handles : Handles) : Nat → Properties → Source → Option (Properties × Source)
  | 0, p, s => some (p, s)
  | n + 1, p, s =>
    if Properties.atProperty s then
      match p.read? false handles s with
      | none => none
      | some (p, r) => lineProperties? handles n p (Source.skipSpaces r)
    else some (p, s)

/-- The entries of a document, and what follows it.

    `line` says whether `---` stands on the same line, where no block mapping can begin, and `props`
    are the properties of the mapping on lines before.  The number bounds those lines. -/
def root? (handles : Handles) : Nat → (line : Bool) → Properties → Source → Option Entries
  | 0, _, _, _ => none
  | n + 1, line, props, s =>
    let (s, line) := s.skip false line false
    match s with
    | [] => some ([], [])
    | (_, column) :: _ =>
      if Source.atMarker s then some ([], s)
      else match lineProperties? handles 3 .none s with
        | none => none
        | some (own, r) =>
          match r with
          | ('\x7b', _) :: r =>
            if (props.and? own).isSome then
              Mapping.flowEntries? ⟨true, 0, handles⟩ (r.length + 1) [] r
            else none
          | _ =>
            if Properties.atProperty s && Source.lineDone r then
              match props.and? own with
              | some both => root? handles n true both r
              | none => none
            else if line then none
            else Mapping.blockEntries? handles column (s.length + 1) [] false s

/-- The entries of a settings file; nothing when the file is malformed, or holds anything but one
    flat mapping. -/
def entries? (text : List Char) : Option (List (Scalar × Scalar)) :=
  match Source.ofText? text with
  | none => none
  | some s =>
    match Prolog.read? ⟨false, []⟩ (s.length + 1) false s with
    | none => none
    | some (prolog, s) =>
      let begins := atLineOf '-' s
      if prolog.any && !begins then none
      else if !begins && Source.atMarker s then none
      else
        match root? prolog.handles (s.length + 1) begins .none (if begins then s.drop 3 else s) with
        | none => none
        | some (entries, r) => if endsHere (r.length + 1) true r then some entries else none

end RouteServer.Yaml
