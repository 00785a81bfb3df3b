import RouteServer.Text.Numeral
import RouteServer.Text.Utf8
import RouteServer.Yaml.Source

/-
  **Properties** — the anchor and the tag in front of a value.

  An anchor names a value so that an alias can repeat it.  A tag says of what type a value is; its
  short forms stand for full names by handles, of which `!` and `!!` are known and others have to be
  declared.
-/

namespace RouteServer.Yaml

/-- The starts of full tag names that handles stand for. -/
abbrev Handles := List (String × String)

def Handles.standard : Handles := [("!", "!"), ("!!", "tag:yaml.org,2002:")]

/-- The characters that may follow the name of an anchor or an alias, other than space. -/
def endsName (c : Char) : Bool := c ∈ ['?', ':', ',', ']', '\x7d', '%', '@', '\x60']

/-- The name of an anchor or an alias, from behind its mark. -/
def anchorName? (s : Source) : Option (List Char × Source) :=
  let name := (s.takeWhile fun p => isNameChar p.1).map (·.1)
  let r := s.drop name.length
  if name.isEmpty then none
  else if Source.atGap r || (r.head?.any fun p => endsName p.1) then some (name, r)
  else none

namespace Tag

/-- The characters of a tag.  Those that separate inside brackets are for full names only. -/
def isTagChar (full : Bool) (c : Char) : Bool :=
  isNameChar c ||
  c ∈ [';', '/', '?', ':', '@', '&', '=', '+', '$', '.', '!', '~', '*', '\'', '(', ')'] ||
  (full && c ∈ [',', '[', ']'])

/-- The characters of a tag at the front, escapes decoded.  The number bounds them. -/
def chars? (full : Bool) : Nat → Source → Option (List UInt8 × Source)
  | 0, _ => none
  | _ + 1, [] => some ([], [])
  | n + 1, (c, k) :: r =>
    if c = '%' then
      match r with
      | (a, _) :: (b, _) :: r =>
        match Text.Numeral.value? 16 [a, b] with
        | some v => (chars? full n r).map fun h => (UInt8.ofNat v :: h.1, h.2)
        | none => none
      | _ => none
    else if isTagChar full c then
      (chars? full n r).map fun h => (Text.Utf8.encode [c] ++ h.1, h.2)
    else some ([], (c, k) :: r)

def text? (full : Bool) (s : Source) : Option (String × Source) :=
  match chars? full (s.length + 1) s with
  | none => none
  | some (bytes, r) => (Text.Utf8.decodeString? bytes).map (·, r)

def expand? (handles : Handles) (handle suffix : String) : Option String :=
  (handles.find? (·.1 = handle)).map (·.2 ++ suffix)

/-- A handle at the front: `!`, `!!` or `!name!`. -/
def handle? : Source → Option (String × Source)
  | ('!', _) :: r =>
    let name := (r.takeWhile fun p => isNameChar p.1).map (·.1)
    match r.drop name.length with
    | ('!', _) :: r => some (String.ofList ('!' :: name ++ ['!']), r)
    | _ => some ("!", r)
  | _ => none

def read? (handles : Handles) (s : Source) : Option (String × Source) :=
  match s with
  | ('!', _) :: ('<', _) :: r =>
    match text? true r with
    | some (name, ('>', _) :: r) => if name.isEmpty then none else some (name, r)
    | _ => none
  | _ =>
    match handle? s with
    | none => none
    | some (handle, r) =>
      match text? false r with
      | none => none
      | some (suffix, r) =>
        if suffix.isEmpty then if handle = "!" then some ("!", r) else none
        else (expand? handles handle suffix).map (·, r)

end Tag

/-- What stands in front of a value. -/
structure Properties where
  anchor : Option (List Char)
  tag : Option String
  deriving DecidableEq, Repr

namespace Properties

def none : Properties := ⟨.none, .none⟩

/-- One more property at the front, of a sort that is not there yet. -/
def read? (flow : Bool) (handles : Handles) (p : Properties) (s : Source) :
    Option (Properties × Source) :=
  match s with
  | ('&', _) :: r =>
    if p.anchor.isSome then .none
    else (anchorName? r).map fun h => ({ p with anchor := some h.1 }, h.2)
  | ('!', _) :: _ =>
    if p.tag.isSome then .none
    else match Tag.read? handles s with
      | .none => .none
      | some (tag, r) =>
        if Source.atGap r || (flow && r.head?.any (·.1 == ',')) then some ({ p with tag }, r)
        else .none
  | _ => .none

/-- The properties of both, when they are of different sorts. -/
def and? (p q : Properties) : Option Properties :=
  if (p.anchor.isSome && q.anchor.isSome) || (p.tag.isSome && q.tag.isSome) then .none
  else some ⟨p.anchor.or q.anchor, p.tag.or q.tag⟩

def atProperty : Source → Bool
  | (c, _) :: _ => c == '&' || c == '!'
  | [] => false

end Properties

end RouteServer.Yaml
