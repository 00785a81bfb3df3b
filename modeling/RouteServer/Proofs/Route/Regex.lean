import RouteServer.Route.Pattern
import RouteServer.Proofs.Route.Backtracking

/-
  **Routes as regular expressions** — what the expression text of a route means.

  `readItems` reads such a text into its items: the two anchors, single characters, an optional
  character, and groups that repeat a class.  `search` is the usual meaning of a list of items.  It
  looks for the leftmost place where a match begins, tries the alternatives of each item in order of
  preference, the greedy one first, and goes back when the items behind it find nothing.

  Two facts tie this to the matcher of the routes.  Reading the text of a route gives back its
  segments as items (`readItems_expression`), whatever special characters the literals hold, and
  searching for these items gives the captures of the route (`captures_eq_regex`).
-/

namespace RouteServer.Route.Regex

/-! ### Syntax -/

/-- A part of a regular expression, as far as routes use them. -/
inductive Item where
  /-- `^` -/
  | start
  /-- `$` -/
  | stop
  | char (c : Char)
  /-- a character with `?` behind it -/
  | optional (c : Char)
  /-- a captured class, repeated with `*` or, when it may not be empty, with `+` -/
  | group (ranges : List (Char × Char)) (nonempty : Bool)
  deriving DecidableEq, Repr

/-- The ranges of a class, up to its closing bracket. -/
def readRanges : List Char → Option (List (Char × Char) × List Char)
  | [] => none
  | ']' :: r => some ([], r)
  | a :: '-' :: b :: r => (readRanges r).map fun h => ((a, b) :: h.1, h.2)
  | a :: r => (readRanges r).map fun h => ((a, a) :: h.1, h.2)

/-- A character that stands for itself.  Special characters do so behind a backslash. -/
def readChar : List Char → Option (Char × List Char)
  | '\\' :: c :: r => if isSpecial c then some (c, r) else none
  | c :: r => if isSpecial c then none else some (c, r)
  | [] => none

def readItem : List Char → Option (Item × List Char)
  | '^' :: r => some (.start, r)
  | '$' :: r => some (.stop, r)
  | '(' :: '[' :: r =>
    match readRanges r with
    | some (ranges, '*' :: ')' :: rest) => some (.group ranges false, rest)
    | some (ranges, '+' :: ')' :: rest) => some (.group ranges true, rest)
    | _ => none
  | s =>
    match readChar s with
    | some (c, '?' :: r) => some (.optional c, r)
    | some (c, r) => some (.char c, r)
    | none => none

theorem length_lt_of_readRanges {s r : List Char} {ranges : List (Char × Char)}
    (h : readRanges s = some (ranges, r)) : r.length < s.length := by
  induction s using readRanges.induct generalizing ranges with
  | case1 => cases h
  | case2 s =>
    simp only [readRanges, Option.some.injEq, Prod.mk.injEq] at h
    simp [← h.2]
  | case3 a b s _ ih =>
    simp only [readRanges, Option.map_eq_some_iff] at h
    obtain ⟨⟨ranges', r'⟩, hread, heq⟩ := h
    obtain ⟨-, rfl⟩ := Prod.mk.inj heq
    have hlt : r'.length < s.length := ih hread
    simp only [List.length_cons]
    omega
  | case4 a s _ _ ih =>
    simp only [readRanges, Option.map_eq_some_iff] at h
    obtain ⟨⟨ranges', r'⟩, hread, heq⟩ := h
    obtain ⟨-, rfl⟩ := Prod.mk.inj heq
    exact Nat.lt_succ_of_lt (ih hread)

theorem length_lt_of_readChar {s r : List Char} {c : Char} (h : readChar s = some (c, r)) :
    r.length < s.length := by
  unfold readChar at h
  split at h
  · split at h
    · cases h
      simp only [List.length_cons]
      omega
    · cases h
  · split at h
    · cases h
    · cases h
      exact Nat.lt_succ_self _
  · cases h

theorem length_lt_of_readItem {s r : List Char} {i : Item} (h : readItem s = some (i, r)) :
    r.length < s.length := by
  unfold readItem at h
  split at h
  · cases h
    exact Nat.lt_succ_self _
  · cases h
    exact Nat.lt_succ_self _
  · split at h
    · rename_i hread
      cases h
      have hlt := length_lt_of_readRanges hread
      simp only [List.length_cons] at hlt ⊢
      omega
    · rename_i hread
      cases h
      have hlt := length_lt_of_readRanges hread
      simp only [List.length_cons] at hlt ⊢
      omega
    · cases h
  · split at h
    · rename_i hread
      cases h
      exact Nat.lt_of_succ_lt (length_lt_of_readChar hread)
    · rename_i hread
      cases h
      exact length_lt_of_readChar hread
    · cases h

def readItems : List Char → Option (List Item)
  | [] => some []
  | c :: s =>
    match _h : readItem (c :: s) with
    | some (i, r) => (readItems r).map (i :: ·)
    | none => none
termination_by s => s.length
decreasing_by exact length_lt_of_readItem _h

/-! ### Meaning -/

def holds (ranges : List (Char × Char)) (c : Char) : Bool :=
  ranges.any fun r => decide (r.1 ≤ c) && decide (c ≤ r.2)

/-- What an item can take from the front of a text, the preferred way first, each with what is
    left.  `atStart` says that the text begins here. -/
def Item.cuts : Item → Bool → List Char → List (List Char × List Char)
  | .start, atStart, s => if atStart then [([], s)] else []
  | .stop, _, s => if s = [] then [([], s)] else []
  | .char _, _, [] => []
  | .char c, _, d :: r => if d = c then [([d], r)] else []
  | .optional _, _, [] => [([], [])]
  | .optional c, _, d :: r => if d = c then [([d], r), ([], d :: r)] else [([], d :: r)]
  | .group ranges nonempty, _, s =>
    (runs (holds ranges) s).filter fun h => !nonempty || !h.1.isEmpty

/-- What an item adds to the captures when it takes `x`. -/
def Item.capture (x : List Char) : Item → List (List Char)
  | .group _ _ => [x]
  | _ => []

/-- The captures of every match that begins here, the preferred match first. -/
def matchesHere : List Item → Bool → List Char → List (List (List Char))
  | [], _, _ => [[]]
  | i :: items, atStart, s =>
    (i.cuts atStart s).flatMap fun h =>
      (matchesHere items (atStart && h.1.isEmpty) h.2).map (i.capture h.1 ++ ·)

/-- The captures of the preferred match among those that begin leftmost. -/
def search (items : List Item) : Bool → List Char → Option (List (List Char))
  | atStart, [] => (matchesHere items atStart []).head?
  | atStart, c :: r => (matchesHere items atStart (c :: r)).head?.or (search items false r)

/-- What the groups of a regular expression capture from a text, if there is a match in it. -/
def captures (source text : String) : Option (List String) :=
  (readItems source.toList).bind fun items =>
    (search items true text.toList).map fun vs => vs.map String.ofList

/-! ### Reading the text of a route -/

def rangesOf : Kind → List (Char × Char)
  | .int => [('0', '9')]
  | .str => [('A', 'Z'), ('a', 'z'), ('0', '9'), ('_', '_')]

def itemsOf : Segment → List Item
  | .literal text => text.toList.map .char
  | .capture p => [.group (rangesOf p.kind) (p.kind == .str)]

def routeItems (segments : List Segment) : List Item :=
  .start :: segments.flatMap itemsOf ++ [.optional '/', .stop]

theorem holds_rangesOf (k : Kind) (c : Char) : holds (rangesOf k) c = k.allows c := by
  cases k with
  | int => simp [holds, rangesOf, Kind.allows, Char.isDigit, Char.le_def]
  | str =>
    have hletter : c.isAlpha = (decide ('A'.val ≤ c.val ∧ c.val ≤ 'Z'.val) ||
        decide ('a'.val ≤ c.val) && decide (c.val ≤ 'z'.val)) := rfl
    rw [Bool.eq_iff_iff]
    simp only [holds, rangesOf, Kind.allows, Char.isAlphanum, hletter, Char.isDigit, Char.le_def,
      List.any_cons, List.any_nil, Bool.or_false, Bool.or_eq_true, Bool.and_eq_true,
      decide_eq_true_eq, beq_iff_eq, Char.ext_iff, UInt32.ext_iff, UInt32.le_iff_toNat_le,
      ge_iff_le]
    omega

/-- A character that is read stands for itself, unless a question mark follows. -/
theorem readItem_of_readChar {s r : List Char} {c : Char} (hread : readChar s = some (c, r))
    (hfront : ∀ d ∈ ['^', '$', '('], s.head? ≠ some d) (hr : r.head? ≠ some '?') :
    readItem s = some (.char c, r) := by
  unfold readItem
  split
  · exact absurd rfl (hfront '^' (by simp))
  · exact absurd rfl (hfront '$' (by simp))
  · exact absurd rfl (hfront '(' (by simp))
  · rw [hread]
    split
    · rename_i heq
      cases heq
      exact absurd rfl hr
    · rename_i heq
      cases heq
      rfl
    · rename_i heq
      cases heq

theorem readChar_of_not_special {c : Char} (hc : ¬ isSpecial c = true) (r : List Char) :
    readChar (c :: r) = some (c, r) := by
  unfold readChar
  split
  · rename_i heq
    cases heq
    exact absurd rfl hc
  · rename_i heq
    cases heq
    exact if_neg hc
  · rename_i heq
    cases heq

theorem readItem_escapeLiteral (c : Char) {r : List Char} (hr : r.head? ≠ some '?') :
    readItem (escapeLiteral [c] ++ r) = some (.char c, r) := by
  by_cases hc : isSpecial c = true
  · have hescape : escapeLiteral [c] ++ r = '\\' :: c :: r := by simp [escapeLiteral, hc]
    rw [hescape]
    exact readItem_of_readChar (by simp [readChar, hc]) (by simp) hr
  · have hescape : escapeLiteral [c] ++ r = c :: r := by simp [escapeLiteral, hc]
    rw [hescape]
    refine readItem_of_readChar (readChar_of_not_special hc r) (fun d hd heq => ?_) hr
    obtain rfl := Option.some.inj heq
    have hspecial : ∀ d ∈ ['^', '$', '('], isSpecial d = true := by simp [isSpecial]
    exact hc (hspecial c hd)

theorem readItem_group (k : Kind) (r : List Char) :
    readItem (k.group.toList ++ r) = some (.group (rangesOf k) (k == .str), r) := by
  cases k <;> rfl

theorem readItems_of_readItem {s r : List Char} {i : Item} (h : readItem s = some (i, r)) :
    readItems s = (readItems r).map (i :: ·) := by
  cases s with
  | nil => cases h
  | cons c s =>
    rw [readItems]
    split
    · rename_i heq
      rw [h] at heq
      cases heq
      rfl
    · rename_i heq
      rw [h] at heq
      cases heq

/-! An escaped literal never begins with a question mark, and neither does a group or the end of an
expression.  So no character of a literal is taken for an optional one. -/

theorem head?_escapeLiteral_append (t : List Char) {r : List Char} (hr : r.head? ≠ some '?') :
    (escapeLiteral t ++ r).head? ≠ some '?' := by
  cases t with
  | nil => exact hr
  | cons c t =>
    by_cases hc : isSpecial c = true
    · simp [escapeLiteral, hc]
    · have hne : c ≠ '?' := by
        rintro rfl
        exact hc rfl
      simpa [escapeLiteral, hc] using hne

theorem head?_expression (segments : List Segment) :
    (segments.flatMap Segment.expression ++ ['/', '?', '$']).head? ≠ some '?' := by
  induction segments with
  | nil => simp
  | cons segment segments ih =>
    rw [List.flatMap_cons, List.append_assoc]
    cases segment with
    | literal text => exact head?_escapeLiteral_append _ ih
    | capture p => cases hk : p.kind <;> simp [Segment.expression, Kind.group, hk]

theorem readItems_escapeLiteral (t : List Char) {r : List Char} (hr : r.head? ≠ some '?') :
    readItems (escapeLiteral t ++ r) = (readItems r).map (t.map .char ++ ·) := by
  induction t with
  | nil => simp [escapeLiteral]
  | cons c t ih =>
    have hsplit : escapeLiteral (c :: t) ++ r = escapeLiteral [c] ++ (escapeLiteral t ++ r) := by
      simp [escapeLiteral]
    have hnext := head?_escapeLiteral_append t hr
    rw [hsplit, readItems_of_readItem (readItem_escapeLiteral c hnext), ih, Option.map_map]
    rfl

theorem readItems_segments (segments : List Segment) :
    readItems (segments.flatMap Segment.expression ++ ['/', '?', '$']) =
      some (segments.flatMap itemsOf ++ [.optional '/', .stop]) := by
  induction segments with
  | nil =>
    have hslash : readItem ['/', '?', '$'] = some (.optional '/', ['$']) := rfl
    have hstop : readItem ['$'] = some (.stop, []) := rfl
    rw [List.flatMap_nil, List.nil_append, readItems_of_readItem hslash,
      readItems_of_readItem hstop, readItems]
    rfl
  | cons segment segments ih =>
    rw [List.flatMap_cons, List.append_assoc]
    cases segment with
    | literal text =>
      rw [Segment.expression, readItems_escapeLiteral _ (head?_expression segments), ih]
      simp [itemsOf]
    | capture p =>
      rw [Segment.expression, readItems_of_readItem (readItem_group p.kind _), ih]
      rfl

/-- Reading the text of a route gives back its segments, whatever characters they hold. -/
theorem readItems_expression (p : Pattern) :
    readItems p.expression.toList = some (routeItems p.segments) := by
  rw [Pattern.expression, String.toList_ofList, List.cons_append,
    readItems_of_readItem (i := .start) (by rfl), readItems_segments]
  rfl

/-! ### Searching for the items of a route -/

theorem cuts_group (k : Kind) (atStart : Bool) (s : List Char) :
    (Item.group (rangesOf k) (k == .str)).cuts atStart s = k.cuts s := by
  have hholds : holds (rangesOf k) = k.allows := funext (holds_rangesOf k)
  cases k <;> simp [Item.cuts, Kind.cuts, hholds]

theorem matchesHere_chars (t : List Char) (items : List Item) (atStart : Bool) (s : List Char) :
    matchesHere (t.map .char ++ items) atStart s =
      match Text.stripStart t s with
      | some r => matchesHere items (atStart && t.isEmpty) r
      | none => [] := by
  induction t generalizing atStart s with
  | nil => simp
  | cons c t ih =>
    cases s with
    | nil => rfl
    | cons d r =>
      rw [List.map_cons, List.cons_append, matchesHere, Text.stripStart_cons_cons]
      by_cases hd : d = c
      · simp [Item.cuts, Item.capture, hd, ih]
      · simp [Item.cuts, hd]

theorem matchesHere_end (atStart : Bool) (s : List Char) :
    matchesHere [.optional '/', .stop] atStart s = ways [] s := by
  cases s with
  | nil => rfl
  | cons c r =>
    by_cases hc : c = '/'
    · cases r <;> simp [matchesHere, Item.cuts, Item.capture, ways, hc]
    · simp [matchesHere, Item.cuts, Item.capture, ways, hc]

/-- Behind the first anchor, the items of a route are matched as backtracking over its segments
    does. -/
theorem matchesHere_segments (segments : List Segment) (atStart : Bool) (s : List Char) :
    matchesHere (segments.flatMap itemsOf ++ [.optional '/', .stop]) atStart s =
      ways segments s := by
  induction segments generalizing atStart s with
  | nil => exact matchesHere_end atStart s
  | cons segment segments ih =>
    rw [List.flatMap_cons, List.append_assoc]
    cases segment with
    | literal text =>
      rw [itemsOf, matchesHere_chars, ways]
      cases Text.stripStart text.toList s with
      | none => rfl
      | some r => exact ih _ r
    | capture p =>
      rw [itemsOf, List.singleton_append, matchesHere, cuts_group, ways, followedBy]
      simp only [ih, Item.capture, List.singleton_append]

/-- No match begins behind the start of a text. -/
theorem search_routeItems_false (segments : List Segment) (s : List Char) :
    search (routeItems segments) false s = none := by
  induction s with
  | nil => rfl
  | cons c r ih =>
    rw [search, ih]
    rfl

theorem search_routeItems (segments : List Segment) (s : List Char) :
    search (routeItems segments) true s = (ways segments s).head? := by
  have hhere : matchesHere (routeItems segments) true s = ways segments s := by
    rw [routeItems, List.cons_append, matchesHere]
    simp [Item.cuts, Item.capture, matchesHere_segments]
  cases s with
  | nil => rw [search, hhere]
  | cons c r => rw [search, hhere, search_routeItems_false, Option.or_none]

/-- A route captures what its expression does when it is run as a regular expression. -/
theorem captures_eq_regex (p : Pattern) (path : String) :
    p.captures path = captures p.expression path := by
  rw [Pattern.captures, captures_eq_head?_ways, captures, readItems_expression, Option.bind_some,
    search_routeItems]

end RouteServer.Route.Regex
