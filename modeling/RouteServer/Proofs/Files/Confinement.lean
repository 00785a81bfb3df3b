import RouteServer.View.Directory
import Mathlib.Data.List.Basic
import Mathlib.Data.List.Induction

/-
  **Confinement** — static files and templates lie at or below their base directory, and what is
  elsewhere makes no difference to them.

  A path below the base is made by pushing names onto it.  Pushing one name leads one step down from
  where the path led before (`placeOf_push`, `passable_push`), whether the base is empty, absolute,
  goes up or ends with a slash.  So a file is read below the base exactly when it is there and no
  name on the way to it is a file (`read_below_iff`), and that speaks of places at or below the base
  only.
-/

namespace RouteServer.FileTree

/-! ### Paths as texts -/

/-- The texts that stand between the slashes of a path. -/
structure Pieces (path : String) (pieces : List String) : Prop where
  ne_nil : pieces ≠ []
  slash_not_mem : ∀ n ∈ pieces, '/' ∉ n.toList
  joined : "/".intercalate pieces = path

theorem map_toList_names (path : String) :
    (names path).map String.toList = path.toList.splitOn '/' := by
  simp [names, Function.comp_def]

theorem pieces_names (path : String) : Pieces path (names path) := by
  constructor
  · intro h
    have hsplit := congrArg (List.map String.toList) h
    rw [map_toList_names] at hsplit
    exact List.splitOn_ne_nil _ _ hsplit
  · intro n hn
    apply Text.not_mem_of_mem_splitOn (s := path.toList)
    rw [← map_toList_names]
    exact List.mem_map_of_mem hn
  · apply String.toList_injective
    rw [String.toList_intercalate, map_toList_names]
    exact List.intercalate_splitOn '/'

/-- A path has no other pieces than its names. -/
theorem Pieces.names_eq {path : String} {pieces : List String} (h : Pieces path pieces) :
    names path = pieces := by
  have hsplit : path.toList.splitOn '/' = pieces.map String.toList := by
    rw [← h.joined, String.toList_intercalate]
    apply List.splitOn_intercalate
    · intro l hl
      obtain ⟨n, hn, rfl⟩ := List.mem_map.1 hl
      exact h.slash_not_mem n hn
    · simpa using h.ne_nil
  rw [names, hsplit, List.map_map]
  simp [Function.comp_def]

theorem names_append_slash (path name : String) (hname : '/' ∉ name.toList) :
    names (path ++ "/" ++ name) = names path ++ [name] := by
  have htext : (path ++ "/" ++ name).toList = path.toList ++ '/' :: name.toList := by simp
  rw [names, names, htext, List.splitOn_append_cons_self, List.splitOn_eq_singleton hname]
  simp

/-- Pushing a name puts it behind the names of the path, or in place of an empty one at their
    end. -/
theorem exists_names_push (path : String) {name : String} (hname : '/' ∉ name.toList) :
    ∃ front, (names path = front ∨ names path = front ++ [""]) ∧
      names (push path name) = front ++ [name] := by
  rw [push]
  split
  · rename_i hend
    rcases hend with rfl | hslash
    · refine ⟨[], Or.inr rfl, ?_⟩
      rw [String.empty_append, names, List.splitOn_eq_singleton hname]
      simp
    · obtain ⟨q, hq⟩ := List.getLast?_eq_some_iff.1 hslash
      obtain rfl : path = String.ofList q ++ "/" := by
        apply String.toList_injective
        simp [hq]
      have hpath := names_append_slash (String.ofList q) "" (by simp)
      rw [String.append_empty] at hpath
      exact ⟨_, Or.inr hpath, names_append_slash _ _ hname⟩
  · exact ⟨_, Or.inl rfl, names_append_slash _ _ hname⟩

theorem startFrom_push (here : List String) (path : String) {name : String}
    (hname : '/' ∉ name.toList) : startFrom here (push path name) = startFrom here path := by
  have hhead : (push path name).toList.head? = some '/' ↔ path.toList.head? = some '/' := by
    cases hpath : path.toList with
    | nil =>
      obtain rfl := String.toList_eq_nil_iff.1 hpath
      have hstart : name.toList.head? ≠ some '/' := fun h => hname (List.mem_of_head? h)
      simpa [push] using hstart
    | cons c r =>
      rw [push]
      split <;> simp [hpath]
  rw [startFrom, startFrom]
  by_cases h : path.toList.head? = some '/'
  · rw [if_pos h, if_pos (hhead.2 h)]
  · rw [if_neg h, if_neg fun h' => h (hhead.1 h')]

/-! ### Following a path -/

/-- The place that a path leads to. -/
def placeOf (t : FileTree) (path : String) : List String :=
  (names path).foldl step (startFrom t.here path)

/-- Every name on the way is looked up in a directory, and none is too long. -/
def Passes (t : FileTree) (place : List String) : List String → Prop
  | [] => True
  | n :: r =>
    (t.node? place = some .directory ∧ n.utf8ByteSize ≤ 255) ∧ t.Passes (step place n) r

def Passable (t : FileTree) (path : String) : Prop := t.Passes (startFrom t.here path) (names path)

/-- What every path has to be, whatever it leads to. -/
def Spellable (path : String) : Prop :=
  '\x00' ∉ path.toList ∧ path ≠ "" ∧ path.utf8ByteSize < 4096

variable {t : FileTree}

theorem passes_append {place ns ms : List String} :
    t.Passes place (ns ++ ms) ↔ t.Passes place ns ∧ t.Passes (ns.foldl step place) ms := by
  induction ns generalizing place with
  | nil => simp [Passes]
  | cons n ns ih => simp only [List.cons_append, Passes, List.foldl_cons, ih, and_assoc]

theorem follow_eq_ok_iff {place ns : List String} {node : Node} :
    t.follow place ns = .ok node ↔
      t.Passes place ns ∧ t.node? (ns.foldl step place) = some node := by
  induction ns generalizing place with
  | nil =>
    rw [follow, List.foldl_nil]
    cases t.node? place <;> simp [Passes]
  | cons n ns ih =>
    rw [follow, Passes, List.foldl_cons]
    cases hplace : t.node? place with
    | none => simp
    | some found =>
      cases found with
      | file bytes => simp
      | directory =>
        by_cases hlong : 255 < n.utf8ByteSize
        · simp [hlong, Nat.not_le_of_lt hlong]
        · simp [hlong, Nat.le_of_not_lt hlong, ih]

theorem bytesOf_eq_ok_iff {found : Except FileError Node} {bytes : List UInt8} :
    bytesOf found = .ok bytes ↔ found = .ok (.file bytes) := by
  rcases found with e | (content | _) <;> simp [bytesOf]

theorem read_eq_ok_iff {path : String} {bytes : List UInt8} :
    t.read path = .ok bytes ↔
      Spellable path ∧ t.Passable path ∧ t.node? (t.placeOf path) = some (.file bytes) := by
  rw [read, Passable, placeOf, ← follow_eq_ok_iff, ← bytesOf_eq_ok_iff]
  by_cases hnul : '\x00' ∈ path.toList
  · simp [hnul, Spellable]
  · by_cases hempty : path = ""
    · simp [hempty, Spellable]
    · by_cases hlong : 4096 ≤ path.utf8ByteSize
      · simp [hnul, hempty, hlong, Nat.not_lt_of_le hlong, Spellable]
      · simp [hnul, hempty, hlong, Nat.lt_of_not_le hlong, Spellable]

/-! ### Names pushed onto a path -/

theorem placeOf_push (path : String) {name : String} (hname : '/' ∉ name.toList) :
    t.placeOf (push path name) = step (t.placeOf path) name := by
  obtain ⟨front, hpath, hpush⟩ := exists_names_push path hname
  rw [placeOf, placeOf, hpush, startFrom_push _ _ hname]
  rcases hpath with hpath | hpath <;> simp [hpath, step]

theorem passable_push (path : String) {name : String} (hname : '/' ∉ name.toList) :
    t.Passable (push path name) ↔
      t.Passable path ∧ t.node? (t.placeOf path) = some .directory ∧ name.utf8ByteSize ≤ 255 := by
  obtain ⟨front, hpath, hpush⟩ := exists_names_push path hname
  rw [Passable, Passable, placeOf, hpush, startFrom_push _ _ hname]
  rcases hpath with hpath | hpath
  · simp [hpath, passes_append, Passes]
  · -- an empty name at the end of the path asks for the directory that the pushed name needs
    simp only [hpath, passes_append, Passes, List.foldl_append, List.foldl_cons, List.foldl_nil,
      step, true_or, if_true, and_true]
    constructor
    · rintro ⟨hfront, hdirectory, hshort⟩
      exact ⟨⟨hfront, hdirectory, by decide⟩, hdirectory, hshort⟩
    · rintro ⟨⟨hfront, -⟩, hlast⟩
      exact ⟨hfront, hlast⟩

/-- A name that leads one step down. -/
structure Descends (name : String) : Prop where
  slash_not_mem : '/' ∉ name.toList
  ne_empty : name ≠ ""
  ne_dot : name ≠ "."
  ne_dots : name ≠ ".."

theorem Descends.step_eq {name : String} (h : Descends name) (place : List String) :
    step place name = place ++ [name] := by
  rw [step, if_neg (not_or.2 ⟨h.ne_empty, h.ne_dot⟩), if_neg h.ne_dots]

theorem placeOf_foldl_push {ns : List String} (h : ∀ n ∈ ns, Descends n) (path : String) :
    t.placeOf (ns.foldl push path) = t.placeOf path ++ ns := by
  induction ns using List.reverseRecOn with
  | nil => rw [List.foldl_nil, List.append_nil]
  | append_singleton ns n ih =>
    have hn := h n (by simp)
    rw [List.foldl_concat, placeOf_push _ hn.slash_not_mem, hn.step_eq,
      ih fun m hm => h m (List.mem_append_left _ hm), List.append_assoc]

/-- Each pushed name needs a directory to stand in. -/
theorem passable_foldl_push {ns : List String} (h : ∀ n ∈ ns, Descends n) (path : String) :
    t.Passable (ns.foldl push path) ↔
      t.Passable path ∧ (∀ n ∈ ns, n.utf8ByteSize ≤ 255) ∧
        ∀ front, front <+: ns → front ≠ ns →
          t.node? (t.placeOf path ++ front) = some .directory := by
  induction ns using List.reverseRecOn with
  | nil => simp
  | append_singleton ns n ih =>
    have hn := h n (by simp)
    have hns : ∀ m ∈ ns, Descends m := fun m hm => h m (List.mem_append_left _ hm)
    have hfronts : (∀ front, front <+: ns ++ [n] → front ≠ ns ++ [n] →
          t.node? (t.placeOf path ++ front) = some .directory) ↔
        (∀ front, front <+: ns → front ≠ ns →
          t.node? (t.placeOf path ++ front) = some .directory) ∧
        t.node? (t.placeOf path ++ ns) = some .directory := by
      simp only [List.prefix_concat_iff]
      constructor
      · intro hall
        refine ⟨fun front hfront _ => hall front (Or.inr hfront) ?_,
          hall ns (Or.inr List.prefix_rfl) ?_⟩
        · rintro rfl
          exact Nat.not_succ_le_self ns.length (by simpa using hfront.length_le)
        · simp
      · rintro ⟨hall, hlast⟩ front (rfl | hfront) hne
        · exact absurd rfl hne
        · by_cases heq : front = ns
          · rwa [heq]
          · exact hall front hfront heq
    rw [List.foldl_concat, passable_push _ hn.slash_not_mem, ih hns, placeOf_foldl_push hns,
      hfronts]
    simp only [List.mem_append, List.mem_singleton, or_imp, forall_and, forall_eq]
    constructor
    · rintro ⟨⟨hpath, hshort, hall⟩, hlast, hname⟩
      exact ⟨hpath, ⟨hshort, hname⟩, hall, hlast⟩
    · rintro ⟨hpath, ⟨hshort, hname⟩, hall, hlast⟩
      exact ⟨⟨hpath, hshort, hall⟩, hlast, hname⟩

/-! ### Files at or below a base -/

/-- There is a regular file with these bytes at some names below the base, or at the base itself if
    there are no names. -/
def HoldsBelow (t : FileTree) (base : String) (ns : List String) (bytes : List UInt8) : Prop :=
  t.Passable base ∧ t.node? (t.placeOf base ++ ns) = some (.file bytes)

/-- Two trees have the same files at and below the base. -/
def AgreeBelow (t u : FileTree) (base : String) : Prop :=
  ∀ ns bytes, t.HoldsBelow base ns bytes ↔ u.HoldsBelow base ns bytes

/-- Above a file there is something, and it is a directory unless it is a file too. -/
theorem node?_eq_directory {place front : List String} {bytes : List UInt8}
    (h : t.node? place = some (.file bytes)) (hfront : front <+: place)
    (hfile : ∀ other, t.node? front ≠ some (.file other)) : t.node? front = some .directory := by
  have hlisted : ∃ f ∈ t.files, f.1 = place := by
    rw [node?] at h
    split at h
    · rename_i f hf
      exact ⟨f, List.mem_of_find?_eq_some hf, by simpa using List.find?_some hf⟩
    · split at h <;> cases h
  obtain ⟨f, hf, rfl⟩ := hlisted
  cases hfound : t.files.find? (·.1 = front) with
  | some g =>
    refine absurd ?_ (hfile g.2)
    rw [node?, hfound]
  | none =>
    have hbelow : (t.files.any fun f => front.isPrefixOf f.1) = true :=
      List.any_eq_true.2 ⟨f, hf, List.isPrefixOf_iff_prefix.2 hfront⟩
    simp only [node?, hfound, hbelow, Bool.or_true, if_true]

/-- A file below the base can be read if it is there and no file is on the way to it. -/
theorem read_below_iff {ns : List String} (h : ∀ n ∈ ns, Descends n) {base : String}
    {bytes : List UInt8} :
    t.read (ns.foldl push base) = .ok bytes ↔
      Spellable (ns.foldl push base) ∧ (∀ n ∈ ns, n.utf8ByteSize ≤ 255) ∧
        t.HoldsBelow base ns bytes ∧
        ∀ front, front <+: ns → front ≠ ns → ∀ other, ¬ t.HoldsBelow base front other := by
  rw [read_eq_ok_iff, passable_foldl_push h, placeOf_foldl_push h]
  constructor
  · rintro ⟨hspelled, ⟨hbase, hshort, hall⟩, hfile⟩
    refine ⟨hspelled, hshort, ⟨hbase, hfile⟩, fun front hfront hne other hother => ?_⟩
    have hdirectory := hall front hfront hne
    rw [hother.2] at hdirectory
    cases hdirectory
  · rintro ⟨hspelled, hshort, ⟨hbase, hfile⟩, hnone⟩
    refine ⟨hspelled, ⟨hbase, hshort, fun front hfront hne => ?_⟩, hfile⟩
    apply node?_eq_directory hfile
    · exact (List.prefix_append_right_inj _).2 hfront
    · intro other hother
      exact hnone front hfront hne other ⟨hbase, hother⟩

/-! ### Lookups -/

theorem below?_eq_none_iff {base path : String} : below? base path = none ↔ ".." ∈ names path := by
  rw [below?]
  by_cases h : ".." ∈ names path <;> simp [h]

theorem below?_eq_some {base path : String} (h : ".." ∉ names path) :
    below? base path = some (((names path).filter fun n => n ≠ "" ∧ n ≠ ".").foldl push base) := by
  rw [below?, if_neg h]

theorem descends_of_mem_filter {path : String} (h : ".." ∉ names path) :
    ∀ n ∈ (names path).filter (fun n => n ≠ "" ∧ n ≠ "."), Descends n := by
  intro n hn
  rw [List.mem_filter, decide_eq_true_eq] at hn
  obtain ⟨hmem, hempty, hdot⟩ := hn
  refine ⟨(pieces_names path).slash_not_mem n hmem, hempty, hdot, ?_⟩
  rintro rfl
  exact h hmem

/-- A path below the base is the base with names that lead down pushed onto it. -/
theorem exists_eq_of_below? {base path file : String} (h : below? base path = some file) :
    ∃ ns : List String, (∀ n ∈ ns, Descends n) ∧ file = ns.foldl push base := by
  have hdots : ".." ∉ names path := by
    intro hmem
    rw [below?_eq_none_iff.2 hmem] at h
    cases h
  rw [below?_eq_some hdots, Option.some.injEq] at h
  exact ⟨_, descends_of_mem_filter hdots, h.symm⟩

theorem toOption_eq_some_iff {found : Except FileError (List UInt8)} {bytes : List UInt8} :
    found.toOption = some bytes ↔ found = .ok bytes := by
  cases found <;> simp [Except.toOption]

/-- Trees that agree at and below the base cannot be told apart by reading below it. -/
theorem AgreeBelow.read_eq {u : FileTree} {base path file : String} (h : t.AgreeBelow u base)
    (hfile : below? base path = some file) : (t.read file).toOption = (u.read file).toOption := by
  obtain ⟨ns, hns, rfl⟩ := exists_eq_of_below? hfile
  apply Option.ext
  intro bytes
  rw [toOption_eq_some_iff, toOption_eq_some_iff, read_below_iff hns, read_below_iff hns]
  simp only [h _ _]

theorem AgreeBelow.load_eq {u : FileTree} {base : String} (h : t.AgreeBelow u base)
    (path : String) : StaticFiles.load t base path = StaticFiles.load u base path := by
  rw [StaticFiles.load, StaticFiles.load]
  cases hfile : below? base (StaticFiles.asked path) with
  | none => rfl
  | some file => simp only [h.read_eq hfile]

theorem AgreeBelow.ofDirectory_eq {u : FileTree} {base : String} (h : t.AgreeBelow u base) :
    View.Library.ofDirectory t base = View.Library.ofDirectory u base := by
  funext name
  rw [View.Library.ofDirectory, View.Library.ofDirectory]
  cases hfile : below? base name with
  | none => rfl
  | some file => simp only [Option.bind_some, h.read_eq hfile]

theorem exists_holdsBelow_of_read {base path file : String} {bytes : List UInt8}
    (hfile : below? base path = some file) (hread : (t.read file).toOption = some bytes) :
    ∃ ns, t.HoldsBelow base ns bytes := by
  obtain ⟨ns, hns, rfl⟩ := exists_eq_of_below? hfile
  rw [toOption_eq_some_iff, read_below_iff hns] at hread
  obtain ⟨-, -, hholds, -⟩ := hread
  exact ⟨ns, hholds⟩

theorem exists_holdsBelow_of_load {base path contentType : String} {bytes : List UInt8}
    (h : StaticFiles.load t base path = .ok (bytes, contentType)) :
    ∃ ns, t.HoldsBelow base ns bytes := by
  rw [StaticFiles.load] at h
  split at h
  · cases h
  · rename_i file hfile
    split at h
    · rename_i content hread
      obtain ⟨rfl, -⟩ := Prod.mk.inj (Except.ok.inj h)
      exact exists_holdsBelow_of_read hfile hread
    · cases h

theorem exists_holdsBelow_of_ofDirectory {base name : String} {template : View.Template}
    (h : View.Library.ofDirectory t base name = .ok template) :
    ∃ ns bytes text, t.HoldsBelow base ns bytes ∧ Text.Utf8.decode? bytes = some text ∧
      View.Template.parse text = .ok template := by
  rw [View.Library.ofDirectory] at h
  split at h
  · cases h
  · rename_i bytes hbytes
    obtain ⟨file, hfile, hread⟩ := Option.bind_eq_some_iff.1 hbytes
    obtain ⟨ns, hholds⟩ := exists_holdsBelow_of_read hfile hread
    split at h
    · cases h
    · rename_i text htext
      exact ⟨ns, bytes, text, hholds, htext, h⟩

/-- Lookups are confined to the base.  A path is refused if one of its pieces goes up; otherwise
    its pieces are pushed onto the base, less those that lead nowhere, and lead down from it.  So
    trees that agree at and below the base give the same files and the same templates, and all that
    they give are the contents of files there. -/
theorem lookups_confined (base : String) :
    (∀ path, ∃ pieces, Pieces path pieces) ∧
    (∀ path pieces, Pieces path pieces →
      (below? base path = none ↔ ".." ∈ pieces) ∧
      (".." ∉ pieces → ∃ file,
        below? base path = some file ∧
        file = (pieces.filter fun n => n ≠ "" ∧ n ≠ ".").foldl push base ∧
        ∀ t : FileTree, t.placeOf file =
          t.placeOf base ++ pieces.filter fun n => n ≠ "" ∧ n ≠ ".")) ∧
    (∀ t u : FileTree, t.AgreeBelow u base →
      (∀ path, StaticFiles.load t base path = StaticFiles.load u base path) ∧
      View.Library.ofDirectory t base = View.Library.ofDirectory u base) ∧
    (∀ (t : FileTree) path bytes contentType,
      StaticFiles.load t base path = .ok (bytes, contentType) →
      ∃ ns, t.HoldsBelow base ns bytes) ∧
    (∀ (t : FileTree) name template, View.Library.ofDirectory t base name = .ok template →
      ∃ ns bytes text, t.HoldsBelow base ns bytes ∧ Text.Utf8.decode? bytes = some text ∧
        View.Template.parse text = .ok template) := by
  refine ⟨fun path => ⟨_, pieces_names path⟩, ?_, ?_, ?_, ?_⟩
  · intro path pieces hpieces
    obtain rfl := hpieces.names_eq
    refine ⟨below?_eq_none_iff, fun hdots => ⟨_, below?_eq_some hdots, rfl, fun t => ?_⟩⟩
    exact placeOf_foldl_push (descends_of_mem_filter hdots) base
  · intro t u hagree
    exact ⟨hagree.load_eq, hagree.ofDirectory_eq⟩
  · intro t path bytes contentType hload
    exact exists_holdsBelow_of_load hload
  · intro t name template htemplate
    exact exists_holdsBelow_of_ofDirectory htemplate

/-- A site with an upload and a key beside it, the current directory being that of the upload. -/
def site (key : List UInt8) : FileTree where
  files := [(["srv", "www", "a.txt"], [0x41]), (["srv", "tmp", "up"], [0x42]), (["key"], key)]
  here := ["srv", "tmp"]

theorem site_holdsBelow_iff {key bytes : List UInt8} {ns : List String} :
    (site key).HoldsBelow "../www" ns bytes ↔ ns = ["a.txt"] ∧ bytes = [0x41] := by
  have hnames : names "../www" = ["..", "www"] := by decide +kernel
  have hstart : startFrom (site key).here "../www" = ["srv", "tmp"] := by rfl
  have hplace : (site key).placeOf "../www" = ["srv", "www"] := by
    rw [placeOf, hnames, hstart]
    rfl
  have hpassable : (site key).Passable "../www" := by
    rw [Passable, hnames, hstart]
    exact ⟨⟨rfl, by decide⟩, ⟨rfl, by decide⟩, trivial⟩
  rw [HoldsBelow, hplace]
  constructor
  · rintro ⟨-, hfile⟩
    by_cases hns : ns = ["a.txt"]
    · subst hns
      obtain rfl : [0x41] = bytes := by simpa [node?, site] using hfile
      exact ⟨rfl, rfl⟩
    · simp [node?, site, Ne.symm hns] at hfile
  · rintro ⟨rfl, rfl⟩
    exact ⟨hpassable, rfl⟩

/-- The base goes up from the current directory, and the key beside it cannot be seen. -/
theorem lookups_confined_key :
    (site [1]).AgreeBelow (site [2]) "../www" ∧
    StaticFiles.load (site [1]) "../www" "//./a.txt" = .ok ([0x41], "text/plain; charset=utf-8") ∧
    StaticFiles.load (site [1]) "../www" "../../key" =
      StaticFiles.load (site [2]) "../www" "../../key" ∧
    ∃ ns, (site [1]).HoldsBelow "../www" ns [0x41] := by
  have hagree : (site [1]).AgreeBelow (site [2]) "../www" :=
    fun ns bytes => site_holdsBelow_iff.trans site_holdsBelow_iff.symm
  have hload : StaticFiles.load (site [1]) "../www" "//./a.txt" =
      .ok ([0x41], "text/plain; charset=utf-8") := by
    decide +kernel
  obtain ⟨-, -, hsame, hheld, -⟩ := lookups_confined "../www"
  exact ⟨hagree, hload, (hsame _ _ hagree).1 "../../key", hheld _ _ _ _ hload⟩

end FileTree

end RouteServer
