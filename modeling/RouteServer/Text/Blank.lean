/-
  **Blank characters** — what counts as white space around a template, a header value or a
  setting.

  The set is the White_Space property of Unicode, which is larger than the six ASCII characters:
  an ideographic space around a port number is as blank as a tab.  `trim` removes blank characters
  at both ends and never inside, so a text is blank exactly when trimming leaves nothing
  (`trim_eq_nil_iff`).
-/

namespace RouteServer.Text

/-- The White_Space property: 25 code points, in eleven ranges. -/
def isBlank (c : Char) : Bool :=
  let n := c.toNat
  (0x09 ≤ n && n ≤ 0x0D) || n == 0x20 || n == 0x85 || n == 0xA0 || n == 0x1680 ||
  (0x2000 ≤ n && n ≤ 0x200A) || n == 0x2028 || n == 0x2029 || n == 0x202F || n == 0x205F ||
  n == 0x3000

/-- Drops the elements of `p` at both ends. -/
def trimBy (p : α → Bool) (s : List α) : List α :=
  ((s.dropWhile p).reverse.dropWhile p).reverse

def trim (s : List Char) : List Char := trimBy isBlank s

/-- Every character that the standard library calls white space is blank. -/
theorem isBlank_of_isWhitespace {c : Char} (h : c.isWhitespace = true) : isBlank c = true := by
  simp only [Char.isWhitespace, Bool.or_eq_true, decide_eq_true_eq] at h
  rcases h with ((rfl | rfl) | rfl) | rfl <;> rfl

theorem isBlank_eq_false {c : Char} (hlow : 0x20 < c.toNat) (hhigh : c.toNat < 0x85) :
    isBlank c = false := by
  simp only [isBlank, Bool.or_eq_false_iff, Bool.and_eq_false_iff, decide_eq_false_iff_not,
    beq_eq_false_iff_ne]
  omega

theorem dropWhile_eq_nil_iff {p : α → Bool} {s : List α} :
    s.dropWhile p = [] ↔ ∀ x ∈ s, p x = true := by
  induction s with
  | nil => simp
  | cons x r ih => by_cases h : p x <;> simp [h, ih]

/-- Elements of the class around a text do not matter to what trimming leaves of it. -/
theorem trimBy_padded {p : α → Bool} {front back : List α} (hfront : ∀ x ∈ front, p x = true)
    (hback : ∀ x ∈ back, p x = true) (s : List α) :
    trimBy p (front ++ (s ++ back)) = trimBy p s := by
  rw [trimBy, trimBy, List.dropWhile_append_of_pos hfront, List.dropWhile_append]
  split
  · rename_i hs
    rw [List.isEmpty_iff.1 hs, dropWhile_eq_nil_iff.2 hback]
  · rw [List.reverse_append, List.dropWhile_append_of_pos (by simpa using hback)]

theorem dropWhile_eq_self {p : α → Bool} {s : List α} (h : ∀ x ∈ s.head?, p x = false) :
    s.dropWhile p = s := by
  cases s with
  | nil => rfl
  | cons x s => exact List.dropWhile_cons_of_neg (by simp [h x rfl])

theorem trimBy_eq_self {p : α → Bool} {s : List α} (hhead : ∀ x ∈ s.head?, p x = false)
    (hlast : ∀ x ∈ s.getLast?, p x = false) : trimBy p s = s := by
  rw [trimBy, dropWhile_eq_self hhead, dropWhile_eq_self (by rwa [List.head?_reverse]),
    List.reverse_reverse]

/-- What stands between two runs of a class is what trimming leaves, if it neither begins nor ends
    in the class. -/
theorem trimBy_append {p : α → Bool} {front s back : List α} (hfront : ∀ x ∈ front, p x = true)
    (hback : ∀ x ∈ back, p x = true) (hhead : ∀ x ∈ s.head?, p x = false)
    (hlast : ∀ x ∈ s.getLast?, p x = false) : trimBy p (front ++ (s ++ back)) = s :=
  (trimBy_padded hfront hback s).trans (trimBy_eq_self hhead hlast)

theorem dropWhile_append_cons {p : α → Bool} {x : α} (h : p x = false) (s t : List α) :
    (s ++ x :: t).dropWhile p = s.dropWhile p ++ x :: t := by
  rw [List.dropWhile_append, List.dropWhile_cons_of_neg (by simp [h])]
  split
  · rename_i hs
    rw [List.isEmpty_iff.1 hs, List.nil_append]
  · rfl

/-- Around an element outside of the class, each side loses only what is at the end of the text. -/
theorem trimBy_append_cons {p : α → Bool} {x : α} (h : p x = false) (s t : List α) :
    trimBy p (s ++ x :: t) = s.dropWhile p ++ x :: (t.reverse.dropWhile p).reverse := by
  rw [trimBy, dropWhile_append_cons h, List.reverse_append, List.reverse_cons, List.append_assoc,
    List.singleton_append, dropWhile_append_cons h]
  simp

/-- A beginning that has nothing of the class in it stays the beginning. -/
theorem prefix_trimBy {p : α → Bool} {start s : List α} (h : start <+: s)
    (hstart : ∀ x ∈ start, p x = false) : start <+: trimBy p s := by
  obtain ⟨t, rfl⟩ := h
  rcases List.eq_nil_or_concat start with rfl | ⟨front, x, rfl⟩
  · exact List.nil_prefix
  · have hx : p x = false := hstart x (by simp)
    have hfront : front.dropWhile p = front :=
      dropWhile_eq_self fun y hy => hstart y (by simp [List.mem_of_mem_head? hy])
    rw [List.concat_eq_append, List.append_assoc, List.singleton_append, trimBy_append_cons hx,
      hfront]
    exact ⟨_, by rw [List.append_assoc, List.singleton_append]⟩

theorem trimBy_map {β : Type _} (p : β → Bool) (f : α → β) (s : List α) :
    trimBy p (s.map f) = (trimBy (p ∘ f) s).map f := by
  rw [trimBy, trimBy, List.dropWhile_map, ← List.map_reverse, List.dropWhile_map, List.map_reverse]

theorem exists_trimBy_cons {p : α → Bool} {x : α} (h : p x = false) (s : List α) :
    ∃ t, trimBy p (x :: s) = x :: t := ⟨_, trimBy_append_cons h [] s⟩

theorem dropWhile_eq_trimBy_append (p : α → Bool) (s : List α) :
    s.dropWhile p = trimBy p s ++ ((s.dropWhile p).reverse.takeWhile p).reverse := by
  rw [trimBy, ← List.reverse_append, List.takeWhile_append_dropWhile, List.reverse_reverse]

/-- What trimming drops are two runs of the class. -/
theorem exists_eq_padded_trimBy (p : α → Bool) (s : List α) :
    ∃ front back, (∀ x ∈ front, p x = true) ∧ (∀ x ∈ back, p x = true) ∧
      s = front ++ (trimBy p s ++ back) := by
  refine ⟨s.takeWhile p, ((s.dropWhile p).reverse.takeWhile p).reverse,
    List.all_eq_true.1 List.all_takeWhile, ?_, ?_⟩
  · intro x hx
    exact List.all_eq_true.1 List.all_takeWhile x (List.mem_reverse.1 hx)
  · rw [← dropWhile_eq_trimBy_append, List.takeWhile_append_dropWhile]

/-- What is lost at one end would be trimmed in any case. -/
theorem trimBy_dropWhile (p : α → Bool) (s : List α) : trimBy p (s.dropWhile p) = trimBy p s := by
  have hfront : ∀ x ∈ s.takeWhile p, p x = true := List.all_eq_true.1 List.all_takeWhile
  have hback : ∀ x ∈ ([] : List α), p x = true := by simp
  have h := trimBy_padded hfront hback (s.dropWhile p)
  rw [List.append_nil, List.takeWhile_append_dropWhile] at h
  exact h.symm

theorem trimBy_reverse_dropWhile_reverse (p : α → Bool) (s : List α) :
    trimBy p (s.reverse.dropWhile p).reverse = trimBy p s := by
  have hfront : ∀ x ∈ ([] : List α), p x = true := by simp
  have hback : ∀ x ∈ (s.reverse.takeWhile p).reverse, p x = true := by
    intro x hx
    exact List.all_eq_true.1 List.all_takeWhile x (List.mem_reverse.1 hx)
  have h := trimBy_padded hfront hback (s.reverse.dropWhile p).reverse
  rw [List.nil_append, ← List.reverse_append, List.takeWhile_append_dropWhile,
    List.reverse_reverse] at h
  exact h.symm

theorem eq_false_of_head?_dropWhile {p : α → Bool} {s : List α} {x : α}
    (h : x ∈ (s.dropWhile p).head?) : p x = false := by
  have hnot := List.head?_dropWhile_not p s
  rw [Option.mem_def.1 h] at hnot
  simpa using hnot

theorem eq_false_of_head?_trimBy {p : α → Bool} {s : List α} {x : α}
    (h : x ∈ (trimBy p s).head?) : p x = false := by
  apply eq_false_of_head?_dropWhile (s := s)
  rw [dropWhile_eq_trimBy_append, List.head?_append, Option.mem_def.1 h]
  rfl

theorem eq_false_of_getLast?_trimBy {p : α → Bool} {s : List α} {x : α}
    (h : x ∈ (trimBy p s).getLast?) : p x = false := by
  rw [trimBy, List.getLast?_reverse] at h
  exact eq_false_of_head?_dropWhile h

theorem mem_of_mem_trimBy {p : α → Bool} {s : List α} {x : α} (h : x ∈ trimBy p s) : x ∈ s := by
  rw [trimBy, List.mem_reverse] at h
  have hback := (List.dropWhile_sublist p).subset h
  exact (List.dropWhile_sublist p).subset (List.mem_reverse.1 hback)

/-- Nothing is left of a text exactly when all of it is in the trimmed class. -/
theorem trimBy_eq_nil_iff {p : α → Bool} {s : List α} :
    trimBy p s = [] ↔ ∀ x ∈ s, p x = true := by
  rw [trimBy, List.reverse_eq_nil_iff, dropWhile_eq_nil_iff]
  simp only [List.mem_reverse]
  constructor
  · intro h
    rw [← dropWhile_eq_nil_iff]
    cases hd : s.dropWhile p with
    | nil => rfl
    | cons x r =>
      have hx : p x = false := by
        have := List.head?_dropWhile_not p s
        simpa [hd] using this
      have := h x (by simp [hd])
      simp [hx] at this
  · intro h x hx
    exact h x ((List.dropWhile_sublist p).subset hx)

/-- Nothing is left of a text exactly when it is blank throughout. -/
theorem trim_eq_nil_iff {s : List Char} : trim s = [] ↔ ∀ c ∈ s, isBlank c = true :=
  trimBy_eq_nil_iff

end RouteServer.Text
