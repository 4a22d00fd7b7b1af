import ContainerBundle.Text.Blank
/-!
# Fields, words and lines

Splitting at every separator keeps empty fields, so n separators make n + 1 fields. The words
of a text are the fields between blanks that are not empty.
-/
namespace ContainerBundle.Text

/-- The pieces between the characters satisfying `p`, empty pieces included. -/
def fields (p : Char → Bool) : List Char → List (List Char)
  | [] => [[]]
  | c :: rest =>
    if p c then [] :: fields p rest
    else match fields p rest with
      | [] => [[c]]
      | f :: fs => (c :: f) :: fs

theorem fields_ne_nil (p : Char → Bool) (s : List Char) : fields p s ≠ [] := by
  cases s with
  | nil => simp [fields]
  | cons c rest =>
    rw [fields]
    split
    · simp
    · split <;> simp

def words (s : List Char) : List (List Char) :=
  (fields isBlank s).filter (fun w => !w.isEmpty)

def cut? (c : Char) : List Char → Option (List Char × List Char)
  | [] => none
  | d :: rest =>
    if d = c then some ([], rest)
    else (cut? c rest).map (fun sides => (d :: sides.1, sides.2))

theorem cut?_eq_none_iff {c : Char} {s : List Char} : cut? c s = none ↔ c ∉ s := by
  induction s with
  | nil => simp [cut?]
  | cons d rest ih =>
    by_cases h : d = c
    · simp [cut?, h]
    · have : c ≠ d := fun e => h e.symm
      simp [cut?, h, ih, this]

theorem cut?_eq_some_iff {c : Char} {s front back : List Char} :
    cut? c s = some (front, back) ↔ s = front ++ c :: back ∧ c ∉ front := by
  induction s generalizing front with
  | nil => simp [cut?]
  | cons d rest ih =>
    by_cases h : d = c
    · subst h
      cases front with
      | nil => simp [cut?]
      | cons e es =>
        simp only [cut?, List.cons_append, List.cons.injEq, List.mem_cons, not_or]
        exact ⟨nofun, fun ⟨he, hne, _⟩ => absurd he.1 hne⟩
    · cases front with
      | nil => simp [cut?, h]
      | cons e es =>
        simp only [cut?, if_neg h, Option.map_eq_some_iff, Prod.mk.injEq, Prod.exists]
        constructor
        · rintro ⟨a, b, hab, he, rfl⟩
          obtain ⟨rfl, rfl⟩ := List.cons.inj he
          obtain ⟨rfl, hc⟩ := ih.1 hab
          have : c ≠ d := fun e => h e.symm
          simp [this, hc]
        · rintro ⟨he, hc⟩
          obtain ⟨rfl, rfl⟩ := List.cons.inj he
          exact ⟨es, back, ih.2 ⟨rfl, fun m => hc (List.mem_cons_of_mem _ m)⟩, rfl, rfl⟩

/-- What stands before the first occurrence of `c`: everything when there is none. -/
def before (c : Char) (s : List Char) : List Char :=
  s.takeWhile (· != c)

def after? : (front : List Char) → List Char → Option (List Char)
  | [], s => some s
  | _ :: _, [] => none
  | f :: fs, c :: rest => if f = c then after? fs rest else none

theorem after?_eq_some_iff {front s rest : List Char} :
    after? front s = some rest ↔ s = front ++ rest := by
  induction front generalizing s with
  | nil => simp [after?]
  | cons f fs ih => cases s with
    | nil => simp [after?]
    | cons c cs => by_cases h : f = c <;> simp_all [after?, eq_comm]

def startsWith (front s : String) : Bool := front.toList.isPrefixOf s.toList

def occursIn (needle : List Char) : List Char → Bool
  | [] => needle.isEmpty
  | c :: rest => needle.isPrefixOf (c :: rest) || occursIn needle rest

theorem occursIn_iff {needle s : List Char} : occursIn needle s ↔ needle <:+: s := by
  induction s with
  | nil => simp [occursIn]
  | cons c rest ih => simp [occursIn, List.infix_cons_iff, ih]

/-- The characters at which a text is broken into lines once line ends are unified. -/
def isLineBreak (c : Char) : Bool :=
  let n := c.toNat
  (10 ≤ n && n ≤ 13) || (28 ≤ n && n ≤ 30) || n == 0x85 || n == 0x2028 || n == 0x2029

/-- Turns each carriage return, with the line feed after it if there is one, into a line feed. -/
def unifyLineEnds : List Char → List Char
  | [] => []
  | c :: rest =>
    if c = '\r' then
      match rest with
      | [] => ['\n']
      | d :: tail =>
        if d = '\n' then '\n' :: unifyLineEnds tail else '\n' :: unifyLineEnds (d :: tail)
    else c :: unifyLineEnds rest

end ContainerBundle.Text
