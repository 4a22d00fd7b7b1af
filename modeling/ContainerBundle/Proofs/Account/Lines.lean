import Mathlib
import ContainerBundle.Proofs.Account.Lookups
import ContainerBundle.Proofs.Text.Splitting
/-!
# Records and lines

A table of accounts has one record a line, and a line ends at a line feed. A table is also broken
at eight other characters, so that a line which holds one of them is read as several lines. A
lookup answers as the lines say when those characters stand only among the blanks around them.
-/
namespace ContainerBundle

namespace Text

private theorem not_mem_unifyLineEnds (s : List Char) : '\r' ∉ unifyLineEnds s := by
  fun_induction unifyLineEnds s with
  | case1 => simp
  | case2 => simp
  | case3 rest ih => simpa using ih
  | case4 d rest hd ih => simpa using ih
  | case5 c rest hc ih => simp [ih, Ne.symm hc]

end Text

namespace Account

/-- The characters that break a text into lines and end no line of a file. -/
def strayBreaks : List Char :=
  ['\x0b', '\x0c', '\x1c', '\x1d', '\x1e', '\u0085', '\u2028', '\u2029']

/-- The lines of a file, each ended by a line feed or by a carriage return with or without one. -/
def linesOf (text : String) : List (List Char) := (unified text).toList.splitOn '\n'

def piecesOf (line : List Char) : List (List Char) := Text.fields (strayBreaks.contains ·) line

private theorem isLineBreak_eq {c : Char} (h : c ≠ '\r') :
    Text.isLineBreak c = (c == '\n' || strayBreaks.contains c) := by
  have hnat : ∀ d : Char, c = d ↔ c.toNat = d.toNat :=
    fun d => ⟨congrArg Char.toNat, fun he => Char.ext (UInt32.toNat_inj.mp he)⟩
  rw [Ne, hnat] at h
  rw [Bool.eq_iff_iff]
  simp only [Text.isLineBreak, strayBreaks, List.contains_iff_mem, List.mem_cons, List.not_mem_nil,
    Bool.or_eq_true, Bool.and_eq_true, decide_eq_true_eq, beq_iff_eq, hnat]
  simp only [Char.reduceToNat, or_false] at h ⊢
  omega

private theorem records_unified (text : String) :
    records (unified text) = ((linesOf text).flatMap piecesOf).filterMap record? := by
  have hbreaks : ∀ c ∈ (unified text).toList,
      Text.isLineBreak c = (c == '\n' || strayBreaks.contains c) := by
    intro c hc
    rw [unified, String.toList_ofList] at hc
    exact isLineBreak_eq fun he => Text.not_mem_unifyLineEnds _ (he ▸ hc)
  rw [records, Text.fields_congr hbreaks, Text.fields_or, Text.fields_eq_splitOn]
  rfl

def fieldsOf (line : List Char) : List (List Char) := (Text.trim line).splitOn ':'

/-- The line is no comment and holds the name in the first of at least `size` fields. -/
def Bears (size : Nat) (name : String) (line : List Char) : Prop :=
  Text.trim line ≠ [] ∧ (Text.trim line).head? ≠ some '#' ∧ size ≤ (fieldsOf line).length ∧
    (fieldsOf line).head? = some name.toList

instance (size : Nat) (name : String) (line : List Char) : Decidable (Bears size name line) :=
  inferInstanceAs (Decidable (_ ∧ _ ∧ _ ∧ _))

def lookUpIn (size : Nat) (name : String) (ids : List (List Char) → Option α)
    (lines : List (List Char)) : Option α :=
  (lines.find? (Bears size name ·)).bind fun line => ids (fieldsOf line)

def numberIn (fields : List (List Char)) (place : Nat) : Option Int :=
  fields[place]?.bind fun field => (Text.readInteger field).toOption

def userNumbers (fields : List (List Char)) : Option (Int × Int) :=
  (numberIn fields 2).bind fun uid => (numberIn fields 3).map fun gid => (uid, gid)

def groupNumber (fields : List (List Char)) : Option Int := numberIn fields 2

private theorem number?_map_ofList (fields : List (List Char)) (place : Nat) :
    number? (fields.map String.ofList) place = numberIn fields place := by
  rw [number?, numberIn, List.getElem?_map]
  cases fields[place]? with
  | none => rfl
  | some field => simp

private theorem userIds?_map_ofList (fields : List (List Char)) :
    userIds? (fields.map String.ofList) = userNumbers fields := by
  rw [userIds?, userNumbers, number?_map_ofList, number?_map_ofList]
  cases numberIn fields 2 <;> cases numberIn fields 3 <;> rfl

private theorem record?_eq (line : List Char) : record? line =
    if Text.trim line = [] ∨ (Text.trim line).head? = some '#' then none
    else some ((fieldsOf line).map String.ofList) := by
  simp [record?, fieldsOf, Text.fields_eq_splitOn, List.isEmpty_iff]

private theorem any_record? (size : Nat) (name : String) (line : List Char) :
    (record? line).any (fun fields => size ≤ fields.length && fields.head? == some name) =
      decide (Bears size name line) := by
  rw [record?_eq, Bool.eq_iff_iff, decide_eq_true_iff]
  by_cases hbody : Text.trim line = [] ∨ (Text.trim line).head? = some '#'
  · have hbears : ¬ Bears size name line := fun h => hbody.elim h.1 h.2.1
    simp [hbody, hbears]
  · have hhead : (fieldsOf line).head?.map String.ofList = some name ↔
        (fieldsOf line).head? = some name.toList := by
      cases (fieldsOf line).head? with
      | none => simp
      | some first => simp [← String.toList_inj]
    rw [if_neg hbody, Option.any_some, Bool.and_eq_true, decide_eq_true_iff, beq_iff_eq,
      List.length_map, List.head?_map, hhead, Bears, ← and_assoc, ← not_or, and_iff_right hbody]

private theorem record?_of_bears {size : Nat} {name : String} {line : List Char}
    (h : Bears size name line) : record? line = some ((fieldsOf line).map String.ofList) := by
  rw [record?_eq, if_neg (not_or.mpr ⟨h.1, h.2.1⟩)]

/-- A lookup among the records of lines is a lookup over the lines. -/
theorem find?_records {size : Nat} {name : String} {ids : List (List Char) → Option α}
    {look : List String → Option α} (h : ∀ fields, look (fields.map String.ofList) = ids fields)
    (lines : List (List Char)) :
    (find? size name (lines.filterMap record?)).bind look = lookUpIn size name ids lines := by
  rw [find?, List.find?_filterMap, lookUpIn]
  simp only [any_record?]
  cases hfind : lines.find? (Bears size name ·) with
  | none => rfl
  | some line =>
    have hbears : Bears size name line := by simpa using List.find?_some hfind
    simp [record?_of_bears hbears, h]

/-- A line in which no break stands but among the blanks around it. -/
def Unbroken (line : List Char) : Prop := ∀ c ∈ Text.trim line, c ∉ strayBreaks

instance (line : List Char) : Decidable (Unbroken line) :=
  decidable_of_iff ((Text.trim line).all fun c => !strayBreaks.contains c)
    (by simp [Unbroken, List.all_eq_true])

private theorem record?_append_left {front : List Char} (h : ∀ c ∈ front, Text.isBlank c)
    (line : List Char) : record? (front ++ line) = record? line := by
  rw [record?, record?, Text.trim, Text.trimBy_append_left h, ← Text.trim]

private theorem record?_append_right {back : List Char} (h : ∀ c ∈ back, Text.isBlank c)
    (line : List Char) : record? (line ++ back) = record? line := by
  rw [record?, record?, Text.trim, Text.trimBy_append_right h, ← Text.trim]

private theorem record?_of_blank {line : List Char} (h : ∀ c ∈ line, Text.isBlank c) :
    record? line = none :=
  (record?_append_right h []).trans rfl

private theorem records_pieces_append {front : List Char} (h : ∀ c ∈ front, Text.isBlank c)
    (line : List Char) :
    (piecesOf (front ++ line)).filterMap record? = (piecesOf line).filterMap record? := by
  induction front with
  | nil => rfl
  | cons c rest ih =>
    have hc : ∀ d ∈ [c], Text.isBlank d :=
      List.forall_mem_singleton.mpr (h c List.mem_cons_self)
    rw [← ih fun d hd => h d (List.mem_cons_of_mem c hd), List.cons_append, piecesOf, piecesOf,
      Text.fields]
    -- The blank is a break, which leaves an empty piece, or it leads the first piece.
    split
    · exact List.filterMap_cons_none (record?_of_blank (List.forall_mem_nil _))
    · cases hpieces : Text.fields (strayBreaks.contains ·) (rest ++ line) with
      | nil => exact absurd hpieces (Text.fields_ne_nil _ _)
      | cons piece pieces =>
        have hrecord : record? (c :: piece) = record? piece := record?_append_left hc piece
        simp only [List.filterMap_cons, hrecord]

private theorem records_pieces_of_unbroken {line : List Char} (h : Unbroken line) :
    (piecesOf line).filterMap record? = [line].filterMap record? := by
  obtain ⟨front, back, hline, hfront, hback⟩ := Text.exists_trimBy Text.isBlank line
  have hfree : ∀ c ∈ Text.trimBy Text.isBlank line, strayBreaks.contains c = false :=
    fun c hc => by simpa using h c hc
  generalize Text.trimBy Text.isBlank line = body at hline hfree
  subst hline
  -- The body goes whole into the first piece; the blanks behind it may be broken, into blanks.
  rw [records_pieces_append hfront, piecesOf, Text.fields_append_of_free hfree]
  cases hpieces : Text.fields (strayBreaks.contains ·) back with
  | nil => exact absurd hpieces (Text.fields_ne_nil _ back)
  | cons piece pieces =>
    have hblank : ∀ other ∈ piece :: pieces, ∀ c ∈ other, Text.isBlank c := by
      rw [← hpieces]
      exact fun other hother c hc => hback c (Text.mem_of_mem_fields hother hc)
    have hfirst : record? (body ++ piece) = record? body :=
      record?_append_right (hblank piece List.mem_cons_self) body
    have hothers : pieces.filterMap record? = [] :=
      List.filterMap_eq_nil_iff.mpr fun other hother =>
        record?_of_blank (hblank other (List.mem_cons_of_mem piece hother))
    have hwhole : record? (front ++ (body ++ back)) = record? body := by
      rw [record?_append_left hfront, record?_append_right hback]
    simp only [List.modifyHead_cons, List.filterMap_cons, List.filterMap_nil, hothers, hfirst,
      hwhole]

private theorem records_of_unbroken {lines : List (List Char)} (h : ∀ line ∈ lines, Unbroken line) :
    (lines.flatMap piecesOf).filterMap record? = lines.filterMap record? := by
  induction lines with
  | nil => rfl
  | cons line rest ih =>
    have hrest := ih fun other hother => h other (List.mem_cons_of_mem line hother)
    rw [List.flatMap_cons, List.filterMap_append, hrest,
      records_pieces_of_unbroken (h line List.mem_cons_self), ← List.filterMap_append,
      List.singleton_append]

/-- A lookup answers by the lines of a text, each of them broken at the stray breaks. -/
structure AnswersBy (size : Nat) (name : String) (ids : List (List Char) → Option α)
    (text : String) (answer : Except Fault (Option α)) : Prop where
  pieces : answer = .ok (lookUpIn size name ids ((linesOf text).flatMap piecesOf))
  lines : (∀ line ∈ linesOf text, Unbroken line) →
    answer = .ok (lookUpIn size name ids (linesOf text))

variable {files : Files} {root text : String}

private theorem answersBy_of_readTable {table name : String} {size : Nat}
    {ids : List (List Char) → Option α} {look : List String → Option α}
    (hroot : root ≠ "") (hfile : files (tableFile root table) = some (Text.utf8 text.toList))
    (hlook : ∀ fields, look (fields.map String.ofList) = ids fields) :
    AnswersBy size name ids text (do
      let records ← readTable files (.str root) table
      pure ((find? size name records).bind look)) := by
  have hrecords := records_unified text
  rw [readTable_bind hroot rfl, readText_of_text hfile]
  constructor
  · rw [← find?_records hlook, ← hrecords]
    rfl
  · intro hlines
    rw [records_of_unbroken hlines] at hrecords
    rw [← find?_records hlook, ← hrecords]
    rfl

/-- A name is looked up line by line below a root directory, where a stray break ends a line as
well; lines that are not broken are read as they are. -/
theorem lookups_by_lines (files : Files) {root : String} (hroot : root ≠ "")
    (text name : String) :
    (files (tableFile root "passwd") = some (Text.utf8 text.toList) →
      AnswersBy 4 name userNumbers text (lookupUser files (.str root) name)) ∧
    (files (tableFile root "group") = some (Text.utf8 text.toList) →
      AnswersBy 3 name groupNumber text (lookupGroup files (.str root) name)) :=
  ⟨fun hfile => answersBy_of_readTable hroot hfile userIds?_map_ofList,
    fun hfile => answersBy_of_readTable hroot hfile fun fields => number?_map_ofList fields 2⟩

theorem lookups_by_lines_of_broken_remark :
    let users := "web:x:33:33:Web\x0badmin:x:0:0:/var/www:/bin/false\n"
    let groups := "\x0cstaff:x:50:\x0c\nweb:x:33:\n"
    let files : Files := fun path =>
      if path = "/r/etc/passwd" then some (Text.utf8 users.toList)
      else if path = "/r/etc/group" then some (Text.utf8 groups.toList) else none
    lookupUser files (.str "/r") "admin" = .ok (some (0, 0)) ∧
    lookupGroup files (.str "/r") "staff" = .ok (some 50) := by
  intro users groups files
  have hfile : tableFile "/r" "passwd" = "/r/etc/passwd" ∧
      tableFile "/r" "group" = "/r/etc/group" := by decide +kernel
  have husers : files (tableFile "/r" "passwd") = some (Text.utf8 users.toList) := by
    rw [hfile.1]
    exact if_pos rfl
  have hgroups : files (tableFile "/r" "group") = some (Text.utf8 groups.toList) := by
    rw [hfile.2]
    exact (if_neg (by decide)).trans (if_pos rfl)
  have hadmin : lookUpIn 4 "admin" userNumbers ((linesOf users).flatMap piecesOf) =
      some (0, 0) := by decide +kernel
  have hstaff : lookUpIn 3 "staff" groupNumber (linesOf groups) = some 50 := by decide +kernel
  have hunbroken : (linesOf groups).all fun line => Unbroken line := by decide +kernel
  refine ⟨?_, ?_⟩
  · rw [((lookups_by_lines files (by decide) users "admin").1 husers).pieces, hadmin]
  · rw [((lookups_by_lines files (by decide) groups "staff").2 hgroups).lines
      fun line hline => of_decide_eq_true (List.all_eq_true.mp hunbroken line hline), hstaff]

/-- The only account is `web`, but its remark is broken and `admin` is found. -/
theorem lookup_in_broken_line :
    let users := "web:x:33:33:Web\x0badmin:x:0:0:/var/www:/bin/false\n"
    let files : Files := fun path =>
      if path = "/r/etc/passwd" then some (Text.utf8 users.toList) else none
    lookupUser files (.str "/r") "admin" = .ok (some (0, 0)) ∧
    lookUpIn 4 "admin" userNumbers (linesOf users) = none := by
  intro users files
  have hfile : files (tableFile "/r" "passwd") = some (Text.utf8 users.toList) := by
    have hpath : tableFile "/r" "passwd" = "/r/etc/passwd" := by decide +kernel
    rw [hpath]
    exact if_pos rfl
  have hadmin : lookUpIn 4 "admin" userNumbers ((linesOf users).flatMap piecesOf) =
      some (0, 0) := by decide +kernel
  have hanswer : AnswersBy 4 "admin" userNumbers users (lookupUser files (.str "/r") "admin") :=
    answersBy_of_readTable (by decide) hfile userIds?_map_ofList
  exact ⟨hanswer.pieces.trans (congrArg Except.ok hadmin), by decide +kernel⟩

end Account

end ContainerBundle
