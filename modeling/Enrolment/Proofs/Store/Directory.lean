import Enrolment.Store.FileTree
import Mathlib.Data.List.TakeWhile
import Mathlib.Logic.Function.Iterate
/-!
Directories and the paths that lead to files in them. Making directories along a path makes just what lies
along it (`isDirectory_makeDirectory`), and the directory part of a path leads to where its file is to be
(`isDirectory_above_place`).
-/
namespace Enrolment

namespace Text

theorem splitOn_eq (c : Char) (s : List Char) : splitOn c s = s.splitOn c := by
  induction s with
  | nil => exact (List.splitOn_nil c).symm
  | cons d s ih =>
    rw [splitOn_cons, List.splitOn_cons_eq_if_modifyHead, ih]
    by_cases same : d = c
    · rw [if_pos same, if_pos (beq_iff_eq.2 same)]
    · rw [if_neg same, if_neg (by simpa using same)]
      cases parts : s.splitOn c with
      | nil => exact absurd parts (List.splitOn_ne_nil c s)
      | cons part parts => rfl

theorem notMem_of_mem_splitOn {c : Char} {s part : List Char} (member : part ∈ splitOn c s) : c ∉ part := by
  induction s generalizing part with
  | nil => simp_all [splitOn_nil]
  | cons d s ih =>
    rw [splitOn_cons] at member
    split at member
    · obtain rfl | member := List.mem_cons.1 member
      · exact List.not_mem_nil
      · exact ih member
    · rename_i other
      cases parts : splitOn c s with
      | nil =>
        rw [splitOn_eq] at parts
        exact absurd parts (List.splitOn_ne_nil c s)
      | cons first rest =>
        rw [parts] at member ih
        obtain rfl | member := List.mem_cons.1 member
        · simp [Ne.symm other, ih List.mem_cons_self]
        · exact ih (List.mem_cons_of_mem _ member)

end Text

namespace Store

/-! ## The directory part of a path -/

/-- A part of a path that goes somewhere. -/
def isName (part : List Char) : Bool := part ≠ [] && part ≠ ['.']

theorem names_snd (path : String) :
    (FileTree.names path).2 = ((Text.splitOn '/' path.toList).filter isName).map String.ofList := by
  have same : (fun name => decide (name ≠ "") && decide (name ≠ ".")) ∘ String.ofList = isName := by
    funext part
    have nothing : String.ofList part = "" ↔ part = [] := by rw [← String.toList_inj, String.toList_ofList]; rfl
    have dot : String.ofList part = "." ↔ part = ['.'] := by rw [← String.toList_inj, String.toList_ofList]; rfl
    simp [isName, nothing, dot]
  simp only [FileTree.names, List.filter_map, ← same]

theorem ne_slash_of_mem_names {path name : String} (member : name ∈ (FileTree.names path).2) : name ≠ "/" := by
  rw [names_snd] at member
  obtain ⟨part, there, rfl⟩ := List.mem_map.1 member
  intro same
  have slash : '/' ∈ part := by
    rw [← String.toList_inj, String.toList_ofList] at same
    simp [same]
  exact Text.notMem_of_mem_splitOn (List.mem_filter.1 there).1 slash

theorem trimParts_spec (parts : List (List Char)) :
    ∃ rest, parts = trimParts parts ++ rest ∧ rest.filter isName = [] ∧
      ∀ part, (trimParts parts).getLast? = some part → isName part = true := by
  let staying (part : List Char) : Bool := part = [] || part = ['.']
  have whole : parts.reverse.takeWhile staying ++ parts.reverse.dropWhile staying = parts.reverse :=
    List.takeWhile_append_dropWhile
  refine ⟨(parts.reverse.takeWhile staying).reverse, ?_, ?_, ?_⟩
  · rw [trimParts, ← List.reverse_append, whole, List.reverse_reverse]
  · rw [List.filter_eq_nil_iff]
    intro part member
    have stays := List.mem_takeWhile_imp (List.mem_reverse.1 member)
    simpa [isName, staying, or_iff_not_imp_left] using stays
  · intro part last
    rw [trimParts, List.getLast?_reverse] at last
    have goes := List.head?_dropWhile_not staying parts.reverse
    rw [last] at goes
    simpa [isName, staying] using goes

theorem filter_trimParts (parts : List (List Char)) : (trimParts parts).filter isName = parts.filter isName := by
  obtain ⟨rest, whole, none, -⟩ := trimParts_spec parts
  have split := congrArg (List.filter isName) whole
  rwa [List.filter_append, none, List.append_nil, eq_comm] at split

theorem mem_of_mem_trimParts {parts : List (List Char)} {part : List Char} (member : part ∈ trimParts parts) :
    part ∈ parts := by
  obtain ⟨rest, whole, -⟩ := trimParts_spec parts
  rw [whole]
  exact List.mem_append_left _ member

theorem trimParts_cases (parts : List (List Char)) :
    trimParts parts = [] ∨ ∃ front last, trimParts parts = front ++ [last] ∧ isName last = true := by
  obtain ⟨rest, -, -, goes⟩ := trimParts_spec parts
  cases empty : (trimParts parts).getLast? with
  | none => exact .inl (List.getLast?_eq_none_iff.1 empty)
  | some last =>
    obtain ⟨front, whole⟩ := List.getLast?_eq_some_iff.1 empty
    exact .inr ⟨front, last, whole, goes last empty⟩

private theorem filter_dropLast {parts : List (List Char)} (some : trimParts parts ≠ []) :
    ∃ last, parts.filter isName = (trimParts (trimParts parts).dropLast).filter isName ++ [last] := by
  obtain nothing | ⟨front, last, whole, goes⟩ := trimParts_cases parts
  · exact absurd nothing some
  · refine ⟨last, ?_⟩
    have alone : [last].filter isName = [last] := by simp [goes]
    rw [whole, List.dropLast_concat, filter_trimParts, ← filter_trimParts parts, whole, List.filter_append, alone]

private theorem head?_intercalate {part : List Char} {parts : List (List Char)} (there : part ≠ []) (free : '/' ∉ part) :
    (['/'].intercalate (part :: parts)).head? ≠ some '/' := by
  obtain ⟨c, rest, rfl⟩ := List.exists_cons_of_ne_nil there
  intro same
  have first : c = '/' := by cases parts <;> simpa [List.intercalate, List.intersperse] using same
  exact free (by simp [first])

private theorem head?_intercalate_root {parts : List (List Char)} (some_ : parts ≠ []) :
    (['/'].intercalate ([] :: parts)).head? = some '/' := by
  obtain ⟨part, parts, rfl⟩ := List.exists_cons_of_ne_nil some_
  rfl

/-- Parts of a directory part: of the names among the parts of a path, the last one is missing, or none. -/
structure Heads (split parts : List (List Char)) : Prop where
  nonempty : parts ≠ []
  free : ∀ part ∈ parts, '/' ∉ part
  root : (['/'].intercalate parts).head? = some '/' ↔ (['/'].intercalate split).head? = some '/'
  ends : split.filter isName = parts.filter isName ∨ ∃ last, split.filter isName = parts.filter isName ++ [last]

variable {first : List Char} {parts : List (List Char)}

private theorem heads_dropLast (free : ∀ part ∈ first :: parts, '/' ∉ part) (some : trimParts parts ≠ [])
    (root : first = [] → trimParts (trimParts parts).dropLast ≠ []) :
    Heads (first :: parts) (first :: trimParts (trimParts parts).dropLast) := by
  obtain ⟨last, before⟩ := filter_dropLast some
  constructor
  · exact List.cons_ne_nil _ _
  · intro part member
    apply free
    apply List.cons_subset_cons first _ member
    intro part member
    exact mem_of_mem_trimParts (List.dropLast_subset _ (mem_of_mem_trimParts member))
  · by_cases start : first = []
    · have there : parts ≠ [] := by
        rintro rfl
        exact some rfl
      rw [start, head?_intercalate_root there, head?_intercalate_root (root start)]
    · have below := free first List.mem_cons_self
      exact iff_of_false (head?_intercalate start below) (head?_intercalate start below)
  · refine .inr ⟨last, ?_⟩
    rw [List.filter_cons, List.filter_cons, before]
    split <;> rfl

private theorem heads_root (some : trimParts parts ≠ []) (alone : trimParts (trimParts parts).dropLast = []) :
    Heads ([] :: parts) [[], []] := by
  obtain ⟨last, before⟩ := filter_dropLast some
  have there : parts ≠ [] := by
    rintro rfl
    exact some rfl
  constructor
  · exact List.cons_ne_nil _ _
  · simp
  · simp [head?_intercalate_root there]
  · rw [alone] at before
    exact .inr ⟨last, before⟩

private theorem heads_here (there : first ≠ []) (free : '/' ∉ first) (alone : trimParts parts = []) :
    Heads (first :: parts) [[]] := by
  have nothing : parts.filter isName = [] := by rw [← filter_trimParts, alone]; rfl
  constructor
  · exact List.cons_ne_nil _ _
  · simp
  · simp [head?_intercalate there free]
  · rw [List.filter_cons, nothing]
    split
    · exact .inr ⟨first, rfl⟩
    · exact .inl rfl

theorem heads_parentPath? {path parent : String} (has : parentPath? path = some parent) :
    ∃ parts, parent.toList = ['/'].intercalate parts ∧ Heads (Text.splitOn '/' path.toList) parts := by
  have free (part : List Char) (member : part ∈ Text.splitOn '/' path.toList) : '/' ∉ part :=
    Text.notMem_of_mem_splitOn member
  unfold parentPath? at has
  generalize Text.splitOn '/' path.toList = split at free has
  split at has
  · split at has
    · cases has
    · rename_i some
      split at has
      · cases has
        exact ⟨[[], []], rfl, heads_root some ‹_›⟩
      · rename_i below
        cases has
        exact ⟨_, String.toList_ofList, heads_dropLast free some fun _ => below⟩
  · rename_i first parts there
    split at has
    · cases has
      exact ⟨[[]], rfl, heads_here there (free first List.mem_cons_self) ‹_›⟩
    · rename_i some
      cases has
      exact ⟨_, String.toList_ofList, heads_dropLast free some fun start => absurd start there⟩
  · cases has

/-- The last name of a path, where it ends with one, is not in its directory part. -/
theorem names_parentPath? {path parent : String} (has : parentPath? path = some parent) :
    (FileTree.names parent).1 = (FileTree.names path).1 ∧
      ((FileTree.names path).2 = (FileTree.names parent).2 ∨
        ∃ last, (FileTree.names path).2 = (FileTree.names parent).2 ++ [last]) := by
  obtain ⟨parts, joined, heads⟩ := heads_parentPath? has
  have whole : ['/'].intercalate (Text.splitOn '/' path.toList) = path.toList := by
    rw [Text.splitOn_eq, List.intercalate_splitOn]
  have split : Text.splitOn '/' parent.toList = parts := by
    rw [joined, Text.splitOn_eq, List.splitOn_intercalate '/' heads.free heads.nonempty]
  constructor
  · simp only [FileTree.names, joined, heads.root, whole]
  · rw [names_snd, names_snd, split]
    obtain same | ⟨last, before⟩ := heads.ends
    · exact .inl (congrArg _ same)
    · exact .inr ⟨String.ofList last, by rw [before, List.map_append]; rfl⟩

/-! ## Making directories -/

namespace FileTree

def place (path : String) : Place := (names path).2.foldl step (names path).1

def Along (path : String) (p : Place) : Prop := ∃ front, front <+: (names path).2 ∧ p = front.foldl step (names path).1

variable {t t' : FileTree} {start p : Place}

theorem isDirectory_makeDirectories {names : List String} (made : t.makeDirectories start names = (true, t')) (p : Place) :
    t'.isDirectory p = true ↔
      t.isDirectory p = true ∨ ∃ front name, front ++ [name] <+: names ∧ p = (front ++ [name]).foldl step start := by
  induction names generalizing t start with
  | nil =>
    obtain rfl : t = t' := congrArg Prod.snd made
    simp
  | cons name names ih =>
    simp only [makeDirectories] at made
    split at made
    · cases made
    · rw [ih made]
      have here : (if t.isDirectory (step start name) then t
          else { t with directories := t.directories ++ [step start name] }).isDirectory p = true ↔
          t.isDirectory p = true ∨ p = step start name := by
        split
        · rename_i there
          constructor
          · exact Or.inl
          · rintro (there | rfl)
            · exact there
            · assumption
        · simp [isDirectory, or_assoc]
      rw [here, or_assoc]
      apply or_congr Iff.rfl
      constructor
      · rintro (rfl | ⟨front, last, within, rfl⟩)
        · exact ⟨[], name, by simp, rfl⟩
        · exact ⟨name :: front, last, by simpa using within, rfl⟩
      · rintro ⟨front, last, within, rfl⟩
        cases front with
        | nil =>
          obtain rfl : last = name := by simpa using within
          exact .inl rfl
        | cons first front =>
          rw [List.cons_append, List.cons_prefix_cons] at within
          obtain ⟨rfl, within⟩ := within
          exact .inr ⟨front, last, within, rfl⟩

theorem isDirectory_start (t : FileTree) (path : String) : t.isDirectory (names path).1 = true := by
  simp only [names]
  split <;> simp [isDirectory]

/-- To make a directory is to make all that lies along its path a directory, and nothing else. -/
theorem isDirectory_makeDirectory {path : String} (made : t.makeDirectory path = (true, t')) (p : Place) :
    t'.isDirectory p = true ↔ t.isDirectory p = true ∨ Along path p := by
  simp only [makeDirectory] at made
  split at made
  · rw [isDirectory_makeDirectories made]
    constructor
    · rintro (there | ⟨front, name, within, rfl⟩)
      · exact .inl there
      · exact .inr ⟨front ++ [name], within, rfl⟩
    · rintro (there | ⟨front, within, rfl⟩)
      · exact .inl there
      · obtain rfl | ⟨front, name, rfl⟩ := List.eq_nil_or_concat front
        · exact .inl (t.isDirectory_start path)
        · rw [List.concat_eq_append] at within ⊢
          exact .inr ⟨front, name, within, rfl⟩
  · cases made

/-! ## The way up -/

/-- A place is a directory, and so is all above it. -/
def Rooted (t : FileTree) (p : Place) : Prop := ∀ k, t.isDirectory (above^[k] p) = true

theorem above_append {name : String} (goes : name ≠ "..") (below : name ≠ "/") (p : Place) : above (p ++ [name]) = p := by
  have notRoot : p ++ [name] ≠ ["/"] := by
    intro same
    cases p with
    | nil => exact below (by simpa using same)
    | cons _ _ => simp at same
  simp [above, notRoot, goes]

theorem rooted_start (t : FileTree) (path : String) : t.Rooted (names path).1 := by
  have up (k : Nat) : above^[k] [] = List.replicate k ".." := by
    induction k with
    | zero => rfl
    | succ k ih =>
      rw [Function.iterate_succ_apply', ih, List.replicate_succ']
      cases k with
      | zero => rfl
      | succ k =>
        have notRoot : List.replicate (k + 1) ".." ≠ ["/"] := by cases k <;> simp [List.replicate_succ]
        rw [above, if_neg notRoot, if_pos (by simp [List.replicate_succ'])]
  have root (k : Nat) : above^[k] ["/"] = ["/"] := Function.iterate_fixed rfl k
  intro k
  simp only [names]
  split
  · rw [root]
    rfl
  · rw [up]
    simp [isDirectory]

theorem Rooted.above (rooted : t.Rooted p) : t.Rooted (above p) := fun k => rooted (k + 1)

theorem Rooted.step {name : String} (rooted : t.Rooted p) (below : name ≠ "/") (there : t.isDirectory (step p name) = true) :
    t.Rooted (step p name) := by
  unfold FileTree.step at there ⊢
  split at there
  · rw [if_pos ‹_›]
    exact rooted.above
  · rename_i goes
    rw [if_neg goes]
    intro k
    cases k with
    | zero => exact there
    | succ k =>
      rw [Function.iterate_succ_apply, above_append goes below]
      exact rooted k

theorem rooted_foldl {names : List String} (below : ∀ name ∈ names, name ≠ "/") (rooted : t.Rooted start)
    (there : ∀ front, front <+: names → t.isDirectory (front.foldl FileTree.step start) = true) :
    t.Rooted (names.foldl FileTree.step start) := by
  induction names generalizing start with
  | nil => exact rooted
  | cons name names ih =>
    rw [List.forall_mem_cons] at below
    apply ih below.2
    · exact rooted.step below.1 (there [name] (by simp))
    · intro front within
      exact there (name :: front) (by simpa using within)

theorem isDirectory_above_step {name : String} (rooted : t.Rooted p) (below : name ≠ "/") :
    t.isDirectory (FileTree.above (FileTree.step p name)) = true := by
  unfold FileTree.step
  split
  · exact rooted 2
  · rw [above_append ‹_› below]
    exact rooted 0

theorem isDirectory_above_place {path parent : String} (has : parentPath? path = some parent)
    (made : t.makeDirectory parent = (true, t')) : t'.isDirectory (FileTree.above (place path)) = true := by
  obtain ⟨start, ends⟩ := names_parentPath? has
  have rooted : t'.Rooted (place parent) := by
    apply rooted_foldl (fun name => ne_slash_of_mem_names) (t'.rooted_start parent)
    intro front within
    exact (isDirectory_makeDirectory made _).2 (.inr ⟨front, within, rfl⟩)
  rw [place, ← start]
  obtain same | ⟨last, before⟩ := ends
  · rw [same]
    exact rooted 1
  · rw [before, List.foldl_append]
    have named : last ∈ (names path).2 := by simp [before]
    exact isDirectory_above_step rooted (ne_slash_of_mem_names named)

theorem isDirectory_above_place_of_noParent {path : String} (none : parentPath? path = none) (t : FileTree) :
    t.isDirectory (FileTree.above (place path)) = true := by
  have nothing : (names path).2 = [] := by
    rw [names_snd]
    unfold parentPath? at none
    generalize Text.splitOn '/' path.toList = split at none
    split at none
    · rename_i parts
      split at none
      · rename_i nothing
        have skip : ([] :: parts).filter isName = parts.filter isName := rfl
        rw [skip, ← filter_trimParts, nothing]
        rfl
      · split at none <;> cases none
    · split at none <;> cases none
    · rfl
  rw [place, nothing]
  exact t.rooted_start path 1

/-! ## Files -/

theorem eq_foldl_of_spelled? {names : List String} (spelled : t.spelled? start names = some p) :
    p = names.foldl FileTree.step start := by
  induction names generalizing start with
  | nil => exact (Option.some.inj spelled).symm
  | cons name names ih =>
    simp only [spelled?] at spelled
    split at spelled
    · cases spelled
    · exact ih spelled

/-- A path along which a file is in the way, or a name is too long. -/
def Blocked (t : FileTree) (path : String) : Prop := t.spelled? (names path).1 (names path).2 = none

/-- In a directory, a path leads to a place for a file unless it is blocked or leads to a directory. -/
theorem filePlace?_cases {path : String} (there : t.isDirectory (FileTree.above (place path)) = true) :
    t.filePlace? path = some (place path) ∨
      t.filePlace? path = none ∧ (t.Blocked path ∨ t.isDirectory (place path) = true) := by
  simp only [filePlace?]
  split
  · rename_i spelled
    obtain rfl := eq_foldl_of_spelled? spelled
    rw [place] at there ⊢
    rw [there, Bool.not_true, Bool.or_false]
    split
    · exact .inr ⟨rfl, .inr ‹_›⟩
    · exact .inl rfl
  · exact .inr ⟨rfl, .inl ‹_›⟩

end FileTree
end Store
end Enrolment
