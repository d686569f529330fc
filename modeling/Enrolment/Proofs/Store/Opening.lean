import Enrolment.Proofs.Store.Directory
import Enrolment.Proofs.Text.Percent
import Enrolment.Store.Opening
import Mathlib
/-!
Whether the directory of a database is there when the database is opened. It is prepared along the path as the
url writes it, and the engine opens the path that it reads there. Where these are the same, nothing that opening
fails for is a missing directory. Main result: `directory_prepared`.
-/
namespace Enrolment.Store

private theorem foldlM_keeps {α β γ : Type} {f : β → α → Option β} (part : β → γ)
    (keeps : ∀ {b a b'}, f b a = some b' → part b' = part b) {items : List α} {b b' : β}
    (done : items.foldlM f b = some b') : part b' = part b := by
  induction items generalizing b with
  | nil =>
    obtain rfl : b = b' := by simpa using done
    rfl
  | cons a items ih =>
    rw [List.foldlM_cons] at done
    obtain ⟨next, first, rest⟩ := Option.bind_eq_some_iff.1 done
    rw [ih rest, keeps first]

namespace Location

theorem name_follow? {o o' : Options} {parameter : String × String} (followed : follow? o parameter = some o') :
    o'.name = o.name := by
  unfold follow? at followed
  split at followed <;> first | cases followed; rfl | cases followed

/-- A path is what the url has between the scheme and the options; it names a file, so it is not the one in memory. -/
theorem filePath?_eq {url path : String} (named : filePath? url = some path) :
    path = String.ofList ((withoutScheme url.toList).takeWhile (· ≠ '?')) ∧ path ≠ ":memory:" := by
  simp only [filePath?] at named
  split at named
  · cases named
  · rename_i onDisk
    obtain rfl := Option.some.inj named
    refine ⟨rfl, ?_⟩
    intro same
    have chars := congrArg String.toList same
    rw [String.toList_ofList] at chars
    rw [Bool.or_eq_true, not_or] at onDisk
    exact onDisk.2 (decide_eq_true chars)

theorem name_options? {url path : String} {o : Options} (named : filePath? url = some path) (read : options? url = some o)
    (plain : '%' ∉ path.toList) : o.name = path := by
  obtain ⟨whole, onDisk⟩ := filePath?_eq named
  simp only [options?, ← whole, if_neg onDisk] at read
  obtain ⟨name, decoded, followed⟩ := Option.bind_eq_some_iff.1 read
  have noSign : 37 ∉ Text.utf8 path := fun member => plain (Text.mem_utf8 member (by decide))
  rw [Text.percentDecode_of_plain noSign, Text.ofUtf8?_utf8] at decoded
  rw [foldlM_keeps Options.name name_follow? followed, Option.some.inj decoded]

end Location

namespace FileRequest

theorem path_follow? {r r' : FileRequest} {option : Bytes × Bytes} (followed : r.follow? option = some r') :
    r'.path = r.path := by
  have granted {asked : Access} {r' : FileRequest}
      (grant : (if r.inMemory || r.access.allows asked then some { r with access := asked, inMemory := false } else none) =
        some r') : r'.path = r.path := by
    split at grant
    · cases grant
      rfl
    · cases grant
  simp only [follow?] at followed
  split at followed <;> first | exact granted followed | cases followed; rfl | cases followed

/-! ## Names that tell how to open a file -/

private theorem isAlphanum_facts {c : Char} (alphanum : c.isAlphanum = true) :
    c.toNat < 128 ∧ c ≠ '%' ∧ c ≠ '/' ∧ c ≠ '?' ∧ c ≠ '#' := by
  have other (d : Char) (sign : d.isAlphanum = false) : c ≠ d := by
    rintro rfl
    rw [sign] at alphanum
    cases alphanum
  refine ⟨?_, other _ rfl, other _ rfl, other _ rfl, other _ rfl⟩
  simp only [Char.isAlphanum, Char.isAlpha, Char.isUpper, Char.isLower, Char.isDigit, Bool.or_eq_true, Bool.and_eq_true,
    decide_eq_true_eq, ge_iff_le, UInt32.le_iff_toNat_le] at alphanum
  have same : c.val.toNat = c.toNat := rfl
  have outermost : 'Z'.val.toNat = 90 ∧ 'z'.val.toNat = 122 ∧ '9'.val.toNat = 57 := by decide
  omega

private theorem isAlphanum_upperHexDigit : ∀ d, d < 16 → (Text.upperHexDigit d).isAlphanum = true := by decide

private theorem mem_percentEncode {s : List Char} {c : Char} (member : c ∈ Text.percentEncode Char.isAlphanum s) :
    c ≠ '/' ∧ c ≠ '?' ∧ c ≠ '#' := by
  have digit (d : Nat) (small : d < 16) := (isAlphanum_facts (isAlphanum_upperHexDigit d small)).2.2
  obtain ⟨d, -, member⟩ := List.mem_flatMap.1 member
  split at member
  · rw [List.mem_singleton.1 member]
    exact (isAlphanum_facts ‹_›).2.2
  · obtain ⟨byte, -, member⟩ := List.mem_flatMap.1 member
    have size := byte.toNat_lt
    simp only [Text.percentByte, List.mem_cons, List.not_mem_nil, or_false] at member
    obtain rfl | rfl | rfl := member
    · decide
    · exact digit _ (by omega)
    · exact digit _ (by omega)

private theorem percentDecode_name (s : List Char) :
    Text.percentDecode (Text.utf8 (String.ofList (Text.percentEncode Char.isAlphanum s))) = Text.utf8 (String.ofList s) :=
  Text.percentDecode_percentEncode (fun _ alphanum => ⟨(isAlphanum_facts alphanum).1, (isAlphanum_facts alphanum).2.1⟩) s

private theorem takeWhile_sign {s rest : List Char} {sign : Char} (free : sign ∉ s) :
    (s ++ sign :: rest).takeWhile (· ≠ sign) = s := by
  rw [List.takeWhile_append_of_pos (by rintro c member; simpa using fun same : c = sign => free (same ▸ member)),
    List.takeWhile_cons_of_neg (by simp), List.append_nil]

private theorem path_ofName?_encoded {s query : List Char} {access : Access} {inMemory : Bool} {request : FileRequest}
    (whole : '\x00' ∉ s)
    (asked : ofName? (String.ofList ("file:".toList ++ (Text.percentEncode Char.isAlphanum s ++ '?' :: query))) access
      inMemory = some request) : request.path = Text.utf8 (String.ofList s) := by
  have signs {c : Char} (member : c ∈ Text.percentEncode Char.isAlphanum s) := mem_percentEncode member
  have noAuthority : withoutAuthority? (Text.percentEncode Char.isAlphanum s ++ '?' :: query) =
      some (Text.percentEncode Char.isAlphanum s ++ '?' :: query) := by
    unfold withoutAuthority?
    split
    · rename_i rest starts
      cases encoded : Text.percentEncode Char.isAlphanum s with
      | nil => simp [encoded] at starts
      | cons c more =>
        rw [encoded] at starts signs
        exact absurd (List.cons.inj starts).1 (signs List.mem_cons_self).1
    · rfl
  have noZero : 0 ∉ Text.utf8 (String.ofList s) := by
    intro member
    have there := Text.mem_utf8 member (by decide)
    rw [String.toList_ofList] at there
    exact whole there
  have starts : "file:".toList.isPrefixOf ("file:".toList ++ (Text.percentEncode Char.isAlphanum s ++ '?' :: query)) = true :=
    List.isPrefixOf_iff_prefix.2 (List.prefix_append _ _)
  have name (rest : List Char) : ("file:".toList ++ rest).drop 5 = rest := rfl
  have fragment : (Text.percentEncode Char.isAlphanum s ++ '?' :: query).takeWhile (· ≠ '#') =
      Text.percentEncode Char.isAlphanum s ++ '?' :: query.takeWhile (· ≠ '#') := by
    rw [List.takeWhile_append_of_pos (by simpa using fun c member => (signs member).2.2), List.takeWhile_cons_of_pos (by decide)]
  simp only [ofName?, String.toList_ofList, if_pos starts, name, noAuthority, Option.bind_eq_bind, Option.bind_some, fragment]
    at asked
  rw [takeWhile_sign (fun member => (signs member).2.1 rfl)] at asked
  rw [foldlM_keeps FileRequest.path path_follow? asked]
  show component _ = _
  rw [component, percentDecode_name]
  apply List.takeWhile_eq_self_iff.2
  intro b member
  simp only [ne_eq, decide_eq_true_eq]
  rintro rfl
  exact noZero member

theorem path_ofOptions? {o : Location.Options} {request : FileRequest} (asked : ofOptions? o = some request)
    (plain : ¬ "file:".toList <+: o.name.toList) (whole : '\x00' ∉ o.name.toList) : request.path = Text.utf8 o.name := by
  obtain ⟨query, asked⟩ : ∃ query : List String,
      (let name := if query.isEmpty then o.name
        else "file:" ++ String.ofList (Text.percentEncode Char.isAlphanum o.name.toList) ++ "?" ++ String.intercalate "&" query
      if name.toList.contains '\x00' then none
      else ofName? name (if o.readOnly then .readOnly else .create) o.inMemory) = some request := ⟨_, asked⟩
  obtain ⟨-, asked⟩ := Option.ite_none_left_eq_some.1 asked
  cases query with
  | nil =>
    have notEncoded : ¬ "file:".toList.isPrefixOf o.name.toList = true := fun starts => plain (List.isPrefixOf_iff_prefix.1 starts)
    have named : ofName? o.name (if o.readOnly then .readOnly else .create) o.inMemory = some request := asked
    rw [ofName?, if_neg notEncoded] at named
    obtain rfl := Option.some.inj named
    rfl
  | cons option options =>
    have named : "file:" ++ String.ofList (Text.percentEncode Char.isAlphanum o.name.toList) ++ "?" ++
        String.intercalate "&" (option :: options) = String.ofList ("file:".toList ++
          (Text.percentEncode Char.isAlphanum o.name.toList ++ '?' :: (String.intercalate "&" (option :: options)).toList)) := by
      apply String.toList_injective
      simp [String.toList_append]
    have encoded : ofName? _ _ _ = some request := asked
    rw [if_neg (by simp), named] at encoded
    rw [path_ofName?_encoded whole encoded, String.ofList_toList]

/-- Why a file is not opened though its directory is there. -/
inductive Obstructed (files : FileTree) (r : FileRequest) : Prop
  | layer (unknown : layers.contains (Text.ofUtf8Lossy r.layer) = false)
  | way (blocked : files.Blocked (Text.ofUtf8Lossy r.path))
  | directory (there : files.isDirectory (FileTree.place (Text.ofUtf8Lossy r.path)) = true)
  | absent (absent : files.isFile (FileTree.place (Text.ofUtf8Lossy r.path)) = false) (access : r.access ≠ .create)

theorem obstructed_of_error {files : FileTree} {r : FileRequest} {f : Fault} (failed : (openFile files r).1 = .error f)
    (there : files.isDirectory (FileTree.above (FileTree.place (Text.ofUtf8Lossy r.path))) = true) :
    Obstructed files r := by
  simp only [openFile] at failed
  split at failed
  · rename_i unknown
    exact .layer (by simpa using unknown)
  split at failed
  · cases failed
  obtain found | ⟨nowhere, blocked | directory⟩ := FileTree.filePlace?_cases there
  · rw [found] at failed
    simp only at failed
    split at failed
    · cases failed
    · rename_i absent
      split at failed
      · cases failed
      · exact .absent (by simpa using absent) ‹_›
  · exact .way blocked
  · exact .directory directory

end FileRequest

theorem prepared_cases {files files' : FileTree} {url path : String} (named : Location.filePath? url = some path)
    (prepared : prepareDirectory files url = (.ok (), files')) :
    (parentPath? path = none ∧ files' = files) ∨
      ∃ parent, parentPath? path = some parent ∧ files.makeDirectory parent = (true, files') := by
  simp only [prepareDirectory, named, Option.bind_some] at prepared
  split at prepared
  · exact .inl ⟨‹_›, (congrArg Prod.snd prepared).symm⟩
  · rename_i parent has
    refine .inr ⟨parent, has, ?_⟩
    generalize files.makeDirectory parent = outcome at prepared
    obtain ⟨made, after⟩ := outcome
    cases made with
    | true =>
      obtain rfl : after = files' := congrArg Prod.snd prepared
      rfl
    | false => cases prepared

/-- Let the directory be prepared for a url that names a file, and let the engine be asked for a file at it. Then
the directory of that file is there just if it was there before, or if it lies along the directory part of the
path as the url writes it. Where the engine's path is the written one, it is always there, and a file that is not
opened is not opened for another reason; and that is so for every path without percent signs and zeros that does
not start as the engine's own urls do. -/
theorem directory_prepared {files files' : FileTree} {url path : String} {o : Location.Options} {request : FileRequest}
    (named : Location.filePath? url = some path) (prepared : prepareDirectory files url = (.ok (), files'))
    (read : Location.options? url = some o) (asked : FileRequest.ofOptions? o = some request) :
    let opened := Text.ofUtf8Lossy request.path
    let directory := FileTree.above (FileTree.place opened)
    (files'.isDirectory directory = true ↔
      files.isDirectory directory = true ∨ ∃ parent, parentPath? path = some parent ∧ FileTree.Along parent directory) ∧
    (opened = path → files'.isDirectory directory = true ∧
      ∀ f, (openFile files' request).1 = .error f → FileRequest.Obstructed files' request) ∧
    ('%' ∉ path.toList → '\x00' ∉ path.toList → ¬ "file:".toList <+: path.toList → opened = path) := by
  intro opened directory
  have cases := prepared_cases named prepared
  refine ⟨?_, ?_, ?_⟩
  · obtain ⟨none, rfl⟩ | ⟨parent, has, made⟩ := cases
    · simp [none]
    · rw [FileTree.isDirectory_makeDirectory made]
      simp [has]
  · intro same
    have there : files'.isDirectory directory = true := by
      show files'.isDirectory (FileTree.above (FileTree.place opened)) = true
      rw [same]
      obtain ⟨none, rfl⟩ | ⟨parent, has, made⟩ := cases
      · exact FileTree.isDirectory_above_place_of_noParent none files'
      · exact FileTree.isDirectory_above_place has made
    exact ⟨there, fun f failed => FileRequest.obstructed_of_error failed there⟩
  · intro noSign noZero plain
    have name := Location.name_options? named read noSign
    have bytes : request.path = Text.utf8 path := by
      rw [← name] at noZero plain ⊢
      exact FileRequest.path_ofOptions? asked plain noZero
    show Text.ofUtf8Lossy request.path = path
    rw [bytes, Text.ofUtf8Lossy_utf8]

/-- The usual database is opened in its directory, which was not there before. -/
theorem directory_prepared_usual :
    let url := "sqlite://./data/client.db?mode=rwc"
    let nothing : FileTree := .withFiles []
    ∃ files' request, prepareDirectory nothing url = (.ok (), files') ∧
      (Location.options? url).bind FileRequest.ofOptions? = some request ∧
      nothing.isDirectory ["data"] = false ∧ files'.isDirectory ["data"] = true ∧
      ∀ f, (openFile files' request).1 = .error f → FileRequest.Obstructed files' request := by
  intro url nothing
  have named : Location.filePath? url = some "./data/client.db" := by decide +kernel
  have prepared : prepareDirectory nothing url = (.ok (), ⟨[["data"]], []⟩) := by
    rw [prepareDirectory, named]
    rfl
  have read : Location.options? url = some ⟨"./data/client.db", false, false, false, none⟩ := by decide +kernel
  have asked : FileRequest.ofOptions? ⟨"./data/client.db", false, false, false, none⟩ =
      some ⟨Text.utf8 "./data/client.db", .create, false, false, Text.utf8 "unix"⟩ := by decide +kernel
  obtain ⟨-, there, same⟩ := directory_prepared named prepared read asked
  obtain ⟨-, obstructed⟩ := there (same (by decide) (by decide) (by decide))
  refine ⟨_, _, prepared, ?_, by decide, by decide, obstructed⟩
  rw [read, Option.bind_some, asked]

/-- A directory whose name the url has to encode is made under the encoded name, so the database is not opened. It
would be if the directory were there. -/
theorem directory_missing_encoded :
    let url := "sqlite://my%20data/client.db"
    let nothing : FileTree := .withFiles []
    let prepared : FileTree := ⟨[["my%20data"]], []⟩
    Location.filePath? url = some "my%20data/client.db" ∧ prepareDirectory nothing url = (.ok (), prepared) ∧
      (Location.options? url).bind FileRequest.ofOptions? =
        some ⟨Text.utf8 "my data/client.db", .create, false, false, Text.utf8 "unix"⟩ ∧
      prepared.isDirectory (FileTree.above (FileTree.place "my data/client.db")) = false ∧
      (openDatabase nothing url).1.toOption.isNone ∧
      (openTables { prepared with directories := ["my data"] :: prepared.directories } url).1.toOption =
        some (some ["my data", "client.db"]) := by
  intro url nothing prepared
  have named : Location.filePath? url = some "my%20data/client.db" := by decide +kernel
  refine ⟨named, ?_, by decide +kernel, by decide, by decide +kernel, by decide +kernel⟩
  rw [prepareDirectory, named]
  rfl

end Enrolment.Store
